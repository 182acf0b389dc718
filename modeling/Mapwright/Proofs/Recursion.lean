import Mapwright.Proofs.Moves
import Mapwright.Proofs.Pass
import Mapwright.Proofs.Resolution

/-!
# Functions that call themselves

A call on `self` goes to the function of that name, if the unit has one, and
otherwise to the base.  A function is none of its own siblings among those of
the unit.  A method of the base that is called like the function is a sibling
all the same, so that a field of that name is made by calling the function
itself.

    the method of a function calls itself ↔ its target has a field, and the base a method, with
      the name of the function, and none of its parameters has     (`callsItself_method_resolve_iff`)
    some generated method calls itself                             (`not_forall_callsItself`)
-/

namespace Mapwright

namespace Code

/-! ## Calls on `self` -/

/-- Whether an expression calls the function `name` on `self`. -/
def Expr.callsOnSelf (name : String) : Expr → Bool
  | .named _ => false
  | .borrow _ value => value.callsOnSelf name
  | .clone value => value.callsOnSelf name
  | .field owner _ => owner.callsOnSelf name
  | .call owner method => (owner == .named "self" && method == name) || owner.callsOnSelf name
  | .callWith owner method argument =>
    (owner == .named "self" && method == name) || owner.callsOnSelf name || argument.callsOnSelf name

/-- Whether the body of a method calls the method itself. -/
def Method.callsItself (m : Method) : Bool :=
  m.body.evaluated.any (·.callsOnSelf m.header.name)

theorem callsOnSelf_sourceArgument (source : Param) (passing : Passing) (name : String) :
    (sourceArgument source passing).callsOnSelf name = false := by
  unfold sourceArgument
  split <;> rfl

/-- Which bindings call a function on `self`: a sibling does, and an accessor of a source that is
called so itself. -/
theorem callsOnSelf_bindingExpr? {source : Param} {b : Binding} {e : Expr} {name : String}
    (he : bindingExpr? source b = some e) :
    e.callsOnSelf name = true ↔
      (∃ pass, b = .sibling name pass) ∨ (source.name = "self" ∧ b = .accessor name) := by
  cases b with
  | parameter x =>
    cases he
    simp [Expr.callsOnSelf]
  | sibling g pass =>
    cases pass with
    | none =>
      cases he
      simp [Expr.callsOnSelf]
    | some passing =>
      cases he
      simp [Expr.callsOnSelf, callsOnSelf_sourceArgument]
  | accessor m =>
    cases he
    simp [Expr.callsOnSelf]
  | property x =>
    rw [bindingExpr?] at he
    split at he <;> cases he <;> simp [Expr.callsOnSelf]
  | unresolved => cases he

/-- A body makes the calls of its fields, those of hoisted ones in its locals. -/
theorem exists_evaluated_callsOnSelf_iff (r : ResolvedFunction) (name : String) :
    (∃ e ∈ (body r).evaluated, e.callsOnSelf name = true) ↔
      ∃ field ∈ r.fields, ∃ e, bindingExpr? r.source field.binding = some e ∧
        e.callsOnSelf name = true := by
  show (∃ e ∈ (bodyLocals r).map (·.value) ++ (bodyFields r).map (·.value), _) ↔ _
  rw [values_bodyFields]
  constructor
  · rintro ⟨e, he, hcalls⟩
    rcases List.mem_append.1 he with he | he
    · obtain ⟨l, hl, rfl⟩ := List.mem_map.1 he
      obtain ⟨field, hfield, -, -, hexpr⟩ := (mem_bodyLocals r l).1 hl
      exact ⟨field, hfield, l.value, hexpr, hcalls⟩
    · obtain ⟨field, hfield, hvalue⟩ := List.mem_filterMap.1 he
      obtain ⟨e', hexpr, rfl⟩ := Option.map_eq_some_iff.1 hvalue
      -- a hoisted field only names its local
      split at hcalls
      · cases hcalls
      · exact ⟨field, hfield, e', hexpr, hcalls⟩
  · rintro ⟨field, hfield, e, hexpr, hcalls⟩
    refine ⟨e, List.mem_append.2 ?_, hcalls⟩
    cases hh : isHoisted r field with
    | true =>
      exact Or.inl (List.mem_map.2
        ⟨⟨field.param.name, e⟩, (mem_bodyLocals r _).2 ⟨field, hfield, hh, rfl, hexpr⟩, rfl⟩)
    | false =>
      refine Or.inr (List.mem_filterMap.2 ⟨field, hfield, ?_⟩)
      rw [fieldValue?, hexpr, Option.map_some, hh]
      rfl

/-- A method calls itself where a field is bound so. -/
theorem callsItself_method_iff (r : ResolvedFunction) :
    (method r).callsItself = true ↔ ∃ field ∈ r.fields,
      (∃ pass, field.binding = .sibling r.function.name pass) ∨
        (r.source.name = "self" ∧ field.binding = .accessor r.function.name) := by
  rw [Method.callsItself, List.any_eq_true]
  refine (exists_evaluated_callsOnSelf_iff r r.function.name).trans (exists_congr fun field =>
    and_congr_right fun _ => ?_)
  constructor
  · rintro ⟨e, he, hcalls⟩
    exact (callsOnSelf_bindingExpr? he).1 hcalls
  · intro h
    have hresolved : (bindingExpr? r.source field.binding).isSome = true := by
      rw [bindingExpr?_isSome]
      rcases h with ⟨pass, hb⟩ | ⟨-, hb⟩ <;> rw [hb] <;> rfl
    obtain ⟨e, he⟩ := Option.isSome_iff_exists.1 hresolved
    exact ⟨e, he, (callsOnSelf_bindingExpr? he).2 h⟩

end Code

/-! ## Names of functions and of base methods -/

/-- No function of the unit is a sibling of itself. -/
theorem MappingUnit.sibling?_self (unit : MappingUnit) (f : MappingFunction) :
    unit.sibling? f f.name = none := by
  unfold sibling?
  rw [List.find?_eq_none]
  intro g _ h
  rw [Bool.and_eq_true, Bool.and_eq_true, beq_iff_eq, bne_iff_ne] at h
  exact h.1.2 h.1.1

/-- A function is taken for its own sibling exactly if the base has a method of its name. -/
theorem siblingPassing_self (unit : MappingUnit) (base : Option TypeDescriptor)
    (f : MappingFunction) :
    siblingPassing unit base f f.name =
      (base.bind (·.method? f.name)).map fun sig => firstPassing sig.params := by
  rw [siblingPassing, unit.sibling?_self f]

/-- Which fields are bound to a sibling that has the name of the function itself. -/
theorem Binding.resolve_eq_sibling_self_iff (unit : MappingUnit) (base : Option TypeDescriptor)
    (f : MappingFunction) (source : TypeDescriptor) (name : String) (pass : Option Passing) :
    resolve unit base f source name = .sibling f.name pass ↔
      name = f.name ∧ f.name ∉ f.params.map (·.name) ∧
        ∃ sig, base.bind (·.method? f.name) = some sig ∧ pass = firstPassing sig.params := by
  rw [resolve_eq_sibling_iff, eq_comm (a := f.name)]
  refine and_congr_right ?_
  rintro rfl
  rw [siblingPassing_self, Option.map_eq_some_iff]
  simp only [eq_comm]

/-- **When a function calls itself.**  A field is bound to a sibling that has the name of the function
exactly if it has that name, none of the parameters has it, and the base has a method of that name.
The method calls itself exactly if its target has such a field, or one that is read from an accessor
of a source called `self`. -/
theorem Code.callsItself_method_resolve_iff (unit : MappingUnit) (base : Option TypeDescriptor)
    (f : MappingFunction) (source : Param) (sourceType : TypeDescriptor) (target : TypeRef)
    (fields : List Param) :
    (∀ name pass, Binding.resolve unit base f sourceType name = .sibling f.name pass ↔
      name = f.name ∧ f.name ∉ f.params.map (·.name) ∧
        ∃ sig, base.bind (·.method? f.name) = some sig ∧ pass = firstPassing sig.params) ∧
    ((Code.method (.resolve unit base f source sourceType target fields)).callsItself = true ↔
      f.name ∈ fields.map (·.name) ∧ f.name ∉ f.params.map (·.name) ∧
        ((base.bind (·.method? f.name)).isSome = true ∨
          source.name = "self" ∧ (sourceType.accessor? f.name).isSome = true)) := by
  have hsibling := Binding.resolve_eq_sibling_self_iff unit base f sourceType
  refine ⟨hsibling, ?_⟩
  rw [callsItself_method_iff]
  constructor
  · rintro ⟨field, hfield, h⟩
    obtain ⟨hmem, hb⟩ := (ResolvedFunction.mem_fields_resolve ..).1 hfield
    rcases h with ⟨pass, h⟩ | ⟨hself, h⟩
    · obtain ⟨hname, hparam, sig, hsig, -⟩ := (hsibling _ _).1 (hb.symm.trans h)
      exact ⟨List.mem_map.2 ⟨_, hmem, hname⟩, hparam, Or.inl (by rw [hsig]; rfl)⟩
    · obtain ⟨hname, hparam, -, haccessor⟩ :=
        (Binding.resolve_eq_accessor_iff ..).1 (hb.symm.trans h)
      rw [← show f.name = field.param.name from hname] at hparam haccessor
      exact ⟨List.mem_map.2 ⟨_, hmem, hname.symm⟩, hparam, Or.inr ⟨hself, haccessor⟩⟩
  · rintro ⟨hmem, hparam, h⟩
    obtain ⟨p, hp, hname⟩ := List.mem_map.1 hmem
    refine ⟨⟨p, Binding.resolve unit base f sourceType p.name⟩,
      (ResolvedFunction.mem_fields_resolve ..).2 ⟨hp, rfl⟩, ?_⟩
    show (∃ pass, Binding.resolve unit base f sourceType p.name = .sibling f.name pass) ∨
      (source.name = "self" ∧ Binding.resolve unit base f sourceType p.name = .accessor f.name)
    cases hmethod : base.bind (·.method? f.name) with
    | some sig => exact Or.inl ⟨_, (hsibling _ _).2 ⟨hname, hparam, sig, hmethod, rfl⟩⟩
    | none =>
      rw [hmethod] at h
      obtain ⟨hself, haccessor⟩ := h.resolve_left Bool.false_ne_true
      refine Or.inr ⟨hself, (Binding.resolve_eq_accessor_iff ..).2 ?_⟩
      rw [hname, siblingPassing_self, hmethod]
      exact ⟨rfl, hparam, rfl, haccessor⟩

/-! ## A label that is made of itself -/

namespace Students

/-- Labels are made by a function that is called like the method of the base that they need. -/
def selfLabel : MappingFunction :=
  function "label" [studentRef .shared] (.named "StudentLabel") .required

def selfLabelMapper : MappingUnit := { labelMapper with functions := [selfLabel] }

def selfLabelResolved : ResolvedFunction :=
  ⟨selfLabel, studentRef .shared, .named "StudentLabel",
    [⟨⟨"label", textType⟩, .sibling "label" (some .shared)⟩,
      ⟨⟨"semester", numberType⟩, .property "semester"⟩,
      ⟨⟨"note", ⟨"Option", "Option<String>", .owned⟩⟩, .unresolved⟩]⟩

def selfLabelPlan : Plan :=
  ⟨selfLabelMapper, registry.describe? "LabelMapperDeps", [⟨selfLabelResolved, home, home⟩]⟩

theorem planUnit_selfLabelMapper :
    planUnit .standard registry selfLabelMapper = .ok selfLabelPlan := rfl

end Students

open Students in
/-- The function that makes labels calls itself. -/
theorem Code.callsItself_method_selfLabel :
    (Code.method (.resolve selfLabelMapper (registry.describe? "LabelMapperDeps") selfLabel
      (studentRef .shared) (.bare "StudentEntity" home) (.named "StudentLabel")
      [⟨"label", textType⟩])).callsItself = true :=
  (callsItself_method_resolve_iff ..).2.2 ⟨by decide, by decide, Or.inl rfl⟩

open Students in
/-- **Some generated functions call themselves.**  The method of the base is out of reach for the
function that bears its name. -/
theorem not_forall_callsItself :
    ¬∀ (settings : Settings) (registry : Registry) (unit : MappingUnit) (plan : Plan),
      planUnit settings registry unit = .ok plan → ∀ r ∈ plan.resolved,
        (∀ field ∈ r.fields, ∀ pass, field.binding ≠ .sibling r.function.name pass) ∧
          (Code.method r).callsItself = false := by
  intro h
  obtain ⟨hsibling, -⟩ := h .standard registry selfLabelMapper selfLabelPlan
    planUnit_selfLabelMapper selfLabelResolved List.mem_cons_self
  exact hsibling _ List.mem_cons_self _ rfl

end Mapwright
