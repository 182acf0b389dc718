import Mapwright.Proofs.Access
import Mapwright.Proofs.Signatures

/-!
# How siblings take the source

A field that is called like another function of the unit takes what that
function returns.  The call hands the source over as the first parameter of the
function wants it, as far as the parameter is known: of a function with a body
the parameters are known all together or not at all, and unknown ones count as
owned.

    a field is a sibling called `name` → the passing is that of the first parameter,
      and the call fits it, exactly if all parameters are plain or an owned one is
      wanted                                                  (`siblings_of_declaration?`)
    the passing is not always that of the first parameter     (`not_forall_passing?`)
-/

namespace Mapwright

/-! ## Arguments that fit -/

/-- Whether something that is passed in one way can be handed on where another way is wanted. -/
def Passing.serves : (given wanted : Passing) → Bool
  | .owned, .owned => true
  | .shared, .shared => true
  | .exclusive, .shared => true
  | .exclusive, .exclusive => true
  | _, _ => false

namespace Code

/-- How an argument made of the source is passed. -/
def Expr.passing? (source : Param) : Expr → Option Passing
  | .named x => if x = source.name then some source.type.passing else none
  | .borrow mutable _ => some (if mutable then .exclusive else .shared)
  | .clone _ => some .owned
  | _ => none

/-- Whether an expression is a call on `self` of a function that wants its first argument passed in
the given way, if it wants one. -/
def Expr.FitsCall (source : Param) (function : String) : Option Passing → Expr → Prop
  | none, e => e = .call (.named "self") function
  | some wanted, e => ∃ argument given, e = .callWith (.named "self") function argument ∧
      argument.passing? source = some given ∧ given.serves wanted = true

/-- A source serves as an argument, unless it is lent for reading and wanted for writing. -/
theorem serves_sourceArgument (source : Param) (wanted : Passing)
    (h : source.type.passing = .shared → wanted ≠ .exclusive) :
    ∃ given, (sourceArgument source wanted).passing? source = some given ∧
      given.serves wanted = true := by
  unfold sourceArgument
  cases hs : source.type.passing <;> cases wanted <;> simp_all [Expr.passing?, Passing.serves]

/-- The argument for a sibling is owned exactly if that is what it is made for. -/
theorem passing?_sourceArgument (source : Param) (wanted : Passing) :
    (sourceArgument source wanted).passing? source = some .owned ↔ wanted = .owned := by
  unfold sourceArgument
  cases hs : source.type.passing <;> cases wanted <;> simp [Expr.passing?, hs]

/-- A call fits what it is made for, unless the source is lent for reading and wanted for writing. -/
theorem fitsCall_of_sibling {source : Param} (function : String) {wanted : Option Passing}
    (h : source.type.passing = .shared → wanted ≠ some .exclusive) :
    ∃ e, bindingExpr? source (.sibling function wanted) = some e ∧
      e.FitsCall source function wanted := by
  cases wanted with
  | none => exact ⟨_, rfl, rfl⟩
  | some wanted =>
    obtain ⟨given, hgiven, hserves⟩ := serves_sourceArgument source wanted fun hs hw =>
      h hs (congrArg some hw)
    exact ⟨_, rfl, _, given, rfl, hgiven, hserves⟩

/-- A source that is given away does not fit where a reference is wanted. -/
theorem fitsCall_of_owned {source : Param} {function : String} {wanted : Passing} {e : Expr}
    (he : bindingExpr? source (.sibling function (some .owned)) = some e) :
    e.FitsCall source function (some wanted) ↔ wanted = .owned := by
  cases he
  constructor
  · rintro ⟨argument, given, heq, hgiven, hserves⟩
    cases heq
    cases ((passing?_sourceArgument source .owned).2 rfl).symm.trans hgiven
    cases wanted <;> first | rfl | cases hserves
  · rintro rfl
    exact ⟨_, .owned, rfl, (passing?_sourceArgument source .owned).2 rfl, rfl⟩

end Code

/-! ## Callees as they are declared -/

namespace Source

namespace Signature

/-- Whether a function takes `self` without a written type. -/
def takesSelf (s : Signature) : Bool := s.receiverOf.toOption.join.isSome

/-- How a function takes its first argument, as it is written. -/
def passing? (s : Signature) : Option Passing := s.params.head?.map (·.type.passed.2)

/-- Whether the passing of the first argument comes down to callers: all parameters are plain, or an
owned one is wanted anyway. -/
def KeepsPassing (s : Signature) : Prop := (∀ p ∈ s.params, p.IsPlain) ∨ s.passing? = some .owned

/-- What callers take for the passing of the first argument: none exactly if there are no parameters,
and the one that is written exactly if that comes down to them; otherwise that of an owned one. -/
structure KnownAs (s : Signature) (pass : Option Passing) : Prop where
  none_iff : pass = none ↔ s.params = []
  written_iff : pass = s.passing? ↔ s.KeepsPassing
  owned : ¬s.KeepsPassing → pass = some .owned

theorem passing?_eq_none_iff {s : Signature} : s.passing? = none ↔ s.params = [] := by
  rw [passing?, Option.map_eq_none_iff, List.head?_eq_none_iff]

/-- The call of a function that is known by some passing fits the function exactly if that passing
is the one that is written. -/
theorem KnownAs.exists_fitsCall_iff {s : Signature} {pass : Option Passing} (h : s.KnownAs pass)
    {source : Param} (name : String)
    (hlent : source.type.passing = .shared → pass ≠ some .exclusive) :
    ∃ e, Code.bindingExpr? source (.sibling name pass) = some e ∧
      (e.FitsCall source name s.passing? ↔ s.KeepsPassing) := by
  by_cases hk : s.KeepsPassing
  · obtain ⟨e, he, hfits⟩ := Code.fitsCall_of_sibling name hlent
    rw [h.written_iff.2 hk] at hfits
    exact ⟨e, he, iff_of_true hfits hk⟩
  · obtain rfl : pass = some .owned := h.owned hk
    refine ⟨_, rfl, iff_of_false (fun hfits => hk (Or.inr ?_)) hk⟩
    cases hwanted : s.passing? with
    | none => cases h.none_iff.2 (passing?_eq_none_iff.1 hwanted)
    | some wanted =>
      rw [hwanted] at hfits
      rw [(Code.fitsCall_of_owned rfl).1 hfits]

end Signature

/-- The first function of a trait that can be called as `name`. -/
def TraitItem.callee? (t : TraitItem) (name : String) : Option TraitFn :=
  t.functions.find? fun f => f.signature.name == name && f.signature.takesSelf

section

variable {scope : Scope} {g : TraitFn} {m : MappingFunction}

theorem TraitFn.receiver_of_function (h : g.function scope = .ok m) :
    m.receiver.isSome = g.signature.takesSelf := by
  rcases function_eq_ok_iff.1 h with ⟨-, rfl⟩ | ⟨-, hrequired⟩
  · rfl
  · obtain ⟨-, hreceiver, -⟩ := Signature.required_eq_ok_iff.1 hrequired
    rw [Signature.takesSelf, hreceiver]
    rfl

/-- A function whose parameters are plain takes its first argument as it is written. -/
theorem TraitFn.firstPassing_of_plain (h : g.function scope = .ok m)
    (hplain : ∀ p ∈ g.signature.params, p.IsPlain) :
    firstPassing m.params = g.signature.passing? := by
  obtain ⟨ps, hps⟩ := (Signature.exists_paramsOf_iff scope g.signature).2 hplain
  have hm : m.params = ps := by
    rcases function_eq_ok_iff.1 h with ⟨-, rfl⟩ | ⟨-, hrequired⟩
    · show (g.signature.paramsOf scope).toOption.getD _ = ps
      rw [hps]
      rfl
    · obtain ⟨-, -, hparams, -⟩ := Signature.required_eq_ok_iff.1 hrequired
      exact Except.ok.inj (hparams.symm.trans hps)
  rw [hm, firstPassing, Signature.passing?]
  have hparams := Signature.paramsOf_eq_ok_iff.1 hps
  generalize g.signature.params = written at hparams
  cases hparams with
  | nil => rfl
  | cons hpq _ => simp only [List.head?_cons, Option.map_some, TypeExpr.passing_of_ref hpq.2]

/-- A function that is not known in full takes its first argument for good. -/
theorem TraitFn.firstPassing_of_not_plain (h : g.function scope = .ok m)
    (hplain : ¬∀ p ∈ g.signature.params, p.IsPlain) : firstPassing m.params = some .owned := by
  have herror : ¬∃ ps, g.signature.paramsOf scope = .ok ps := fun hps =>
    hplain ((Signature.exists_paramsOf_iff scope g.signature).1 hps)
  have hm : m.params = g.signature.unknownParams := by
    rcases function_eq_ok_iff.1 h with ⟨-, rfl⟩ | ⟨-, hrequired⟩
    · show (g.signature.paramsOf scope).toOption.getD _ = _
      cases hps : g.signature.paramsOf scope with
      | error fault => rfl
      | ok ps => exact absurd ⟨ps, hps⟩ herror
    · obtain ⟨-, -, hparams, -⟩ := Signature.required_eq_ok_iff.1 hrequired
      exact absurd ⟨_, hparams⟩ herror
  rw [hm, Signature.unknownParams, firstPassing]
  cases hparams : g.signature.params with
  | nil => exact absurd (by rw [hparams]; exact fun _ hp => absurd hp List.not_mem_nil) hplain
  | cons p ps =>
    rw [List.length_cons, List.range_succ_eq_map]
    rfl

/-- A function is known by the passing that is written, or by that of an owned argument. -/
theorem TraitFn.knownAs_firstPassing (h : g.function scope = .ok m) :
    g.signature.KnownAs (firstPassing m.params) := by
  by_cases hplain : ∀ p ∈ g.signature.params, p.IsPlain
  · rw [TraitFn.firstPassing_of_plain h hplain]
    exact ⟨Signature.passing?_eq_none_iff, iff_of_true rfl (Or.inl hplain),
      fun hkeeps => absurd (Or.inl hplain) hkeeps⟩
  · have hparams : g.signature.params ≠ [] := by
      intro hnil
      rw [hnil] at hplain
      exact hplain fun _ hp => absurd hp List.not_mem_nil
    rw [TraitFn.firstPassing_of_not_plain h hplain]
    refine ⟨iff_of_false (Option.some_ne_none _) hparams, ?_, fun _ => rfl⟩
    rw [Signature.KeepsPassing, or_iff_right hplain]
    exact eq_comm

end

section

variable {scope : Scope} {module : ModuleId} {t : TraitItem} {unit : MappingUnit} {name : String}
  {g : TraitFn} (hd : t.declaration? scope module = some (.unit unit)) (hg : t.callee? name = some g)

include hd hg

/-- A callee of a trait is the sibling of the other functions of the unit. -/
theorem TraitItem.sibling?_of_callee? {current : MappingFunction} (hcurrent : current.name ≠ name) :
    ∃ m, unit.sibling? current name = some m ∧ g.function scope = .ok m := by
  refine exists_find?_of_forall₂ (fun f m hm => ?_) (t.functions_of_declaration? hd) hg
  rw [(TraitFn.name_of_function hm).1, TraitFn.receiver_of_function hm]
  by_cases hname : f.signature.name = name
  · rw [beq_iff_eq.2 hname, hname, bne_iff_ne.2 (Ne.symm hcurrent), Bool.true_and, Bool.true_and]
    rfl
  · rw [beq_false_of_ne hname, Bool.false_and, Bool.false_and, Bool.false_and]

/-- A field that calls another function hands the source over as that is known to take it. -/
theorem TraitItem.knownAs_of_resolve {base : Option TypeDescriptor} {current : MappingFunction}
    {source : TypeDescriptor} {pass : Option Passing} (hcurrent : current.name ≠ name)
    (hr : Binding.resolve unit base current source name = .sibling name pass) :
    g.signature.KnownAs pass := by
  obtain ⟨m, hm, hfunction⟩ := TraitItem.sibling?_of_callee? hd hg hcurrent
  obtain ⟨-, -, hpass⟩ := (Binding.resolve_eq_sibling_iff ..).1 hr
  rw [siblingPassing, hm, Option.some.injEq] at hpass
  rw [← hpass]
  exact TraitFn.knownAs_firstPassing hfunction

end

/-- **How siblings take the source.**  A field that calls another function of the unit hands over
nothing exactly if that has no parameters.  It hands the source over as the first parameter is
written, and as it fits, exactly if that comes down to callers; otherwise it gives a clone away. -/
theorem siblings_of_declaration? (scope : Scope) (module : ModuleId) (t : TraitItem)
    (unit : MappingUnit) (name : String) (g : TraitFn)
    (hd : t.declaration? scope module = some (.unit unit)) (hg : t.callee? name = some g) :
    (∀ base current source pass, current.name ≠ name →
      Binding.resolve unit base current source name = .sibling name pass →
      g.signature.KnownAs pass) ∧
    ∀ settings registry plan, planUnit settings registry unit = .ok plan →
      ∀ r ∈ plan.resolved, r.function.name ≠ name →
      ∀ field ∈ r.fields, ∀ pass, field.binding = .sibling name pass →
      g.signature.KnownAs pass ∧
      (∃ e, Code.bindingExpr? r.source field.binding = some e ∧
        (e.FitsCall r.source name g.signature.passing? ↔ g.signature.KeepsPassing)) ∧
      (g.signature.KeepsPassing → r.source.type.passing = .shared →
        g.signature.passing? ≠ some .exclusive) := by
  refine ⟨fun base current source pass hcurrent hr => t.knownAs_of_resolve hd hg hcurrent hr,
    fun settings registry plan hplan r hr hname field hfield pass hb => ?_⟩
  obtain ⟨p, hmem, rfl⟩ := List.mem_map.1 hr
  obtain ⟨f, -, m, -, hfun⟩ := exists_of_mem_functions hplan hmem
  obtain ⟨source, target, fields, -, -, -, hconflict, hp⟩ := planFunction_eq_ok_iff.1 hfun
  have hr : p.resolved = .resolve unit plan.base m.function m.source source m.target fields := by
    rw [hp]
  obtain ⟨-, hbinding⟩ := (ResolvedFunction.mem_fields_resolve ..).1 (hr ▸ hfield)
  obtain ⟨hparam, -⟩ := (Binding.resolve_eq_sibling_iff ..).1 (hbinding.symm.trans hb)
  rw [← hparam] at hbinding
  have hcurrent : m.function.name ≠ name := by
    rw [hr] at hname
    exact hname
  have hknown : g.signature.KnownAs pass :=
    t.knownAs_of_resolve hd hg hcurrent (hbinding.symm.trans hb)
  have hlent : p.resolved.source.type.passing = .shared → pass ≠ some .exclusive := by
    rintro hshared rfl
    exact ResolvedFunction.ne_sibling_of_conflictingSibling? hconflict hshared field hfield name hb
  refine ⟨hknown, ?_, fun hk hshared => ?_⟩
  · rw [hb]
    exact hknown.exists_fitsCall_iff name hlent
  · rw [← hknown.written_iff.2 hk]
    exact hlent hshared

/-! ## A sibling that gets a clone -/

/-- A badge has the initials of a student, for which the student itself does not matter. -/
def badgeText : List String :=
  ["#[derive(Clone)] struct Student;", "struct Badge", inBraces "initials: String",
    "#[mapper_derive::mapper] ", "trait Badges \x7b", "fn badge(&self, ", "student: &Student",
    ") -> Badge;", "fn initials(&self, ", "_: &Student", ") -> String", inBraces "String::new()",
    "\x7d"]

def badgeSources : List (ModuleId × String) := [("badges.rs", String.join badgeText)]

def badgeFunction : MappingFunction :=
  ⟨"badge", some .ref, [⟨"student", "Student", "Student", .shared⟩], some (.named "Badge"),
    .required⟩

def badges : MappingUnit :=
  ⟨"Badges", "badges.rs", "", false, none, none, [badgeFunction,
    ⟨"initials", some .ref, [⟨"_0", unknownType⟩], some (.named "String"), .provided⟩]⟩

def badgesDeclared : List Declaration :=
  [.struct "Student" "badges.rs" (some []),
    .struct "Badge" "badges.rs" (some [⟨"initials", .named "String"⟩]), .unit badges]

def badge : ResolvedFunction :=
  ⟨badgeFunction, ⟨"student", "Student", "Student", .shared⟩, .named "Badge",
    [⟨⟨"initials", .named "String"⟩, .sibling "initials" (some .owned)⟩]⟩

def badgesPlan : Plan := ⟨badges, none, [⟨badge, "badges.rs", "badges.rs"⟩]⟩

/-- What is read of the sources: their declarations, and the trait with what its provided function
wants. -/
theorem read_badgeSources :
    (badgeSources.flatMap fun s => (declarations? s.1 s.2).getD []) = badgesDeclared ∧
    ∃ s ∈ badgeSources, ∃ e ∈ traits s.2, e.2.declaration? e.1 s.1 = some (.unit badges) ∧
      (e.2.callee? "initials").map (fun g => (g.hasBody, g.signature.passing?)) =
        some (true, some .shared) := by
  simp only [badgeSources, List.flatMap_cons, List.flatMap_nil, List.mem_singleton, exists_eq_left,
    declarations?, traits, items?_join]
  decide +kernel

theorem planUnit_badges :
    planUnit .standard ((Generator.fresh .standard).addSources badgeSources).registry badges =
      .ok badgesPlan := by
  rw [Generator.addSources_eq_declareAll, read_badgeSources.1]
  rfl

/-- The badge calls its sibling, which is known to the badge by another passing than it has. -/
theorem siblings_of_declaration?_badges :
    ∃ s ∈ badgeSources, ∃ e ∈ traits s.2, ∃ g,
      e.2.declaration? e.1 s.1 = some (.unit badges) ∧ e.2.callee? "initials" = some g ∧
      g.signature.KnownAs (some .owned) ∧
      ∃ call, Code.bindingExpr? badge.source (.sibling "initials" (some .owned)) = some call ∧
        (call.FitsCall badge.source "initials" g.signature.passing? ↔ g.signature.KeepsPassing) := by
  obtain ⟨s, hs, e, he, hd, hcallee⟩ := read_badgeSources.2
  obtain ⟨g, hg, -⟩ := Option.map_eq_some_iff.1 hcallee
  obtain ⟨hresolve, hplan⟩ := siblings_of_declaration? e.1 s.1 e.2 badges "initials" g hd hg
  refine ⟨s, hs, e, he, g, hd, hg, ?_, ?_⟩
  · exact hresolve none badgeFunction (.bare "Student" "badges.rs") (some .owned) (by decide)
      (by decide)
  · exact (hplan .standard _ badgesPlan planUnit_badges badge List.mem_cons_self (by decide) _
      List.mem_cons_self _ rfl).2.1

/-- **The source is not always handed over as it is wanted.**  The badge gives a clone away where a
reference is wanted. -/
theorem not_forall_passing? :
    ¬∀ (settings : Settings) (sources : List (ModuleId × String)) (unit : MappingUnit) (plan : Plan),
      planUnit settings ((Generator.fresh settings).addSources sources).registry unit = .ok plan →
      ∀ s ∈ sources, ∀ e ∈ traits s.2, e.2.declaration? e.1 s.1 = some (.unit unit) →
        ∀ name g, e.2.callee? name = some g → g.hasBody = true →
          ∀ r ∈ plan.resolved, r.function.name ≠ name → ∀ field ∈ r.fields, ∀ pass,
            field.binding = .sibling name pass → pass = g.signature.passing? := by
  intro h
  obtain ⟨s, hs, e, he, hd, hcallee⟩ := read_badgeSources.2
  obtain ⟨g, hg, hpair⟩ := Option.map_eq_some_iff.1 hcallee
  obtain ⟨hbody, hpassing⟩ := Prod.mk.inj hpair
  have hpass := h .standard badgeSources badges badgesPlan planUnit_badges s hs e he hd "initials" g
    hg hbody badge List.mem_cons_self (by decide) _ List.mem_cons_self _ rfl
  rw [hpassing] at hpass
  cases hpass

end Source

end Mapwright
