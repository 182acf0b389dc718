import Mapwright.Proofs.Meaning
import Mapwright.Students

/-!
# What happens to an owned source

An owned source is gone once a body has moved it: as a whole, into a field that
is called like the source itself, or in part, by moving a field out of it.  A
body is orderly if nothing that was moved is used again (`MovesLast`).

The locals see to this for the fields that are moved out, not for the source as
a whole: a body is orderly exactly if a field that takes the whole source stands
beside no field moved out of it, and before no accessor or sibling on it.

    (body r).MovesLast source.name ↔
      ∀ pre field post, r.fields = pre ++ field :: post → field.binding = .parameter source.name →
        no property in pre ++ post, and nothing in post reads the source     (`movesLast_body_iff`)
-/

namespace Mapwright.Code

/-! ## Moves and uses -/

namespace Expr

/-- Whether an expression has anything to do with the variable `x`. -/
def mentions (x : String) : Expr → Bool
  | .named y => y == x
  | .borrow _ value => value.mentions x
  | .clone value => value.mentions x
  | .field owner _ => owner.mentions x
  | .call owner _ => owner.mentions x
  | .callWith owner _ argument => owner.mentions x || argument.mentions x

/-- Whether an expression needs the variable `x` whole: whether it has more to do with it than to
take one of its fields. -/
def usesWhole (x : String) : Expr → Bool
  | .named y => y == x
  | .borrow _ value => value.usesWhole x
  | .clone value => value.usesWhole x
  | .field (.named _) _ => false
  | .field owner _ => owner.usesWhole x
  | .call owner _ => owner.usesWhole x
  | .callWith owner _ argument => owner.usesWhole x || argument.usesWhole x

/-- Whether the value of the variable `x` is given away, to a field or as an argument. -/
def movesWhole (x : String) : Expr → Bool
  | .named y => y == x
  | .callWith _ _ (.named y) => y == x
  | _ => false

/-- Whether a field of the variable `x` is given away. -/
def movesField (x : String) : Expr → Bool
  | .field (.named y) _ => y == x
  | _ => false

end Expr

/-- Whether an expression that comes after another one is free to do what it does: it has nothing to
do with a variable that is gone, and does not need a variable whole that lacks a field. -/
def MayFollow (x : String) (earlier later : Expr) : Prop :=
  (earlier.movesWhole x = true → later.mentions x = false) ∧
    (earlier.movesField x = true → later.usesWhole x = false)

instance (x : String) (earlier later : Expr) : Decidable (MayFollow x earlier later) :=
  inferInstanceAs (Decidable (_ ∧ _))

/-- The expressions of a body in the order of their evaluation: the locals, then the fields. -/
def Body.evaluated (b : Body) : List Expr :=
  b.locals.map (·.value) ++ b.result.fields.map (·.value)

/-- Nothing of the variable `x` is used after it was moved. -/
def Body.MovesLast (x : String) (b : Body) : Prop := b.evaluated.Pairwise (MayFollow x)

instance (x : String) (b : Body) : Decidable (b.MovesLast x) :=
  inferInstanceAs (Decidable (List.Pairwise _ _))

/-! ## What the fields of a body do to the source -/

/-- Whether a binding gives away the parameter `x`. -/
def takesWhole (x : String) : Binding → Bool
  | .parameter y => y == x
  | _ => false

/-- Whether a binding moves a field out of the source, if that is owned. -/
def takesField : Binding → Bool
  | .property _ => true
  | _ => false

/-- The value that a field has in the literal. -/
def fieldValue? (r : ResolvedFunction) (f : ResolvedField) : Option Expr :=
  (bindingExpr? r.source f.binding).map fun e => if isHoisted r f then .named f.param.name else e

theorem values_bodyFields (r : ResolvedFunction) :
    (bodyFields r).map (·.value) = r.fields.filterMap (fieldValue? r) := by
  rw [bodyFields, List.map_filterMap]
  congr 1
  funext f
  rw [Option.map_map]
  rfl

/-- Whether a field reads the source in the literal, and not in a local before it. -/
def readsInline (r : ResolvedFunction) (f : ResolvedField) : Bool :=
  readsSource f.binding && !isHoisted r f

theorem movesFields_iff (r : ResolvedFunction) (howned : r.source.type.passing = .owned) :
    movesFields r = true ↔ ∃ f ∈ r.fields, takesField f.binding = true := by
  have hmoves : movesFields r = r.fields.any fun f => takesField f.binding := by
    rw [movesFields, howned]
    rfl
  rw [hmoves, List.any_eq_true]

theorem takes_eq_false_of_readsSource (x : String) {b : Binding} (h : readsSource b = true) :
    takesWhole x b = false ∧ takesField b = false := by
  cases b with
  | accessor m => exact ⟨rfl, rfl⟩
  | sibling g pass => exact ⟨rfl, rfl⟩
  | _ => cases h

/-- What an expression does to the source, said by the binding it is for. -/
theorem bindingExpr?_uses {source : Param} {b : Binding} {e : Expr}
    (howned : source.type.passing = .owned) (hself : source.name ≠ "self")
    (he : bindingExpr? source b = some e) :
    e.movesWhole source.name = takesWhole source.name b ∧
    e.movesField source.name = takesField b ∧
    e.usesWhole source.name = (takesWhole source.name b || readsSource b) ∧
    e.mentions source.name = (takesWhole source.name b || readsSource b || takesField b) := by
  have hself' : ("self" == source.name) = false := beq_false_of_ne (Ne.symm hself)
  cases b with
  | parameter x =>
    cases he
    simp [Expr.movesWhole, Expr.movesField, Expr.usesWhole, Expr.mentions, takesWhole, takesField,
      readsSource]
  | sibling g pass =>
    cases pass with
    | none =>
      cases he
      exact ⟨rfl, rfl, hself', hself'⟩
    | some passing =>
      cases he
      cases passing <;>
        simp [Expr.movesWhole, Expr.movesField, Expr.usesWhole, Expr.mentions, takesWhole,
          takesField, readsSource, sourceArgument, howned]
  | accessor m =>
    cases he
    simp [Expr.movesWhole, Expr.movesField, Expr.usesWhole, Expr.mentions, takesWhole, takesField,
      readsSource]
  | property x =>
    rw [bindingExpr?, TypeRef.isBorrowed, howned] at he
    cases he
    simp [Expr.movesWhole, Expr.movesField, Expr.usesWhole, Expr.mentions, takesWhole, takesField,
      readsSource]
  | unresolved => cases he

section

variable {r : ResolvedFunction} (howned : r.source.type.passing = .owned)
  (hself : r.source.name ≠ "self")

include howned hself

/-- What the value of a field does to the source: a local that is taken instead does nothing. -/
theorem fieldValue?_uses {f : ResolvedField} {e : Expr}
    (hname : readsSource f.binding = true → f.param.name ≠ r.source.name)
    (he : fieldValue? r f = some e) :
    e.movesWhole r.source.name = takesWhole r.source.name f.binding ∧
    e.movesField r.source.name = takesField f.binding ∧
    e.usesWhole r.source.name = (takesWhole r.source.name f.binding || readsInline r f) ∧
    e.mentions r.source.name =
      (takesWhole r.source.name f.binding || readsInline r f || takesField f.binding) := by
  obtain ⟨e', he', rfl⟩ := Option.map_eq_some_iff.1 he
  cases hh : isHoisted r f with
  | true =>
    have hreads : readsSource f.binding = true := (Bool.and_eq_true_iff.1 hh).2
    have hne : (f.param.name == r.source.name) = false := beq_false_of_ne (hname hreads)
    obtain ⟨hwhole, hfield⟩ := takes_eq_false_of_readsSource r.source.name hreads
    rw [hwhole, hfield, readsInline, hh, hreads]
    exact ⟨hne, rfl, hne, hne⟩
  | false =>
    rw [readsInline, hh, Bool.not_false, Bool.and_true]
    exact bindingExpr?_uses howned hself he'

/-- A local keeps the source whole: it only reads it. -/
theorem mayFollow_bodyLocals {l : Binder} (hl : l ∈ bodyLocals r) (later : Expr) :
    MayFollow r.source.name l.value later := by
  obtain ⟨f, -, hh, -, he⟩ := (mem_bodyLocals r l).1 hl
  obtain ⟨hwhole, hfield⟩ := takes_eq_false_of_readsSource r.source.name
    (Bool.and_eq_true_iff.1 hh).2
  obtain ⟨hmovesWhole, hmovesField, -, -⟩ := bindingExpr?_uses howned hself he
  constructor
  · intro h
    rw [hmovesWhole, hwhole] at h
    cases h
  · intro h
    rw [hmovesField, hfield] at h
    cases h

end

/-! ## Order -/

theorem pairwise_append_iff_right {α : Type} {R : α → α → Prop} {as bs : List α}
    (h : ∀ a ∈ as, ∀ b, R a b) : (as ++ bs).Pairwise R ↔ bs.Pairwise R := by
  rw [List.pairwise_append]
  constructor
  · exact fun hp => hp.2.1
  · intro hp
    exact ⟨List.pairwise_of_forall_mem_list fun a ha b _ => h a ha b, hp, fun a ha b _ => h a ha b⟩

/-- A list is pairwise related if every element is related to those that come after it. -/
theorem pairwise_of_forall_split {α : Type} {R : α → α → Prop} :
    ∀ {l : List α}, (∀ pre a post, l = pre ++ a :: post → ∀ b ∈ post, R a b) → l.Pairwise R
  | [], _ => .nil
  | a :: l, h => by
    refine List.pairwise_cons.2 ⟨h [] a l rfl, pairwise_of_forall_split ?_⟩
    intro pre b post hl
    exact h (a :: pre) b post (by rw [hl]; rfl)

/-- Only the fields of the literal matter, since the locals before it keep the source whole. -/
theorem movesLast_body_iff_pairwise {r : ResolvedFunction}
    (howned : r.source.type.passing = .owned) (hself : r.source.name ≠ "self") :
    (body r).MovesLast r.source.name ↔ r.fields.Pairwise fun f g =>
      ∀ a, fieldValue? r f = some a → ∀ b, fieldValue? r g = some b →
        MayFollow r.source.name a b := by
  rw [Body.MovesLast, Body.evaluated, pairwise_append_iff_right]
  · show List.Pairwise _ ((bodyFields r).map (·.value)) ↔ _
    rw [values_bodyFields, List.pairwise_filterMap]
  · intro e he later
    obtain ⟨l, hl, rfl⟩ := List.mem_map.1 he
    exact mayFollow_bodyLocals howned hself hl later

/-- Whether a field may come after another one, said by what they are bound to. -/
def FieldMayFollow (r : ResolvedFunction) (f g : ResolvedField) : Prop :=
  (takesWhole r.source.name f.binding = true →
    takesWhole r.source.name g.binding = false ∧ readsInline r g = false ∧
      takesField g.binding = false) ∧
  (takesField f.binding = true →
    takesWhole r.source.name g.binding = false ∧ readsInline r g = false)

theorem exists_fieldValue?_or_unresolved (r : ResolvedFunction) (f : ResolvedField) :
    (∃ e, fieldValue? r f = some e) ∨ f.binding = .unresolved := by
  have hres := bindingExpr?_isSome r.source f.binding
  cases he : bindingExpr? r.source f.binding with
  | some e => exact Or.inl ⟨_, by rw [fieldValue?, he, Option.map_some]⟩
  | none =>
    rw [he] at hres
    cases hb : f.binding with
    | unresolved => exact Or.inr rfl
    | _ => rw [hb] at hres; cases hres

section

variable {r : ResolvedFunction} (howned : r.source.type.passing = .owned)
  (hparam : ∀ g ∈ r.fields, g.binding = .parameter r.source.name ↔ g.param.name = r.source.name)

section

include hparam

theorem takesWhole_iff {g : ResolvedField} (hg : g ∈ r.fields) :
    takesWhole r.source.name g.binding = true ↔ g.param.name = r.source.name := by
  rw [← hparam g hg]
  cases g.binding <;> simp [takesWhole]

include howned

theorem mayFollow_fieldValue?_iff (hself : r.source.name ≠ "self") {f g : ResolvedField}
    (hf : f ∈ r.fields) (hg : g ∈ r.fields) :
    (∀ a, fieldValue? r f = some a → ∀ b, fieldValue? r g = some b →
      MayFollow r.source.name a b) ↔ FieldMayFollow r f g := by
  have hname : ∀ g ∈ r.fields, readsSource g.binding = true → g.param.name ≠ r.source.name := by
    intro g hg hreads heq
    rw [(hparam g hg).2 heq] at hreads
    cases hreads
  rcases exists_fieldValue?_or_unresolved r f with ⟨a, ha⟩ | hf'
  · rcases exists_fieldValue?_or_unresolved r g with ⟨b, hb⟩ | hg'
    · obtain ⟨hwhole, hfield, -, -⟩ := fieldValue?_uses howned hself (hname f hf) ha
      obtain ⟨-, -, huses, hmentions⟩ := fieldValue?_uses howned hself (hname g hg) hb
      simp only [ha, hb, Option.some.injEq, forall_eq', MayFollow, FieldMayFollow, hwhole, hfield,
        huses, hmentions, Bool.or_eq_false_iff, and_assoc]
    · simp [fieldValue?, FieldMayFollow, readsInline, hg', bindingExpr?, takesWhole, takesField,
        readsSource]
  · simp [fieldValue?, FieldMayFollow, hf', bindingExpr?, takesWhole, takesField]

end

section

variable {pre post : List ResolvedField} {field : ResolvedField}
  (hsplit : r.fields = pre ++ field :: post) (hb : field.binding = .parameter r.source.name)

include howned hsplit hb

/-- Where the only field that takes anything of the source takes all of it, nothing is hoisted. -/
theorem movesFields_eq_false (hfield : ∀ g ∈ pre ++ post, takesField g.binding = false) :
    movesFields r = false := by
  rw [← Bool.not_eq_true, movesFields_iff r howned]
  rintro ⟨f, hf, h⟩
  rw [hsplit, List.mem_append, List.mem_cons] at hf
  rcases hf with hf | rfl | hf
  · rw [hfield f (List.mem_append_left _ hf)] at h
    cases h
  · rw [hb] at h
    cases h
  · rw [hfield f (List.mem_append_right _ hf)] at h
    cases h

theorem order_of_pairwise (hpair : r.fields.Pairwise (FieldMayFollow r)) :
    (∀ g ∈ pre ++ post, takesField g.binding = false) ∧
      ∀ g ∈ post, readsSource g.binding = false := by
  rw [hsplit, List.pairwise_append, List.pairwise_cons] at hpair
  obtain ⟨-, ⟨hafter, -⟩, hbefore⟩ := hpair
  have hwhole : takesWhole r.source.name field.binding = true := by
    rw [hb]
    exact beq_self_eq_true _
  have hfield : ∀ g ∈ pre ++ post, takesField g.binding = false := by
    intro g hg
    rcases List.mem_append.1 hg with hg | hg
    · cases htakes : takesField g.binding with
      | false => rfl
      | true =>
        have := ((hbefore g hg field List.mem_cons_self).2 htakes).1
        rw [hwhole] at this
        cases this
    · exact ((hafter g hg).1 hwhole).2.2
  refine ⟨hfield, fun g hg => ?_⟩
  have hinline := ((hafter g hg).1 hwhole).2.1
  rw [readsInline, isHoisted, movesFields_eq_false howned hsplit hb hfield, Bool.false_and,
    Bool.not_false, Bool.and_true] at hinline
  exact hinline

end

section

variable (horder : ∀ pre field post, r.fields = pre ++ field :: post →
    field.binding = .parameter r.source.name →
    (∀ g ∈ pre ++ post, takesField g.binding = false) ∧ ∀ g ∈ post, readsSource g.binding = false)
  {pre post : List ResolvedField} {f g : ResolvedField} (hsplit : r.fields = pre ++ f :: post)
  (hg : g ∈ post)

include hparam horder hsplit hg

/-- After the whole source was moved. -/
theorem not_uses_of_takesWhole (hnames : (r.fields.map (·.param.name)).Nodup)
    (hf : takesWhole r.source.name f.binding = true) :
    takesWhole r.source.name g.binding = false ∧ readsInline r g = false ∧
      takesField g.binding = false := by
  have hmemf : f ∈ r.fields := by rw [hsplit]; simp
  have hmemg : g ∈ r.fields := by rw [hsplit]; simp [hg]
  have hfname := (takesWhole_iff hparam hmemf).1 hf
  obtain ⟨hfield, hreads⟩ := horder pre f post hsplit ((hparam f hmemf).2 hfname)
  have hne : g.param.name ≠ f.param.name := by
    rw [hsplit, List.map_append, List.map_cons] at hnames
    have hnotin := (List.nodup_cons.1 (List.nodup_append.1 hnames).2.1).1
    exact fun h => hnotin (h ▸ List.mem_map_of_mem hg)
  refine ⟨?_, ?_, hfield g (List.mem_append_right _ hg)⟩
  · rw [← Bool.not_eq_true, takesWhole_iff hparam hmemg]
    exact fun h => hne (h.trans hfname.symm)
  · rw [readsInline, hreads g hg, Bool.false_and]

include howned

/-- After a field of the source was moved. -/
theorem not_uses_of_takesField (hf : takesField f.binding = true) :
    takesWhole r.source.name g.binding = false ∧ readsInline r g = false := by
  have hmemf : f ∈ r.fields := by rw [hsplit]; simp
  have hmemg : g ∈ r.fields := by rw [hsplit]; simp [hg]
  have hmoves : movesFields r = true := (movesFields_iff r howned).2 ⟨f, hmemf, hf⟩
  constructor
  · rw [← Bool.not_eq_true, takesWhole_iff hparam hmemg]
    intro h
    obtain ⟨mid, rest, rfl⟩ := List.append_of_mem hg
    have := (horder (pre ++ f :: mid) g rest (by rw [hsplit, List.append_assoc]; rfl)
      ((hparam g hmemg).2 h)).1 f (by simp)
    rw [hf] at this
    cases this
  · rw [readsInline, isHoisted, hmoves, Bool.true_and, Bool.and_not_self]

end

include howned hparam

theorem movesLast_body_iff_of_names (hself : r.source.name ≠ "self")
    (hnames : (r.fields.map (·.param.name)).Nodup) :
    (body r).MovesLast r.source.name ↔
      ∀ pre field post, r.fields = pre ++ field :: post →
        field.binding = .parameter r.source.name →
        (∀ g ∈ pre ++ post, takesField g.binding = false) ∧
          ∀ g ∈ post, readsSource g.binding = false := by
  rw [movesLast_body_iff_pairwise howned hself,
    List.Pairwise.iff_of_mem fun hf hg => mayFollow_fieldValue?_iff howned hparam hself hf hg]
  constructor
  · intro hpair pre field post hsplit hb
    exact order_of_pairwise howned hsplit hb hpair
  · intro horder
    refine pairwise_of_forall_split fun pre f post hsplit g hg => ⟨fun hf => ?_, fun hf => ?_⟩
    · exact not_uses_of_takesWhole hparam horder hsplit hg hnames hf
    · exact not_uses_of_takesField howned hparam horder hsplit hg hf

end

/-- **When nothing is used after it was moved.**  The body of a function that owns its source uses
nothing of it after moving it exactly if a field bound to the whole source shares the target with
no property of the source and comes after all accessors and siblings that read the source. -/
theorem movesLast_body_iff (unit : MappingUnit) (base : Option TypeDescriptor)
    (f : MappingFunction) (source : Param) (sourceType : TypeDescriptor) (target : TypeRef)
    (fields : List Param) (hsource : f.source? = some source)
    (howned : source.type.passing = .owned) (hself : source.name ≠ "self")
    (hfields : (fields.map (·.name)).Nodup) :
    let r := ResolvedFunction.resolve unit base f source sourceType target fields
    (body r).MovesLast source.name ↔
      ∀ pre field post, r.fields = pre ++ field :: post →
        field.binding = .parameter source.name →
        (∀ g ∈ pre ++ post, takesField g.binding = false) ∧
          ∀ g ∈ post, readsSource g.binding = false := by
  intro r
  refine movesLast_body_iff_of_names (r := r) howned ?_ hself ?_
  · intro g hg
    have hmem : source.name ∈ f.params.map (·.name) :=
      List.mem_map_of_mem (List.mem_of_mem_head? hsource)
    show _ = Binding.parameter source.name ↔ g.param.name = source.name
    rw [((ResolvedFunction.mem_fields_resolve ..).1 hg).2, Binding.resolve_eq_parameter_iff]
    constructor
    · exact fun h => h.1.symm
    · intro h
      exact ⟨h.symm, h ▸ hmem⟩
  · rw [ResolvedFunction.names_fields_resolve]
    exact hfields

/-- The summary of a student that is given away is orderly: the accessor and the sibling are called
before fields are moved. -/
theorem movesLast_body_intoSummary :
    let f := Students.function "into_summary" [Students.studentRef .owned]
      (.named "StudentSummary") .required
    let entity := (Students.registry.describe? "StudentEntity").getD (.bare "" "")
    let fields := Students.fields ["mat_nr", "display_name", "semester", "initials"]
    let r := ResolvedFunction.resolve Students.studentMapper none f (Students.studentRef .owned) entity
      (.named "StudentSummary") fields
    f.source? = some (Students.studentRef .owned) ∧
    (Students.studentRef .owned).type.passing = .owned ∧
    (Students.studentRef .owned).name ≠ "self" ∧ (fields.map (·.name)).Nodup ∧
    (r.fields.any fun g => takesField g.binding) = true ∧
    (body r).MovesLast (Students.studentRef .owned).name := by
  intro f entity fields r
  have hself : (Students.studentRef .owned).name ≠ "self" := by decide
  have hfields : (fields.map (·.name)).Nodup := by decide +kernel
  have hbound : ∀ g ∈ r.fields, g.binding ≠ .parameter (Students.studentRef .owned).name := by
    decide +kernel
  refine ⟨rfl, rfl, hself, hfields, by decide +kernel,
    (movesLast_body_iff Students.studentMapper none f (Students.studentRef .owned) entity
      (.named "StudentSummary") fields rfl rfl hself hfields).2 ?_⟩
  intro pre field post hsplit hb
  exact absurd hb (hbound field (by show field ∈ r.fields; rw [hsplit]; simp))

/-- A target that holds the student itself and then its display name is not: the accessor is called
on a student that is gone. -/
theorem not_movesLast_body_enrolment :
    let f := Students.function "enroll" [Students.studentRef .owned] (.named "Enrolment") .required
    let entity := (Students.registry.describe? "StudentEntity").getD (.bare "" "")
    let fields := Students.fields ["entity", "display_name"]
    let r := ResolvedFunction.resolve Students.studentMapper none f (Students.studentRef .owned) entity
      (.named "Enrolment") fields
    f.source? = some (Students.studentRef .owned) ∧
    (Students.studentRef .owned).type.passing = .owned ∧ (fields.map (·.name)).Nodup ∧
    (body r).evaluated = [.named "entity", .call (.named "entity") "display_name"] ∧
    ¬(body r).MovesLast (Students.studentRef .owned).name := by
  decide +kernel

end Mapwright.Code
