import Mapwright.Proofs.Items

/-!
# What declarations keep of types and signatures

A type is mentioned by its spelling below an outer reference and by how the
reference passes it.  Written out again it is spelled as it was, but for the
lifetime of the outer reference.

A marked trait declares a unit with one function for each of its own, in their
order.  The functions that have no body are read in full, or the trait is
rejected; what cannot be read of the others is left open.

    t.ref scope = .ok r → t.withoutLifetime.spell = .ok r.render                (`spell_withoutLifetime`)
    a trait declares a unit → its functions are those of the unit, in order     (`functions_of_declaration?`)
-/

namespace Mapwright.Source

/-! ## Types -/

namespace TypeExpr

/-- The lifetime of an outer reference, if it is written. -/
def lifetime? : TypeExpr → Option String
  | .reference lifetime _ _ => lifetime
  | _ => none

/-- The type with an outer reference that has no lifetime. -/
def withoutLifetime : TypeExpr → TypeExpr
  | .reference _ mutable target => .reference none mutable target
  | t => t

/-- A reference passes its target; any other type is passed as it is. -/
theorem passed_cases (t : TypeExpr) :
    (∃ lifetime mutable target, t = .reference lifetime mutable target ∧
      t.passed = (target, if mutable then .exclusive else .shared)) ∨
    (t.lifetime? = none ∧ t.withoutLifetime = t ∧ t.passed = (t, .owned)) := by
  cases t with
  | reference lifetime mutable target =>
    refine Or.inl ⟨lifetime, mutable, target, rfl, ?_⟩
    cases mutable <;> rfl
  | _ => exact Or.inr ⟨rfl, rfl, rfl⟩

theorem ref_eq_ok_iff {scope : Scope} {t : TypeExpr} {r : TypeRef} :
    t.ref scope = .ok r ↔ ∃ text, t.passed.1.spell = .ok text ∧
      r = ⟨match t.passed.1 with
        | .path p => scope.typeName p.names
        | _ => text, text, t.passed.2⟩ := by
  unfold ref
  generalize t.passed = p
  obtain ⟨target, passing⟩ := p
  simp only [bind_eq_ok_iff]
  refine exists_congr fun text => and_congr_right fun _ => ?_
  cases target <;> simp [pure, Except.pure, eq_comm]

theorem passing_of_ref {scope : Scope} {t : TypeExpr} {r : TypeRef} (h : t.ref scope = .ok r) :
    r.passing = t.passed.2 := by
  obtain ⟨text, -, rfl⟩ := ref_eq_ok_iff.1 h
  rfl

/-- A type that is not borrowed has no outer reference. -/
theorem lifetime?_of_ref {scope : Scope} {t : TypeExpr} {r : TypeRef} (h : t.ref scope = .ok r)
    (howned : r.isBorrowed = false) : t.lifetime? = none := by
  rcases t.passed_cases with ⟨lifetime, mutable, target, rfl, hpassed⟩ | ⟨hlifetime, -, -⟩
  · rw [TypeRef.isBorrowed, passing_of_ref h, hpassed] at howned
    cases mutable <;> cases howned
  · exact hlifetime

theorem spell_reference (lifetime : Option String) (mutable : Bool) (target : TypeExpr) :
    (TypeExpr.reference lifetime mutable target).spell = target.spell.map fun text =>
      "&" ++ (lifetime.elim "" (· ++ " ")) ++ (if mutable then "mut " else "") ++ text := by
  show (do
    let text ← target.spell
    return _) = _
  cases target.spell <;> cases lifetime <;> rfl

/-- A type can be mentioned if it has a spelling. -/
theorem exists_ref_iff (scope : Scope) (t : TypeExpr) :
    (∃ r, t.ref scope = .ok r) ↔ ∃ text, t.spell = .ok text := by
  simp only [ref_eq_ok_iff]
  rcases t.passed_cases with ⟨lifetime, mutable, target, rfl, hpassed⟩ | ⟨-, -, hpassed⟩
  · rw [hpassed, spell_reference]
    constructor
    · rintro ⟨_, text, htext, -⟩
      exact ⟨_, map_eq_ok_iff.2 ⟨text, htext, rfl⟩⟩
    · rintro ⟨_, h⟩
      obtain ⟨text, htext, -⟩ := map_eq_ok_iff.1 h
      exact ⟨_, text, htext, rfl⟩
  · rw [hpassed]
    constructor
    · rintro ⟨_, text, htext, -⟩
      exact ⟨text, htext⟩
    · rintro ⟨text, htext⟩
      exact ⟨_, text, htext, rfl⟩

/-- A type is mentioned as it is spelled, but for the lifetime of an outer reference. -/
theorem spell_withoutLifetime {scope : Scope} {t : TypeExpr} {r : TypeRef}
    (h : t.ref scope = .ok r) : t.withoutLifetime.spell = .ok r.render := by
  obtain ⟨text, htext, rfl⟩ := ref_eq_ok_iff.1 h
  rcases t.passed_cases with ⟨lifetime, mutable, target, rfl, hpassed⟩ | ⟨-, hwithout, hpassed⟩
  · rw [hpassed] at htext
    rw [withoutLifetime, spell_reference, show target.spell = .ok text from htext, hpassed]
    cases mutable <;> rfl
  · rw [hpassed] at htext
    rw [hwithout, show t.spell = .ok text from htext, hpassed]
    simp [TypeRef.render, Passing.sigil]

end TypeExpr

/-! ## Signatures -/

theorem paramOf_eq_ok_iff {scope : Scope} {p : FnParam} {q : Param} :
    Signature.paramOf scope p = .ok q ↔ p.name = some q.name ∧ p.type.ref scope = .ok q.type := by
  obtain ⟨name, type⟩ := q
  unfold Signature.paramOf
  cases p.name with
  | none => simp
  | some x =>
    simp only [bind_eq_ok_iff, pure, Except.pure, Except.ok.injEq, Param.mk.injEq, Option.some.injEq]
    constructor
    · rintro ⟨r, hr, rfl, rfl⟩
      exact ⟨rfl, hr⟩
    · rintro ⟨rfl, hr⟩
      exact ⟨type, hr, rfl, rfl⟩

/-- Whether a parameter is a plain name with a type that has a spelling. -/
def FnParam.IsPlain (p : FnParam) : Prop := p.name.isSome = true ∧ ∃ text, p.type.spell = .ok text

namespace Signature

theorem paramsOf_eq_ok_iff {scope : Scope} {s : Signature} {ps : List Param} :
    s.paramsOf scope = .ok ps ↔
      List.Forall₂ (fun p q => p.name = some q.name ∧ p.type.ref scope = .ok q.type) s.params ps := by
  rw [paramsOf, mapM_eq_ok_iff]
  simp only [paramOf_eq_ok_iff]

/-- Parameters are known if each of them is plain. -/
theorem exists_paramsOf_iff (scope : Scope) (s : Signature) :
    (∃ ps, s.paramsOf scope = .ok ps) ↔ ∀ p ∈ s.params, p.IsPlain := by
  simp only [paramsOf_eq_ok_iff, exists_forall₂_iff]
  refine forall₂_congr fun p _ => ?_
  rw [FnParam.IsPlain, Option.isSome_iff_exists, ← TypeExpr.exists_ref_iff scope]
  constructor
  · rintro ⟨q, hname, htype⟩
    exact ⟨⟨_, hname⟩, _, htype⟩
  · rintro ⟨⟨name, hname⟩, type, htype⟩
    exact ⟨⟨name, type⟩, hname, htype⟩

theorem returnsOf_eq_ok_iff {scope : Scope} {s : Signature} {r : Option TypeRef} :
    s.returnsOf scope = .ok r ↔
      (s.output = none ∧ r = none) ∨
        ∃ t target, s.output = some t ∧ t.ref scope = .ok target ∧ r = some target := by
  unfold returnsOf
  cases s.output with
  | none => simp [eq_comm]
  | some t =>
    rw [map_eq_ok_iff]
    simp [eq_comm]

theorem required_eq_ok_iff {scope : Scope} {s : Signature} {f : MappingFunction} :
    s.required scope = .ok f ↔
      s.generic = false ∧ s.receiverOf = .ok f.receiver ∧ s.paramsOf scope = .ok f.params ∧
        s.returnsOf scope = .ok f.returns ∧ f.name = s.name ∧ f.kind = .required := by
  obtain ⟨name, receiver, params, returns, kind⟩ := f
  unfold required
  cases s.generic with
  | true => simp [bind, Except.bind]
  | false =>
    simp only [Bool.false_eq_true, if_false, bind_eq_ok_iff, pure, Except.pure, Except.ok.injEq,
      MappingFunction.mk.injEq]
    constructor
    · rintro ⟨_, hreceiver, _, hparams, _, hreturns, rfl, rfl, rfl, rfl, rfl⟩
      exact ⟨trivial, hreceiver, hparams, hreturns, rfl, rfl⟩
    · rintro ⟨-, hreceiver, hparams, hreturns, rfl, rfl⟩
      exact ⟨_, hreceiver, _, hparams, _, hreturns, rfl, rfl, rfl, rfl, rfl⟩

end Signature

/-! ## Traits -/

/-- The traits of a text, with those of the modules inside it, each with the scope it is read in. -/
def traits (text : String) : List (Scope × TraitItem) :=
  ((items? text).map fun items => (read (Scope.ofItems items) items).filterMap fun e =>
    match e.2 with
    | .trait t => some (e.1, t)
    | _ => none).getD []

/-- A function with a body is taken as far as it is known, one without is read in full. -/
theorem TraitFn.function_eq_ok_iff {scope : Scope} {f : TraitFn} {m : MappingFunction} :
    f.function scope = .ok m ↔
      (f.hasBody = true ∧ m = f.signature.provided scope) ∨
        (f.hasBody = false ∧ f.signature.required scope = .ok m) := by
  unfold function
  cases f.hasBody with
  | true => simp [eq_comm]
  | false => simp [mapError_eq_ok_iff]

/-- A function of a trait keeps its name, and is to be implemented if it has no body. -/
theorem TraitFn.name_of_function {scope : Scope} {f : TraitFn} {m : MappingFunction}
    (h : f.function scope = .ok m) :
    m.name = f.signature.name ∧ m.isRequired = !f.hasBody := by
  rcases function_eq_ok_iff.1 h with ⟨hbody, rfl⟩ | ⟨hbody, hrequired⟩
  · rw [hbody]
    exact ⟨rfl, rfl⟩
  · obtain ⟨-, -, -, -, hname, hkind⟩ := Signature.required_eq_ok_iff.1 hrequired
    rw [hbody, MappingFunction.isRequired, hkind]
    exact ⟨hname, rfl⟩

theorem TraitFn.required_of_function {scope : Scope} {f : TraitFn} {m : MappingFunction}
    (h : f.function scope = .ok m) (hbody : f.hasBody = false) :
    f.signature.required scope = .ok m := by
  rcases function_eq_ok_iff.1 h with ⟨hbody', -⟩ | ⟨-, hrequired⟩
  · cases hbody.symm.trans hbody'
  · exact hrequired

theorem TraitFn.reason_of_function {scope : Scope} {f : TraitFn} {reason : Rejection}
    (h : f.function scope = .error reason) :
    ∃ fault, reason = .unsupportedSignature f.signature.name fault := by
  unfold function at h
  split at h
  · cases h
  · obtain ⟨fault, -, rfl⟩ := mapError_eq_error_iff.1 h
    exact ⟨fault, rfl⟩

namespace TraitItem

/-- A unit has the name of its trait. -/
theorem name_of_unit {scope : Scope} {module : ModuleId} {t : TraitItem} {marker : Attribute}
    {u : MappingUnit} (h : t.unit scope module marker = .ok u) : u.name = t.name := by
  obtain ⟨settings, base, functions, -, -, -, -, rfl⟩ := unit_eq_ok_iff.1 h
  rfl

/-- A unit that a trait declares is made of the trait as it is marked. -/
theorem unit_of_declaration? {scope : Scope} {module : ModuleId} {t : TraitItem} {u : MappingUnit}
    (h : t.declaration? scope module = some (.unit u)) :
    ∃ marker, t.unit scope module marker = .ok u := by
  obtain ⟨marker, -, hd⟩ := Option.map_eq_some_iff.1 h
  split at hd
  · next u' hu =>
    cases hd
    exact ⟨marker, hu⟩
  · cases hd

/-- The functions of a unit are those of its trait, in order. -/
theorem functions_of_declaration? {scope : Scope} {module : ModuleId} {t : TraitItem}
    {u : MappingUnit} (h : t.declaration? scope module = some (.unit u)) :
    List.Forall₂ (fun f m => f.function scope = .ok m) t.functions u.functions := by
  obtain ⟨marker, hu⟩ := unit_of_declaration? h
  obtain ⟨settings, base, functions, -, -, -, hfunctions, rfl⟩ := unit_eq_ok_iff.1 hu
  exact mapM_eq_ok_iff.1 hfunctions

/-- A trait is rejected for its arguments, or for something that has no place in generated code. -/
theorem reason_of_unit {scope : Scope} {module : ModuleId} {t : TraitItem} {marker : Attribute}
    {reason : Rejection} (h : t.unit scope module marker = .error reason) :
    (∃ fault, reason = .invalidArguments fault) ∨
      ∃ function fault, reason = .unsupportedSignature function fault := by
  unfold unit at h
  rcases bind_eq_error_iff.1 h with h | ⟨settings, -, h⟩
  · obtain ⟨fault, -, rfl⟩ := mapError_eq_error_iff.1 h
    exact Or.inl ⟨fault, rfl⟩
  refine Or.inr ?_
  split at h
  · cases h
    exact ⟨t.name, .genericTrait, rfl⟩
  rcases bind_eq_error_iff.1 h with h | ⟨base, -, h⟩
  · obtain ⟨fault, -, rfl⟩ := mapError_eq_error_iff.1 h
    exact ⟨t.name, fault, rfl⟩
  rcases bind_eq_error_iff.1 h with h | ⟨functions, -, h⟩
  · obtain ⟨f, -, h⟩ := exists_of_mapM_eq_error h
    exact ⟨f.signature.name, TraitFn.reason_of_function h⟩
  · cases h

end TraitItem

end Mapwright.Source
