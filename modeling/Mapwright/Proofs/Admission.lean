import Mapwright.Proofs.Signatures

/-!
# Admission of traits

A marked trait is taken in as a unit if it has no fault, and is rejected for its
first fault if it has one.  Faults come in the order in which they stand here:
the arguments of the marker, generic parameters, the base, and then the
functions, of which those with a body have none.

    what keeps a trait from being a unit = the first of its faults             (`error?_unit`)
    a function with a body is added → its unit has it, and is else the same     (`unit_insert`)
    a marked trait is admitted, or rejected for its first fault         (`admission_of_marked`)
-/

namespace Mapwright

namespace Source

/-! ## Faults -/

/-- What is wrong with a parameter: its pattern binds no identifier, or its type has no spelling. -/
def FnParam.faults (p : FnParam) : List SignatureFault :=
  (if p.name.isNone then [.parameterPattern] else []) ++ (error? p.type.spell).toList

namespace Signature

/-- What is wrong with the signature of a function that is to be implemented. -/
def faults (s : Signature) : List SignatureFault :=
  (if s.generic then [.genericFunction] else []) ++
    (if s.receiver.any (·.typed) then [.typedReceiver] else []) ++
    s.params.flatMap (·.faults) ++
    s.output.toList.flatMap fun t => (error? t.spell).toList

end Signature

/-- What is wrong with a function of a trait: nothing if it has a body. -/
def TraitFn.faults (f : TraitFn) : List Rejection :=
  if f.hasBody then [] else f.signature.faults.map (.unsupportedSignature f.signature.name)

/-- What is wrong with a trait as a unit. -/
def TraitItem.faults (t : TraitItem) (marker : Attribute) : List Rejection :=
  (error? marker.settings).toList.map .invalidArguments ++
    (if t.generic then [.unsupportedSignature t.name .genericTrait] else []) ++
    ((marker.settings.toOption.bind (·.base)).toList.flatMap fun base =>
      (error? base.spell).toList.map (.unsupportedSignature t.name)) ++
    t.functions.flatMap (·.faults)

/-! ## The first fault -/

/-- A type cannot be mentioned if it cannot be spelled. -/
theorem TypeExpr.error?_ref (scope : Scope) (t : TypeExpr) :
    error? (t.ref scope) = error? t.spell := by
  have htarget : error? (t.ref scope) = error? t.passed.1.spell := by
    unfold ref
    generalize t.passed = p
    obtain ⟨target, passing⟩ := p
    exact error?_bind_pure ..
  rw [htarget]
  rcases t.passed_cases with ⟨lifetime, mutable, target, rfl, hpassed⟩ | ⟨-, -, hpassed⟩
  · rw [hpassed, spell_reference, error?_map]
  · rw [hpassed]

theorem error?_baseRef (scope : Scope) (p : Path) : error? (baseRef scope p) = error? p.spell :=
  error?_bind_pure ..

theorem error?_paramOf (scope : Scope) (p : FnParam) :
    error? (Signature.paramOf scope p) = p.faults.head? := by
  unfold Signature.paramOf FnParam.faults
  cases p.name with
  | none => rfl
  | some name =>
    refine (error?_bind_pure ..).trans ?_
    rw [TypeExpr.error?_ref]
    exact Option.head?_toList.symm

namespace Signature

theorem error?_receiverOf (s : Signature) :
    error? s.receiverOf = if s.receiver.any (·.typed) then some .typedReceiver else none := by
  unfold receiverOf
  cases s.receiver with
  | none => rfl
  | some self =>
    obtain ⟨reference, lifetime, mutable, typed⟩ := self
    cases typed <;> cases reference <;> rfl

theorem error?_returnsOf (scope : Scope) (s : Signature) :
    error? (s.returnsOf scope) = s.output.bind fun t => error? t.spell := by
  unfold returnsOf
  cases s.output with
  | none => rfl
  | some t =>
    show error? ((t.ref scope).map some) = error? t.spell
    rw [error?_map, TypeExpr.error?_ref]

/-- A function cannot be read for the first of its faults. -/
theorem error?_required (scope : Scope) (s : Signature) :
    error? (s.required scope) = s.faults.head? := by
  have hrest : error? (do
      let receiver ← s.receiverOf
      let params ← s.paramsOf scope
      let returns ← s.returnsOf scope
      return (⟨s.name, receiver, params, returns, .required⟩ : MappingFunction)) =
      (error? s.receiverOf).or ((error? (s.paramsOf scope)).or (error? (s.returnsOf scope))) :=
    error?_bind fun _ _ => error?_bind fun _ _ => error?_bind_pure ..
  have hparams : error? (s.paramsOf scope) = (s.params.flatMap (·.faults)).head? := by
    rw [paramsOf, error?_mapM, List.head?_flatMap]
    simp only [error?_paramOf]
  have hreturns : error? (s.returnsOf scope) =
      (s.output.toList.flatMap fun t => (error? t.spell).toList).head? := by
    rw [error?_returnsOf]
    cases s.output with
    | none => rfl
    | some t => exact (by simp)
  unfold required faults
  rw [List.head?_append, List.head?_append, List.head?_append, ← hparams, ← hreturns]
  cases s.generic with
  | true => rfl
  | false =>
    refine hrest.trans ?_
    rw [error?_receiverOf]
    cases s.receiver.any (·.typed) <;> simp

end Signature

theorem TraitFn.error?_function (scope : Scope) (f : TraitFn) :
    error? (f.function scope) = f.faults.head? := by
  unfold function faults
  cases f.hasBody with
  | true => rfl
  | false =>
    show error? ((f.signature.required scope).mapError _) = _
    rw [error?_mapError, Signature.error?_required]
    exact (List.head?_map ..).symm

namespace TraitItem

/-- **A trait is rejected for its first fault.** -/
theorem error?_unit (scope : Scope) (module : ModuleId) (t : TraitItem) (marker : Attribute) :
    error? (t.unit scope module marker) = (t.faults marker).head? := by
  unfold unit faults
  cases marker.settings with
  | error fault => rfl
  | ok settings =>
    have hbase : error? ((settings.base.mapM (baseRef scope)).mapError
        (Rejection.unsupportedSignature t.name)) =
        (settings.base.toList.flatMap fun base =>
          (error? base.spell).toList.map (.unsupportedSignature t.name)).head? := by
      rw [error?_mapError]
      cases settings.base with
      | none => rfl
      | some base =>
        rw [Option.mapM_some, Option.toList_some, List.flatMap_singleton, List.head?_map,
          Option.head?_toList, ← error?_baseRef scope]
        exact congrArg _ (error?_bind_pure ..)
    have hfunctions : error? (t.functions.mapM (·.function scope)) =
        (t.functions.flatMap (·.faults)).head? := by
      rw [error?_mapM, List.head?_flatMap]
      simp only [TraitFn.error?_function]
    rw [List.head?_append, List.head?_append, List.head?_append, ← hfunctions]
    refine Eq.trans ?_ (congrArg (Option.or · _) (congrArg (Option.or _ ·) hbase))
    cases t.generic with
    | true => rfl
    | false =>
      refine (error?_bind fun base _ => error?_bind_pure ..).trans ?_
      rfl

end TraitItem

/-! ## Functions with a body -/

/-- What is taken of a function with a body has as many parameters as the function. -/
theorem Signature.length_params_provided (scope : Scope) (s : Signature) :
    (s.provided scope).params.length = s.params.length := by
  show ((s.paramsOf scope).toOption.getD s.unknownParams).length = _
  cases hparams : s.paramsOf scope with
  | error e => exact (List.length_map ..).trans List.length_range
  | ok ps => exact (paramsOf_eq_ok_iff.1 hparams).length_eq.symm

theorem TraitFn.length_params_of_function {scope : Scope} {f : TraitFn} {m : MappingFunction}
    (h : f.function scope = .ok m) : m.params.length = f.signature.params.length := by
  rcases function_eq_ok_iff.1 h with ⟨-, rfl⟩ | ⟨-, hrequired⟩
  · exact Signature.length_params_provided scope f.signature
  · obtain ⟨-, -, hparams, -⟩ := Signature.required_eq_ok_iff.1 hrequired
    exact (Signature.paramsOf_eq_ok_iff.1 hparams).length_eq.symm

namespace TraitItem

section

variable {t : TraitItem} {pre post : List TraitFn} {f : TraitFn}

/-- A function with a body adds no fault to a trait. -/
theorem faults_insert (hfunctions : t.functions = pre ++ post) (hbody : f.hasBody = true)
    (marker : Attribute) :
    { t with functions := pre ++ f :: post }.faults marker = t.faults marker := by
  have hf : f.faults = [] := if_pos hbody
  unfold faults
  rw [hfunctions, List.flatMap_append, List.flatMap_append, List.flatMap_cons, hf, List.nil_append]

/-- A function with a body is added to a unit in its place. -/
theorem unit_insert {scope : Scope} {module : ModuleId} {marker : Attribute} {u : MappingUnit}
    (hfunctions : t.functions = pre ++ post) (hbody : f.hasBody = true)
    (hunit : t.unit scope module marker = .ok u) :
    ∃ before after, u.functions = before ++ after ∧ before.length = pre.length ∧
      { t with functions := pre ++ f :: post }.unit scope module marker =
        .ok { u with functions := before ++ f.signature.provided scope :: after } := by
  obtain ⟨settings, base, functions, hsettings, hgeneric, hbase, hread, rfl⟩ :=
    unit_eq_ok_iff.1 hunit
  rw [mapM_eq_ok_iff, hfunctions] at hread
  have hpre := (List.forall₂_take_append functions pre post hread.flip).flip
  have hpost := (List.forall₂_drop_append functions pre post hread.flip).flip
  refine ⟨functions.take pre.length, functions.drop pre.length,
    (List.take_append_drop ..).symm, hpre.length_eq.symm, unit_eq_ok_iff.2 ?_⟩
  refine ⟨settings, base, _, hsettings, hgeneric, hbase, mapM_eq_ok_iff.2 ?_, rfl⟩
  exact List.rel_append hpre (.cons (TraitFn.function_eq_ok_iff.2 (Or.inl ⟨hbody, rfl⟩)) hpost)

end

/-! ## Admission -/

/-- What becomes of a marked trait, which declares `d`. -/
structure Admission (scope : Scope) (module : ModuleId) (marker : Attribute) (t : TraitItem)
    (d : Declaration) : Prop where
  /-- It is rejected for its first fault. -/
  rejected : ∀ reason, d = .rejected t.name reason ↔ (t.faults marker).head? = some reason
  /-- Without a fault it is a unit. -/
  admitted : t.faults marker = [] ↔ ∃ u, d = .unit u
  /-- The unit has one function for each of the trait, in order. -/
  functions : ∀ u, d = .unit u → u.name = t.name ∧
    List.Forall₂ (fun f m => f.function scope = .ok m ∧ m.name = f.signature.name ∧
      m.isRequired = !f.hasBody ∧ m.params.length = f.signature.params.length)
      t.functions u.functions
  /-- With one more function that has a body, wherever it stands, the trait is rejected for the same
  reason, or it is the same unit with one more function that need not be implemented. -/
  extended : ∀ pre f post, t.functions = pre ++ post → f.hasBody = true →
    ∃ d', (Item.trait { t with functions := pre ++ f :: post }).declarations scope module = [d'] ∧
      ((∃ reason, d = .rejected t.name reason ∧ d' = .rejected t.name reason) ∨
        ∃ u before m after, d = .unit u ∧ u.functions = before ++ after ∧
          before.length = pre.length ∧ d' = .unit { u with functions := before ++ m :: after } ∧
          m.name = f.signature.name ∧ m.isRequired = false ∧
          m.params.length = f.signature.params.length)
  /-- Under its name the generator has the unit, or else the reason, and nothing else of it is
  changed. -/
  settled : ∀ g : Generator, (g.declare d).registry = g.registry ∧
    (g.declare d).settings = g.settings ∧
    ∀ name, (g.declare d).held name =
      if t.name = name then (d.unit?, d.rejection?) else g.held name

/-- A trait that is marked is still marked with other functions. -/
theorem declarations_of_marked {scope : Scope} {module : ModuleId} {t : TraitItem}
    {marker : Attribute} (hmarker : t.attributes.find? (·.marks scope) = some marker) :
    (Item.trait t).declarations scope module =
      [match t.unit scope module marker with
        | .ok unit => .unit unit
        | .error reason => .rejected t.name reason] := by
  show (t.declaration? scope module).toList = _
  rw [declaration?, hmarker]
  rfl

section

variable {scope : Scope} {module : ModuleId} {t : TraitItem} {marker : Attribute}

/-- A trait that cannot be read is rejected. -/
theorem admission_of_error (hmarker : t.attributes.find? (·.marks scope) = some marker)
    {reason : Rejection} (hunit : t.unit scope module marker = .error reason) :
    Admission scope module marker t (.rejected t.name reason) := by
  have hhead : (t.faults marker).head? = some reason := by
    rw [← error?_unit scope module t marker, hunit]
    rfl
  refine ⟨?_, ?_, ?_, ?_, ?_⟩
  · intro reason'
    rw [hhead]
    simp
  · refine iff_of_false (fun hnil => ?_) fun ⟨u, hu⟩ => by cases hu
    rw [hnil] at hhead
    cases hhead
  · intro u hu
    cases hu
  · intro pre f post hfunctions hbody
    have hhead' := error?_unit scope module { t with functions := pre ++ f :: post } marker
    rw [faults_insert hfunctions hbody, hhead, error?_eq_some_iff] at hhead'
    refine ⟨_, declarations_of_marked hmarker, Or.inl ⟨reason, rfl, ?_⟩⟩
    rw [hhead']
  · exact fun g => ⟨rfl, rfl, fun name => g.held_reject ..⟩

/-- A trait that can be read declares its unit. -/
theorem admission_of_ok (hmarker : t.attributes.find? (·.marks scope) = some marker)
    {u : MappingUnit} (hunit : t.unit scope module marker = .ok u) :
    Admission scope module marker t (.unit u) := by
  have hnil : t.faults marker = [] := by
    rw [← List.head?_eq_none_iff, ← error?_unit scope module t marker, hunit]
    rfl
  refine ⟨?_, ?_, ?_, ?_, ?_⟩
  · intro reason
    rw [hnil]
    simp
  · exact iff_of_true hnil ⟨u, rfl⟩
  · rintro _ ⟨rfl⟩
    have hdeclared : t.declaration? scope module = some (.unit u) := by
      rw [declaration?, hmarker, Option.map_some, hunit]
    exact ⟨name_of_unit hunit, (functions_of_declaration? hdeclared).imp fun f m hm =>
      ⟨hm, (TraitFn.name_of_function hm).1, (TraitFn.name_of_function hm).2,
        TraitFn.length_params_of_function hm⟩⟩
  · intro pre f post hfunctions hbody
    obtain ⟨before, after, hsplit, hlength, hread⟩ := unit_insert hfunctions hbody hunit
    refine ⟨_, declarations_of_marked hmarker, Or.inr ⟨u, before, _, after, rfl, hsplit, hlength,
      ?_, rfl, rfl, Signature.length_params_provided scope f.signature⟩⟩
    rw [hread]
  · rw [← name_of_unit hunit]
    exact fun g => ⟨rfl, rfl, fun name => g.held_addUnit ..⟩

/-- **A marked trait is admitted exactly if it has no fault**, and rejected for the first one if it
has. -/
theorem admission_of_marked (scope : Scope) (module : ModuleId) (t : TraitItem) (marker : Attribute)
    (hmarker : t.attributes.find? (·.marks scope) = some marker) :
    ∃ d, (Item.trait t).declarations scope module = [d] ∧ Admission scope module marker t d := by
  refine ⟨_, declarations_of_marked hmarker, ?_⟩
  cases hunit : t.unit scope module marker with
  | error reason => exact admission_of_error hmarker hunit
  | ok u => exact admission_of_ok hmarker hunit

end

/-- An import of the marker. -/
def dispatcherScope : Scope := Scope.ofItems [.use (.path "mapper_derive" (.name "mapper"))]

/-- The attribute of `dispatcher`. -/
def dispatcherMarker : Attribute := ⟨false, ⟨false, ["mapper"]⟩, .none⟩

/-- A trait with two functions that take a pattern apart; the first one has a body. -/
def dispatcher : TraitItem where
  attributes := [dispatcherMarker]
  visibility := .everywhere
  name := "Dispatcher"
  generic := false
  functions := [
    ⟨⟨⟨false, false, false, false⟩, "route", true, some ⟨true, none, false, true⟩,
      [⟨none, .inferred⟩, ⟨some "depth", .never⟩], some .inferred⟩, true⟩,
    ⟨⟨⟨false, false, false, false⟩, "dispatch", false, some ⟨true, none, false, false⟩,
      [⟨some "parcel", .reference none false (.path ⟨false, [⟨"Parcel", .none⟩]⟩)⟩,
        ⟨none, .tuple []⟩], some .inferred⟩, false⟩]

/-- The second function has two faults, of which the pattern comes first. -/
theorem admission_of_marked_dispatcher :
    dispatcher.faults dispatcherMarker =
      [.unsupportedSignature "dispatch" .parameterPattern,
        .unsupportedSignature "dispatch" .inferredType] ∧
    ∃ d, (Item.trait dispatcher).declarations dispatcherScope "dispatch.rs" = [d] ∧
      Admission dispatcherScope "dispatch.rs" dispatcherMarker dispatcher d :=
  ⟨by decide, admission_of_marked _ _ _ _ (by decide)⟩

end TraitItem

end Source

end Mapwright
