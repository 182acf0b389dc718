import Mapwright.Proofs.Accounting
import Mapwright.Proofs.Resolution

/-!
# What is wrong with a unit, and what a pass makes of it

All that can be wrong with a unit is a list of checks, each for itself: those of
the base, those of the signatures, those of the types and bindings, and at last
the fields without a value.  What stands in the way of a unit is the first check
that fails.  A missing type ends the pass, with the first unit in the order of
names that has one; anything else only keeps the unit out.

    error? (planUnit … unit) = firstProblem? (unit.checks …)            (`error?_planUnit`)
    a pass fails      ↔ some unit's first problem is a missing type     (`outcome_after`)
    a unit has code   ↔ it has no problem                               (`outcome_after`)
    a unit is refused ↔ its first problem is what it is refused for     (`outcome_after`)
-/

namespace Mapwright

/-! ## Checks -/

/-- A check: whether it fails, and what stands in the way then. -/
structure Check where
  fails : Bool
  problem : Obstacle

/-- The problem of the first check that fails. -/
def firstProblem? (checks : List Check) : Option Obstacle :=
  (checks.find? (·.fails)).map (·.problem)

namespace MappingUnit

variable (settings : Settings) (registry : Registry) (unit : MappingUnit)

/-- What is known of the base. -/
def baseType? : Option TypeDescriptor := unit.base.bind fun b => registry.describe? b.name

/-- The base has to be known, and to have named fields. -/
def baseChecks : List Check :=
  unit.base.toList.flatMap fun b =>
    [⟨(unit.baseType? registry).isNone, .rejection (.missingBase b.source)⟩,
      ⟨((unit.baseType? registry).bind (·.constructor)).isNone,
        .rejection (.baseWithoutConstructor b.source)⟩]

/-- A function has to take `self` and a source, and to return something that is its own. -/
def signatureChecks (f : MappingFunction) : List Check :=
  [⟨f.receiver.isNone, .rejection (.missingReceiver f.name)⟩,
    ⟨f.params.isEmpty, .rejection (.noParameters f.name)⟩,
    ⟨f.returns.isNone, .rejection (.noReturnType f.name)⟩] ++
  f.returns.toList.map fun t =>
    ⟨t.isBorrowed, .rejection (.unsupportedSignature f.name (.returnsReference t.render))⟩

/-- The fields of a function's target, if it is known and has named ones. -/
def targetFields? (f : MappingFunction) : Option (List Param) :=
  (f.returns.bind fun t => registry.describe? t.name).bind (·.constructor)

/-- Whether the field of that name is had from a sibling that writes to the source. -/
def writesSource (f : MappingFunction) (name : String) : Bool :=
  !f.params.any (·.name == name) &&
    siblingPassing unit (unit.baseType? registry) f name == some (some .exclusive)

/-- The source and the target of a function have to be known, the target to have named fields, and
none of these to be had from a sibling that writes to a source that is lent for reading only. -/
def functionChecks (f : MappingFunction) : List Check :=
  f.params.head?.toList.flatMap fun source => f.returns.toList.flatMap fun target =>
    [⟨(registry.describe? source.type.name).isNone, .missingType f.name source.type.name⟩,
      ⟨(registry.describe? target.name).isNone, .missingType f.name target.name⟩,
      ⟨(targetFields? registry f).isNone,
        .rejection (.targetWithoutConstructor f.name target.source)⟩] ++
    ((targetFields? registry f).getD []).map fun p =>
      ⟨source.type.passing == .shared && unit.writesSource registry f p.name,
        .rejection (.sharedSourceToMutSibling f.name p.name)⟩

/-- The fields of a function's target without a value. -/
def unresolvedFields (f : MappingFunction) : List Diagnostic :=
  f.params.head?.toList.flatMap fun source => f.returns.toList.flatMap fun target =>
    (registry.describe? source.type.name).toList.flatMap fun sourceType =>
      (((targetFields? registry f).getD []).filter fun p =>
        Binding.resolve unit (unit.baseType? registry) f sourceType p.name == .unresolved).map
      fun p => ⟨unit.name, f.name, target.name, p.name⟩

/-- All that is checked of a unit, in order: its base, the signatures of all functions, the types and
bindings of each function, and, if they are not to be, the fields without a value. -/
def checks : List Check :=
  unit.baseChecks registry ++
  unit.requiredFunctions.flatMap signatureChecks ++
  unit.requiredFunctions.flatMap (unit.functionChecks registry) ++
  [⟨settings.denyUnresolved && !(unit.requiredFunctions.flatMap (unit.unresolvedFields registry)).isEmpty,
    .rejection (.unresolved (unit.requiredFunctions.flatMap (unit.unresolvedFields registry)))⟩]

end MappingUnit

/-! ## The first problem of several lists -/

@[simp] theorem firstProblem?_nil : firstProblem? [] = none := rfl

theorem firstProblem?_cons (fails : Bool) (problem : Obstacle) (checks : List Check) :
    firstProblem? (⟨fails, problem⟩ :: checks) =
      if fails then some problem else firstProblem? checks := by
  unfold firstProblem?
  rw [List.find?_cons]
  cases fails <;> rfl

theorem firstProblem?_append (checks checks' : List Check) :
    firstProblem? (checks ++ checks') = (firstProblem? checks).or (firstProblem? checks') := by
  unfold firstProblem?
  rw [List.find?_append]
  cases checks.find? (·.fails) <;> rfl

theorem firstProblem?_map {α : Type} (fails : α → Bool) (problem : α → Obstacle) (as : List α) :
    firstProblem? (as.map fun a => ⟨fails a, problem a⟩) = (as.find? fails).map problem := by
  unfold firstProblem?
  rw [List.find?_map, Option.map_map]
  rfl

theorem firstProblem?_flatMap {α : Type} (f : α → List Check) (as : List α) :
    firstProblem? (as.flatMap f) = as.findSome? fun a => firstProblem? (f a) := by
  induction as with
  | nil => rfl
  | cons a as ih =>
    rw [List.flatMap_cons, firstProblem?_append, List.findSome?_cons, ih]
    cases firstProblem? (f a) <;> rfl

/-! ## Base and signatures -/

theorem error?_checkBase (registry : Registry) (unit : MappingUnit) :
    error? (checkBase registry unit) = firstProblem? (unit.baseChecks registry) := by
  unfold checkBase MappingUnit.baseChecks MappingUnit.baseType?
  cases unit.base with
  | none => rfl
  | some b =>
    simp only [Option.toList_some, List.flatMap_cons, List.flatMap_nil, List.append_nil,
      Option.bind_some, firstProblem?_cons]
    cases registry.describe? b.name with
    | none => rfl
    | some d => cases hc : d.constructor <;> simp [hc, error?]

theorem baseType?_of_checkBase {registry : Registry} {unit : MappingUnit}
    {base : Option TypeDescriptor} (h : checkBase registry unit = .ok base) :
    unit.baseType? registry = base := by
  unfold MappingUnit.baseType?
  rcases checkBase_eq_ok_iff.1 h with ⟨hb, rfl⟩ | ⟨b, d, hb, hd, -, rfl⟩
  · rw [hb]
    rfl
  · rw [hb, Option.bind_some, hd]

theorem error?_readMapping (f : MappingFunction) :
    (error? (readMapping f)).map Obstacle.rejection =
      firstProblem? (MappingUnit.signatureChecks f) := by
  unfold readMapping MappingUnit.signatureChecks MappingFunction.source?
  simp only [List.cons_append, List.nil_append, firstProblem?_cons]
  cases f.receiver with
  | none => rfl
  | some receiver =>
    cases f.params with
    | nil => rfl
    | cons source params =>
      cases f.returns with
      | none => rfl
      | some target => cases hb : target.isBorrowed <;> simp [hb, error?, firstProblem?_cons]

theorem error?_checkSignatures (unit : MappingUnit) :
    error? (checkSignatures unit) =
      firstProblem? (unit.requiredFunctions.flatMap MappingUnit.signatureChecks) := by
  unfold checkSignatures
  simp only [error?_mapM, firstProblem?_flatMap, error?_mapError, error?_readMapping]

/-! ## Types and bindings -/

/-- The sibling of a binding, if it writes to the source. -/
def Binding.writer? : Binding → Option String
  | .sibling function (some .exclusive) => some function
  | _ => none

section

variable (unit : MappingUnit) (base : Option TypeDescriptor) (f : MappingFunction) (source : Param)
  (sourceType : TypeDescriptor) (target : TypeRef) (fields : List Param)

theorem writer?_resolve (name : String) :
    (Binding.resolve unit base f sourceType name).writer? =
      if !f.params.any (·.name == name) &&
          siblingPassing unit base f name == some (some .exclusive) then some name else none := by
  unfold Binding.resolve
  cases f.params.any (·.name == name) with
  | true => rfl
  | false =>
    cases siblingPassing unit base f name with
    | none =>
      cases (sourceType.accessor? name).isSome with
      | true => rfl
      | false => cases (sourceType.property? name).isSome <;> rfl
    | some pass =>
      cases pass with
      | none => rfl
      | some passing => cases passing <;> rfl

/-- The first field in conflict is the first one that is had from a sibling that writes. -/
theorem conflictingSibling?_resolve :
    (ResolvedFunction.resolve unit base f source sourceType target fields).conflictingSibling? =
      (fields.find? fun p => source.type.passing == .shared &&
        (!f.params.any (·.name == p.name) &&
          siblingPassing unit base f p.name == some (some .exclusive))).map (·.name) := by
  show (if source.type.passing = .shared then
    (fields.map fun p => ResolvedField.mk p (.resolve unit base f sourceType p.name)).findSome?
      (·.binding.writer?) else none) = _
  by_cases hshared : source.type.passing = .shared
  · rw [if_pos hshared, hshared, List.findSome?_map]
    induction fields with
    | nil => rfl
    | cons p fields ih =>
      rw [List.findSome?_cons, List.find?_cons, ih, Function.comp_apply, writer?_resolve]
      cases !f.params.any (·.name == p.name) &&
        siblingPassing unit base f p.name == some (some .exclusive) <;> rfl
  · have hne : (source.type.passing == .shared) = false := beq_eq_false_iff_ne.2 hshared
    have hnone : fields.find? (fun _ => false) = none := List.find?_eq_none.2 (by simp)
    rw [if_neg hshared, hne]
    simp only [Bool.false_and, hnone, Option.map_none]

theorem diagnostics_resolve (name : String) :
    (ResolvedFunction.resolve unit base f source sourceType target fields).diagnostics name =
      (fields.filter fun p => Binding.resolve unit base f sourceType p.name == .unresolved).map
        fun p => ⟨name, f.name, target.name, p.name⟩ := by
  unfold ResolvedFunction.diagnostics ResolvedFunction.unresolved ResolvedFunction.resolve
  rw [List.filter_map, List.map_map]
  have hkeep : ∀ p : Param, ((fun r : ResolvedField => !r.binding.isResolved) ∘ fun p =>
      ResolvedField.mk p (Binding.resolve unit base f sourceType p.name)) p =
        (Binding.resolve unit base f sourceType p.name == .unresolved) := by
    intro p
    simp [Binding.isResolved, bne]
  rw [List.filter_congr fun p _ => hkeep p]
  rfl

end

section

variable {registry : Registry} {unit : MappingUnit} {f : MappingFunction} {m : Mapping}
  (hm : readMapping f = .ok m)

include hm

theorem error?_planFunction :
    error? (planFunction registry unit (unit.baseType? registry) m) =
      firstProblem? (unit.functionChecks registry f) := by
  obtain ⟨-, hsource, hreturns, -, rfl⟩ := readMapping_eq_ok_iff.1 hm
  unfold planFunction lookupType MappingUnit.functionChecks MappingUnit.targetFields?
  rw [show m.function.params.head? = some m.source from hsource, hreturns]
  simp only [Option.toList_some, List.flatMap_cons, List.flatMap_nil, List.append_nil,
    Option.bind_some, List.cons_append, List.nil_append, firstProblem?_cons]
  cases registry.describe? m.source.type.name with
  | none => rfl
  | some sourceType =>
    cases registry.describe? m.target.name with
    | none => rfl
    | some targetType =>
      cases hc : targetType.constructor with
      | none => simp [hc, bind, Except.bind, error?]
      | some fields =>
        have hconflict := conflictingSibling?_resolve unit (unit.baseType? registry) m.function
          m.source sourceType m.target fields
        simp only [bind, Except.bind, hc, Option.bind_some, Option.isNone_some, Bool.false_eq_true,
          if_false, Option.getD_some]
        unfold MappingUnit.writesSource
        rw [firstProblem?_map, hconflict]
        cases fields.find? _ <;> rfl

theorem diagnostics_planFunction {p : PlannedFunction}
    (hp : planFunction registry unit (unit.baseType? registry) m = .ok p) :
    p.resolved.diagnostics unit.name = unit.unresolvedFields registry f := by
  obtain ⟨-, hsource, hreturns, -, rfl⟩ := readMapping_eq_ok_iff.1 hm
  obtain ⟨sourceType, targetType, fields, hst, htt, hc, -, rfl⟩ := planFunction_eq_ok_iff.1 hp
  unfold MappingUnit.unresolvedFields MappingUnit.targetFields?
  rw [show m.function.params.head? = some m.source from hsource, hreturns]
  simp only [Option.toList_some, List.flatMap_cons, List.flatMap_nil, List.append_nil,
    Option.bind_some, hst, htt, hc, Option.getD_some]
  exact diagnostics_resolve unit _ m.function m.source sourceType m.target fields unit.name

end

theorem flatMap_eq_of_forall₂ {α β γ : Type} {f : α → List γ} {g : β → List γ} {as : List α}
    {bs : List β} (h : List.Forall₂ (fun a b => g b = f a) as bs) :
    bs.flatMap g = as.flatMap f := by
  induction h with
  | nil => rfl
  | cons hab _ ih => rw [List.flatMap_cons, List.flatMap_cons, hab, ih]

/-! ## The first problem of a unit -/

section

variable {registry : Registry} {unit : MappingUnit} {mappings : List Mapping}
  (hs : checkSignatures unit = .ok mappings)

include hs

theorem error?_planFunctions :
    error? (mappings.mapM (planFunction registry unit (unit.baseType? registry))) =
      firstProblem? (unit.requiredFunctions.flatMap (unit.functionChecks registry)) := by
  have h := checkSignatures_eq_ok_iff.1 hs
  rw [error?_mapM, firstProblem?_flatMap]
  clear hs
  generalize unit.requiredFunctions = required at h ⊢
  induction h with
  | nil => rfl
  | cons hm _ ih =>
    rw [List.findSome?_cons, List.findSome?_cons, error?_planFunction hm, ih]

theorem diagnostics_planFunctions {functions : List PlannedFunction}
    (hf : mappings.mapM (planFunction registry unit (unit.baseType? registry)) = .ok functions) :
    (Plan.mk unit (unit.baseType? registry) functions).diagnostics =
      unit.requiredFunctions.flatMap (unit.unresolvedFields registry) := by
  have h := checkSignatures_eq_ok_iff.1 hs
  unfold Plan.diagnostics Plan.resolved
  rw [List.flatMap_map]
  refine flatMap_eq_of_forall₂ ?_
  clear hs
  generalize unit.requiredFunctions = required at h ⊢
  induction h generalizing functions with
  | nil =>
    cases hf
    exact .nil
  | cons hm _ ih =>
    obtain ⟨p, ps, hp, hps, rfl⟩ := List.forall₂_cons_left_iff.1 (mapM_eq_ok_iff.1 hf)
    exact .cons (diagnostics_planFunction hm hp) (ih (mapM_eq_ok_iff.2 hps))

end

/-- **What is wrong with a unit is the first of its checks that fails.** -/
theorem error?_planUnit (settings : Settings) (registry : Registry) (unit : MappingUnit) :
    error? (planUnit settings registry unit) = firstProblem? (unit.checks settings registry) := by
  unfold planUnit MappingUnit.checks
  rw [firstProblem?_append, firstProblem?_append, firstProblem?_append, ← error?_checkBase,
    ← error?_checkSignatures]
  cases hbase : checkBase registry unit with
  | error o => rfl
  | ok base =>
    obtain rfl := baseType?_of_checkBase hbase
    cases hs : checkSignatures unit with
    | error o => rfl
    | ok mappings =>
      rw [← error?_planFunctions hs]
      cases hf : mappings.mapM (planFunction registry unit (unit.baseType? registry)) with
      | error o => simp [bind, Except.bind, hf, error?]
      | ok functions =>
        have hdiagnostics := diagnostics_planFunctions hs hf
        simp only [bind, Except.bind, hf, hdiagnostics, firstProblem?_cons]
        split <;> rfl

/-! ## The pass -/

/-- In a list with increasing names, the first that gives something is the one of the least name. -/
theorem findSome?_eq_some_iff_least {α β : Type} {f : α → Option β} {name : α → String}
    {l : List α} (hl : (l.map name).Pairwise (· < ·)) {b : β} :
    l.findSome? f = some b ↔
      ∃ a ∈ l, f a = some b ∧ ∀ a' ∈ l, name a' < name a → f a' = none := by
  rw [List.pairwise_map] at hl
  constructor
  · intro h
    obtain ⟨before, a, later, rfl, ha, hbefore⟩ := List.findSome?_eq_some_iff.1 h
    refine ⟨a, List.mem_append_right _ List.mem_cons_self, ha, ?_⟩
    intro a' ha' hlt
    obtain ⟨-, hlater, -⟩ := List.pairwise_append.1 hl
    rcases List.mem_append.1 ha' with ha' | ha'
    · exact hbefore a' ha'
    · rcases List.mem_cons.1 ha' with rfl | ha'
      · exact absurd hlt (String.lt_irrefl _)
      · have hgt := (List.pairwise_cons.1 hlater).1 a' ha'
        exact absurd (String.lt_trans hlt hgt) (String.lt_irrefl _)
  · rintro ⟨a, hmem, ha, hleast⟩
    obtain ⟨before, later, rfl⟩ := List.append_of_mem hmem
    refine List.findSome?_eq_some_iff.2 ⟨before, a, later, rfl, ha, ?_⟩
    intro a' ha'
    have hlt := (List.pairwise_append.1 hl).2.2 a' ha' a List.mem_cons_self
    exact hleast a' (List.mem_append_left _ ha') hlt

namespace Generator

/-- What stands in the way of a unit. -/
def problem? (g : Generator) (unit : MappingUnit) : Option Obstacle :=
  firstProblem? (unit.checks g.settings g.registry)

section

variable {g : Generator} {unit : MappingUnit}

theorem error?_generateUnit : error? (g.generateUnit unit) = g.problem? unit := by
  unfold generateUnit problem?
  rw [error?_map, error?_planUnit]

theorem exists_code?_iff : (∃ v, g.code? unit = some v) ↔ g.problem? unit = none := by
  simp only [code?_eq_some_iff, ← error?_generateUnit, error?_eq_none_iff]

theorem refusal?_iff {reason : Rejection} :
    g.refusal? unit = some ⟨unit.name, reason⟩ ↔ g.problem? unit = some (.rejection reason) := by
  rw [refusal?_eq_some_iff, ← error?_generateUnit, error?_eq_some_iff]
  simp only [true_and]

theorem failure?_eq_some_iff {e : Failure} :
    g.failure? unit = some e ↔
      ∃ function type, e = .missingType unit.name function type ∧
        g.problem? unit = some (.missingType function type) := by
  rw [← error?_generateUnit]
  unfold failure?
  cases g.generateUnit unit with
  | ok v => simp [error?]
  | error o => cases o <;> simp [error?, eq_comm]

theorem failure?_eq_none_iff :
    g.failure? unit = none ↔
      ∀ function type, g.problem? unit ≠ some (.missingType function type) := by
  rw [Option.eq_none_iff_forall_ne_some]
  constructor
  · intro h function type hp
    exact h _ (failure?_eq_some_iff.2 ⟨function, type, rfl, hp⟩)
  · intro h e he
    obtain ⟨function, type, -, hp⟩ := failure?_eq_some_iff.1 he
    exact h function type hp

end

/-- **What a pass makes of each unit.**  The pass fails exactly if the first problem of some unit is
a missing type, and then names the first of these units in the order of names, its function and the
type.  If there is none, each unit has code exactly if it has no problem, and is otherwise refused
for its first problem. -/
theorem outcome_after (actions : List Action) :
    (∀ e, (after actions).run = .error e ↔
      ∃ unit ∈ (after actions).units.values, ∃ function type,
        e = .missingType unit.name function type ∧
        (after actions).problem? unit = some (.missingType function type) ∧
        ∀ other ∈ (after actions).units.values, other.name < unit.name →
          ∀ function type, (after actions).problem? other ≠ some (.missingType function type)) ∧
    ((∀ unit ∈ (after actions).units.values, ∀ function type,
        (after actions).problem? unit ≠ some (.missingType function type)) →
      ∃ report, (after actions).run = .ok report ∧
        ∀ unit ∈ (after actions).units.values,
          ((∃ u ∈ report.units, u.unit = unit.name) ↔ (after actions).problem? unit = none) ∧
          ∀ reason, ⟨unit.name, reason⟩ ∈ report.rejected ↔
            (after actions).problem? unit = some (.rejection reason)) := by
  have hg := wellFormed_after actions
  constructor
  · intro e
    have hnames : ((after actions).units.values.map (·.name)).Pairwise (· < ·) := by
      rw [map_name_values hg]
      exact List.pairwise_map.2 (after actions).units.sorted
    rw [run_eq_error_iff, findSome?_eq_some_iff_least hnames]
    simp only [failure?_eq_some_iff, failure?_eq_none_iff]
    constructor
    · rintro ⟨unit, hunit, ⟨function, type, he, hp⟩, hleast⟩
      exact ⟨unit, hunit, function, type, he, hp, hleast⟩
    · rintro ⟨unit, hunit, function, type, he, hp, hleast⟩
      exact ⟨unit, hunit, ⟨function, type, he, hp⟩, hleast⟩
  · intro hnone
    refine ⟨_, run_eq_ok_iff.2 ⟨fun unit hunit => failure?_eq_none_iff.2 (hnone unit hunit), rfl⟩,
      ?_⟩
    intro unit hunit
    constructor
    · rw [← exists_code?_iff]
      constructor
      · rintro ⟨v, hv, hname⟩
        obtain ⟨unit', hunit', hcode⟩ := List.mem_filterMap.1 hv
        rw [unit_of_code? hcode] at hname
        rw [eq_of_name_eq hg hunit' hunit hname] at hcode
        exact ⟨v, hcode⟩
      · rintro ⟨v, hcode⟩
        exact ⟨v, List.mem_filterMap.2 ⟨unit, hunit, hcode⟩, unit_of_code? hcode⟩
    · intro reason
      rw [← refusal?_iff, List.mem_append]
      constructor
      · rintro (h | h)
        · exact absurd (List.mem_map_of_mem h) (not_mem_rejectedUnits hg hunit)
        · obtain ⟨unit', hunit', hrefusal⟩ := List.mem_filterMap.1 h
          have hname : unit.name = unit'.name := unit_of_refusal? hrefusal
          rwa [eq_of_name_eq hg hunit' hunit hname.symm] at hrefusal
      · intro h
        exact Or.inr (List.mem_filterMap.2 ⟨unit, hunit, h⟩)

/-- A unit that maps books to loans. -/
def lendingUnit : MappingUnit :=
  ⟨"Lending", "lending.rs", "pub", true, none, none,
    [⟨"lend", some .ref, [⟨"book", "Book", "Book", .shared⟩], some (.named "Loan"), .required⟩]⟩

/-- Three units and a type.  The first unit in the order of names refers to types that are not
known, but it also has a function without `self`. -/
def lendingActions : List Action := [
  .addUnit ⟨"Repair", "repair.rs", "", false, none, none,
    [⟨"mend", some .ref, [⟨"page", .named "Page"⟩], some (.named "Book"), .required⟩]⟩,
  .addUnit lendingUnit,
  .addUnit ⟨"Binding", "binding.rs", "", false, none, none,
    [⟨"bind", some .ref, [⟨"page", .named "Page"⟩], some (.named "Cover"), .required⟩,
      ⟨"sew", none, [⟨"page", .named "Page"⟩], some (.named "Book"), .required⟩]⟩,
  .registerType (.record "Book" "book.rs" [⟨"title", .named "String"⟩])]

/-- The types that were not known, one of them without named fields. -/
def lendingTypes : List Action := [
  .registerType (.record "Loan" "loan.rs" [⟨"title", .named "String"⟩, ⟨"due", .named "u32"⟩]),
  .registerType (.bare "Page" "page.rs")]

/-- What comes of the three without the types and with them. -/
theorem outcome_lending :
    (after lendingActions).run = .error (.missingType "Lending" "lend" "Loan") ∧
    ∃ report, (after (lendingActions ++ lendingTypes)).run = .ok report ∧
      (∃ u ∈ report.units, u.unit = lendingUnit.name) ∧
      ∀ unit ∈ (after (lendingActions ++ lendingTypes)).units.values, unit.name = "Binding" →
        ⟨unit.name, .missingReceiver "sew"⟩ ∈ report.rejected := by
  have hbefore : ∀ other ∈ (after lendingActions).units.values, other.name < lendingUnit.name →
      (after lendingActions).problem? other = some (.rejection (.missingReceiver "sew")) := by
    decide +kernel
  have hnone : ∀ unit ∈ (after (lendingActions ++ lendingTypes)).units.values,
      (after (lendingActions ++ lendingTypes)).problem? unit = none ∨
      (after (lendingActions ++ lendingTypes)).problem? unit =
        some (.rejection (.missingReceiver "sew")) := by
    decide +kernel
  have hbinding : ∀ unit ∈ (after (lendingActions ++ lendingTypes)).units.values,
      unit.name = "Binding" → (after (lendingActions ++ lendingTypes)).problem? unit =
        some (.rejection (.missingReceiver "sew")) := by
    decide +kernel
  constructor
  · refine ((outcome_after lendingActions).1 _).2
      ⟨lendingUnit, by decide +kernel, "lend", "Loan", rfl, by decide +kernel, ?_⟩
    intro other hother hlt function type h
    rw [hbefore other hother hlt] at h
    cases h
  · obtain ⟨report, hrun, hreport⟩ := (outcome_after (lendingActions ++ lendingTypes)).2 (by
      intro unit hunit function type h
      rcases hnone unit hunit with h' | h' <;> rw [h'] at h <;> cases h)
    refine ⟨report, hrun, (hreport lendingUnit (by decide +kernel)).1.2 (by decide +kernel), ?_⟩
    intro unit hunit hname
    exact ((hreport unit hunit).2 _).2 (hbinding unit hunit hname)

end Generator

end Mapwright
