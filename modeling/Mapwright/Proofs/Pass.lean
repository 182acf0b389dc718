import Mapwright.Pass
import Mapwright.Proofs.Except

/-!
# What the steps of a pass ask for

A unit has a plan if its base has named fields, all required functions can be
read as mappings, and each of them has a source and a target to bind.  The
report of a pass has the code of those units that have a plan.  The plan does
not depend on more of the registry than the descriptors of the types that the
unit mentions.

    planUnit … unit = .ok plan  ↔  …                                       (`planUnit_eq_ok_iff`)
    registries that agree on unit.typeNames plan the unit alike            (`planUnit_congr`)
    g.run = .ok report → (u ∈ report.units ↔ some unit's plan gives u)     (`mem_units_run_iff`)
-/

namespace Mapwright

/-! ## Checks -/

theorem checkBase_eq_ok_iff {registry : Registry} {unit : MappingUnit}
    {base : Option TypeDescriptor} :
    checkBase registry unit = .ok base ↔
      (unit.base = none ∧ base = none) ∨
      ∃ b d, unit.base = some b ∧ registry.describe? b.name = some d ∧
        d.constructor.isSome = true ∧ base = some d := by
  constructor
  · intro h
    unfold checkBase at h
    split at h
    · next hb => exact Or.inl ⟨hb, (Except.ok.inj h).symm⟩
    · next b hb =>
      split at h
      · cases h
      · next d hd =>
        split at h
        · cases h
        · next fields hc =>
          exact Or.inr ⟨b, d, hb, hd, by rw [hc]; rfl, (Except.ok.inj h).symm⟩
  · rintro (⟨hb, rfl⟩ | ⟨b, d, hb, hd, hc, rfl⟩)
    · simp only [checkBase, hb]
    · obtain ⟨fields, hc⟩ := Option.isSome_iff_exists.1 hc
      simp only [checkBase, hb, hd, hc]

theorem readMapping_eq_ok_iff {f : MappingFunction} {m : Mapping} :
    readMapping f = .ok m ↔
      f.receiver.isSome = true ∧ f.source? = some m.source ∧ f.returns = some m.target ∧
        m.target.isBorrowed = false ∧ m.function = f := by
  constructor
  · intro h
    unfold readMapping at h
    split at h
    · cases h
    · cases h
    · cases h
    · next receiver source target hr hs ht =>
      split at h
      · cases h
      · next hborrowed =>
        cases h
        exact ⟨by rw [hr]; rfl, hs, ht, Bool.not_eq_true _ ▸ hborrowed, rfl⟩
  · rintro ⟨hr, hs, ht, hborrowed, rfl⟩
    obtain ⟨receiver, hr⟩ := Option.isSome_iff_exists.1 hr
    simp only [readMapping, hr, hs, ht, hborrowed, Bool.false_eq_true, if_false]

theorem checkSignatures_eq_ok_iff {unit : MappingUnit} {ms : List Mapping} :
    checkSignatures unit = .ok ms ↔
      List.Forall₂ (fun f m => readMapping f = .ok m) unit.requiredFunctions ms := by
  rw [checkSignatures, mapM_eq_ok_iff]
  simp only [mapError_eq_ok_iff]

/-! ## Plans -/

theorem lookupType_eq_ok_iff {registry : Registry} {function type : String} {d : TypeDescriptor} :
    lookupType registry function type = .ok d ↔ registry.describe? type = some d := by
  unfold lookupType
  cases registry.describe? type <;> simp

theorem planFunction_eq_ok_iff {registry : Registry} {unit : MappingUnit}
    {base : Option TypeDescriptor} {m : Mapping} {p : PlannedFunction} :
    planFunction registry unit base m = .ok p ↔
      ∃ source target fields,
        registry.describe? m.source.type.name = some source ∧
        registry.describe? m.target.name = some target ∧ target.constructor = some fields ∧
        p.resolved.conflictingSibling? = none ∧
        p = ⟨.resolve unit base m.function m.source source m.target fields, source.module,
          target.module⟩ := by
  simp only [planFunction, bind_eq_ok_iff, lookupType_eq_ok_iff]
  constructor
  · rintro ⟨source, hsource, target, htarget, h⟩
    cases hc : target.constructor with
    | none => simp [hc] at h
    | some fields =>
      simp only [hc] at h
      split at h
      · cases h
      · next hconflict =>
        cases h
        exact ⟨source, target, fields, hsource, htarget, hc, hconflict, rfl⟩
  · rintro ⟨source, target, fields, hsource, htarget, hc, hconflict, rfl⟩
    refine ⟨source, hsource, target, htarget, ?_⟩
    simp only [hc]
    rw [show (ResolvedFunction.resolve unit base m.function m.source source m.target
      fields).conflictingSibling? = none from hconflict]

/-- **What a unit needs to have a plan.** -/
theorem planUnit_eq_ok_iff {settings : Settings} {registry : Registry} {unit : MappingUnit}
    {plan : Plan} :
    planUnit settings registry unit = .ok plan ↔
      plan.unit = unit ∧ checkBase registry unit = .ok plan.base ∧
      (∃ mappings, checkSignatures unit = .ok mappings ∧
        mappings.mapM (planFunction registry unit plan.base) = .ok plan.functions) ∧
      (settings.denyUnresolved = true → plan.diagnostics = []) := by
  obtain ⟨unit', base', functions'⟩ := plan
  simp only [planUnit, bind_eq_ok_iff]
  constructor
  · rintro ⟨base, hbase, mappings, hmappings, functions, hfunctions, h⟩
    split at h
    · cases h
    · next hdeny =>
      cases h
      refine ⟨rfl, hbase, ⟨mappings, hmappings, hfunctions⟩, fun hd => ?_⟩
      rwa [hd, Bool.true_and, Bool.not_eq_true', Bool.not_eq_false, List.isEmpty_iff] at hdeny
  · rintro ⟨rfl, hbase, ⟨mappings, hmappings, hfunctions⟩, hdeny⟩
    refine ⟨base', hbase, mappings, hmappings, functions', hfunctions, ?_⟩
    rw [if_neg]
    rw [Bool.and_eq_true, not_and, Bool.not_eq_true', Bool.not_eq_false, List.isEmpty_iff]
    exact hdeny

/-- The functions of a plan are the required functions of the unit, in order. -/
theorem forall₂_functions {settings : Settings} {registry : Registry} {unit : MappingUnit}
    {plan : Plan} (hplan : planUnit settings registry unit = .ok plan) :
    List.Forall₂ (fun f p => ∃ m, readMapping f = .ok m ∧
      planFunction registry unit plan.base m = .ok p) unit.requiredFunctions plan.functions := by
  obtain ⟨-, -, ⟨mappings, hmappings, hfunctions⟩, -⟩ := planUnit_eq_ok_iff.1 hplan
  exact forall₂_comp (checkSignatures_eq_ok_iff.1 hmappings) (mapM_eq_ok_iff.1 hfunctions)

/-- The resolved functions of a plan are the required functions of the unit, in order. -/
theorem function_resolved {settings : Settings} {registry : Registry} {unit : MappingUnit}
    {plan : Plan} (hplan : planUnit settings registry unit = .ok plan) :
    plan.resolved.map (·.function) = unit.requiredFunctions := by
  have heach : List.Forall₂ (fun p f => p.resolved.function = f) plan.functions
      unit.requiredFunctions := by
    refine (forall₂_functions hplan).flip.imp ?_
    rintro p f ⟨m, hm, hp⟩
    obtain ⟨-, -, -, -, rfl⟩ := readMapping_eq_ok_iff.1 hm
    obtain ⟨source, target, fields, -, -, -, -, rfl⟩ := planFunction_eq_ok_iff.1 hp
    rfl
  rw [Plan.resolved, List.map_map, ← List.forall₂_eq_eq_eq, List.forall₂_map_left_iff]
  exact heach

/-- Where the functions of a plan come from. -/
theorem exists_of_mem_functions {settings : Settings} {registry : Registry} {unit : MappingUnit}
    {plan : Plan} (hplan : planUnit settings registry unit = .ok plan) {p : PlannedFunction}
    (hp : p ∈ plan.functions) :
    ∃ f ∈ unit.requiredFunctions, ∃ m, readMapping f = .ok m ∧
      planFunction registry unit plan.base m = .ok p :=
  exists_of_forall₂_right (forall₂_functions hplan) p hp

/-- A plan gives the same code with another base of the same constructor and module. -/
theorem Plan.generate_with_base (settings : Settings) (plan : Plan) {base : Option TypeDescriptor}
    (hconstructor : base.bind (·.constructor) = plan.base.bind (·.constructor))
    (hmodule : base.map (·.module) = plan.base.map (·.module)) :
    { plan with base }.generate settings = plan.generate settings := by
  have hcode : { plan with base }.codeBase = plan.codeBase := by
    rw [Plan.codeBase, Plan.codeBase, Code.baseOf, Code.baseOf, hconstructor]
  have hdependencies : { plan with base }.dependencies = plan.dependencies := by
    rw [Plan.dependencies, Plan.dependencies, hmodule]
  simp only [Plan.generate, Plan.implementation, Plan.wrappers, hcode, hdependencies]
  rfl

/-- A unit has the same code in a registry where its base and its functions come out the same. -/
theorem generate_of_planUnit {settings : Settings} {registry registry' : Registry}
    {unit : MappingUnit} {plan : Plan} (hplan : planUnit settings registry unit = .ok plan)
    {base : Option TypeDescriptor} (hbase : checkBase registry' unit = .ok base)
    (hconstructor : base.bind (·.constructor) = plan.base.bind (·.constructor))
    (hmodule : base.map (·.module) = plan.base.map (·.module))
    (hfunctions : ∀ f ∈ unit.requiredFunctions, ∀ m, readMapping f = .ok m →
      ∀ p ∈ plan.functions, planFunction registry unit plan.base m = .ok p →
        planFunction registry' unit base m = .ok p) :
    ∃ plan', planUnit settings registry' unit = .ok plan' ∧
      plan'.generate settings = plan.generate settings := by
  obtain ⟨hunit, -, ⟨mappings, hmappings, hplanned⟩, hdeny⟩ := planUnit_eq_ok_iff.1 hplan
  refine ⟨{ plan with base }, planUnit_eq_ok_iff.2 ⟨hunit, hbase, ⟨mappings, hmappings, ?_⟩, hdeny⟩,
    plan.generate_with_base settings hconstructor hmodule⟩
  rw [mapM_eq_ok_iff] at hplanned ⊢
  have hread : ∀ m ∈ mappings, (∃ f ∈ unit.requiredFunctions, readMapping f = .ok m) ∧
      ∃ p ∈ plan.functions, planFunction registry unit plan.base m = .ok p := fun m hm =>
    ⟨exists_of_forall₂_right (checkSignatures_eq_ok_iff.1 hmappings) m hm,
      exists_of_forall₂_right hplanned.flip m hm⟩
  refine List.Forall₂.imp ?_ ((List.forall₂_and_left _ _).2 ⟨hread, hplanned⟩)
  rintro m p ⟨⟨⟨f, hf, hfm⟩, p', hmem, hp'⟩, hp⟩
  obtain rfl : p' = p := Except.ok.inj (hp'.symm.trans hp)
  exact hfunctions f hf m hfm p' hmem hp

/-! ## What a plan looks up -/

/-- The types that a unit mentions as its base, a source or a target. -/
def MappingUnit.typeNames (unit : MappingUnit) : List String :=
  (unit.base.map (·.name)).toList ++ unit.requiredFunctions.flatMap fun f =>
    (f.source?.map (·.type.name)).toList ++ (f.returns.map (·.name)).toList

theorem MappingUnit.base_mem_typeNames {unit : MappingUnit} {b : TypeRef} (h : unit.base = some b) :
    b.name ∈ unit.typeNames := by
  unfold typeNames
  rw [h]
  exact List.mem_append_left _ List.mem_cons_self

theorem MappingUnit.mapping_mem_typeNames {unit : MappingUnit} {f : MappingFunction} {m : Mapping}
    (hf : f ∈ unit.requiredFunctions) (hm : readMapping f = .ok m) :
    m.source.type.name ∈ unit.typeNames ∧ m.target.name ∈ unit.typeNames := by
  obtain ⟨-, hsource, hreturns, -, -⟩ := readMapping_eq_ok_iff.1 hm
  have hmem : ∀ type ∈ [m.source.type.name, m.target.name], type ∈ unit.typeNames := by
    intro type htype
    refine List.mem_append_right _ (List.mem_flatMap.2 ⟨f, hf, ?_⟩)
    rw [hsource, hreturns]
    exact htype
  exact ⟨hmem _ List.mem_cons_self, hmem _ (List.mem_cons_of_mem _ List.mem_cons_self)⟩

section

variable {settings : Settings} {registry registry' : Registry} {unit : MappingUnit}
  (hagree : ∀ type ∈ unit.typeNames, registry.describe? type = registry'.describe? type)

include hagree

theorem checkBase_congr : checkBase registry unit = checkBase registry' unit := by
  unfold checkBase
  cases hb : unit.base with
  | none => rfl
  | some b =>
    dsimp only
    rw [hagree b.name (MappingUnit.base_mem_typeNames hb)]

theorem planFunction_congr {f : MappingFunction} {m : Mapping} (hf : f ∈ unit.requiredFunctions)
    (hm : readMapping f = .ok m) (base : Option TypeDescriptor) :
    planFunction registry unit base m = planFunction registry' unit base m := by
  obtain ⟨hsource, htarget⟩ := MappingUnit.mapping_mem_typeNames hf hm
  unfold planFunction lookupType
  rw [hagree _ hsource, hagree _ htarget]

/-- **A plan depends on no more of the registry than the types that the unit mentions.** -/
theorem planUnit_congr : planUnit settings registry unit = planUnit settings registry' unit := by
  unfold planUnit
  rw [checkBase_congr hagree]
  cases hs : checkSignatures unit with
  | error o => rfl
  | ok mappings =>
    have hmappings : ∀ base, mappings.mapM (planFunction registry unit base) =
        mappings.mapM (planFunction registry' unit base) := by
      intro base
      refine mapM_congr fun m hm => ?_
      obtain ⟨f, hf, hfm⟩ := exists_of_forall₂_right (checkSignatures_eq_ok_iff.1 hs) m hm
      exact planFunction_congr hagree hf hfm base
    cases checkBase registry' unit with
    | error o => rfl
    | ok base => simp only [bind, Except.bind, hmappings]

end

/-! ## Reports -/

namespace Generator

theorem mem_units_generateEach {g : Generator} {u : GeneratedUnit} :
    ∀ {units : List MappingUnit} {r : List GeneratedUnit × List RejectedUnit},
      g.generateEach units = .ok r →
        (u ∈ r.1 ↔ ∃ unit ∈ units, g.generateUnit unit = .ok u)
  | [], r, h => by
    cases h
    simp
  | unit :: units, r, h => by
    simp only [List.mem_cons, exists_eq_or_imp]
    unfold generateEach at h
    split at h
    · cases h
    · next hu =>
      obtain ⟨r', hr', rfl⟩ := map_eq_ok_iff.1 h
      rw [hu, ← mem_units_generateEach hr']
      simp
    · next generated hu =>
      obtain ⟨r', hr', rfl⟩ := map_eq_ok_iff.1 h
      rw [hu, ← mem_units_generateEach hr', List.mem_cons, Except.ok.injEq, eq_comm]

theorem generateUnit_eq_ok_iff {g : Generator} {unit : MappingUnit} {u : GeneratedUnit} :
    g.generateUnit unit = .ok u ↔
      ∃ plan, planUnit g.settings g.registry unit = .ok plan ∧ plan.generate g.settings = u :=
  map_eq_ok_iff

/-- **Which code a report has.** -/
theorem mem_units_run_iff {g : Generator} {report : Report} (h : g.run = .ok report)
    {u : GeneratedUnit} :
    u ∈ report.units ↔ ∃ unit ∈ g.units.values, ∃ plan,
      planUnit g.settings g.registry unit = .ok plan ∧ plan.generate g.settings = u := by
  obtain ⟨r, hr, rfl⟩ := map_eq_ok_iff.1 h
  simp only [mem_units_generateEach hr, generateUnit_eq_ok_iff]

end Generator

end Mapwright
