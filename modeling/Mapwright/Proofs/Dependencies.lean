import Mapwright.Proofs.Accounting

/-!
# Where a unit looks

A generated unit depends on the modules it has looked up, which are its own and
those of its base and of the sources and targets of its required functions.  So
units that look up the same depend on the same, whatever else they and the types
consist of.  The dependencies of a report are those of its generated units: what
was looked up for a unit that is refused is not among them.

    planUnit … unit = .ok plan → (m ∈ plan.dependencies.names ↔ unit.LooksUp registry m)   (`mem_dependencies_iff`)
    unit.SameLookups unit' registry registry' → the same dependencies                     (`dependencies_of_run`)
    a name that is rejected can be dropped from the generator                              (`units_run_drop`)
-/

namespace Mapwright

/-! ## What is looked up -/

namespace MappingUnit

/-- The modules that are looked up for a unit. -/
inductive LooksUp (registry : Registry) (unit : MappingUnit) : ModuleId → Prop
  | own : LooksUp registry unit unit.module
  | base {b : TypeRef} {d : TypeDescriptor} (hbase : unit.base = some b)
      (hd : registry.describe? b.name = some d) : LooksUp registry unit d.module
  | source {f : MappingFunction} {p : Param} {d : TypeDescriptor} (hf : f ∈ unit.requiredFunctions)
      (hp : f.source? = some p) (hd : registry.describe? p.type.name = some d) :
      LooksUp registry unit d.module
  | target {f : MappingFunction} {t : TypeRef} {d : TypeDescriptor}
      (hf : f ∈ unit.requiredFunctions) (ht : f.returns = some t)
      (hd : registry.describe? t.name = some d) : LooksUp registry unit d.module

/-- Whether the same is looked up for two units: they stand in one module, and mention the same types
as base, sources and targets, which stand in the same modules. -/
def SameLookups (unit unit' : MappingUnit) (registry registry' : Registry) : Prop :=
  unit.module = unit'.module ∧ (∀ type, type ∈ unit.typeNames ↔ type ∈ unit'.typeNames) ∧
    ∀ type ∈ unit.typeNames,
      (registry.describe? type).map (·.module) = (registry'.describe? type).map (·.module)

variable {registry registry' : Registry} {unit unit' : MappingUnit}

theorem mem_typeNames_iff {type : String} :
    type ∈ unit.typeNames ↔ (∃ b, unit.base = some b ∧ b.name = type) ∨
      ∃ f ∈ unit.requiredFunctions, (∃ p, f.source? = some p ∧ p.type.name = type) ∨
        ∃ t, f.returns = some t ∧ t.name = type := by
  simp only [typeNames, List.mem_append, List.mem_flatMap, Option.mem_toList,
    Option.map_eq_some_iff]

theorem looksUp_iff {m : ModuleId} :
    unit.LooksUp registry m ↔ m = unit.module ∨
      ∃ type ∈ unit.typeNames, (registry.describe? type).map (·.module) = some m := by
  constructor
  · intro h
    cases h with
    | own => exact .inl rfl
    | base hbase hd =>
      exact .inr ⟨_, mem_typeNames_iff.2 (.inl ⟨_, hbase, rfl⟩), by rw [hd]; rfl⟩
    | source hf hp hd =>
      exact .inr ⟨_, mem_typeNames_iff.2 (.inr ⟨_, hf, .inl ⟨_, hp, rfl⟩⟩), by rw [hd]; rfl⟩
    | target hf ht hd =>
      exact .inr ⟨_, mem_typeNames_iff.2 (.inr ⟨_, hf, .inr ⟨_, ht, rfl⟩⟩), by rw [hd]; rfl⟩
  · rintro (rfl | ⟨type, htype, hm⟩)
    · exact .own
    · obtain ⟨d, hd, rfl⟩ := Option.map_eq_some_iff.1 hm
      rcases mem_typeNames_iff.1 htype with ⟨b, hb, rfl⟩ | ⟨f, hf, ⟨p, hp, rfl⟩ | ⟨t, ht, rfl⟩⟩
      · exact .base hb hd
      · exact .source hf hp hd
      · exact .target hf ht hd

theorem SameLookups.looksUp_iff (h : unit.SameLookups unit' registry registry') (m : ModuleId) :
    unit.LooksUp registry m ↔ unit'.LooksUp registry' m := by
  obtain ⟨hmodule, htypes, hplaces⟩ := h
  rw [MappingUnit.looksUp_iff, MappingUnit.looksUp_iff, hmodule]
  refine or_congr_right (exists_congr fun type => ?_)
  rw [← htypes type]
  exact and_congr_right fun htype => by rw [hplaces type htype]

end MappingUnit

/-! ## What a plan depends on -/

section

variable {settings : Settings} {registry : Registry} {unit : MappingUnit} {plan : Plan}

/-- What was looked up for the functions of a plan. -/
theorem forall₂_lookups (hplan : planUnit settings registry unit = .ok plan) :
    List.Forall₂ (fun f p => ∃ s t source target, f.source? = some s ∧ f.returns = some t ∧
      registry.describe? s.type.name = some source ∧ registry.describe? t.name = some target ∧
      p.sourceModule = source.module ∧ p.targetModule = target.module)
      unit.requiredFunctions plan.functions := by
  refine (forall₂_functions hplan).imp ?_
  rintro f p ⟨m, hm, hp⟩
  obtain ⟨-, hs, ht, -, rfl⟩ := readMapping_eq_ok_iff.1 hm
  obtain ⟨source, target, fields, hsource, htarget, -, -, rfl⟩ := planFunction_eq_ok_iff.1 hp
  exact ⟨m.source, m.target, source, target, hs, ht, hsource, htarget, rfl, rfl⟩

/-- **A plan depends on what was looked up for it.** -/
theorem mem_dependencies_iff (hplan : planUnit settings registry unit = .ok plan) (m : ModuleId) :
    m ∈ plan.dependencies.names ↔ unit.LooksUp registry m := by
  obtain ⟨hunit, hbase, -, -⟩ := planUnit_eq_ok_iff.1 hplan
  have hlookups := forall₂_lookups hplan
  rw [Plan.dependencies, NameSet.mem_names_ofNames, hunit, List.cons_append, List.mem_cons,
    List.mem_append, Option.mem_toList, Option.map_eq_some_iff, List.mem_flatMap]
  constructor
  · rintro (rfl | ⟨d, hd, rfl⟩ | ⟨p, hp, hm⟩)
    · exact .own
    · rcases checkBase_eq_ok_iff.1 hbase with ⟨-, hnone⟩ | ⟨b, d', hb, hd', -, hsome⟩
      · rw [hnone] at hd
        cases hd
      · rw [hsome] at hd
        cases hd
        exact .base hb hd'
    · obtain ⟨f, hf, s, t, source, target, hs, ht, hsource, htarget, hsm, htm⟩ :=
        exists_of_forall₂_right hlookups p hp
      rw [hsm, htm] at hm
      rcases List.mem_pair.1 hm with rfl | rfl
      · exact .source hf hs hsource
      · exact .target hf ht htarget
  · intro h
    cases h with
    | own => exact .inl rfl
    | base hb hd =>
      rcases checkBase_eq_ok_iff.1 hbase with ⟨hnone, -⟩ | ⟨b, d', hb', hd', -, hsome⟩
      · rw [hnone] at hb
        cases hb
      · rw [hb'] at hb
        cases hb
        rw [hd'] at hd
        cases hd
        exact .inr (.inl ⟨_, hsome, rfl⟩)
    | source hf hs hd =>
      obtain ⟨p, hp, s, t, source, target, hs', -, hsource, -, hsm, -⟩ :=
        exists_of_forall₂_right hlookups.flip _ hf
      rw [hs'] at hs
      cases hs
      rw [hsource] at hd
      cases hd
      exact .inr (.inr ⟨p, hp, by rw [hsm]; exact List.mem_cons_self⟩)
    | target hf ht hd =>
      obtain ⟨p, hp, s, t, source, target, -, ht', -, htarget, -, htm⟩ :=
        exists_of_forall₂_right hlookups.flip _ hf
      rw [ht'] at ht
      cases ht
      rw [htarget] at hd
      cases hd
      exact .inr (.inr ⟨p, hp, by rw [htm]; exact List.mem_cons_of_mem _ List.mem_cons_self⟩)

end

/-! ## What a report depends on -/

theorem Report.mem_dependencies_iff (report : Report) (m : ModuleId) :
    m ∈ report.dependencies.names ↔ ∃ u ∈ report.units, m ∈ u.dependencies.names := by
  rw [Report.dependencies, NameSet.mem_names_ofNames, List.mem_flatMap]

namespace Generator

/-- The generator without what it holds under a name. -/
def drop (g : Generator) (name : String) : Generator :=
  { g with units := g.units.erase name, rejected := g.rejected.erase name }

section

variable {g : Generator} (hg : g.WellFormed) {report : Report} (hrun : g.run = .ok report)

include hg

theorem values_drop (name : String) :
    (g.drop name).units.values = g.units.values.filter (·.name != name) := by
  show (g.units.entries.filter _).map _ = (g.units.entries.map _).filter _
  rw [List.filter_map]
  refine congrArg _ (List.filter_congr fun e he => ?_)
  rw [Function.comp_apply, hg.named ((NameMap.mem_entries_iff _ _ _).1 he)]

include hrun

/-- The unit that a report has the code of, and what was looked up for it. -/
theorem exists_unit_of_mem_units {u : GeneratedUnit} (hu : u ∈ report.units) :
    ∃ unit, g.units.find? u.unit = some unit ∧
      ∀ m, m ∈ u.dependencies.names ↔ unit.LooksUp g.registry m := by
  obtain ⟨unit, hunit, plan, hplan, rfl⟩ := (mem_units_run_iff hrun).1 hu
  have hname : (plan.generate g.settings).unit = unit.name := by
    rw [← (planUnit_eq_ok_iff.1 hplan).1]
    rfl
  exact ⟨unit, hname ▸ (mem_values_iff_find? hg).1 hunit, mem_dependencies_iff hplan⟩

/-- No unit of a rejected name has code. -/
theorem code?_of_mem_rejected {r : RejectedUnit} (hr : r ∈ report.rejected) {unit : MappingUnit}
    (hunit : unit ∈ g.units.values) (hname : unit.name = r.unit) : g.code? unit = none := by
  obtain ⟨-, rfl⟩ := run_eq_ok_iff.1 hrun
  rcases List.mem_append.1 hr with hr | hr
  · -- a rejected name is not that of a unit
    exact absurd (hname ▸ List.mem_map_of_mem hr) (not_mem_rejectedUnits hg hunit)
  · obtain ⟨unit', hunit', hrefusal⟩ := List.mem_filterMap.1 hr
    obtain rfl : unit' = unit :=
      eq_of_name_eq hg hunit' hunit ((unit_of_refusal? hrefusal).symm.trans hname.symm)
    cases hcode : g.code? unit' with
    | none => rfl
    | some v =>
      rw [refusal?_of_code? hcode] at hrefusal
      cases hrefusal

/-- **A rejected name may be dropped**: what is generated stays the same. -/
theorem units_run_drop {r : RejectedUnit} (hr : r ∈ report.rejected) :
    ∃ report', (g.drop r.unit).run = .ok report' ∧ report'.units = report.units := by
  have hfailure := (run_eq_ok_iff.1 hrun).1
  have hkept : ∀ unit ∈ (g.drop r.unit).units.values, unit ∈ g.units.values := by
    rw [values_drop hg]
    exact fun unit h => List.mem_of_mem_filter h
  refine ⟨_, run_eq_ok_iff.2 ⟨fun unit h => hfailure unit (hkept unit h), rfl⟩, ?_⟩
  have hcode : ∀ unit ∈ g.units.values,
      (if (unit.name != r.unit) = true then g.code? unit else none) = g.code? unit := by
    intro unit hunit
    split
    · rfl
    · next hdropped =>
      rw [Bool.not_eq_true, bne_eq_false_iff_eq] at hdropped
      exact (code?_of_mem_rejected hg hrun hr hunit hdropped).symm
  show (g.drop r.unit).units.values.filterMap g.code? = report.units
  rw [values_drop hg, List.filterMap_filter, List.filterMap_congr hcode,
    (run_eq_ok_iff.1 hrun).2]

end

/-- **What a report depends on.**  A generated unit depends on its own module, on that of the
descriptor of its base, and on those of the descriptors of the sources and targets of its required
functions; so units of which these are the same have the same dependencies, whatever else they and
the types consist of.  The report depends on what its generated units depend on, and on nothing that
was looked up for a rejected one: it has the same units, and dependencies, without it. -/
theorem dependencies_of_run (actions : List Action) (report : Report)
    (hrun : (after actions).run = .ok report) :
    (∀ u ∈ report.units, ∃ unit, (after actions).units.find? u.unit = some unit ∧
      ∀ m, m ∈ u.dependencies.names ↔ unit.LooksUp (after actions).registry m) ∧
    (∀ m, m ∈ report.dependencies.names ↔ ∃ u ∈ report.units, m ∈ u.dependencies.names) ∧
    (∀ r ∈ report.rejected, ∃ report', ((after actions).drop r.unit).run = .ok report' ∧
      report'.units = report.units ∧ report'.dependencies = report.dependencies) ∧
    ∀ actions' report', (after actions').run = .ok report' →
      ∀ u ∈ report.units, ∀ u' ∈ report'.units, ∀ unit unit',
        (after actions).units.find? u.unit = some unit →
        (after actions').units.find? u'.unit = some unit' →
        unit.SameLookups unit' (after actions).registry (after actions').registry →
        u.dependencies = u'.dependencies := by
  have hg := wellFormed_after actions
  refine ⟨fun u => exists_unit_of_mem_units hg hrun, report.mem_dependencies_iff, ?_, ?_⟩
  · intro r hr
    obtain ⟨report', hrun', hunits⟩ := units_run_drop hg hrun hr
    exact ⟨report', hrun', hunits, by rw [Report.dependencies, Report.dependencies, hunits]⟩
  · intro actions' report' hrun' u hu u' hu' unit unit' hunit hunit' hsame
    obtain ⟨_, hfind, hlooks⟩ := exists_unit_of_mem_units hg hrun hu
    obtain ⟨_, hfind', hlooks'⟩ :=
      exists_unit_of_mem_units (wellFormed_after actions') hrun' hu'
    obtain rfl := Option.some.inj (hunit.symm.trans hfind)
    obtain rfl := Option.some.inj (hunit'.symm.trans hfind')
    refine NameSet.ext_names fun m => ?_
    rw [hlooks m, hlooks' m, hsame.looksUp_iff m]

/-- A shelf is made of a book, and a colour is not; a function that is provided mentions the colour
as well. -/
def shelvingActions : List Action := [
  .registerType (.record "Book" "src/book.rs" [⟨"title", .named "String"⟩]),
  .registerType (.record "Shelf" "src/shelf.rs" [⟨"title", .named "String"⟩, ⟨"row", .named "u32"⟩]),
  .registerType (.bare "Colour" "src/colour.rs"),
  .addUnit ⟨"Painting", "src/painting.rs", "", false, none, none,
    [⟨"colour", some .ref, [⟨"book", .named "Book"⟩], some (.named "Colour"), .required⟩]⟩,
  .addUnit ⟨"Shelving", "src/shelving.rs", "", false, none, none,
    [⟨"shelf", some .ref, [⟨"book", .named "Book"⟩, ⟨"row", .named "u32"⟩], some (.named "Shelf"),
      .required⟩,
    ⟨"paint", some .ref, [⟨"colour", .named "Colour"⟩], some (.named "Shelf"), .provided⟩]⟩]

/-- The module of the colour was looked up in vain. -/
theorem dependencies_of_run_shelving :
    ∃ report, (after shelvingActions).run = .ok report ∧
      report.units.map (·.unit) = ["Shelving"] ∧
      report.rejected = [⟨"Painting", .targetWithoutConstructor "colour" "Colour"⟩] ∧
      report.dependencies.names = ["src/book.rs", "src/shelf.rs", "src/shelving.rs"] ∧
      ∃ report', ((after shelvingActions).drop "Painting").run = .ok report' ∧
        report'.units = report.units ∧ report'.dependencies = report.dependencies := by
  have hrun : (after shelvingActions).run =
      .ok ((after shelvingActions).run.toOption.getD ⟨"", [], []⟩) := by decide +kernel
  have hrejected : ((after shelvingActions).run.toOption.getD ⟨"", [], []⟩).rejected =
      [⟨"Painting", .targetWithoutConstructor "colour" "Colour"⟩] := by decide +kernel
  refine ⟨_, hrun, by decide +kernel, hrejected, by decide +kernel, ?_⟩
  exact (dependencies_of_run shelvingActions _ hrun).2.2.1 ⟨"Painting", _⟩
    (hrejected ▸ List.mem_cons_self)

end Generator

end Mapwright
