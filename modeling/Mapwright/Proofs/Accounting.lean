import Mapwright.Proofs.History
import Mapwright.Proofs.Pass

/-!
# Each unit once

The pass goes through the units in the order of their names.  One that misses a
type ends it; of the others each leaves its code or a refusal.  So a report has
one entry for each name that the generator holds, a unit or a rejected one, and
no other.

    g.run = the first failure, or else the code and the refusals in order        (`run_eq`)
    g.run = .ok report → g holds unit → report.entries unit.name = [one entry]   (`entries_run`)
    the names of a report are those that were declared, each of them once        (`accounted_after`)
-/

namespace Mapwright

/-! ## The pass in closed form -/

namespace Generator

/-- The failure with which a unit ends the pass. -/
def failure? (g : Generator) (unit : MappingUnit) : Option Failure :=
  match g.generateUnit unit with
  | .error (.missingType function type) => some (.missingType unit.name function type)
  | _ => none

/-- A unit that the pass refuses, and why. -/
def refusal? (g : Generator) (unit : MappingUnit) : Option RejectedUnit :=
  match g.generateUnit unit with
  | .error (.rejection reason) => some ⟨unit.name, reason⟩
  | _ => none

/-- The code of a unit, if it has any. -/
def code? (g : Generator) (unit : MappingUnit) : Option GeneratedUnit :=
  (g.generateUnit unit).toOption

theorem generateEach_eq (g : Generator) (units : List MappingUnit) :
    g.generateEach units =
      match units.findSome? g.failure? with
      | some e => .error e
      | none => .ok (units.filterMap g.code?, units.filterMap g.refusal?) := by
  induction units with
  | nil => rfl
  | cons unit units ih =>
    unfold generateEach
    rw [ih, List.findSome?_cons, List.filterMap_cons, List.filterMap_cons]
    cases hu : g.generateUnit unit with
    | error o =>
      cases o with
      | rejection reason =>
        have hfailure : g.failure? unit = none := by simp only [failure?, hu]
        have hrefusal : g.refusal? unit = some ⟨unit.name, reason⟩ := by simp only [refusal?, hu]
        have hcode : g.code? unit = none := by rw [code?, hu]; rfl
        rw [hfailure, hrefusal, hcode]
        cases units.findSome? g.failure? <;> rfl
      | missingType function type =>
        have hfailure : g.failure? unit = some (.missingType unit.name function type) := by
          simp only [failure?, hu]
        rw [hfailure]
    | ok v =>
      have hfailure : g.failure? unit = none := by simp only [failure?, hu]
      have hrefusal : g.refusal? unit = none := by simp only [refusal?, hu]
      have hcode : g.code? unit = some v := by rw [code?, hu]; rfl
      rw [hfailure, hrefusal, hcode]
      cases units.findSome? g.failure? <;> rfl

/-- **What a pass gives.** -/
theorem run_eq (g : Generator) :
    g.run =
      match g.units.values.findSome? g.failure? with
      | some e => .error e
      | none => .ok ⟨renderHeader g.settings.header, g.units.values.filterMap g.code?,
          g.rejectedUnits ++ g.units.values.filterMap g.refusal?⟩ := by
  unfold run
  rw [generateEach_eq]
  cases g.units.values.findSome? g.failure? <;> rfl

theorem run_eq_ok_iff {g : Generator} {report : Report} :
    g.run = .ok report ↔
      (∀ unit ∈ g.units.values, g.failure? unit = none) ∧
        report = ⟨renderHeader g.settings.header, g.units.values.filterMap g.code?,
          g.rejectedUnits ++ g.units.values.filterMap g.refusal?⟩ := by
  rw [run_eq, ← List.findSome?_eq_none_iff]
  cases g.units.values.findSome? g.failure? with
  | some e => simp
  | none => simp [eq_comm]

theorem run_eq_error_iff {g : Generator} {e : Failure} :
    g.run = .error e ↔ g.units.values.findSome? g.failure? = some e := by
  rw [run_eq]
  cases g.units.values.findSome? g.failure? with
  | some e' => simp
  | none => simp

/-! ## Names -/

theorem code?_eq_some_iff {g : Generator} {unit : MappingUnit} {v : GeneratedUnit} :
    g.code? unit = some v ↔ g.generateUnit unit = .ok v := by
  unfold code?
  cases g.generateUnit unit <;> simp [Except.toOption]

theorem unit_of_code? {g : Generator} {unit : MappingUnit} {v : GeneratedUnit}
    (h : g.code? unit = some v) : v.unit = unit.name := by
  obtain ⟨plan, hplan, rfl⟩ := generateUnit_eq_ok_iff.1 (code?_eq_some_iff.1 h)
  have hunit : plan.unit = unit := (planUnit_eq_ok_iff.1 hplan).1
  rw [← hunit]
  rfl

theorem refusal?_eq_some_iff {g : Generator} {unit : MappingUnit} {r : RejectedUnit} :
    g.refusal? unit = some r ↔
      r.unit = unit.name ∧ g.generateUnit unit = .error (.rejection r.reason) := by
  obtain ⟨name, reason⟩ := r
  unfold refusal?
  cases g.generateUnit unit with
  | ok v => simp
  | error o => cases o <;> simp [eq_comm]

theorem unit_of_refusal? {g : Generator} {unit : MappingUnit} {r : RejectedUnit}
    (h : g.refusal? unit = some r) : r.unit = unit.name :=
  (refusal?_eq_some_iff.1 h).1

/-- A unit has its code or is refused, not both. -/
theorem refusal?_of_code? {g : Generator} {unit : MappingUnit} {v : GeneratedUnit}
    (h : g.code? unit = some v) : g.refusal? unit = none := by
  unfold refusal?
  rw [code?_eq_some_iff.1 h]

/-- A unit that does not end the pass has its code or is refused. -/
theorem code?_or_refusal? {g : Generator} {unit : MappingUnit} (h : g.failure? unit = none) :
    (∃ v, g.code? unit = some v) ∨ ∃ r, g.refusal? unit = some r := by
  unfold failure? at h
  unfold code? refusal?
  cases hu : g.generateUnit unit with
  | ok v => exact Or.inl ⟨v, rfl⟩
  | error o =>
    cases o with
    | rejection reason => exact Or.inr ⟨_, rfl⟩
    | missingType function type => rw [hu] at h; cases h

theorem map_unit_rejectedUnits (g : Generator) :
    g.rejectedUnits.map (·.unit) = g.rejected.names := by
  unfold rejectedUnits NameMap.names
  rw [List.map_map]
  rfl

theorem increasing_rejectedUnits (g : Generator) :
    (g.rejectedUnits.map (·.unit)).Pairwise (· < ·) := by
  rw [map_unit_rejectedUnits]
  exact List.pairwise_map.2 g.rejected.sorted

theorem mem_rejectedUnits_iff {g : Generator} {r : RejectedUnit} :
    r ∈ g.rejectedUnits ↔ g.rejected.find? r.unit = some r.reason := by
  rw [← NameMap.mem_entries_iff]
  unfold rejectedUnits
  rw [List.mem_map]
  constructor
  · rintro ⟨e, he, rfl⟩
    exact he
  · intro h
    exact ⟨_, h, rfl⟩

/-- What is made of some units is in the order of the units. -/
theorem map_filterMap_sublist {α β : Type} {f : α → Option β} {key : α → String}
    {name : β → String} (h : ∀ a b, f a = some b → name b = key a) (l : List α) :
    ((l.filterMap f).map name).Sublist (l.map key) := by
  induction l with
  | nil => exact List.Sublist.refl _
  | cons a l ih =>
    rw [List.filterMap_cons, List.map_cons]
    cases hf : f a with
    | none => exact ih.cons _
    | some b =>
      show (name b :: (l.filterMap f).map name).Sublist _
      rw [h a b hf]
      exact ih.cons_cons _

theorem exists_of_mem_made {β : Type} {f : MappingUnit → Option β} {units : List MappingUnit}
    {name : β → String} {k : String} (h : k ∈ (units.filterMap f).map name) :
    ∃ unit ∈ units, ∃ b, f unit = some b ∧ name b = k := by
  obtain ⟨b, hb, hk⟩ := List.mem_map.1 h
  obtain ⟨unit, hunit, hf⟩ := List.mem_filterMap.1 hb
  exact ⟨unit, hunit, b, hf, hk⟩

theorem nodup_of_increasing {l : List String} (h : l.Pairwise (· < ·)) : l.Nodup := by
  refine List.Pairwise.imp ?_ h
  intro a b hlt heq
  exact String.lt_irrefl _ (heq ▸ hlt)

section

variable {g : Generator} (hg : g.WellFormed)

include hg

theorem map_name_values : g.units.values.map (·.name) = g.units.names := by
  unfold NameMap.values NameMap.names
  rw [List.map_map]
  refine List.map_congr_left ?_
  rintro ⟨name, unit⟩ he
  exact hg.named ((NameMap.mem_entries_iff _ _ _).1 he)

theorem mem_values_iff_find? {unit : MappingUnit} :
    unit ∈ g.units.values ↔ g.units.find? unit.name = some unit := by
  rw [NameMap.mem_values_iff]
  constructor
  · rintro ⟨name, h⟩
    rw [hg.named h]
    exact h
  · intro h
    exact ⟨_, h⟩

theorem eq_of_name_eq {u v : MappingUnit} (hu : u ∈ g.units.values) (hv : v ∈ g.units.values)
    (h : u.name = v.name) : u = v := by
  rw [mem_values_iff_find? hg] at hu hv
  rw [h, hv] at hu
  exact (Option.some.inj hu).symm

theorem not_mem_rejectedUnits {unit : MappingUnit} (hunit : unit ∈ g.units.values) :
    unit.name ∉ g.rejectedUnits.map (·.unit) := by
  intro h
  obtain ⟨r, hr, hname⟩ := List.mem_map.1 h
  rw [mem_rejectedUnits_iff, hname] at hr
  rcases hg.apart unit.name with h | h
  · rw [(mem_values_iff_find? hg).1 hunit] at h
    cases h
  · rw [h] at hr
    cases hr

/-- Whatever is made of the units is in the order of its names. -/
theorem pairwise_of_units {β : Type} {f : MappingUnit → Option β} {name : β → String}
    (h : ∀ u b, f u = some b → name b = u.name) :
    ((g.units.values.filterMap f).map name).Pairwise (· < ·) := by
  have hsub := map_filterMap_sublist h g.units.values
  rw [map_name_values hg] at hsub
  exact List.Pairwise.sublist hsub (List.pairwise_map.2 g.units.sorted)

end

end Generator

/-! ## Entries of a report -/

/-- What a report says of a unit: its code, or why it has none. -/
def Report.entries (r : Report) (name : String) : List (Except Rejection GeneratedUnit) :=
  (r.units.filter (·.unit == name)).map .ok ++
    (r.rejected.filter (·.unit == name)).map fun e => .error e.reason

/-- The names that a report has an entry for. -/
def Report.names (r : Report) : List String := r.units.map (·.unit) ++ r.rejected.map (·.unit)

/-- The only one of a name in a list of distinct names. -/
theorem filter_eq_singleton {α : Type} {name : α → String} {l : List α} (h : (l.map name).Nodup)
    {a : α} (ha : a ∈ l) : l.filter (name · == name a) = [a] := by
  induction l with
  | nil => exact absurd ha List.not_mem_nil
  | cons b l ih =>
    rw [List.map_cons, List.nodup_cons] at h
    obtain ⟨hb, hl⟩ := h
    rcases List.mem_cons.1 ha with rfl | ha
    · have hrest : l.filter (name · == name a) = [] := by
        rw [List.filter_eq_nil_iff]
        intro c hc heq
        exact hb (eq_of_beq heq ▸ List.mem_map_of_mem hc)
      rw [List.filter_cons, beq_self_eq_true, if_pos rfl, hrest]
    · have hne : (name b == name a) = false := by
        rw [beq_eq_false_iff_ne]
        intro heq
        exact hb (heq ▸ List.mem_map_of_mem ha)
      rw [List.filter_cons, hne, if_neg Bool.false_ne_true, ih hl ha]

theorem filter_eq_nil_of_not_mem {α : Type} {name : α → String} {l : List α} {k : String}
    (h : k ∉ l.map name) : l.filter (name · == k) = [] := by
  rw [List.filter_eq_nil_iff]
  intro a ha heq
  exact h (eq_of_beq heq ▸ List.mem_map_of_mem ha)

namespace Report

variable {r : Report} (h : r.names.Nodup)

include h

theorem entries_of_mem_units {u : GeneratedUnit} (hu : u ∈ r.units) :
    r.entries u.unit = [.ok u] := by
  obtain ⟨hunits, -, hapart⟩ := List.nodup_append.1 h
  have hrejected : u.unit ∉ r.rejected.map (·.unit) := fun hr =>
    hapart _ (List.mem_map_of_mem hu) _ hr rfl
  rw [entries, filter_eq_singleton hunits hu, filter_eq_nil_of_not_mem hrejected]
  rfl

theorem entries_of_mem_rejected {e : RejectedUnit} (he : e ∈ r.rejected) :
    r.entries e.unit = [.error e.reason] := by
  obtain ⟨-, hrejected, hapart⟩ := List.nodup_append.1 h
  have hunits : e.unit ∉ r.units.map (·.unit) := fun hu =>
    hapart _ hu _ (List.mem_map_of_mem he) rfl
  rw [entries, filter_eq_singleton hrejected he, filter_eq_nil_of_not_mem hunits]
  rfl

end Report

/-! ## Each name once -/

namespace Generator

section

variable {g : Generator} (hg : g.WellFormed) {report : Report} (hrun : g.run = .ok report)

include hg hrun

theorem mem_names_iff {name : String} :
    name ∈ report.names ↔ g.units.contains name = true ∨ g.rejected.contains name = true := by
  obtain ⟨hfailure, rfl⟩ := run_eq_ok_iff.1 hrun
  have hread : name ∈ g.rejectedUnits.map (·.unit) ↔ g.rejected.contains name = true := by
    rw [NameMap.contains, Option.isSome_iff_exists, List.mem_map]
    constructor
    · rintro ⟨r, hr, rfl⟩
      exact ⟨_, mem_rejectedUnits_iff.1 hr⟩
    · rintro ⟨reason, h⟩
      exact ⟨⟨name, reason⟩, mem_rejectedUnits_iff.2 h, rfl⟩
  have hunit : name ∈ (g.units.values.filterMap g.code?).map (·.unit) ∨
      name ∈ (g.units.values.filterMap g.refusal?).map (·.unit) ↔
        g.units.contains name = true := by
    rw [NameMap.contains, Option.isSome_iff_exists]
    constructor
    · rintro (h | h)
      · obtain ⟨unit, hunit, v, hcode, rfl⟩ := exists_of_mem_made h
        rw [unit_of_code? hcode]
        exact ⟨unit, (mem_values_iff_find? hg).1 hunit⟩
      · obtain ⟨unit, hunit, r, hrefusal, rfl⟩ := exists_of_mem_made h
        rw [unit_of_refusal? hrefusal]
        exact ⟨unit, (mem_values_iff_find? hg).1 hunit⟩
    · rintro ⟨unit, h⟩
      have hname : unit.name = name := hg.named h
      have hmem : unit ∈ g.units.values := (NameMap.mem_values_iff _ _).2 ⟨name, h⟩
      rcases code?_or_refusal? (hfailure unit hmem) with ⟨v, hv⟩ | ⟨r, hr⟩
      · refine Or.inl (List.mem_map.2 ⟨v, List.mem_filterMap.2 ⟨unit, hmem, hv⟩, ?_⟩)
        rw [unit_of_code? hv, hname]
      · refine Or.inr (List.mem_map.2 ⟨r, List.mem_filterMap.2 ⟨unit, hmem, hr⟩, ?_⟩)
        rw [unit_of_refusal? hr, hname]
  unfold Report.names
  rw [List.mem_append, List.map_append, List.mem_append, hread, ← hunit]
  tauto

theorem nodup_names : report.names.Nodup := by
  obtain ⟨-, rfl⟩ := run_eq_ok_iff.1 hrun
  have hcode := pairwise_of_units hg (f := g.code?) fun _ _ => unit_of_code?
  have hrefused := pairwise_of_units hg (f := g.refusal?) fun _ _ => unit_of_refusal?
  unfold Report.names
  rw [List.map_append, List.nodup_append, List.nodup_append]
  refine ⟨nodup_of_increasing hcode, ⟨nodup_of_increasing (increasing_rejectedUnits g),
    nodup_of_increasing hrefused, ?_⟩, ?_⟩
  · intro _ hr _ hr' heq
    obtain ⟨unit, hunit, r, hrefusal, rfl⟩ := exists_of_mem_made hr'
    rw [unit_of_refusal? hrefusal] at heq
    exact not_mem_rejectedUnits hg hunit (heq ▸ hr)
  · intro _ hv _ hr heq
    obtain ⟨unit, hunit, v, hvcode, rfl⟩ := exists_of_mem_made hv
    rw [unit_of_code? hvcode] at heq
    rcases List.mem_append.1 hr with hr | hr
    · exact not_mem_rejectedUnits hg hunit (heq ▸ hr)
    · -- a unit of the same name that is refused would be the same unit
      obtain ⟨unit', hunit', r, hrefusal, rfl⟩ := exists_of_mem_made hr
      rw [unit_of_refusal? hrefusal] at heq
      rw [← eq_of_name_eq hg hunit hunit' heq, refusal?_of_code? hvcode] at hrefusal
      cases hrefusal

/-- **The one entry of a unit.** -/
theorem entries_run {unit : MappingUnit} (hunit : unit ∈ g.units.values) :
    ∃ entry : Except Rejection GeneratedUnit,
      g.generateUnit unit = entry.mapError .rejection ∧ report.entries unit.name = [entry] := by
  have hnodup := nodup_names hg hrun
  obtain ⟨hfailure, hreport⟩ := run_eq_ok_iff.1 hrun
  rcases code?_or_refusal? (hfailure unit hunit) with ⟨v, hv⟩ | ⟨r, hr⟩
  · have hmem : v ∈ report.units := by
      rw [hreport]
      exact List.mem_filterMap.2 ⟨unit, hunit, hv⟩
    refine ⟨.ok v, code?_eq_some_iff.1 hv, ?_⟩
    rw [← unit_of_code? hv]
    exact Report.entries_of_mem_units hnodup hmem
  · have hmem : r ∈ report.rejected := by
      rw [hreport]
      exact List.mem_append_right _ (List.mem_filterMap.2 ⟨unit, hunit, hr⟩)
    refine ⟨.error r.reason, (refusal?_eq_some_iff.1 hr).2, ?_⟩
    rw [← unit_of_refusal? hr]
    exact Report.entries_of_mem_rejected hnodup hmem

end

/-- **Each unit once.**  A name that was declared is that of a unit or of a rejected one, never of
both, as its last declaration says.  A report then has one entry for each of these names and none
for another: the generated units in the order of their names, and the refused ones, those that could
not be read before those that the pass refuses. -/
theorem accounted_after (actions : List Action) :
    (∀ name, (after actions).units.find? name = none ∨ (after actions).rejected.find? name = none) ∧
    (∀ name u, (after actions).units.find? name = some u ↔
      lastOn? actions name = some (.unit u)) ∧
    (∀ name reason, (after actions).rejected.find? name = some reason ↔
      lastOn? actions name = some (.rejected name reason)) ∧
    ∀ report, (after actions).run = .ok report →
      report.names.Nodup ∧
      (∀ name, name ∈ report.names ↔
        (after actions).units.contains name = true ∨
          (after actions).rejected.contains name = true) ∧
      (report.units.map (·.unit)).Pairwise (· < ·) ∧
      ∃ unread refused, report.rejected = unread ++ refused ∧
        (unread.map (·.unit)).Pairwise (· < ·) ∧ (refused.map (·.unit)).Pairwise (· < ·) ∧
        (∀ r, r ∈ unread ↔ lastOn? actions r.unit = some (.rejected r.unit r.reason)) ∧
        ∀ r ∈ refused, ∃ u, lastOn? actions r.unit = some (.unit u) := by
  have hg := wellFormed_after actions
  refine ⟨hg.apart, units_after_iff actions, rejected_after_iff actions, ?_⟩
  intro report hrun
  refine ⟨nodup_names hg hrun, fun name => mem_names_iff hg hrun, ?_⟩
  obtain ⟨-, rfl⟩ := run_eq_ok_iff.1 hrun
  refine ⟨pairwise_of_units hg fun _ _ => unit_of_code?, (after actions).rejectedUnits,
    (after actions).units.values.filterMap (after actions).refusal?, rfl,
    increasing_rejectedUnits _, pairwise_of_units hg fun _ _ => unit_of_refusal?, ?_, ?_⟩
  · intro r
    rw [mem_rejectedUnits_iff, rejected_after_iff]
  · intro r hr
    obtain ⟨unit, hunit, hrefusal⟩ := List.mem_filterMap.1 hr
    refine ⟨unit, (units_after_iff _ _ _).1 ?_⟩
    rw [unit_of_refusal? hrefusal]
    exact (mem_values_iff_find? hg).1 hunit

/-- Three units by hand, the last of which is then read from a source with a marker that cannot be
read, and the second of which has a function without `self`. -/
def archiveActions : List Action := [
  .addUnit ⟨"Atlas", "atlas.rs", "pub", false, none, none, []⟩,
  .addUnit ⟨"Index", "index.rs", "", false, none, none, [⟨"list", none, [], none, .required⟩]⟩,
  .addUnit ⟨"Ledger", "ledger.rs", "", false, none, none, []⟩,
  .addSource "ledger.rs" "#[mapper_derive::mapper(sorted)] trait Ledger \x7b \x7d"]

/-- What has become of the three. -/
theorem accounted_archive :
    ∃ report, (after archiveActions).run = .ok report ∧
      report.units.map (·.unit) = ["Atlas"] ∧
      report.rejected = [⟨"Ledger", .invalidArguments .unknownArgument⟩,
        ⟨"Index", .missingReceiver "list"⟩] ∧
      report.names.Nodup := by
  have hrun : (after archiveActions).run =
      .ok ((after archiveActions).run.toOption.getD ⟨"", [], []⟩) := by decide +kernel
  refine ⟨_, hrun, by decide +kernel, by decide +kernel, ?_⟩
  exact ((accounted_after archiveActions).2.2.2 _ hrun).1

end Generator

end Mapwright
