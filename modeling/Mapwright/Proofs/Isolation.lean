import Mapwright.Proofs.Outcome

/-!
# Units by themselves

What becomes of a unit is decided by the unit, the settings and the types that
it mentions.  Two generators that agree on these say the same of it in their
reports, whatever other units and types they hold, and whatever else they have
been told.

    same settings, same unit, same types of unit.typeNames
      → one entry, the same in both reports                     (`entries_after_eq`)
-/

namespace Mapwright.Generator

theorem generateUnit_congr {g g' : Generator} {unit : MappingUnit}
    (hsettings : g.settings = g'.settings)
    (hagree : ∀ type ∈ unit.typeNames, g.registry.describe? type = g'.registry.describe? type) :
    g.generateUnit unit = g'.generateUnit unit := by
  unfold generateUnit
  rw [hsettings, planUnit_congr hagree]

theorem eq_of_mapError_rejection {α : Type} {x y : Except Rejection α}
    (h : x.mapError Obstacle.rejection = y.mapError .rejection) : x = y := by
  cases x <;> cases y <;> simp_all [Except.mapError]

/-- **Units by themselves.**  Two generators with the same settings that hold a unit, and that
describe the types it mentions alike, have one and the same entry for it in their reports. -/
theorem entries_after_eq (actions actions' : List Action) (unit : MappingUnit)
    (report report' : Report)
    (hsettings : (after actions).settings = (after actions').settings)
    (hunit : (after actions).units.find? unit.name = some unit)
    (hunit' : (after actions').units.find? unit.name = some unit)
    (hagree : ∀ type ∈ unit.typeNames,
      (after actions).registry.describe? type = (after actions').registry.describe? type)
    (hrun : (after actions).run = .ok report) (hrun' : (after actions').run = .ok report') :
    ∃ entry, report.entries unit.name = [entry] ∧ report'.entries unit.name = [entry] := by
  have hg := wellFormed_after actions
  have hg' := wellFormed_after actions'
  have hsame : (after actions).generateUnit unit = (after actions').generateUnit unit :=
    generateUnit_congr hsettings hagree
  obtain ⟨entry, hentry, he⟩ := entries_run hg hrun ((mem_values_iff_find? hg).2 hunit)
  obtain ⟨entry', hentry', he'⟩ := entries_run hg' hrun' ((mem_values_iff_find? hg').2 hunit')
  rw [hsame, hentry'] at hentry
  have heq : entry' = entry := eq_of_mapError_rejection hentry
  exact ⟨entry, he, heq ▸ he'⟩

/-- A unit and its types, and nothing else. -/
def quietActions : List Action := [
  .registerType (.record "Book" "book.rs" [⟨"title", .named "String"⟩]),
  .registerType (.record "Loan" "loan.rs" [⟨"title", .named "String"⟩, ⟨"due", .named "u32"⟩]),
  .addUnit lendingUnit]

/-- The same among other units, broken ones among them, and another type. -/
def busyActions : List Action := lendingActions ++ lendingTypes ++ archiveActions

/-- Lending in company and alone. -/
theorem entries_lending :
    ∃ report report' entry, (after quietActions).run = .ok report ∧
      (after busyActions).run = .ok report' ∧ report.names = ["Lending"] ∧
      report'.names = ["Atlas", "Lending", "Repair", "Ledger", "Binding", "Index"] ∧
      report.entries "Lending" = [entry] ∧ report'.entries "Lending" = [entry] := by
  have hrun : (after quietActions).run =
      .ok ((after quietActions).run.toOption.getD ⟨"", [], []⟩) := by decide +kernel
  have hrun' : (after busyActions).run =
      .ok ((after busyActions).run.toOption.getD ⟨"", [], []⟩) := by decide +kernel
  obtain ⟨entry, he, he'⟩ := entries_after_eq quietActions busyActions lendingUnit _ _
    (by decide +kernel) (by decide +kernel) (by decide +kernel) (by decide +kernel) hrun hrun'
  exact ⟨_, _, entry, hrun, hrun', by decide +kernel, by decide +kernel, he, he'⟩

end Mapwright.Generator
