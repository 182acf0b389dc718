import Mapwright.Proofs.Coverage

/-!
# Refusing what is unresolved

A generator may be told to refuse units with unresolved fields.  That is a
filter on what it would generate otherwise: the units without diagnostics stay
as they are, the others are refused for their diagnostics, and nothing else is
changed, neither what is refused anyway nor what ends the pass.

    generateUnit, with denial = generateUnit, without it, and then `deny`    (`generateUnit_deny`)
    `Denied` (run without denial) (run with denial)                          (`denied_run`)
-/

namespace Mapwright

/-! ## One unit -/

/-- What becomes of generated code where fields without a value are not allowed. -/
def GeneratedUnit.deny (u : GeneratedUnit) : Except Obstacle GeneratedUnit :=
  if u.diagnostics.isEmpty then .ok u else .error (.rejection (.unresolved u.diagnostics))

/-- Why generated code is refused then, if it is. -/
def GeneratedUnit.denial? (u : GeneratedUnit) : Option RejectedUnit :=
  if u.diagnostics.isEmpty then none else some ⟨u.unit, .unresolved u.diagnostics⟩

/-- A unit is planned with denial as it is without it, but for the last check. -/
theorem planUnit_deny (settings : Settings) (registry : Registry) (unit : MappingUnit) :
    planUnit { settings with denyUnresolved := true } registry unit =
      planUnit { settings with denyUnresolved := false } registry unit >>= fun plan =>
        if plan.diagnostics.isEmpty then .ok plan
        else .error (.rejection (.unresolved plan.diagnostics)) := by
  unfold planUnit
  cases checkBase registry unit with
  | error o => rfl
  | ok base =>
    cases checkSignatures unit with
    | error o => rfl
    | ok mappings =>
      cases hf : mappings.mapM (planFunction registry unit base) with
      | error o => simp only [bind, Except.bind, hf]
      | ok functions =>
        simp only [bind, Except.bind, hf, Bool.false_and, Bool.true_and, Bool.false_eq_true, if_false]
        cases (Plan.mk unit base functions).diagnostics.isEmpty <;> rfl

namespace Generator

variable (g : Generator) (unit : MappingUnit)

theorem generateUnit_deny :
    (g.setDenyUnresolved true).generateUnit unit =
      (g.setDenyUnresolved false).generateUnit unit >>= GeneratedUnit.deny := by
  show (planUnit { g.settings with denyUnresolved := true } g.registry unit).map
      (·.generate { g.settings with denyUnresolved := true }) =
    (planUnit { g.settings with denyUnresolved := false } g.registry unit).map
      (·.generate { g.settings with denyUnresolved := false }) >>= GeneratedUnit.deny
  rw [planUnit_deny]
  cases planUnit { g.settings with denyUnresolved := false } g.registry unit with
  | error o => rfl
  | ok plan =>
    show Except.map _ (if plan.diagnostics.isEmpty then _ else _) =
      if plan.diagnostics.isEmpty then _ else _
    cases plan.diagnostics.isEmpty <;> rfl

theorem failure?_deny :
    (g.setDenyUnresolved true).failure? unit = (g.setDenyUnresolved false).failure? unit := by
  unfold failure?
  rw [generateUnit_deny]
  cases (g.setDenyUnresolved false).generateUnit unit with
  | error o => rfl
  | ok u =>
    have hdeny : (.ok u >>= GeneratedUnit.deny) = u.deny := rfl
    rw [hdeny]
    unfold GeneratedUnit.deny
    cases u.diagnostics.isEmpty <;> rfl

theorem code?_deny :
    (g.setDenyUnresolved true).code? unit =
      ((g.setDenyUnresolved false).code? unit).filter (·.diagnostics.isEmpty) := by
  unfold code?
  rw [generateUnit_deny]
  cases (g.setDenyUnresolved false).generateUnit unit with
  | error o => rfl
  | ok u =>
    show u.deny.toOption = if u.diagnostics.isEmpty then some u else none
    unfold GeneratedUnit.deny
    cases u.diagnostics.isEmpty <;> rfl

/-- A unit is refused for what it is refused for anyway, or else for the diagnostics of its code. -/
theorem refusal?_deny :
    ((g.setDenyUnresolved true).refusal? unit = (g.setDenyUnresolved false).refusal? unit ∧
        ((g.setDenyUnresolved false).code? unit).bind GeneratedUnit.denial? = none) ∨
      ((g.setDenyUnresolved true).refusal? unit =
          ((g.setDenyUnresolved false).code? unit).bind GeneratedUnit.denial? ∧
        (g.setDenyUnresolved false).refusal? unit = none) := by
  have hdeny := generateUnit_deny g unit
  cases hu : (g.setDenyUnresolved false).generateUnit unit with
  | error o =>
    rw [hu] at hdeny
    refine Or.inl ⟨?_, ?_⟩
    · unfold refusal?
      rw [hdeny, hu]
      rfl
    · unfold code?
      rw [hu]
      rfl
  | ok u =>
    have hdenied : (g.setDenyUnresolved true).generateUnit unit = u.deny := by
      rw [hdeny, hu]
      rfl
    have hcode : (g.setDenyUnresolved false).code? unit = some u := code?_eq_some_iff.2 hu
    refine Or.inr ⟨?_, refusal?_of_code? hcode⟩
    rw [hcode, Option.bind_some]
    unfold refusal?
    rw [hdenied, ← unit_of_code? hcode]
    unfold GeneratedUnit.deny GeneratedUnit.denial?
    cases u.diagnostics.isEmpty <;> rfl

end Generator

/-! ## The pass -/

theorem Splits.append_left {α : Type} {l xs ys : List α} (h : Splits l xs ys) (before : List α) :
    Splits (before ++ l) (before ++ xs) ys := by
  induction before with
  | nil => exact h
  | cons a before ih => exact ih.left

/-- A pass without denial and one with it.  If the one fails, so does the other, for the same
reason.  If not, the units without diagnostics are generated with denial too, in their order; the
others are refused for their diagnostics, among those that are refused anyway. -/
inductive Denied : Except Failure Report → Except Failure Report → Prop
  | failure (e : Failure) : Denied (.error e) (.error e)
  | reports {report denied : Report} : denied.header = report.header →
    denied.units = report.units.filter (·.diagnostics.isEmpty) →
    Splits denied.rejected report.rejected
      ((report.units.filter (!·.diagnostics.isEmpty)).map fun u =>
        ⟨u.unit, .unresolved u.diagnostics⟩) →
    denied.diagnostics = [] → Denied (.ok report) (.ok denied)

namespace Generator

theorem filterMap_denial? (units : List GeneratedUnit) :
    units.filterMap GeneratedUnit.denial? =
      (units.filter (!·.diagnostics.isEmpty)).map fun u => ⟨u.unit, .unresolved u.diagnostics⟩ := by
  induction units with
  | nil => rfl
  | cons u units ih =>
    rw [List.filterMap_cons, List.filter_cons]
    unfold GeneratedUnit.denial? at ih ⊢
    cases u.diagnostics.isEmpty with
    | true => exact ih
    | false => exact congrArg (_ :: ·) ih

/-- **Denial is a filter.** -/
theorem denied_run (g : Generator) :
    Denied (g.setDenyUnresolved false).run (g.setDenyUnresolved true).run := by
  have hfailure : (g.setDenyUnresolved true).failure? = (g.setDenyUnresolved false).failure? :=
    funext (failure?_deny g)
  have hsame : ∀ deny, (g.setDenyUnresolved deny).units = g.units := fun _ => rfl
  rw [run_eq, run_eq, hfailure, hsame, hsame]
  cases g.units.values.findSome? (g.setDenyUnresolved false).failure? with
  | some e => exact .failure e
  | none =>
    have hunits : g.units.values.filterMap (g.setDenyUnresolved true).code? =
        (g.units.values.filterMap (g.setDenyUnresolved false).code?).filter
          (·.diagnostics.isEmpty) := by
      rw [List.filter_filterMap]
      congr 1
      exact funext (code?_deny g)
    have hrejected := splits_filterMap (refusal?_deny g) g.units.values
    rw [← List.filterMap_filterMap, filterMap_denial?] at hrejected
    refine .reports rfl hunits (hrejected.append_left g.rejectedUnits) ?_
    show (g.units.values.filterMap (g.setDenyUnresolved true).code?).flatMap _ = []
    rw [hunits, List.flatMap_eq_nil_iff]
    intro u hu
    exact List.isEmpty_iff.1 (List.mem_filter.1 hu).2

end Generator

end Mapwright
