import Mapwright.Proofs.Accounting

/-!
# All units in one text

The code of a unit ends in a closing brace, after which there are line feeds
only.  So the text of all units, which has no blanks at its end but one line
feed, lacks no character of their code other than line feeds at its very end.

    Closes text            the last character of text that is no line feed is a closing brace
    Closes u.code          for each unit u that a pass generates                     (`closes_generate`)
    report.toSource = the header, and the code of the units with line feeds between,
      up to line feeds at the end                                                    (`toSource_of_run`)
-/

namespace Mapwright

/-! ## Line feeds at the end -/

/-- So many line feeds. -/
def newlines (n : Nat) : String := String.ofList (List.replicate n '\n')

theorem newlines_succ (n : Nat) : newlines (n + 1) = newlines n ++ "\n" := by
  rw [← String.toList_inj, String.toList_append]
  simp [newlines, List.replicate_succ']

/-- The last character of a text that is no line feed is a closing brace. -/
def Closes (text : String) : Prop := ∃ start n, text = start ++ "\x7d" ++ newlines n

namespace Closes

theorem append {t : String} (h : Closes t) (s : String) : Closes (s ++ t) := by
  obtain ⟨start, n, rfl⟩ := h
  exact ⟨s ++ start, n, by simp only [String.append_assoc]⟩

theorem newline {t : String} (h : Closes t) : Closes (t ++ "\n") := by
  obtain ⟨start, n, rfl⟩ := h
  refine ⟨start, n + 1, ?_⟩
  rw [newlines_succ]
  simp only [String.append_assoc]

/-- Texts with a line feed between them close if the last of them does. -/
theorem intercalate {ts : List String} (hne : ts ≠ []) (h : ∀ t ∈ ts, Closes t) :
    Closes ("\n".intercalate ts) := by
  induction ts with
  | nil => exact absurd rfl hne
  | cons t ts ih =>
    obtain ⟨ht, hts⟩ := List.forall_mem_cons.1 h
    by_cases hnil : ts = []
    · rw [hnil, String.intercalate_singleton]
      exact ht
    · rw [String.intercalate_cons_of_ne_nil hnil]
      exact (ih hnil hts).append _

end Closes

/-! ## Blanks at the end -/

theorem dropFinalBlanks_of_blank {cs : List Char} (h : ∀ c ∈ cs, Text.isBlank c = true) :
    Text.dropFinalBlanks cs = [] := by
  induction cs with
  | nil => rfl
  | cons c cs ih =>
    obtain ⟨hc, hcs⟩ := List.forall_mem_cons.1 h
    simp [Text.dropFinalBlanks, ih hcs, hc]

theorem dropFinalBlanks_append {c : Char} (hc : Text.isBlank c = false) (xs : List Char)
    {ys : List Char} (hys : ∀ d ∈ ys, Text.isBlank d = true) :
    Text.dropFinalBlanks (xs ++ c :: ys) = xs ++ [c] := by
  induction xs with
  | nil => simp [Text.dropFinalBlanks, dropFinalBlanks_of_blank hys, hc]
  | cons x xs ih =>
    rw [List.cons_append, Text.dropFinalBlanks, ih]
    cases xs <;> rfl

/-- What is cut from a text that closes is the line feeds at its end. -/
theorem trimEnd_of_closes (start : String) (n : Nat) :
    Text.trimEnd (start ++ "\x7d" ++ newlines n) = start ++ "\x7d" := by
  have hblank : ∀ d ∈ List.replicate n '\n', Text.isBlank d = true := by
    intro d hd
    rw [List.eq_of_mem_replicate hd]
    decide
  have hchars : (start ++ "\x7d" ++ newlines n).toList =
      start.toList ++ '\x7d' :: List.replicate n '\n' := by
    simp [newlines, String.toList_append]
  rw [← String.toList_inj, Text.trimEnd, hchars, dropFinalBlanks_append (by decide) _ hblank,
    String.toList_ofList, String.toList_append]
  rfl

/-! ## Code -/

namespace Code

theorem closes_line (level : Nat) : Closes (line level "\x7d") :=
  ⟨String.join (List.replicate level "    "), 1, rfl⟩

theorem closes_implementation (i : Implementation) : Closes i.print := (closes_line 0).append _

theorem closes_wrapper (w : Wrapper) : Closes w.print := (closes_line 0).append _

/-- The extension traits of a unit close, unless there are none. -/
theorem closes_printWrappers {ws : List Wrapper} (h : ws ≠ []) : Closes (printWrappers ws) := by
  refine Closes.intercalate (mt List.map_eq_nil_iff.1 h) fun t ht => ?_
  obtain ⟨w, -, rfl⟩ := List.mem_map.1 ht
  exact closes_wrapper w

end Code

/-- **The code of a unit closes**, whether it has extension traits or not. -/
theorem closes_generate (settings : Settings) (plan : Plan) :
    Closes (plan.generate settings).code := by
  have himplementation := Code.closes_implementation (plan.implementation settings)
  cases hunit : plan.unit.wrappers with
  | false =>
    have hcode : (plan.generate settings).code = (plan.implementation settings).print := by
      simp [GeneratedUnit.code, Plan.generate, hunit]
    rw [hcode]
    exact himplementation
  | true =>
    have hcode : (plan.generate settings).code = (plan.implementation settings).print ++ "\n" ++
        Code.printWrappers (plan.wrappers settings) := by
      simp [GeneratedUnit.code, Plan.generate, hunit]
    rw [hcode]
    by_cases hnone : plan.wrappers settings = []
    · -- a unit without functions has no extension traits: its code ends in an empty line
      rw [hnone]
      have hempty : Code.printWrappers [] = "" := rfl
      rw [hempty, String.append_empty]
      exact himplementation.newline
    · exact (Code.closes_printWrappers hnone).append _

/-! ## Reports -/

/-- Texts, each with a line feed after it, are texts with a line feed between them and one more. -/
theorem join_map_newline {ts : List String} (h : ts ≠ []) :
    String.join (ts.map (· ++ "\n")) = "\n".intercalate ts ++ "\n" := by
  induction ts with
  | nil => exact absurd rfl h
  | cons t ts ih =>
    rw [List.map_cons, String.join_cons]
    by_cases hnil : ts = []
    · rw [hnil, String.intercalate_singleton, List.map_nil, String.join_nil, String.append_empty]
    · rw [ih hnil, String.intercalate_cons_of_ne_nil hnil]
      simp only [String.append_assoc]

/-- A report of units whose code closes is their code under the header, up to line feeds. -/
theorem Report.toSource_of_closes {r : Report} (hunits : r.units ≠ [])
    (h : ∀ u ∈ r.units, Closes u.code) :
    ∃ start n, r.header ++ "\n".intercalate (r.units.map (·.code)) =
        start ++ "\x7d" ++ newlines n ∧ r.toSource = start ++ "\x7d" ++ "\n" := by
  have hcodes : r.units.map (·.code) ≠ [] := mt List.map_eq_nil_iff.1 hunits
  have hclose : ∀ t ∈ r.units.map (·.code), Closes t := by
    intro t ht
    obtain ⟨u, hu, rfl⟩ := List.mem_map.1 ht
    exact h u hu
  have hjoin : String.join (r.units.map fun u => u.code ++ "\n") =
      "\n".intercalate (r.units.map (·.code)) ++ "\n" := by
    rw [← join_map_newline hcodes, List.map_map]
    rfl
  obtain ⟨start, n, hall⟩ := (Closes.intercalate hcodes hclose).append r.header
  refine ⟨start, n, hall, ?_⟩
  rw [Report.toSource, hjoin, ← String.append_assoc, hall, String.append_assoc, ← newlines_succ,
    trimEnd_of_closes]

namespace Generator

/-- **The text of a report.**  It has the header and then the code of the units, in the order of
their names and with a line feed between them; only at its very end there may be fewer line feeds,
namely one, after the brace that closes the last unit. -/
theorem toSource_of_run (actions : List Action) (report : Report)
    (hrun : (after actions).run = .ok report) (hunits : report.units ≠ []) :
    (report.units.map (·.unit)).Pairwise (· < ·) ∧
      report.header = renderHeader (after actions).settings.header ∧
      ∃ start n, report.header ++ "\n".intercalate (report.units.map (·.code)) =
          start ++ "\x7d" ++ newlines n ∧
        report.toSource = start ++ "\x7d" ++ "\n" := by
  have hcloses : ∀ u ∈ report.units, Closes u.code := by
    intro u hu
    obtain ⟨unit, -, plan, -, rfl⟩ := (mem_units_run_iff hrun).1 hu
    exact closes_generate _ plan
  obtain ⟨-, hreport⟩ := run_eq_ok_iff.1 hrun
  refine ⟨?_, by rw [hreport], Report.toSource_of_closes hunits hcloses⟩
  rw [hreport]
  exact pairwise_of_units (wellFormed_after actions) fun _ _ => unit_of_code?

/-- A mapper without functions that asks for extension traits, and after it one with a function. -/
def ledgerActions : List Action := [
  .setHeader "Ledgers ",
  .registerType (.record "Entry" "ledger.rs" [⟨"sum", .named "u32"⟩]),
  .addUnit ⟨"Postings", "ledger.rs", "pub", false, none, none,
    [⟨"post", some .ref, [⟨"entry", "Entry", "Entry", .shared⟩], some (.named "Entry"), .required⟩]⟩,
  .addUnit ⟨"Accounts", "ledger.rs", "pub(crate)", true, none, none, []⟩]

/-- The empty lines of the first mapper stay, and the text ends after the second one. -/
theorem toSource_of_run_ledger :
    ∃ report, (after ledgerActions).run = .ok report ∧
      report.units.map (fun u => (u.unit, u.wrappers)) = [("Accounts", some ""), ("Postings", none)] ∧
      ∃ start n, report.header ++ "\n".intercalate (report.units.map (·.code)) =
          start ++ "\x7d" ++ newlines n ∧
        report.toSource = start ++ "\x7d" ++ "\n" := by
  have hrun : (after ledgerActions).run =
      .ok ((after ledgerActions).run.toOption.getD ⟨"", [], []⟩) := by decide +kernel
  refine ⟨_, hrun, by decide +kernel, ?_⟩
  exact (toSource_of_run ledgerActions _ hrun (by decide +kernel)).2.2

end Generator

end Mapwright
