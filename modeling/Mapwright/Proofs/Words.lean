import Mathlib.Data.List.TakeWhile
import Mapwright.Source.Lexer

/-!
# The words of a text

A word begins with a character that may begin an identifier and goes on with
such that may stand inside one.  An identifier is a word, or one written raw,
and it ends where neither it nor a raw one could go on.

    wordRest? cs = some rest ↔ cs = w ++ rest for a word w that ends there                  (`wordRest?_eq_some_iff`)
    identifier? cs = some (w, rest) ↔ cs = w ++ rest, w is an identifier and ends there     (`identifier?_eq_some_iff`)
-/

namespace Mapwright.Source

open Text

/-! ## Characters -/

/-- Whether each range lies in one of the others.  Both lists are in order, so of the others those
that end before a range begins are done with. -/
def rangesWithin : (ranges others : List (Nat × Nat)) → Bool
  | [], _ => true
  | r :: rs, others =>
    match others.dropWhile (fun o => o.2.blt r.1) with
    | [] => false
    | o :: os => o.1.ble r.1 && r.2.ble o.2 && rangesWithin rs (o :: os)

theorem exists_of_rangesWithin {ranges others : List (Nat × Nat)}
    (h : rangesWithin ranges others = true) : ∀ r ∈ ranges, ∃ o ∈ others, o.1 ≤ r.1 ∧ r.2 ≤ o.2 := by
  induction ranges generalizing others with
  | nil => exact List.forall_mem_nil _
  | cons r rs ih =>
    rw [rangesWithin] at h
    have hsuffix := List.dropWhile_suffix (l := others) (fun o => o.2.blt r.1)
    cases hos : others.dropWhile (fun o => o.2.blt r.1) with
    | nil => simp [hos] at h
    | cons o os =>
      rw [hos] at hsuffix
      simp only [hos, Bool.and_eq_true, Nat.ble_eq] at h
      refine List.forall_mem_cons.2 ⟨⟨o, hsuffix.subset List.mem_cons_self, h.1⟩, fun s hs => ?_⟩
      obtain ⟨o', ho', hbounds⟩ := ih h.2 s hs
      exact ⟨o', hsuffix.subset ho', hbounds⟩

theorem isIdentifierContinue_of_isIdentifierStart {c : Char} (h : isIdentifierStart c = true) :
    isIdentifierContinue c = true := by
  have htables : rangesWithin Identifier.startRanges Identifier.continueRanges = true := by
    decide +kernel
  unfold isIdentifierStart at h
  unfold isIdentifierContinue
  simp only [Bool.or_eq_true, Bool.and_eq_true, decide_eq_true_eq] at h ⊢
  rcases h with (halpha | hunderscore) | ⟨hcode, hrange⟩
  · refine Or.inl (Or.inl ?_)
    rw [Char.isAlphanum, halpha, Bool.true_or]
  · exact Or.inl (Or.inr hunderscore)
  · refine Or.inr ⟨hcode, ?_⟩
    obtain ⟨r, hr, hbounds⟩ := List.any_eq_true.1 hrange
    obtain ⟨o, ho, hfirst, hlast⟩ := exists_of_rangesWithin htables r hr
    simp only [Bool.and_eq_true, decide_eq_true_eq] at hbounds
    refine List.any_eq_true.2 ⟨o, ho, ?_⟩
    simp only [Bool.and_eq_true, decide_eq_true_eq]
    exact ⟨Nat.le_trans hfirst hbounds.1, Nat.le_trans hbounds.2 hlast⟩

/-! ## Words -/

/-- The characters of what is left of a word. -/
def Continues (cs : List Char) : Prop := ∀ c ∈ cs, isIdentifierContinue c = true

instance (cs : List Char) : Decidable (Continues cs) := List.decidableBAll _ cs

/-- The characters of a word. -/
def IsWord : List Char → Prop
  | [] => False
  | c :: cs => isIdentifierStart c = true ∧ Continues cs

/-- No word goes on here. -/
def EndsWord (rest : List Char) : Prop := ∀ c ∈ rest.head?, isIdentifierContinue c = false

namespace IsWord

theorem continues {w : List Char} (h : IsWord w) : Continues w := by
  cases w with
  | nil => cases h
  | cons c cs =>
    intro d hd
    rcases List.mem_cons.1 hd with rfl | hd
    · exact isIdentifierContinue_of_isIdentifierStart h.1
    · exact h.2 d hd

theorem append {w cs : List Char} (h : IsWord w) (hcs : Continues cs) : IsWord (w ++ cs) := by
  cases w with
  | nil => cases h
  | cons c w => exact ⟨h.1, List.forall_mem_append.2 ⟨h.2, hcs⟩⟩

end IsWord

theorem dropWhile_continue {cs rest : List Char} (hcs : Continues cs) (hrest : EndsWord rest) :
    (cs ++ rest).dropWhile isIdentifierContinue = rest := by
  rw [List.dropWhile_append_of_pos hcs]
  cases rest with
  | nil => rfl
  | cons c rest => simp [hrest c rfl]

/-- The word at the head of a text is the longest one. -/
theorem wordRest?_eq_some_iff {cs rest : List Char} :
    wordRest? cs = some rest ↔ ∃ w, cs = w ++ rest ∧ IsWord w ∧ EndsWord rest := by
  constructor
  · intro h
    cases cs with
    | nil => cases h
    | cons c cs =>
      rw [wordRest?] at h
      split at h
      · next hc =>
        cases h
        refine ⟨c :: cs.takeWhile isIdentifierContinue, ?_, ⟨hc, ?_⟩, ?_⟩
        · rw [List.cons_append, List.takeWhile_append_dropWhile]
        · exact fun d hd => List.mem_takeWhile_imp hd
        · intro d hd
          have hne := List.head?_dropWhile_not isIdentifierContinue cs
          rw [Option.mem_def.1 hd] at hne
          exact hne
      · cases h
  · rintro ⟨w, rfl, hw, hrest⟩
    cases w with
    | nil => cases hw
    | cons c w => simp [wordRest?, hw.1, dropWhile_continue hw.2 hrest]

/-! ## Identifiers -/

/-- The words that cannot be written raw. -/
def neverRaw : List String := ["_", "super", "self", "Self", "crate"]

/-- The characters of an identifier: a word, or one written raw. -/
inductive IsIdentifier : List Char → Prop
  | plain {w : List Char} (h : IsWord w) : IsIdentifier w
  | raw {w : List Char} (h : IsWord w) (hraw : String.ofList w ∉ neverRaw) :
    IsIdentifier ('r' :: '#' :: w)

/-- No identifier goes on here. -/
structure EndsIdentifier (w rest : List Char) : Prop where
  word : EndsWord rest
  /-- The letter before a raw identifier is none by itself. -/
  raw : w = ['r'] → rest.head? ≠ some '#'

theorem hash_not_continue : isIdentifierContinue '#' = false := by decide

theorem take_two_of_isWord {w rest : List Char} (hw : IsWord w) (hrest : EndsIdentifier w rest) :
    ((w ++ rest).take 2 == ['r', '#']) = false := by
  rw [← Bool.not_eq_true, beq_iff_eq]
  intro h
  rcases w with _ | ⟨c, _ | ⟨d, w⟩⟩
  · cases hw
  · cases rest with
    | nil => cases h
    | cons d rest =>
      cases h
      exact hrest.raw rfl rfl
  · cases h
    have hcontinue := hw.2 '#' List.mem_cons_self
    rw [hash_not_continue] at hcontinue
    cases hcontinue

/-- **The identifier at the head of a text** is the longest one. -/
theorem identifier?_eq_some_iff {cs w rest : List Char} :
    identifier? cs = some (w, rest) ↔ cs = w ++ rest ∧ IsIdentifier w ∧ EndsIdentifier w rest := by
  constructor
  · intro h
    unfold identifier? at h
    cases hraw : cs.take 2 == ['r', '#'] with
    | true =>
      obtain ⟨cs, rfl⟩ : ∃ body, cs = 'r' :: '#' :: body :=
        ⟨cs.drop 2, by rw [← List.take_append_drop 2 cs, eq_of_beq hraw]; rfl⟩
      cases hword : wordRest? cs with
      | none => simp [hword] at h
      | some rest' =>
        obtain ⟨v, rfl, hv, hends⟩ := wordRest?_eq_some_iff.1 hword
        simp [hword] at h
        obtain ⟨hnever, rfl, rfl⟩ := h
        refine ⟨rfl, .raw hv ?_, hends, fun hr => ?_⟩
        · simpa [neverRaw] using hnever
        · cases hr
    | false =>
      cases hword : wordRest? cs with
      | none => simp [hraw, hword] at h
      | some rest' =>
        obtain ⟨v, rfl, hv, hends⟩ := wordRest?_eq_some_iff.1 hword
        simp [hraw, hword] at h
        obtain ⟨rfl, rfl⟩ := h
        refine ⟨rfl, .plain hv, hends, ?_⟩
        rintro rfl hhash
        obtain ⟨more, rfl⟩ := List.head?_eq_some_iff.1 hhash
        cases hraw
  · rintro ⟨rfl, hw, hrest⟩
    cases hw with
    | plain hw =>
      have hword : wordRest? (w ++ rest) = some rest :=
        wordRest?_eq_some_iff.2 ⟨w, rfl, hw, hrest.word⟩
      simp [identifier?, take_two_of_isWord hw hrest, hword]
    | @raw v hv hnever =>
      have hword : wordRest? (v ++ rest) = some rest :=
        wordRest?_eq_some_iff.2 ⟨v, rfl, hv, hrest.word⟩
      simp [neverRaw] at hnever
      simp [identifier?, hword, hnever]

end Mapwright.Source
