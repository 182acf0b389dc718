import Mathlib.Data.String.Basic
import Mapwright.Text.Casing

/-!
# Snake case

No slash comes into a name by its conversion to snake case, and a name in plain
camel case can be read off from its snake case: each capital but the first one
has an underscore before it.  Other names may share a snake case, as
`HTTPMapper` and `HttpMapper` do.

    '/' ∉ name → '/' ∉ snakeCase name                          (`slash_not_mem_snakeCase`)
    IsPlainCamel name → camelCase (snakeCase name) = name      (`camelCase_snakeCase`)
-/

namespace Mapwright.Text

/-! ## The case of a character -/

/-- What holds of each code of an ASCII character holds of each ASCII character. -/
theorem ascii_forall {P : Char → Prop} (h : ∀ n < 0x80, P (Char.ofNat n)) (c : Char)
    (hc : c.toNat < 0x80) : P c := by
  have hp := h c.toNat hc
  rwa [Char.ofNat_toNat] at hp

theorem isUpperCase_of_ascii {c : Char} (h : c.toNat < 0x80) : isUpperCase c = c.isUpper := by
  simp [isUpperCase, Nat.not_le.2 h]

theorem isLowerCase_of_ascii {c : Char} (h : c.toNat < 0x80) : isLowerCase c = c.isLower := by
  simp [isLowerCase, Nat.not_le.2 h]

theorem lowerCase_of_ascii {c : Char} (h : c.toNat < 0x80) : lowerCase c = [c.toLower] := if_pos h

theorem upperCase_of_ascii {c : Char} (h : c.toNat < 0x80) : upperCase c = [c.toUpper] := if_pos h

theorem ofNat_ne_slash {n : Nat} (h : 0x2f < n) : Char.ofNat n ≠ '/' := by
  intro hc
  by_cases hvalid : n.isValidChar
  · have hchar : Char.ofNat n = Char.ofNatAux n hvalid := dif_pos hvalid
    have hcode : (Char.ofNatAux n hvalid).toNat = n := rfl
    rw [← hchar, hc] at hcode
    exact absurd hcode (Nat.ne_of_lt h)
  · have hnul : Char.ofNat n = '\x00' := dif_neg hvalid
    rw [hnul] at hc
    exact absurd hc (by decide)

/-- No partner is a slash if those of the first characters all come after it. -/
theorem partner?_ne_slash {n : Nat} {rows : List (Nat × Nat × Nat × Nat)}
    (h : ∀ row ∈ rows, 0x2f < row.2.2.2) : Letter.partner? n rows ≠ some '/' := by
  induction rows with
  | nil => simp [Letter.partner?]
  | cons row rows ih =>
    obtain ⟨first, last, step, target⟩ := row
    have htarget : 0x2f < target := h _ List.mem_cons_self
    unfold Letter.partner?
    split
    · intro hc
      exact ofNat_ne_slash (Nat.lt_add_right _ htarget) (Option.some.inj hc)
    · exact ih fun row hrow => h row (List.mem_cons_of_mem _ hrow)

theorem slash_not_mem_lowerCase {c : Char} (h : c ≠ '/') : '/' ∉ lowerCase c := by
  by_cases hascii : c.toNat < 0x80
  · exact ascii_forall (P := fun c => c ≠ '/' → '/' ∉ lowerCase c) (by decide) c hascii h
  · rw [lowerCase, if_neg hascii]
    split
    · decide
    · have hpartner : Letter.partner? c.toNat Letter.lowerRows ≠ some '/' :=
        partner?_ne_slash (by decide +kernel)
      cases hp : Letter.partner? c.toNat Letter.lowerRows with
      | none => simpa using h.symm
      | some d =>
        rw [hp] at hpartner
        simpa [eq_comm] using hpartner

/-! ## Slashes -/

theorem slash_not_mem_snakeAfter {cs : List Char} (h : '/' ∉ cs) (previous : Option Char) :
    '/' ∉ snakeAfter previous cs := by
  induction cs generalizing previous with
  | nil => simp [snakeAfter]
  | cons c cs ih =>
    rw [List.mem_cons, not_or] at h
    have hlower := slash_not_mem_lowerCase (Ne.symm h.1)
    have hrest := ih h.2 (some c)
    unfold snakeAfter
    split
    · split <;> simp [hlower, hrest]
    · simp [h.1, hrest]

theorem slash_not_mem_snakeCase {name : String} (h : '/' ∉ name.toList) :
    '/' ∉ (snakeCase name).toList := by
  rw [snakeCase, String.toList_ofList]
  exact slash_not_mem_snakeAfter h none

/-! ## Names in plain camel case -/

/-- Letters and digits of ASCII, of which a capital is the first one and no two capitals stand next
to each other. -/
structure IsPlainCamel (name : String) : Prop where
  head : name.toList.head?.any Char.isUpper = true
  alphanum : name.toList.all Char.isAlphanum = true
  apart : name.toList.IsChain fun c d => ¬ (c.isUpper = true ∧ d.isUpper = true)

instance (name : String) : Decidable (IsPlainCamel name) :=
  decidable_of_iff (_ ∧ _ ∧ _)
    ⟨fun ⟨head, alphanum, apart⟩ => ⟨head, alphanum, apart⟩,
      fun ⟨head, alphanum, apart⟩ => ⟨head, alphanum, apart⟩⟩

theorem isAlphanum_iff {c : Char} :
    c.isAlphanum = true ↔ c.isUpper = true ∨ c.isLower = true ∨ c.isDigit = true := by
  show ((c.isUpper || c.isLower) || c.isDigit) = true ↔ _
  rw [Bool.or_eq_true, Bool.or_eq_true, or_assoc]

/-- The three ranges of letters and digits end before the last ASCII character. -/
theorem ascii_of_isAlphanum {c : Char} (h : c.isAlphanum = true) : c.toNat < 0x80 := by
  have hrange : ∀ last : Char, last.toNat < 0x80 → c.val ≤ last.val → c.toNat < 0x80 := by
    intro last hlast hle
    exact Nat.lt_of_le_of_lt (UInt32.le_iff_toNat_le.1 hle) hlast
  rcases isAlphanum_iff.1 h with hupper | hlower | hdigit
  · exact hrange 'Z' (by decide) (of_decide_eq_true hupper).2
  · exact hrange 'z' (by decide) (of_decide_eq_true (Bool.and_eq_true_iff.1 hlower).2)
  · exact hrange '9' (by decide) (of_decide_eq_true (Bool.and_eq_true_iff.1 hdigit).2)

/-- Of letters and digits, ASCII tells the case. -/
theorem isUpperCase_of_isAlphanum {c : Char} (h : c.isAlphanum = true) :
    isUpperCase c = c.isUpper :=
  isUpperCase_of_ascii (ascii_of_isAlphanum h)

/-- A capital is told by its lower case. -/
theorem lowerCase_of_isUpper {c : Char} (h : c.isUpper = true) :
    ∃ d, lowerCase c = [d] ∧ d ≠ '_' ∧ upperCase d = [c] := by
  have hascii : c.toNat < 0x80 := ascii_of_isAlphanum (isAlphanum_iff.2 (Or.inl h))
  have hlower := ascii_forall
    (P := fun c => c.isUpper = true → c.toLower ≠ '_' ∧ upperCase c.toLower = [c])
    (by decide) c hascii h
  exact ⟨c.toLower, if_pos hascii, hlower⟩

/-- After a letter or digit that is no capital, a capital begins a word. -/
theorem beginsWord_of_not_isUpper {p : Char} (h : p.isAlphanum = true) (hp : p.isUpper = false)
    (next : Option Char) : beginsWord (some p) next = true := by
  rcases isAlphanum_iff.1 h with hupper | hlower | hdigit
  · rw [hp] at hupper
    cases hupper
  · simp [beginsWord, isLowerCase, hlower]
  · simp [beginsWord, hdigit]

theorem camelAfter_snakeAfter {p : Char} {cs : List Char} (h : ∀ c ∈ p :: cs, c.isAlphanum = true)
    (hapart : (p :: cs).IsChain fun c d => ¬ (c.isUpper = true ∧ d.isUpper = true)) :
    camelAfter false (snakeAfter (some p) cs) = cs := by
  induction cs generalizing p with
  | nil => rfl
  | cons c cs ih =>
    have hp : p.isAlphanum = true := h p List.mem_cons_self
    have hc : c.isAlphanum = true := h c (List.mem_cons_of_mem _ List.mem_cons_self)
    rw [List.isChain_cons_cons] at hapart
    have hrest := ih (fun d hd => h d (List.mem_cons_of_mem _ hd)) hapart.2
    unfold snakeAfter
    rw [isUpperCase_of_isAlphanum hc]
    cases hupper : c.isUpper with
    | true =>
      have hpu : p.isUpper = false := by
        rw [← Bool.not_eq_true]
        exact fun hpu => hapart.1 ⟨hpu, hupper⟩
      obtain ⟨d, hd, hne, hback⟩ := lowerCase_of_isUpper hupper
      rw [if_pos rfl, if_pos (beginsWord_of_not_isUpper hp hpu _), hd]
      simp [camelAfter, hne, hback, hrest]
    | false =>
      have hne : c ≠ '_' := by
        rintro rfl
        exact absurd hc (by decide)
      simp [camelAfter, hne, hrest]

/-- **A name in plain camel case is told by its snake case.** -/
theorem camelCase_snakeCase {name : String} (h : IsPlainCamel name) :
    camelCase (snakeCase name) = name := by
  obtain ⟨head, alphanum, apart⟩ := h
  rw [camelCase, snakeCase, String.toList_ofList]
  cases hcs : name.toList with
  | nil => simp [hcs] at head
  | cons c cs =>
    rw [hcs] at head alphanum apart
    rw [List.all_eq_true] at alphanum
    have hupper : c.isUpper = true := head
    have hcapital : isUpperCase c = true := by
      rw [isUpperCase_of_isAlphanum (alphanum c List.mem_cons_self)]
      exact hupper
    obtain ⟨d, hd, hne, hback⟩ := lowerCase_of_isUpper hupper
    have hchars : camelAfter true (snakeAfter none (c :: cs)) = c :: cs := by
      rw [snakeAfter, if_pos hcapital, hd]
      simp [beginsWord, camelAfter, hne, hback, camelAfter_snakeAfter alphanum apart]
    rw [hchars, ← hcs, String.ofList_toList]

/-- Names in plain camel case are different in snake case as well. -/
theorem snakeCase_inj {name name' : String} (h : IsPlainCamel name) (h' : IsPlainCamel name')
    (heq : snakeCase name = snakeCase name') : name = name' := by
  rw [← camelCase_snakeCase h, heq, camelCase_snakeCase h']

example : IsPlainCamel "StudentMapper" ∧ IsPlainCamel "V2Mapper" ∧ ¬ IsPlainCamel "HTTPMapper" := by
  decide +kernel

end Mapwright.Text
