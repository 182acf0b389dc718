import Mapwright.Proofs.Casing
import Mapwright.Proofs.Words

/-!
# Camel case

The upper case of what may stand in a word may stand in a word, so the camel
case of a word goes on as a word does.  Names in plain snake case are told
apart by their camel case: where a part begins, it has a capital, and there are
no others.

    c may stand in a word → so may each character of upperCase c                     (`continues_upperCase`)
    name and name' in plain snake case, camelCase name = camelCase name' → name = name'   (`camelCase_inj`)
-/

namespace Mapwright.Text

open Source (Continues rangesWithin)

/-! ## The upper case of a character -/

/-- Whether the character of a code point may stand in a word. -/
def codeContinues (n : Nat) : Bool :=
  (Char.ofNat n).isAlphanum || Char.ofNat n == '_' ||
    Identifier.continueRanges.any fun o => o.1.ble n && n.ble o.2

/-- The ranges of the table hold code points above ASCII only. -/
theorem toNat_ofNat_of_mem {o : Nat × Nat} (ho : o ∈ Identifier.continueRanges) {n : Nat}
    (hfirst : o.1 ≤ n) (hlast : n ≤ o.2) : 0x80 ≤ n ∧ (Char.ofNat n).toNat = n := by
  have hcodes : (Identifier.continueRanges.all fun o =>
      Nat.ble 0x80 o.1 && (o.2.blt 0xd800 || (Nat.blt 0xdfff o.1 && o.2.blt 0x110000))) = true := by
    decide +kernel
  have hcode := List.all_eq_true.1 hcodes o ho
  simp only [Bool.and_eq_true, Bool.or_eq_true, Nat.ble_eq, Nat.blt_eq] at hcode
  have hvalid : n.isValidChar := by
    rcases hcode.2 with hlow | hhigh
    · exact Or.inl (Nat.lt_of_le_of_lt hlast hlow)
    · exact Or.inr ⟨Nat.lt_of_lt_of_le hhigh.1 hfirst, Nat.lt_of_le_of_lt hlast hhigh.2⟩
  refine ⟨hcode.1.trans hfirst, ?_⟩
  rw [show Char.ofNat n = Char.ofNatAux n hvalid from dif_pos hvalid]
  rfl

theorem isIdentifierContinue_of_codeContinues {n : Nat} (h : codeContinues n = true) :
    isIdentifierContinue (Char.ofNat n) = true := by
  rcases Bool.or_eq_true_iff.1 h with hascii | hrange
  · rw [isIdentifierContinue, hascii, Bool.true_or]
  · obtain ⟨o, ho, hbounds⟩ := List.any_eq_true.1 hrange
    simp only [Bool.and_eq_true, Nat.ble_eq] at hbounds
    obtain ⟨hcode, htoNat⟩ := toNat_ofNat_of_mem ho hbounds.1 hbounds.2
    have hranges : inRanges n Identifier.continueRanges = true :=
      List.any_eq_true.2 ⟨o, ho, by simp [hbounds]⟩
    simp [isIdentifierContinue, htoNat, hcode, hranges]

theorem codeContinues_of_isIdentifierContinue {c : Char} (h : isIdentifierContinue c = true) :
    codeContinues c.toNat = true := by
  rw [codeContinues, Char.ofNat_toNat]
  rcases Bool.or_eq_true_iff.1 h with hascii | hrange
  · rw [hascii, Bool.true_or]
  · obtain ⟨o, ho, hbounds⟩ := List.any_eq_true.1 (Bool.and_eq_true_iff.1 hrange).2
    have hany : (Identifier.continueRanges.any fun o => o.1.ble c.toNat && c.toNat.ble o.2) = true :=
      List.any_eq_true.2 ⟨o, ho, by simpa using hbounds⟩
    rw [hany, Bool.or_true]

/-- Whether the partners that a row gives may stand in a word: all of them, or each one that belongs
to what may stand in a word. -/
def rowContinues (row : Nat × Nat × Nat × Nat) : Bool :=
  (Identifier.continueRanges.any fun o =>
    o.1.ble row.2.2.2 && (row.2.2.2 + (row.2.1 - row.1)).ble o.2) ||
  (List.range (row.2.1 - row.1 + 1)).all fun k => !(k % row.2.2.1 == 0) ||
    codeContinues (row.2.2.2 + k) || !codeContinues (row.1 + k)

theorem continue_of_partner? {c d : Char} (hc : isIdentifierContinue c = true)
    {rows : List (Nat × Nat × Nat × Nat)} (hrows : rows.all rowContinues = true)
    (h : Letter.partner? c.toNat rows = some d) : isIdentifierContinue d = true := by
  induction rows with
  | nil => cases h
  | cons row rows ih =>
    obtain ⟨first, last, step, target⟩ := row
    rw [List.all_cons, Bool.and_eq_true] at hrows
    rw [Letter.partner?] at h
    split at h
    · next hrow =>
      cases h
      simp only [Bool.and_eq_true, decide_eq_true_eq, beq_iff_eq] at hrow
      obtain ⟨⟨hfirst, hlast⟩, hstep⟩ := hrow
      rcases Bool.or_eq_true_iff.1 hrows.1 with hrange | heach
      · obtain ⟨o, ho, hbounds⟩ := List.any_eq_true.1 hrange
        simp only [Bool.and_eq_true, Nat.ble_eq] at hbounds
        refine isIdentifierContinue_of_codeContinues (Bool.or_eq_true_iff.2 (Or.inr ?_))
        refine List.any_eq_true.2 ⟨o, ho, ?_⟩
        simp only [Bool.and_eq_true, Nat.ble_eq]
        omega
      · have hindex : c.toNat - first < last - first + 1 := by omega
        have hk := List.all_eq_true.1 heach (c.toNat - first) (List.mem_range.2 hindex)
        have hself : codeContinues (first + (c.toNat - first)) = true := by
          rw [Nat.add_sub_cancel' hfirst]
          exact codeContinues_of_isIdentifierContinue hc
        refine isIdentifierContinue_of_codeContinues ?_
        simpa [hstep, hself] using hk
    · exact ih hrows.2 h

theorem continues_upperCase {c : Char} (hc : isIdentifierContinue c = true) :
    Continues (upperCase c) := by
  by_cases hascii : c.toNat < 0x80
  · exact ascii_forall (P := fun c => isIdentifierContinue c = true → Continues (upperCase c))
      (by decide +kernel) c hascii hc
  · rw [upperCase, if_neg hascii]
    split
    · next s hs =>
      have hsequences : (Letter.upperSequences.all fun s =>
          s.2.all codeContinues) = true := by decide +kernel
      have hall := List.all_eq_true.1 hsequences s (List.mem_of_find?_eq_some hs)
      intro d hd
      obtain ⟨n, hn, rfl⟩ := List.mem_map.1 hd
      exact isIdentifierContinue_of_codeContinues (List.all_eq_true.1 hall n hn)
    · intro d hd
      have hrows : Letter.upperRows.all rowContinues = true := by decide +kernel
      rw [List.mem_singleton.1 hd]
      cases hp : Letter.partner? c.toNat Letter.upperRows with
      | none => exact hc
      | some d => exact continue_of_partner? hc hrows hp

/-! ## The characters of a name in camel case -/

theorem continues_camelAfter {cs : List Char} (h : Continues cs) (partBegins : Bool) :
    Continues (camelAfter partBegins cs) := by
  induction cs generalizing partBegins with
  | nil => exact List.forall_mem_nil _
  | cons c cs ih =>
    obtain ⟨hc, hcs⟩ := List.forall_mem_cons.1 h
    unfold camelAfter
    split
    · exact ih hcs true
    · split
      · exact List.forall_mem_append.2 ⟨continues_upperCase hc, ih hcs false⟩
      · exact List.forall_mem_cons.2 ⟨hc, ih hcs false⟩

/-! ## Names in plain snake case -/

/-- Characters in plain snake case: small letters and digits of ASCII, with single underscores, each
before a small letter.  Where a part begins, it begins with a small letter. -/
def plainAfter (partBegins : Bool) : List Char → Bool
  | [] => !partBegins
  | c :: cs =>
    if c = '_' then !partBegins && plainAfter true cs
    else if partBegins then c.isLower && plainAfter false cs
    else (c.isLower || c.isDigit) && plainAfter false cs

/-- A name in plain snake case, such as `to_dto`. -/
def IsPlainSnake (name : String) : Prop := plainAfter true name.toList = true

instance (name : String) : Decidable (IsPlainSnake name) := inferInstanceAs (Decidable (_ = true))

theorem ascii_of_isLower {c : Char} (h : c.isLower = true) : c.toNat < 0x80 :=
  ascii_of_isAlphanum (isAlphanum_iff.2 (Or.inr (Or.inl h)))

/-- A small letter is told by its capital, which is neither small nor a digit. -/
theorem upperCase_of_isLower {c : Char} (h : c.isLower = true) :
    ∃ d, upperCase c = [d] ∧ d.isLower = false ∧ d.isDigit = false ∧ d.toLower = c := by
  have hascii := ascii_of_isLower h
  have hupper := ascii_forall (P := fun c => c.isLower = true →
    c.toUpper.isLower = false ∧ c.toUpper.isDigit = false ∧ c.toUpper.toLower = c)
    (by decide) c hascii h
  exact ⟨c.toUpper, if_pos hascii, hupper⟩

/-- What a character of a name in camel case stands for: a capital begins a part. -/
def partText (c : Char) : List Char := if c.isLower || c.isDigit then [c] else ['_', c.toLower]

/-- The parts can be read off: inside one there is no capital. -/
theorem flatMap_partText_camelAfter {cs : List Char} {partBegins : Bool}
    (h : plainAfter partBegins cs = true) :
    (camelAfter partBegins cs).flatMap partText = if partBegins then '_' :: cs else cs := by
  induction cs generalizing partBegins with
  | nil =>
    cases partBegins with
    | true => cases h
    | false => rfl
  | cons c cs ih =>
    rw [plainAfter] at h
    rw [camelAfter]
    by_cases hunderscore : c = '_'
    · rw [if_pos hunderscore, Bool.and_eq_true, Bool.not_eq_true'] at h
      rw [if_pos hunderscore, ih h.2, h.1, hunderscore]
      rfl
    · rw [if_neg hunderscore] at h ⊢
      cases partBegins with
      | true =>
        rw [if_pos rfl, Bool.and_eq_true] at h
        obtain ⟨d, hd, hlower, hdigit, hback⟩ := upperCase_of_isLower h.1
        have hpart : partText d = ['_', c] := by simp [partText, hlower, hdigit, hback]
        simp [hd, hpart, ih h.2]
      | false =>
        simp only [Bool.false_eq_true, if_false, Bool.and_eq_true] at h
        have hpart : partText c = [c] := by simp [partText, h.1]
        simp [hpart, ih h.2]

/-- **Names in plain snake case are told apart by their camel case.** -/
theorem camelCase_inj {name name' : String} (h : IsPlainSnake name) (h' : IsPlainSnake name')
    (heq : camelCase name = camelCase name') : name = name' := by
  have hchars : camelAfter true name.toList = camelAfter true name'.toList :=
    String.ofList_injective heq
  have hparts := flatMap_partText_camelAfter h
  rw [hchars, flatMap_partText_camelAfter h'] at hparts
  exact String.toList_inj.1 (List.cons.inj hparts).2.symm

example : IsPlainSnake "to_dto" ∧ IsPlainSnake "v2_mapper" ∧ ¬ IsPlainSnake "toDto" ∧
    ¬ IsPlainSnake "to__dto" := by decide +kernel

end Mapwright.Text
