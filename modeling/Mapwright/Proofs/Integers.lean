import Mapwright.Proofs.Casing
import Mapwright.Proofs.Words

/-!
# Where an integer ends

An integer ends where no word goes on.  What follows it bears on whether it is
one only by a point, a sign or a letter, so it is read again from its own text
before a comma or a closing bracket.

    literal? cs = some (.int, rest) → cs = n ++ rest, n is an integer               (`exists_isInteger_of_literal?`)
    n is an integer → literal? (n ++ ',' :: rest) = some (.int, ',' :: rest)        (by definition)
-/

namespace Mapwright.Source

open Text

/-- What ends an integer in a type: a comma or a closing bracket. -/
def EndsInteger (rest : List Char) : Prop := ∃ c cs, rest = c :: cs ∧ c ∈ [',', '>', ']']

/-- The characters of an integer, by what is read from them before a comma or a closing bracket. -/
structure IsInteger (n : List Char) : Prop where
  head : n.head?.any Char.isDigit = true
  again : ∀ rest, EndsInteger rest → literal? (n ++ rest) = some (.int, rest)

theorem forall_endsInteger {p : Char → Prop} (h : p ',' ∧ p '>' ∧ p ']') :
    ∀ c ∈ [',', '>', ']'], p c := by
  simpa using h

theorem EndsInteger.endsWord {rest : List Char} (h : EndsInteger rest) : EndsWord rest := by
  obtain ⟨c, cs, rfl, hc⟩ := h
  intro d hd
  cases hd
  exact forall_endsInteger (p := fun c => isIdentifierContinue c = false) (by decide) c hc

/-! ## Digits -/

theorem isIdentifierContinue_of_isDigit {c : Char} (h : c.isDigit = true) :
    isIdentifierContinue c = true := by
  simp [isIdentifierContinue, Char.isAlphanum, h]

/-- A hexadecimal digit may stand in a word, and is no decimal one if it is none by its look. -/
theorem continue_of_isHexDigit {c : Char} (h : isHexDigit c = true) :
    isIdentifierContinue c = true ∧ (c.isDigit = false → 10 ≤ hexValue c) := by
  have hle : ∀ last : Char, last.toNat < 0x80 → c ≤ last → c.toNat < 0x80 := by
    intro last hlast hc
    exact Nat.lt_of_le_of_lt (UInt32.le_iff_toNat_le.1 hc) hlast
  have hascii : c.toNat < 0x80 := by
    simp only [isHexDigit, Char.isDigit, Bool.or_eq_true, Bool.and_eq_true, decide_eq_true_eq] at h
    rcases h with (h | h) | h
    · exact hle '9' (by decide) h.2
    · exact hle 'f' (by decide) h.2
    · exact hle 'F' (by decide) h.2
  exact ascii_forall (P := fun c => isHexDigit c = true →
    isIdentifierContinue c = true ∧ (c.isDigit = false → 10 ≤ hexValue c)) (by decide) c hascii h

/-- What cannot stand in a word is no digit of any kind. -/
theorem no_digit_of_not_continue {c : Char} (h : isIdentifierContinue c = false) :
    c.isDigit = false ∧ isHexDigit c = false ∧ c ≠ '_' := by
  rw [← Bool.not_eq_true] at h
  refine ⟨?_, ?_, ?_⟩
  · exact Bool.eq_false_iff.2 (mt isIdentifierContinue_of_isDigit h)
  · exact Bool.eq_false_iff.2 (mt (fun hc => (continue_of_isHexDigit hc).1) h)
  · rintro rfl
    exact h (by decide)

theorem no_point_of_continue {c : Char} (h : isIdentifierContinue c = true) :
    c ≠ '+' ∧ c ≠ '-' ∧ c ≠ '.' := by
  refine ⟨?_, ?_, ?_⟩ <;> rintro rfl <;> exact absurd h (by decide)

/-! ## Two ends of one number -/

section

variable {A B : List Char}

theorem exponentRest?_of_endsWord (hB : EndsWord B) (signed : Bool) :
    exponentRest? signed true B = some B := by
  cases B with
  | nil => rfl
  | cons c cs =>
    obtain ⟨hdigit, -, hunderscore⟩ := no_digit_of_not_continue (hB c rfl)
    by_cases hsign : c = '+' ∨ c = '-' <;> simp [exponentRest?, hdigit, hunderscore, hsign]

theorem exponentRest?_of_endsInteger (hA : EndsInteger A) (signed : Bool) :
    exponentRest? signed false A = none := by
  obtain ⟨c, cs, rfl, hc⟩ := hA
  have hstop : ∀ c ∈ [',', '>', ']'],
      c ≠ '+' ∧ c ≠ '-' ∧ c.isDigit = false ∧ c ≠ '_' := forall_endsInteger (by decide)
  obtain ⟨hplus, hminus, hdigit, hunderscore⟩ := hstop c hc
  simp [exponentRest?, hplus, hminus, hdigit, hunderscore]

/-- An exponent before a comma or a closing bracket is one before any end of the word as well. -/
theorem exponentRest?_append (hA : EndsInteger A) (hB : EndsWord B) {xs : List Char}
    (hxs : Continues xs) {signed valued : Bool} {r : List Char}
    (h : exponentRest? signed valued (xs ++ A) = some r) :
    ∃ ys, Continues ys ∧ r = ys ++ A ∧ exponentRest? signed valued (xs ++ B) = some (ys ++ B) := by
  induction xs generalizing signed valued with
  | nil =>
    cases valued with
    | false => cases (exponentRest?_of_endsInteger hA signed).symm.trans h
    | true =>
      rw [List.nil_append, exponentRest?_of_endsWord hA.endsWord] at h
      cases h
      exact ⟨[], List.forall_mem_nil _, rfl, exponentRest?_of_endsWord hB signed⟩
  | cons c xs ih =>
    obtain ⟨hc, hxs'⟩ := List.forall_mem_cons.1 hxs
    obtain ⟨hplus, hminus, -⟩ := no_point_of_continue hc
    rw [List.cons_append, exponentRest?] at h ⊢
    simp only [hplus, hminus, Bool.false_or, decide_false, Bool.false_eq_true, if_false] at h ⊢
    split at h
    · next hdigit => simpa only [hdigit, if_true] using ih hxs' h
    · next hdigit =>
      rw [if_neg hdigit]
      split at h
      · next hunderscore => simpa only [hunderscore, if_true] using ih hxs' h
      · next hunderscore =>
        rw [if_neg hunderscore]
        split at h
        · next hvalued =>
          cases h
          exact ⟨c :: xs, hxs, rfl, by rw [if_pos hvalued]; rfl⟩
        · cases h

theorem numberEnd?_of_suffixRest (hB : EndsWord B) {cs : List Char} (h : suffixRest cs = B) :
    numberEnd? cs = some B := by
  rw [numberEnd?, h]
  cases B with
  | nil => rfl
  | cons c cs => simp [hB c rfl]

theorem suffixRest_of_endsWord (hB : EndsWord B) : suffixRest B = B := by
  cases B with
  | nil => rfl
  | cons c cs =>
    have hstart : isIdentifierStart c = false := by
      refine Bool.eq_false_iff.2 (mt isIdentifierContinue_of_isIdentifierStart ?_)
      rw [hB c rfl]
      decide
    simp [suffixRest, wordRest?, hstart]

/-- The rest of a word is no suffix if its first character could not begin a word. -/
theorem suffixRest_append (hB : EndsWord B) {ys : List Char} (hys : Continues ys) :
    suffixRest (ys ++ B) = B ∨ ∃ c cs, ys = c :: cs ∧ suffixRest (ys ++ B) = ys ++ B ∧
      isIdentifierStart c = false := by
  cases ys with
  | nil => exact Or.inl (suffixRest_of_endsWord hB)
  | cons c ys =>
    obtain ⟨-, hys⟩ := List.forall_mem_cons.1 hys
    cases hc : isIdentifierStart c with
    | true =>
      refine Or.inl ?_
      simp [suffixRest, wordRest?, hc, dropWhile_continue hys hB]
    | false =>
      refine Or.inr ⟨c, ys, rfl, ?_, hc⟩
      simp [suffixRest, wordRest?, hc]

/-- A number that ends before a comma or a closing bracket ends at any end of the word as well. -/
theorem numberEnd?_append (hA : EndsWord A) (hB : EndsWord B) {ys : List Char}
    (hys : Continues ys) {r : List Char} (h : numberEnd? (ys ++ A) = some r) :
    r = A ∧ numberEnd? (ys ++ B) = some B := by
  rcases suffixRest_append hA hys with hsuffix | ⟨c, cs, rfl, hsuffix, -⟩
  · rw [numberEnd?_of_suffixRest hA hsuffix] at h
    cases h
    refine ⟨rfl, ?_⟩
    rcases suffixRest_append hB hys with hsuffix' | ⟨c, cs, rfl, -, hc⟩
    · exact numberEnd?_of_suffixRest hB hsuffix'
    · -- where a word may begin does not depend on what follows it
      have hsame : suffixRest (c :: cs ++ A) = c :: cs ++ A := by
        simp [suffixRest, wordRest?, hc]
      rw [hsame] at hsuffix
      have hlength := congrArg List.length hsuffix
      simp at hlength
      omega
  · rw [numberEnd?, hsuffix] at h
    simp [hys c List.mem_cons_self] at h

/-! ## Floats -/

theorem floatDigitsRest?_append (hA : EndsInteger A) (hB : EndsWord B) {xs : List Char}
    (hxs : Continues xs) {r : List Char} (h : floatDigitsRest? false (xs ++ A) = some r) :
    ∃ ys, Continues ys ∧ r = ys ++ A ∧ floatDigitsRest? false (xs ++ B) = some (ys ++ B) := by
  induction xs with
  | nil =>
    obtain ⟨c, cs, rfl, hc⟩ := hA
    have hstop : ∀ c ∈ [',', '>', ']'],
        c.isDigit = false ∧ c ≠ '_' ∧ c ≠ '.' ∧ c ≠ 'e' ∧ c ≠ 'E' :=
      forall_endsInteger (by decide)
    obtain ⟨hdigit, hunderscore, hpoint, he, hE⟩ := hstop c hc
    simp [floatDigitsRest?, hdigit, hunderscore, hpoint, he, hE] at h
  | cons c xs ih =>
    obtain ⟨hc, hxs⟩ := List.forall_mem_cons.1 hxs
    obtain ⟨-, -, hpoint⟩ := no_point_of_continue hc
    rw [List.cons_append] at h ⊢
    unfold floatDigitsRest? at h ⊢
    by_cases hdigit : c.isDigit = true ∨ c = '_'
    · have hdigit : (c.isDigit || decide (c = '_')) = true := by simpa using hdigit
      rw [hdigit, if_pos rfl] at h ⊢
      exact ih hxs h
    · have hdigit : (c.isDigit || decide (c = '_')) = false := by simpa using hdigit
      by_cases hexp : c = 'e' ∨ c = 'E'
      · have hexp : (decide (c = 'e') || decide (c = 'E')) = true := by simpa using hexp
        simp only [hdigit, hpoint, hexp, Bool.false_eq_true, if_false, decide_false,
          Bool.false_and, if_true] at h ⊢
        cases hrest : exponentRest? false false (xs ++ A) with
        | none => simp [hrest] at h
        | some r' =>
          obtain ⟨ys, hys, rfl, hB'⟩ := exponentRest?_append hA hB hxs hrest
          rw [hrest] at h
          cases h
          exact ⟨ys, hys, rfl, by rw [hB']⟩
      · have hexp : (decide (c = 'e') || decide (c = 'E')) = false := by simpa using hexp
        simp [hdigit, hpoint, hexp] at h

/-- What is a float before a comma or a closing bracket is one before any end of the word. -/
theorem floatRest?_append (hA : EndsInteger A) (hB : EndsWord B) {xs : List Char}
    (hxs : Continues xs) {r : List Char} (h : floatRest? (xs ++ A) = some r) :
    floatRest? (xs ++ B) = some B := by
  cases xs with
  | nil =>
    obtain ⟨c, cs, rfl, hc⟩ := hA
    have hstop : ∀ c ∈ [',', '>', ']'], c.isDigit = false := forall_endsInteger (by decide)
    simp [floatRest?, hstop c hc] at h
  | cons c xs =>
    obtain ⟨-, hxs⟩ := List.forall_mem_cons.1 hxs
    rw [List.cons_append, floatRest?] at h ⊢
    split at h
    · next hdigit =>
      obtain ⟨r', hr', hend⟩ := Option.bind_eq_some_iff.1 h
      obtain ⟨ys, hys, rfl, hdigits⟩ := floatDigitsRest?_append hA hB hxs hr'
      rw [if_pos hdigit, hdigits]
      exact (numberEnd?_append hA.endsWord hB hys hend).2
    · cases h

/-! ## Integers -/

/-- Digits before one end of a word are digits before a comma or a closing bracket as well. -/
theorem intDigitsRest?_append (hA : EndsInteger A) (hB : EndsWord B) {base : Nat} {xs : List Char}
    (hxs : Continues xs) {found : Bool} {r : List Char}
    (h : intDigitsRest? base found (xs ++ B) = some r) :
    ∃ ys, Continues ys ∧ r = ys ++ B ∧ intDigitsRest? base found (xs ++ A) = some (ys ++ A) := by
  induction xs generalizing found with
  | nil =>
    have hend : ∀ {rest : List Char}, EndsWord rest →
        intDigitsRest? base found rest = if found then some rest else none := by
      intro rest hrest
      cases rest with
      | nil => rfl
      | cons c cs =>
        obtain ⟨hdigit, hhex, hunderscore⟩ := no_digit_of_not_continue (hrest c rfl)
        simp [intDigitsRest?, hdigit, hhex, hunderscore]
    rw [List.nil_append, hend hB] at h
    split at h
    · next hfound =>
      cases h
      refine ⟨[], List.forall_mem_nil _, rfl, ?_⟩
      rw [List.nil_append, hend hA.endsWord, if_pos hfound]
    · cases h
  | cons c xs ih =>
    obtain ⟨-, hxs'⟩ := List.forall_mem_cons.1 hxs
    rw [List.cons_append, intDigitsRest?] at h ⊢
    split at h
    · next hdigit =>
      rw [if_pos hdigit]
      split at h
      · next hbase =>
        rw [if_pos hbase]
        exact ih hxs' h
      · cases h
    · next hdigit =>
      rw [if_neg hdigit]
      split at h
      · next hhex =>
        rw [if_pos hhex]
        exact ih hxs' h
      · next hhex =>
        rw [if_neg hhex]
        split at h
        · next hunderscore =>
          rw [if_pos hunderscore]
          split at h
          · cases h
          · next hfirst =>
            rw [if_neg hfirst]
            exact ih hxs' h
        · next hunderscore =>
          rw [if_neg hunderscore]
          split at h
          · next hfound =>
            cases h
            exact ⟨c :: xs, hxs, rfl, by rw [if_pos hfound]; rfl⟩
          · cases h

/-- The digits of an integer are characters of a word. -/
theorem exists_of_intDigitsRest? {base : Nat} {cs : List Char} {found : Bool} {r : List Char}
    (h : intDigitsRest? base found cs = some r) : ∃ xs, Continues xs ∧ cs = xs ++ r := by
  induction cs generalizing found with
  | nil =>
    refine ⟨[], List.forall_mem_nil _, ?_⟩
    rw [intDigitsRest?] at h
    split at h
    · cases h
      rfl
    · cases h
  | cons c cs ih =>
    have hmore : ∀ {found}, isIdentifierContinue c = true → intDigitsRest? base found cs = some r →
        ∃ xs, Continues xs ∧ c :: cs = xs ++ r := by
      intro found hc hr
      obtain ⟨xs, hxs, rfl⟩ := ih hr
      exact ⟨c :: xs, List.forall_mem_cons.2 ⟨hc, hxs⟩, rfl⟩
    rw [intDigitsRest?] at h
    split at h
    · next hdigit =>
      split at h
      · exact hmore (isIdentifierContinue_of_isDigit hdigit) h
      · cases h
    · split at h
      · next hhex => exact hmore (continue_of_isHexDigit (Bool.and_eq_true_iff.1 hhex).1).1 h
      · split at h
        · next hunderscore =>
          split at h
          · cases h
          · exact hmore (by rw [hunderscore]; decide) h
        · split at h
          · cases h
            exact ⟨[], List.forall_mem_nil _, rfl⟩
          · cases h

theorem exists_of_numberEnd? {cs r : List Char} (h : numberEnd? cs = some r) :
    ∃ xs, Continues xs ∧ cs = xs ++ r ∧ EndsWord r := by
  have hr : suffixRest cs = r ∧ EndsWord r := by
    rw [numberEnd?] at h
    split at h
    · next hnil =>
      cases h
      exact ⟨hnil, fun c hc => by cases hc⟩
    · next c rest hcons =>
      split at h
      · cases h
      · next hc =>
        cases h
        refine ⟨hcons, fun d hd => ?_⟩
        cases hd
        exact Bool.eq_false_iff.2 hc
  obtain ⟨hr, hends⟩ := hr
  cases hword : wordRest? cs with
  | none =>
    rw [suffixRest, hword] at hr
    exact ⟨[], List.forall_mem_nil _, hr, hends⟩
  | some rest =>
    rw [suffixRest, hword] at hr
    obtain ⟨w, rfl, hw, -⟩ := wordRest?_eq_some_iff.1 hword
    exact ⟨w, hw.continues, by rw [← hr]; rfl, hends⟩

/-- Digits and a suffix give the same before a comma or a closing bracket. -/
theorem exists_of_digits {base : Nat} {cs rest : List Char}
    (h : (intDigitsRest? base false cs).bind numberEnd? = some rest) :
    ∃ n, Continues n ∧ cs = n ++ rest ∧ EndsWord rest ∧
      ∀ A, EndsInteger A → (intDigitsRest? base false (n ++ A)).bind numberEnd? = some A := by
  obtain ⟨r, hr, hend⟩ := Option.bind_eq_some_iff.1 h
  obtain ⟨xs, hxs, rfl⟩ := exists_of_intDigitsRest? hr
  obtain ⟨ys, hys, rfl, hends⟩ := exists_of_numberEnd? hend
  have hn : Continues (xs ++ ys) := List.forall_mem_append.2 ⟨hxs, hys⟩
  refine ⟨xs ++ ys, hn, (List.append_assoc ..).symm, hends, fun A hA => ?_⟩
  rw [← List.append_assoc] at hr
  obtain ⟨zs, -, hzs, hdigits⟩ := intDigitsRest?_append hA hends hn hr
  rw [hdigits, ← List.append_cancel_right hzs]
  exact (numberEnd?_append hends hA.endsWord hys hend).2

theorem isDigit_of_intDigitsRest? {cs r : List Char} (h : intDigitsRest? 10 false cs = some r) :
    cs.head?.any Char.isDigit = true := by
  cases cs with
  | nil => cases h
  | cons c cs =>
    cases hdigit : c.isDigit with
    | true => exact hdigit
    | false =>
      -- a letter is no decimal digit, and an underscore cannot come first
      have hhex : (isHexDigit c && decide (hexValue c < 10)) = false := by
        cases hc : isHexDigit c with
        | false => rfl
        | true => simpa using (continue_of_isHexDigit hc).2 hdigit
      simp [intDigitsRest?, hdigit, hhex] at h

/-- An integer has its base by its own text. -/
theorem splitBase_append {n : List Char} (hne : n ≠ []) {rest A : List Char}
    (hA : EndsInteger A) (h : splitBase (n ++ rest) = (10, n ++ rest)) :
    splitBase (n ++ A) = (10, n ++ A) := by
  rcases n with _ | ⟨c, _ | ⟨d, n⟩⟩
  · exact absurd rfl hne
  · obtain ⟨a, as, rfl, ha⟩ := hA
    have hletter : a ≠ 'x' ∧ a ≠ 'o' ∧ a ≠ 'b' :=
      forall_endsInteger (p := fun a => a ≠ 'x' ∧ a ≠ 'o' ∧ a ≠ 'b') (by decide) a ha
    show splitBase (c :: a :: as) = _
    unfold splitBase
    split <;> simp_all
  · show splitBase (c :: d :: (n ++ A)) = _
    have hcs : splitBase (c :: d :: (n ++ rest)) = _ := h
    unfold splitBase at hcs ⊢
    split <;> simp_all

/-- An integer at the head of a text is one before a comma or a closing bracket as well. -/
theorem exists_of_intRest? {cs rest : List Char} (h : intRest? cs = some rest) :
    ∃ n, Continues n ∧ cs = n ++ rest ∧ EndsWord rest ∧ n.head?.any Char.isDigit = true ∧
      ∀ A, EndsInteger A → intRest? (n ++ A) = some A := by
  have hbased : ∀ b base ds, isIdentifierContinue b = true →
      (∀ ds', splitBase ('0' :: b :: ds') = (base, ds')) → intRest? ('0' :: b :: ds) = some rest →
      ∃ n, Continues n ∧ '0' :: b :: ds = n ++ rest ∧ EndsWord rest ∧
        n.head?.any Char.isDigit = true ∧ ∀ A, EndsInteger A → intRest? (n ++ A) = some A := by
    intro b base ds hb hsplit h
    rw [intRest?, hsplit] at h
    obtain ⟨n, hn, rfl, hends, hagain⟩ := exists_of_digits h
    refine ⟨'0' :: b :: n, ?_, rfl, hends, rfl, fun A hA => ?_⟩
    · exact List.forall_mem_cons.2 ⟨by decide, List.forall_mem_cons.2 ⟨hb, hn⟩⟩
    · show intRest? ('0' :: b :: (n ++ A)) = _
      rw [intRest?, hsplit]
      exact hagain A hA
  by_cases hten : splitBase cs = (10, cs)
  · rw [intRest?, hten] at h
    obtain ⟨n, hn, rfl, hends, hagain⟩ := exists_of_digits h
    obtain ⟨r, hr, -⟩ := Option.bind_eq_some_iff.1 h
    have hdigit := isDigit_of_intDigitsRest? hr
    cases n with
    | nil =>
      obtain ⟨c, hc, hdigit⟩ := (Option.any_eq_true _ _).1 hdigit
      have hcontinue := hends c hc
      rw [isIdentifierContinue_of_isDigit hdigit] at hcontinue
      cases hcontinue
    | cons c n =>
      refine ⟨c :: n, hn, rfl, hends, hdigit, fun A hA => ?_⟩
      rw [intRest?, splitBase_append (List.cons_ne_nil c n) hA hten]
      exact hagain A hA
  · have hforms : ∃ b base ds, cs = '0' :: b :: ds ∧ isIdentifierContinue b = true ∧
        ∀ ds', splitBase ('0' :: b :: ds') = (base, ds') := by
      unfold splitBase at hten
      split at hten
      · exact ⟨'x', 16, _, rfl, by decide, fun _ => rfl⟩
      · exact ⟨'o', 8, _, rfl, by decide, fun _ => rfl⟩
      · exact ⟨'b', 2, _, rfl, by decide, fun _ => rfl⟩
      · exact absurd rfl hten
    obtain ⟨b, base, ds, rfl, hb, hsplit⟩ := hforms
    exact hbased b base ds hb hsplit h

theorem quotedLiteral?_of_isDigit {cs : List Char} (h : cs.head?.any Char.isDigit = true) :
    quotedLiteral? cs = none := by
  unfold quotedLiteral?
  split <;> first | rfl | exact absurd h (by simp)

theorem quotedLiteral?_ne_int {cs rest : List Char} : quotedLiteral? cs ≠ some (.int, rest) := by
  unfold quotedLiteral?
  split <;> simp

/-- **An integer literal is an integer.** -/
theorem exists_isInteger_of_literal? {cs rest : List Char} (h : literal? cs = some (.int, rest)) :
    ∃ n, cs = n ++ rest ∧ IsInteger n := by
  rw [literal?] at h
  split at h
  · next found hfound =>
    cases h
    exact absurd hfound quotedLiteral?_ne_int
  · split at h
    · cases h
    · next hfloat =>
      obtain ⟨r, hr, hkind⟩ := Option.map_eq_some_iff.1 h
      cases hkind
      obtain ⟨n, hn, rfl, hends, hdigit, hagain⟩ := exists_of_intRest? hr
      refine ⟨n, rfl, hdigit, fun A hA => ?_⟩
      have hhead : (n ++ A).head?.any Char.isDigit = true := by
        cases n with
        | nil => cases hdigit
        | cons c n => exact hdigit
      have hnone : floatRest? (n ++ A) = none := by
        rw [Option.eq_none_iff_forall_ne_some]
        intro r' hr'
        rw [floatRest?_append hA hends hn hr'] at hfloat
        cases hfloat
      rw [literal?, quotedLiteral?_of_isDigit hhead, hnone, hagain A hA]
      rfl

end

end Mapwright.Source
