import Mapwright.Source.Lexer

/-!
# Lexing token by token

What a text begins with, inside the delimiters that are open, decides the next
tokens, the delimiters that are open after them and what is left.  Lexing takes
such steps until the text and the open delimiters end, so it reads the same if
it may take more of them.

    tokensUpTo (fuel + 1) openings cs ends, or takes a step and goes on       (`exists_step_of_tokensUpTo`)
    tokensUpTo fuel openings cs = some ts, fuel ≤ fuel' → the same of fuel'   (`tokensUpTo_of_le`)
-/

namespace Mapwright.Source

open Token

/-- **What lexing does next**, where no blank and no plain comment stands: from the open delimiters
and the text to tokens, the delimiters open after them and the rest of the text. -/
inductive TokenStep : List Delimiter → List Char → List Token → List Delimiter → List Char → Prop
  | documentation {openings cs inner words rest}
      (hdoc : documentation? cs = some (inner, words, rest)) (hpaired : returnsPaired words = true) :
      TokenStep openings cs (docTokens inner words) openings rest
  | placeholder {openings c after} (hdoc : documentation? (c :: after) = none)
      (hplaceholder : ((c :: after).take placeholderText.length == placeholderText) = true) :
      TokenStep openings (c :: after) [.literal .placeholder (String.ofList placeholderText)]
        openings ((c :: after).drop placeholderText.length)
  | opening {openings c after d} (hdoc : documentation? (c :: after) = none)
      (hplaceholder : ((c :: after).take placeholderText.length == placeholderText) = false)
      (hopened : opened? c = some d) :
      TokenStep openings (c :: after) [.opening d] (d :: openings) after
  | closing {openings c after d} (hdoc : documentation? (c :: after) = none)
      (hplaceholder : ((c :: after).take placeholderText.length == placeholderText) = false)
      (hopened : opened? c = none) (hclosed : closed? c = some d) :
      TokenStep (d :: openings) (c :: after) [.closing d] openings after
  | leaf {openings c after t rest} (hdoc : documentation? (c :: after) = none)
      (hplaceholder : ((c :: after).take placeholderText.length == placeholderText) = false)
      (hopened : opened? c = none) (hclosed : closed? c = none)
      (hleaf : leaf? (c :: after) = some (t, rest)) :
      TokenStep openings (c :: after) [t] openings rest

variable {fuel : Nat} {openings openings' : List Delimiter} {cs rest : List Char} {ts ts' : List Token}

theorem tokensUpTo_of_end (h : skipSpace cs = []) : tokensUpTo (fuel + 1) [] cs = some [] := by
  rw [tokensUpTo, h]
  rfl

theorem tokensUpTo_of_step (h : TokenStep openings (skipSpace cs) ts openings' rest)
    (hrest : tokensUpTo fuel openings' rest = some ts') :
    tokensUpTo (fuel + 1) openings cs = some (ts ++ ts') := by
  rw [tokensUpTo]
  generalize skipSpace cs = cs at h
  cases h with
  | documentation hdoc hpaired => simp [hdoc, hpaired, hrest]
  | placeholder hdoc hplaceholder => simp [hdoc, hplaceholder, hrest]
  | opening hdoc hplaceholder hopened => simp [hdoc, hplaceholder, hopened, hrest]
  | closing hdoc hplaceholder hopened hclosed => simp [hdoc, hplaceholder, hopened, hclosed, hrest]
  | leaf hdoc hplaceholder hopened hclosed hleaf =>
    simp [hdoc, hplaceholder, hopened, hclosed, hleaf, hrest]

/-- **Lexing ends, or takes a step and goes on.** -/
theorem exists_step_of_tokensUpTo (h : tokensUpTo (fuel + 1) openings cs = some ts) :
    (skipSpace cs = [] ∧ openings = [] ∧ ts = []) ∨
      ∃ head openings' rest tail, TokenStep openings (skipSpace cs) head openings' rest ∧
        tokensUpTo fuel openings' rest = some tail ∧ ts = head ++ tail := by
  -- the tokens after those of the step
  have hstep : ∀ {head openings' rest}, TokenStep openings (skipSpace cs) head openings' rest →
      (tokensUpTo fuel openings' rest).map (head ++ ·) = some ts →
      ∃ head openings' rest tail, TokenStep openings (skipSpace cs) head openings' rest ∧
        tokensUpTo fuel openings' rest = some tail ∧ ts = head ++ tail := by
    intro head openings' rest hstep h
    obtain ⟨tail, htail, rfl⟩ := Option.map_eq_some_iff.1 h
    exact ⟨head, openings', rest, tail, hstep, htail, rfl⟩
  rw [tokensUpTo] at h
  generalize skipSpace cs = cs at h hstep ⊢
  split at h
  · next inner words rest hdoc =>
    split at h
    · next hpaired => exact .inr (hstep (.documentation hdoc hpaired) h)
    · cases h
  · next hdoc =>
    split at h
    · split at h
      · next hempty =>
        cases h
        exact .inl ⟨rfl, List.isEmpty_iff.1 hempty, rfl⟩
      · cases h
    · next c after =>
      refine .inr ?_
      split at h
      · next hplaceholder => exact hstep (.placeholder hdoc hplaceholder) h
      · next hplaceholder =>
        have hplaceholder := Bool.eq_false_iff.2 hplaceholder
        split at h
        · next d hopened => exact hstep (.opening hdoc hplaceholder hopened) h
        · next hopened =>
          split at h
          · next d hclosed =>
            split at h
            · cases h
            · split at h
              · next hd =>
                subst hd
                exact hstep (.closing hdoc hplaceholder hopened hclosed) h
              · cases h
          · next hclosed =>
            split at h
            · next t rest hleaf => exact hstep (.leaf hdoc hplaceholder hopened hclosed hleaf) h
            · cases h

/-- What is read stays the same if more may be read. -/
theorem tokensUpTo_succ (h : tokensUpTo fuel openings cs = some ts) :
    tokensUpTo (fuel + 1) openings cs = some ts := by
  induction fuel generalizing openings cs ts with
  | zero => cases h
  | succ fuel ih =>
    obtain ⟨hcs, rfl, rfl⟩ | ⟨head, openings', rest, tail, hstep, htail, rfl⟩ :=
      exists_step_of_tokensUpTo h
    · exact tokensUpTo_of_end hcs
    · exact tokensUpTo_of_step hstep (ih htail)

theorem tokensUpTo_of_le {fuel' : Nat} (h : tokensUpTo fuel openings cs = some ts)
    (hle : fuel ≤ fuel') : tokensUpTo fuel' openings cs = some ts := by
  induction hle with
  | refl => exact h
  | step _ ih => exact tokensUpTo_succ ih

/-! ## Where a token begins -/

/-- Only a slash begins a comment, so other punctuation is told by its first character. -/
theorem beginsPunct_cons {c : Char} (hslash : c ≠ '/') (cs : List Char) :
    beginsPunct (c :: cs) = (punctuation.contains c || c == '\x27') := by
  unfold beginsPunct
  split
  · next heq => exact absurd (List.cons.inj heq).1 hslash
  · next heq => exact absurd (List.cons.inj heq).1 hslash
  · next heq =>
    cases heq
    rfl
  · next heq => cases heq

/-- What is no blank and begins no comment is where a token begins. -/
theorem begins_token {c : Char} (hspace : isSpace c = false) (hslash : c ≠ '/') (cs : List Char) :
    skipSpace (c :: cs) = c :: cs ∧ documentation? (c :: cs) = none := by
  constructor
  · simp [skipSpace, skipSpaceUpTo, hspace, hslash]
  · have hline : isLineDoc (c :: cs) = false := by
      unfold isLineDoc
      split <;> first | rfl | next heq => exact absurd (List.cons.inj heq).1 hslash
    have hblock : isBlockDoc (c :: cs) = false := by
      unfold isBlockDoc
      split <;> first | rfl | next heq => exact absurd (List.cons.inj heq).1 hslash
    simp [documentation?, hline, hblock]

theorem not_placeholder_of_ne {c : Char} (h : c ≠ '(') (cs : List Char) :
    ((c :: cs).take placeholderText.length == placeholderText) = false := by
  rw [← Bool.not_eq_true, beq_iff_eq]
  exact fun heq => h (List.cons.inj heq).1

end Mapwright.Source
