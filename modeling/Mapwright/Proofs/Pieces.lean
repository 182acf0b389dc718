import Mapwright.Proofs.Integers
import Mapwright.Proofs.Lexing

/-!
# Texts in pieces

A spelling is laid out in pieces: words, lifetimes, numbers, punctuation,
brackets, and blanks between them.  If no two pieces run into one another and
the brackets match, the tokens of the text are those of the pieces.

    Laid [] ps → tokens? (letters ps) = some (tokens ps)       (`tokens?_letters`)
-/

namespace Mapwright.Source

open Text

/-! ## Pieces -/

/-- What a spelling is laid out in. -/
inductive Piece
  | word (w : String)
  | lifetime (l : String)
  | number (n : String)
  | symbol (c : Char)
  | blank
  | opening (d : Delimiter)
  | closing (d : Delimiter)

/-- The characters of the delimiters that open and close a group. -/
def Delimiter.chars : Delimiter → Char × Char
  | .paren => ('(', ')')
  | .bracket => ('[', ']')
  | .brace => ('\x7b', '\x7d')

/-- The punctuation in the spellings of types. -/
def typeSymbols : List Char := ['&', '*', '!', ':', '<', '>', ',', ';', '=', '+', '?', '-']

namespace Piece

def letters : Piece → List Char
  | .word w => w.toList
  | .lifetime l => l.toList
  | .number n => n.toList
  | .symbol c => [c]
  | .blank => [' ']
  | .opening d => [d.chars.1]
  | .closing d => [d.chars.2]

/-- Whether a word, a lifetime or a number ends before the piece. -/
def divides : Piece → Bool
  | .word _ => false
  | .lifetime _ => false
  | .number _ => false
  | _ => true

/-- Whether a number can be read again before the piece. -/
def endsNumber : Piece → Bool
  | .symbol c => c == ',' || c == '>'
  | .closing d => d == .bracket
  | _ => false

end Piece

/-- The text of some pieces. -/
def letters (ps : List Piece) : List Char := ps.flatMap Piece.letters

/-- Whether punctuation before the pieces is joined to them. -/
def meets : List Piece → Bool
  | .symbol _ :: _ => true
  | .lifetime _ :: _ => true
  | _ => false

/-- The tokens of some pieces. -/
def tokens : List Piece → List Token
  | [] => []
  | .word w :: ps => .ident w :: tokens ps
  | .lifetime l :: ps => .lifetime l :: tokens ps
  | .number n :: ps => .literal .int n :: tokens ps
  | .symbol c :: ps => .punct c (meets ps) :: tokens ps
  | .blank :: ps => tokens ps
  | .opening d :: ps => .opening d :: tokens ps
  | .closing d :: ps => .closing d :: tokens ps

/-- Words end where the pieces begin. -/
def EndsWords (ps : List Piece) : Prop := ∀ p ∈ ps.head?, p.divides = true

/-- Pieces, inside the given open delimiters, that do not run into one another and whose brackets
match. -/
def Laid : List Delimiter → List Piece → Prop
  | openings, [] => openings = []
  | openings, .word w :: ps => IsIdentifier w.toList ∧ EndsWords ps ∧ Laid openings ps
  | openings, .lifetime l :: ps =>
    (∃ w, IsIdentifier w ∧ l.toList = '\x27' :: w) ∧ EndsWords ps ∧ Laid openings ps
  | openings, .number n :: ps =>
    IsInteger n.toList ∧ (∃ p ∈ ps.head?, p.endsNumber = true) ∧ Laid openings ps
  | openings, .symbol c :: ps => c ∈ typeSymbols ∧ Laid openings ps
  | openings, .blank :: ps => Laid openings ps
  | openings, .opening d :: ps => Laid (d :: openings) ps
  | openings, .closing d :: ps => ∃ outer, openings = d :: outer ∧ Laid outer ps

@[simp] theorem letters_nil : letters [] = [] := rfl

@[simp] theorem letters_cons (p : Piece) (ps : List Piece) :
    letters (p :: ps) = p.letters ++ letters ps := List.flatMap_cons

@[simp] theorem letters_append (ps qs : List Piece) : letters (ps ++ qs) = letters ps ++ letters qs :=
  List.flatMap_append

@[simp] theorem endsWords_nil : EndsWords [] := fun p hp => (by cases hp)

@[simp] theorem endsWords_cons (p : Piece) (ps : List Piece) :
    EndsWords (p :: ps) ↔ p.divides = true := by
  simp [EndsWords]

/-! ### Layouts by their first piece -/

section

variable (openings : List Delimiter) (ps : List Piece)

@[simp] theorem laid_word (w : String) : Laid openings (.word w :: ps) ↔
    IsIdentifier w.toList ∧ EndsWords ps ∧ Laid openings ps := Iff.rfl

@[simp] theorem laid_lifetime (l : String) : Laid openings (.lifetime l :: ps) ↔
    (∃ w, IsIdentifier w ∧ l.toList = '\x27' :: w) ∧ EndsWords ps ∧ Laid openings ps := Iff.rfl

@[simp] theorem laid_number (n : String) : Laid openings (.number n :: ps) ↔
    IsInteger n.toList ∧ (∃ p ∈ ps.head?, p.endsNumber = true) ∧ Laid openings ps := Iff.rfl

@[simp] theorem laid_symbol (c : Char) :
    Laid openings (.symbol c :: ps) ↔ c ∈ typeSymbols ∧ Laid openings ps := Iff.rfl

@[simp] theorem laid_blank : Laid openings (.blank :: ps) ↔ Laid openings ps := Iff.rfl

@[simp] theorem laid_opening (d : Delimiter) :
    Laid openings (.opening d :: ps) ↔ Laid (d :: openings) ps := Iff.rfl

@[simp] theorem laid_closing (d : Delimiter) :
    Laid (d :: openings) (.closing d :: ps) ↔ Laid openings ps := by
  refine ⟨?_, fun h => ⟨openings, rfl, h⟩⟩
  rintro ⟨outer, heq, h⟩
  cases heq
  exact h

end

/-! ## The characters of pieces -/

/-- The characters that can stand after a word. -/
def dividers : List Char :=
  [' ', '(', ')', '[', ']', '\x7b', '\x7d'] ++ typeSymbols

/-- A character that is neither a quote nor a hash. -/
def isCalm (c : Char) : Bool := c != '\x22' && c != '\x27' && c != '#'

/-- What a text begins with is neither a quote nor a hash. -/
def BeginsCalm (cs : List Char) : Prop := ∀ c ∈ cs.head?, isCalm c = true

theorem calm_of_divider {c : Char} (h : c ∈ dividers) :
    isIdentifierContinue c = false ∧ isCalm c = true ∧ c ≠ '/' := by
  have hall : dividers.all (fun c => !isIdentifierContinue c && isCalm c && c != '/') = true := by
    decide +kernel
  simpa [and_assoc] using List.all_eq_true.1 hall c h

theorem isCalm_of_continue {c : Char} (h : isIdentifierContinue c = true) : isCalm c = true := by
  have hother : ∀ d : Char, isIdentifierContinue d = false → c ≠ d := by
    rintro d hd rfl
    rw [hd] at h
    cases h
  simp [isCalm, hother '\x22' (by decide), hother '\x27' (by decide), hother '#' (by decide)]

/-- The code points of blanks between tokens. -/
def spaceCodes : List Nat :=
  [0x09, 0x0a, 0x0b, 0x0c, 0x0d, 0x20, 0x85, 0xa0, 0x1680, 0x2000, 0x2001, 0x2002, 0x2003, 0x2004,
    0x2005, 0x2006, 0x2007, 0x2008, 0x2009, 0x200a, 0x200e, 0x200f, 0x2028, 0x2029, 0x202f, 0x205f,
    0x3000]

theorem mem_spaceCodes {c : Char} (h : isSpace c = true) : c.toNat ∈ spaceCodes := by
  simp only [isSpace, isBlank, Bool.or_eq_true, Bool.and_eq_true, decide_eq_true_eq,
    beq_iff_eq] at h
  simp only [spaceCodes, List.mem_cons, List.not_mem_nil, or_false]
  omega

/-- What begins an identifier begins nothing else. -/
theorem ne_of_isIdentifierStart {c : Char} (h : isIdentifierStart c = true) :
    isSpace c = false ∧ c ≠ '/' ∧ c ∉ punctuation ∧ c ≠ '\x27' ∧ c ≠ '\x5c' ∧ c.isDigit = false ∧
      opened? c = none ∧ closed? c = none := by
  have hother : ∀ d : Char, isIdentifierStart d = false → c ≠ d := by
    rintro d hd rfl
    rw [hd] at h
    cases h
  have hdigit : ∀ n < 10, isIdentifierStart (Char.ofNat (48 + n)) = false := by decide
  have hpunct : punctuation.all (fun d => !isIdentifierStart d) = true := by decide +kernel
  have hspace : spaceCodes.all (fun n => !isIdentifierStart (Char.ofNat n)) = true := by
    decide +kernel
  refine ⟨?_, hother '/' (by decide), ?_, hother '\x27' (by decide), hother '\x5c' (by decide), ?_,
    ?_, ?_⟩
  · refine Bool.eq_false_iff.2 fun hc => ?_
    have hcode := List.all_eq_true.1 hspace _ (mem_spaceCodes hc)
    rw [Char.ofNat_toNat, h] at hcode
    cases hcode
  · intro hc
    have hstart := List.all_eq_true.1 hpunct c hc
    rw [h] at hstart
    cases hstart
  · refine Bool.eq_false_iff.2 fun hc => ?_
    obtain ⟨hleast, hmost⟩ : 48 ≤ c.toNat ∧ c.toNat ≤ 57 := by
      simp only [Char.isDigit, Bool.and_eq_true, decide_eq_true_eq] at hc
      exact ⟨UInt32.le_iff_toNat_le.1 hc.1, UInt32.le_iff_toNat_le.1 hc.2⟩
    have hnot := hdigit (c.toNat - 48) (by omega)
    rw [Nat.add_sub_cancel' hleast, Char.ofNat_toNat, h] at hnot
    cases hnot
  · have h1 := hother '(' (by decide)
    have h2 := hother '[' (by decide)
    have h3 := hother '\x7b' (by decide)
    unfold opened?
    split
    · exact absurd rfl h1
    · exact absurd rfl h2
    · exact absurd rfl h3
    · rfl
  · have h1 := hother ')' (by decide)
    have h2 := hother ']' (by decide)
    have h3 := hother '\x7d' (by decide)
    unfold closed?
    split
    · exact absurd rfl h1
    · exact absurd rfl h2
    · exact absurd rfl h3
    · rfl

theorem ne_of_isDigit {c : Char} (h : c.isDigit = true) :
    isSpace c = false ∧ c ≠ '/' ∧ c ∉ punctuation ∧ c ≠ '\x27' ∧ opened? c = none ∧
      closed? c = none := by
  have hascii : c.toNat < 0x80 := ascii_of_isAlphanum (isAlphanum_iff.2 (Or.inr (Or.inr h)))
  exact ascii_forall (P := fun c => c.isDigit = true → isSpace c = false ∧ c ≠ '/' ∧
    c ∉ punctuation ∧ c ≠ '\x27' ∧ opened? c = none ∧ closed? c = none) (by decide) c hascii h

/-! ## Words among the letters -/

/-- Words end where the text begins. -/
def BeginsApart (cs : List Char) : Prop := ∀ c ∈ cs.head?, c ∈ dividers

theorem BeginsApart.beginsCalm {cs : List Char} (h : BeginsApart cs) : BeginsCalm cs :=
  fun c hc => (calm_of_divider (h c hc)).2.1

theorem BeginsApart.endsIdentifier {cs : List Char} (h : BeginsApart cs) (w : List Char) :
    EndsIdentifier w cs :=
  ⟨fun c hc => (calm_of_divider (h c hc)).1, fun _ hc => absurd (h '#' hc) (by decide)⟩

theorem beginsCalm_append {v rest : List Char} (hv : Continues v) (hrest : BeginsApart rest) :
    BeginsCalm (v ++ rest) := by
  cases v with
  | nil => exact hrest.beginsCalm
  | cons c v =>
    intro d hd
    cases hd
    exact isCalm_of_continue (hv c List.mem_cons_self)

theorem rawRest?_of_calm {plain : Char → Bool} {cs : List Char} (h : BeginsCalm cs) :
    rawRest? plain cs = none := by
  cases cs with
  | nil => rfl
  | cons c cs =>
    have hc := h c rfl
    simp only [isCalm, Bool.and_eq_true, bne_iff_ne, ne_eq] at hc
    simp [rawRest?, hc]

theorem rawRest?_hash {plain : Char → Bool} {c : Char} {cs : List Char} (h : isCalm c = true) :
    rawRest? plain ('#' :: c :: cs) = none := by
  simp only [isCalm, Bool.and_eq_true, bne_iff_ne, ne_eq] at h
  simp [rawRest?, h]

/-- A word and what stands after it are no quoted literal. -/
theorem quotedLiteral?_word {c : Char} {cs : List Char} (hc : isIdentifierStart c = true)
    (hcs : BeginsCalm cs) (hmore : ∀ ds, cs = 'r' :: ds → BeginsCalm ds) :
    quotedLiteral? (c :: cs) = none := by
  have hquote : ∀ {q ds}, isCalm q = false → cs ≠ q :: ds := by
    rintro q ds hq rfl
    rw [hcs q rfl] at hq
    cases hq
  unfold quotedLiteral?
  split
  · next heq =>
    cases heq
    exact absurd hc (by decide)
  · next heq =>
    cases heq
    rw [rawRest?_of_calm hcs]
    rfl
  · next heq => exact absurd (List.cons.inj heq).2 (hquote (by decide))
  · next heq =>
    rw [rawRest?_of_calm (hmore _ (List.cons.inj heq).2)]
    rfl
  · next heq => exact absurd (List.cons.inj heq).2 (hquote (by decide))
  · next heq =>
    rw [rawRest?_of_calm (hmore _ (List.cons.inj heq).2)]
    rfl
  · next heq => exact absurd (List.cons.inj heq).2 (hquote (by decide))
  · next heq =>
    cases heq
    exact absurd hc (by decide)
  · rfl

/-- What begins with neither a digit nor a quoted literal begins with no literal. -/
theorem literal?_of_not_digit {c : Char} {cs : List Char} (hc : c.isDigit = false)
    (hquoted : quotedLiteral? (c :: cs) = none) : literal? (c :: cs) = none := by
  have hbase : splitBase (c :: cs) = (10, c :: cs) := by
    have hzero : c ≠ '0' := by
      rintro rfl
      exact absurd hc (by decide)
    unfold splitBase
    split
    · next heq => exact absurd (List.cons.inj heq).1 hzero
    · next heq => exact absurd (List.cons.inj heq).1 hzero
    · next heq => exact absurd (List.cons.inj heq).1 hzero
    · rfl
  have hhex : (isHexDigit c && decide (hexValue c < 10)) = false := by
    cases hx : isHexDigit c with
    | false => rfl
    | true => simpa using (continue_of_isHexDigit hx).2 hc
  have hdigits : intDigitsRest? 10 false (c :: cs) = none := by
    simp [intDigitsRest?, hc, hhex]
  simp [literal?, hquoted, floatRest?, hc, intRest?, hbase, hdigits]

/-- A word and what stands after it are no beginning of a quoted literal. -/
theorem not_quotedBeginning {c : Char} {cs : List Char} (hcs : BeginsCalm cs)
    (hmore : ∀ ds, cs = 'r' :: ds → BeginsCalm ds) :
    quotedBeginnings.any (fun b => (c :: cs).take b.length == b) = false := by
  rcases cs with _ | ⟨d, _ | ⟨e, es⟩⟩
  · simp [quotedBeginnings]
  · have hd := hcs d rfl
    simp only [isCalm, Bool.and_eq_true, bne_iff_ne, ne_eq] at hd
    simp [quotedBeginnings, hd]
  · have hd := hcs d rfl
    have he : d = 'r' → isCalm e = true := by
      rintro rfl
      exact hmore (e :: es) rfl e rfl
    simp only [isCalm, Bool.and_eq_true, bne_iff_ne, ne_eq] at hd he
    simp only [quotedBeginnings, List.any_cons, List.any_nil, Bool.or_false, Bool.or_eq_false_iff]
    refine ⟨?_, ?_, ?_, ?_, ?_, ?_, ?_, ?_, ?_, ?_⟩ <;> simp <;> grind

/-- **An identifier is read up to where words end.** -/
theorem leaf?_identifier {w rest : List Char} (hw : IsIdentifier w) (hrest : BeginsApart rest) :
    literal? (w ++ rest) = none ∧ leaf? (w ++ rest) = some (.ident (String.ofList w), rest) := by
  have hword : identifier? (w ++ rest) = some (w, rest) :=
    identifier?_eq_some_iff.2 ⟨rfl, hw, hrest.endsIdentifier w⟩
  have hleaf : ∀ {c cs}, w ++ rest = c :: cs → isIdentifierStart c = true →
      quotedLiteral? (c :: cs) = none →
      quotedBeginnings.any (fun b => (c :: cs).take b.length == b) = false →
      literal? (w ++ rest) = none ∧
        leaf? (w ++ rest) = some (.ident (String.ofList w), rest) := by
    intro c cs hcs hc hquoted hbegins
    obtain ⟨-, hslash, hpunct, hquote, -, hdigit, -, -⟩ := ne_of_isIdentifierStart hc
    have hliteral := literal?_of_not_digit hdigit hquoted
    have hnot : beginsPunct (c :: cs) = false := by simp [beginsPunct_cons hslash, hpunct, hquote]
    rw [hcs] at hword ⊢
    refine ⟨hliteral, ?_⟩
    simp [leaf?, hliteral, hquote, hnot, hbegins, hword]
  cases hw with
  | plain h =>
    cases w with
    | nil => cases h
    | cons c v =>
      have hcalm := beginsCalm_append h.2 hrest
      have hmore : ∀ ds, v ++ rest = 'r' :: ds → BeginsCalm ds := by
        intro ds hds
        cases v with
        | nil =>
          rw [List.nil_append] at hds
          rw [hds] at hrest
          exact absurd (hrest 'r' rfl) (by decide)
        | cons d v =>
          cases hds
          exact beginsCalm_append (fun c hc => h.2 c (List.mem_cons_of_mem _ hc)) hrest
      exact hleaf rfl h.1 (quotedLiteral?_word h.1 hcalm hmore) (not_quotedBeginning hcalm hmore)
  | @raw v h hnever =>
    cases v with
    | nil => cases h
    | cons c v =>
      have hcalm := isCalm_of_continue (isIdentifierContinue_of_isIdentifierStart h.1)
      refine hleaf rfl (by decide) ?_ ?_
      · show (rawRest? _ ('#' :: c :: (v ++ rest))).map _ = none
        rw [rawRest?_hash hcalm]
        rfl
      · simp only [isCalm, Bool.and_eq_true, bne_iff_ne, ne_eq] at hcalm
        simp [quotedBeginnings, hcalm]

theorem IsIdentifier.exists_cons {w : List Char} (h : IsIdentifier w) :
    ∃ c v, w = c :: v ∧ isIdentifierStart c = true := by
  cases h with
  | plain h =>
    cases w with
    | nil => cases h
    | cons c v => exact ⟨c, v, rfl, h.1⟩
  | raw => exact ⟨'r', _, rfl, by decide⟩

/-! ## Single tokens -/

/-- A character that is no quote and no letter of a literal begins no quoted literal. -/
theorem quotedLiteral?_of_ne {c : Char} {cs : List Char}
    (h : c ≠ '\x22' ∧ c ≠ 'r' ∧ c ≠ 'b' ∧ c ≠ 'c' ∧ c ≠ '\x27') : quotedLiteral? (c :: cs) = none := by
  obtain ⟨hdouble, hr, hb, hc, hsingle⟩ := h
  unfold quotedLiteral?
  split <;> first | rfl | next heq => cases heq; contradiction

theorem leaf?_symbol {c : Char} (hc : c ∈ typeSymbols) (cs : List Char) :
    leaf? (c :: cs) = some (.punct c (beginsPunct cs), cs) := by
  have hall : typeSymbols.all (fun c => c.isDigit == false && punctuation.contains c && c != '/' &&
      c != '\x22' && c != 'r' && c != 'b' && c != 'c' && c != '\x27') = true := by decide
  have hc := List.all_eq_true.1 hall c hc
  simp only [Bool.and_eq_true, beq_iff_eq, bne_iff_ne, ne_eq, List.contains_iff_mem] at hc
  obtain ⟨⟨⟨⟨⟨⟨⟨hdigit, hpunct⟩, hslash⟩, hdouble⟩, hr⟩, hb⟩, hletter⟩, hsingle⟩ := hc
  have hliteral : literal? (c :: cs) = none :=
    literal?_of_not_digit hdigit (quotedLiteral?_of_ne ⟨hdouble, hr, hb, hletter, hsingle⟩)
  have hbegins : beginsPunct (c :: cs) = true := by simp [beginsPunct_cons hslash, hpunct]
  simp [leaf?, hliteral, hsingle, hbegins]

/-- An identifier is no character between quotes. -/
theorem characterRest?_identifier {w rest : List Char} (hw : IsIdentifier w)
    (hrest : BeginsApart rest) : characterRest? textRules (w ++ rest) = none := by
  have hsecond : ∀ {c v}, w = c :: v → (v ++ rest).head? ≠ some '\x27' := by
    intro c v hcv
    cases hw with
    | plain h =>
      subst hcv
      intro hquote
      exact absurd (beginsCalm_append h.2 hrest _ hquote) (by decide)
    | raw =>
      cases hcv
      exact fun hquote => absurd (Option.some.inj hquote) (by decide)
  obtain ⟨c, v, rfl, hc⟩ := hw.exists_cons
  obtain ⟨-, -, -, -, hbackslash, -, -, -⟩ := ne_of_isIdentifierStart hc
  have hquote := hsecond rfl
  rw [List.cons_append]
  cases hv : v ++ rest with
  | nil => simp [characterRest?, textRules]
  | cons d ds =>
    rw [hv] at hquote
    have hd : d ≠ '\x27' := fun hd => hquote (congrArg some hd)
    simp [characterRest?, textRules, hd]

theorem leaf?_lifetime {w rest : List Char} (hw : IsIdentifier w) (hrest : BeginsApart rest) :
    leaf? ('\x27' :: w ++ rest) = some (.lifetime (String.ofList ('\x27' :: w)), rest) := by
  obtain ⟨hliteral, -⟩ := leaf?_identifier hw hrest
  have hword : identifier? (w ++ rest) = some (w, rest) :=
    identifier?_eq_some_iff.2 ⟨rfl, hw, hrest.endsIdentifier w⟩
  have hafter : apostrophe? (w ++ rest) =
      some (.lifetime (String.ofList ('\x27' :: w)), rest) := by
    have hquote : rest.head? ≠ some '\x27' := fun hc => absurd (hrest _ hc) (by decide)
    have hhash : rest.head? ≠ some '#' := fun hc => absurd (hrest _ hc) (by decide)
    simp [apostrophe?, hword, hquote, hhash, hliteral]
  have hnone : literal? ('\x27' :: (w ++ rest)) = none := by
    refine literal?_of_not_digit (by decide) ?_
    show (characterRest? textRules (w ++ rest)).map _ = none
    rw [characterRest?_identifier hw hrest]
    rfl
  show leaf? ('\x27' :: (w ++ rest)) = _
  rw [leaf?.eq_def, hnone]
  exact hafter

theorem leaf?_number {n rest : List Char} (hn : IsInteger n) (hrest : EndsInteger rest) :
    leaf? (n ++ rest) = some (.literal .int (String.ofList n), rest) := by
  simp [leaf?, hn.again rest hrest]

/-! ## Tokens after one another -/

theorem skipSpace_blank (cs : List Char) : skipSpace (' ' :: cs) = skipSpace cs := rfl

theorem tokensUpTo_blank (fuel : Nat) (openings : List Delimiter) (cs : List Char) :
    tokensUpTo fuel openings (' ' :: cs) = tokensUpTo fuel openings cs := by
  cases fuel with
  | zero => rfl
  | succ fuel => rw [tokensUpTo, tokensUpTo, skipSpace_blank]

theorem TokenStep.of_leaf {c : Char} {cs rest : List Char} {t : Token} (hspace : isSpace c = false)
    (hslash : c ≠ '/') (hopen : opened? c = none) (hclose : closed? c = none)
    (hleaf : leaf? (c :: cs) = some (t, rest)) (openings : List Delimiter) :
    TokenStep openings (skipSpace (c :: cs)) [t] openings rest := by
  obtain ⟨hskip, hdoc⟩ := begins_token hspace hslash cs
  have hparen : c ≠ '(' := by
    rintro rfl
    cases hopen
  rw [hskip]
  exact .leaf hdoc (not_placeholder_of_ne hparen cs) hopen hclose hleaf

theorem TokenStep.of_opening (d : Delimiter) {cs : List Char} (hcs : ∀ c ∈ cs.head?, c ≠ '/')
    (openings : List Delimiter) :
    TokenStep openings (skipSpace (d.chars.1 :: cs)) [.opening d] (d :: openings) cs := by
  have hplaceholder : ((d.chars.1 :: cs).take placeholderText.length == placeholderText) = false := by
    rw [← Bool.not_eq_true, beq_iff_eq]
    intro heq
    cases cs with
    | nil => exact absurd (List.cons.inj heq).2 (by decide)
    | cons c cs => exact hcs c rfl (List.cons.inj (List.cons.inj heq).2).1
  have hfacts : isSpace d.chars.1 = false ∧ d.chars.1 ≠ '/' ∧ opened? d.chars.1 = some d := by
    cases d <;> decide
  obtain ⟨hspace, hslash, hopen⟩ := hfacts
  obtain ⟨hskip, hdoc⟩ := begins_token hspace hslash cs
  rw [hskip]
  exact .opening hdoc hplaceholder hopen

theorem TokenStep.of_closing (d : Delimiter) (cs : List Char) (openings : List Delimiter) :
    TokenStep (d :: openings) (skipSpace (d.chars.2 :: cs)) [.closing d] openings cs := by
  have hfacts : isSpace d.chars.2 = false ∧ d.chars.2 ≠ '/' ∧ d.chars.2 ≠ '(' ∧
      opened? d.chars.2 = none ∧ closed? d.chars.2 = some d := by
    cases d <;> decide
  obtain ⟨hspace, hslash, hparen, hopen, hclose⟩ := hfacts
  obtain ⟨hskip, hdoc⟩ := begins_token hspace hslash cs
  rw [hskip]
  exact .closing hdoc (not_placeholder_of_ne hparen cs) hopen hclose

/-! ## The tokens of a layout -/

namespace Laid

variable {openings : List Delimiter} {ps : List Piece}

/-- What the letters of the pieces begin with. -/
theorem head_letters (h : Laid openings ps) :
    (∀ c ∈ (letters ps).head?, c ≠ '/') ∧ beginsPunct (letters ps) = meets ps := by
  have hplain : ∀ {c cs}, c ≠ '/' → c ∉ punctuation → c ≠ '\x27' →
      (∀ d ∈ (c :: cs).head?, d ≠ '/') ∧ beginsPunct (c :: cs) = false := by
    intro c cs hslash hpunct hquote
    refine ⟨fun d hd => Option.some.inj hd ▸ hslash, ?_⟩
    simp [beginsPunct_cons hslash, hpunct, hquote]
  cases ps with
  | nil => exact ⟨fun c hc => (by cases hc), rfl⟩
  | cons p ps =>
    rw [letters_cons]
    cases p with
    | word w =>
      obtain ⟨c, v, hw, hc⟩ := h.1.exists_cons
      obtain ⟨-, hslash, hpunct, hquote, -⟩ := ne_of_isIdentifierStart hc
      rw [Piece.letters, hw]
      exact hplain hslash hpunct hquote
    | lifetime l =>
      obtain ⟨⟨w, -, hl⟩, -⟩ := h
      rw [Piece.letters, hl]
      exact ⟨fun c hc => Option.some.inj hc ▸ (by decide), rfl⟩
    | number n =>
      obtain ⟨c, hc, hdigit⟩ := (Option.any_eq_true _ _).1 h.1.head
      obtain ⟨v, hv⟩ := List.head?_eq_some_iff.1 hc
      have hfacts := ne_of_isDigit hdigit
      rw [Piece.letters, hv]
      exact hplain hfacts.2.1 hfacts.2.2.1 hfacts.2.2.2.1
    | symbol c =>
      obtain ⟨hc, -⟩ := h
      have hall : typeSymbols.all (fun c => punctuation.contains c && c != '/') = true := by decide
      have hfacts := List.all_eq_true.1 hall c hc
      simp only [Bool.and_eq_true, bne_iff_ne, ne_eq, List.contains_iff_mem] at hfacts
      refine ⟨fun d hd => Option.some.inj hd ▸ hfacts.2, ?_⟩
      show beginsPunct (c :: letters ps) = true
      simp [beginsPunct_cons hfacts.2, hfacts.1]
    | blank => exact hplain (by decide) (by decide) (by decide)
    | opening d => cases d <;> exact hplain (by decide) (by decide) (by decide)
    | closing d => cases d <;> exact hplain (by decide) (by decide) (by decide)

theorem beginsApart (h : Laid openings ps) (hends : EndsWords ps) : BeginsApart (letters ps) := by
  cases ps with
  | nil => exact fun c hc => (by cases hc)
  | cons p ps =>
    have hdivides := hends p rfl
    intro c hc
    cases p with
    | word w => cases hdivides
    | lifetime l => cases hdivides
    | number n => cases hdivides
    | symbol d =>
      cases hc
      exact List.mem_append_right _ h.1
    | blank =>
      cases hc
      decide
    | opening d =>
      cases hc
      cases d <;> decide
    | closing d =>
      cases hc
      cases d <;> decide

theorem endsInteger (h : ∃ p ∈ ps.head?, p.endsNumber = true) : EndsInteger (letters ps) := by
  obtain ⟨p, hp, hends⟩ := h
  obtain ⟨qs, rfl⟩ := List.head?_eq_some_iff.1 hp
  cases p with
  | symbol c =>
    refine ⟨c, letters qs, rfl, ?_⟩
    simp only [Piece.endsNumber, Bool.or_eq_true, beq_iff_eq] at hends
    rcases hends with rfl | rfl <;> decide
  | closing d =>
    have hd : d = .bracket := eq_of_beq hends
    exact ⟨']', letters qs, by rw [hd]; rfl, by decide⟩
  | _ => cases hends

/-- **The first piece of a layout is one step of lexing**, unless it is a blank. -/
theorem exists_step {p : Piece} (h : Laid openings (p :: ps)) (hp : p ≠ .blank) :
    ∃ head openings', TokenStep openings (skipSpace (letters (p :: ps))) head openings' (letters ps) ∧
      p.letters ≠ [] ∧ Laid openings' ps ∧ tokens (p :: ps) = head ++ tokens ps := by
  rw [letters_cons]
  -- a token that is no bracket leaves the open delimiters as they are
  have hleaf : ∀ {c v t}, p.letters = c :: v → isSpace c = false → c ≠ '/' → opened? c = none →
      closed? c = none → leaf? (p.letters ++ letters ps) = some (t, letters ps) →
      Laid openings ps → tokens (p :: ps) = t :: tokens ps →
      ∃ head openings', TokenStep openings (skipSpace (p.letters ++ letters ps)) head openings'
        (letters ps) ∧ p.letters ≠ [] ∧ Laid openings' ps ∧ tokens (p :: ps) = head ++ tokens ps := by
    intro c v t hcv hspace hslash hopen hclose ht hps htokens
    rw [hcv, List.cons_append] at ht ⊢
    exact ⟨[t], openings, .of_leaf hspace hslash hopen hclose ht openings, List.cons_ne_nil _ _, hps,
      htokens⟩
  cases p with
  | word w =>
    obtain ⟨hw, hends, hps⟩ := h
    obtain ⟨c, v, hcv, hc⟩ := hw.exists_cons
    obtain ⟨hspace, hslash, -, -, -, -, hopen, hclose⟩ := ne_of_isIdentifierStart hc
    have ht := (leaf?_identifier hw (hps.beginsApart hends)).2
    rw [String.ofList_toList] at ht
    exact hleaf hcv hspace hslash hopen hclose ht hps rfl
  | lifetime l =>
    obtain ⟨⟨w, hw, hl⟩, hends, hps⟩ := h
    have ht := leaf?_lifetime hw (hps.beginsApart hends)
    rw [← hl, String.ofList_toList] at ht
    exact hleaf hl (by decide) (by decide) (by decide) (by decide) ht hps rfl
  | number n =>
    obtain ⟨hn, hends, hps⟩ := h
    obtain ⟨c, hc, hdigit⟩ := (Option.any_eq_true _ _).1 hn.head
    obtain ⟨v, hv⟩ := List.head?_eq_some_iff.1 hc
    obtain ⟨hspace, hslash, -, -, hopen, hclose⟩ := ne_of_isDigit hdigit
    have ht := leaf?_number hn (Laid.endsInteger hends)
    rw [String.ofList_toList] at ht
    exact hleaf hv hspace hslash hopen hclose ht hps rfl
  | symbol c =>
    obtain ⟨hc, hps⟩ := h
    have hall : typeSymbols.all (fun c => isSpace c == false && c != '/' && opened? c == none &&
        closed? c == none) = true := by decide
    have hfacts := List.all_eq_true.1 hall c hc
    simp only [Bool.and_eq_true, bne_iff_ne, ne_eq, beq_iff_eq] at hfacts
    obtain ⟨⟨⟨hspace, hslash⟩, hopen⟩, hclose⟩ := hfacts
    have ht := leaf?_symbol hc (letters ps)
    rw [hps.head_letters.2] at ht
    exact hleaf rfl hspace hslash hopen hclose ht hps rfl
  | blank => exact absurd rfl hp
  | opening d =>
    have hps : Laid (d :: openings) ps := h
    exact ⟨[.opening d], d :: openings, .of_opening d hps.head_letters.1 openings,
      List.cons_ne_nil _ _, hps, rfl⟩
  | closing d =>
    obtain ⟨outer, rfl, hps⟩ := h
    exact ⟨[.closing d], outer, .of_closing d (letters ps) outer, List.cons_ne_nil _ _, hps, rfl⟩

end Laid

/-- **The tokens of a text that is laid out in pieces are those of the pieces.** -/
theorem tokensUpTo_letters {openings : List Delimiter} {ps : List Piece} (h : Laid openings ps)
    {fuel : Nat} (hfuel : (letters ps).length < fuel) :
    tokensUpTo fuel openings (letters ps) = some (tokens ps) := by
  induction ps generalizing openings fuel with
  | nil =>
    cases h
    cases fuel with
    | zero => cases hfuel
    | succ fuel => exact tokensUpTo_of_end rfl
  | cons p ps ih =>
    by_cases hp : p = .blank
    · subst hp
      show tokensUpTo fuel openings (' ' :: letters ps) = _
      rw [tokensUpTo_blank]
      exact ih h (Nat.lt_of_succ_lt hfuel)
    · obtain ⟨head, openings', hstep, hne, hps, htokens⟩ := h.exists_step hp
      rw [letters_cons, List.length_append] at hfuel
      have hpos := List.length_pos_iff.2 hne
      cases fuel with
      | zero => cases hfuel
      | succ fuel => rw [htokens, tokensUpTo_of_step hstep (ih hps (by omega))]

theorem tokens?_letters {ps : List Piece} (h : Laid [] ps) :
    tokens? (letters ps) = some (tokens ps) :=
  tokensUpTo_letters h (Nat.lt_succ_self _)

end Mapwright.Source
