import Mapwright.Proofs.Running
import Mapwright.Proofs.Writing

/-!
# Layouts of types

A layout of a type is a row of pieces from which the grammar, if it goes deep
enough, reads the type, whatever comes after it that can stand after a type.
-/

namespace Mapwright.Source

open Token Parse Grammar

/-! ## Where types begin and end -/

/-- Whether the spelling of a type may be next. -/
def startsType (ts : List Token) : Bool :=
  opens .paren ts || opens .bracket ts || startsAnyOf ["fn", "dyn", "impl"] ts ||
    startsPathWord ts || startsWith [':', ':'] ts || startsWith ['*'] ts || startsWith ['&'] ts ||
    startsWith ['!'] ts

/-- Whether a type may end here, where it may be a sum of bounds or not. -/
def endsType (plus : Bool) (ts : List Token) : Bool :=
  atEnd ts || startsWith [','] ts || startsWith [';'] ts || startsWith ['>'] ts ||
    startsWith ['='] ts || startsColon ts || (!plus && startsWith ['+'] ts)

@[simp] theorem tokens_nil : tokens [] = [] := rfl

@[simp] theorem tokens_word (w : String) (ps : List Piece) :
    tokens (.word w :: ps) = .ident w :: tokens ps := rfl

@[simp] theorem tokens_lifetime (l : String) (ps : List Piece) :
    tokens (.lifetime l :: ps) = .lifetime l :: tokens ps := rfl

@[simp] theorem tokens_number (n : String) (ps : List Piece) :
    tokens (.number n :: ps) = .literal .int n :: tokens ps := rfl

@[simp] theorem tokens_symbol (c : Char) (ps : List Piece) :
    tokens (.symbol c :: ps) = .punct c (meets ps) :: tokens ps := rfl

@[simp] theorem tokens_blank (ps : List Piece) : tokens (.blank :: ps) = tokens ps := rfl

@[simp] theorem tokens_opening (d : Delimiter) (ps : List Piece) :
    tokens (.opening d :: ps) = .opening d :: tokens ps := rfl

@[simp] theorem tokens_closing (d : Delimiter) (ps : List Piece) :
    tokens (.closing d :: ps) = .closing d :: tokens ps := rfl

@[simp] theorem length_tokens_append (ps qs : List Piece) :
    (tokens (ps ++ qs)).length = (tokens ps).length + (tokens qs).length := by
  induction ps with
  | nil => simp
  | cons p ps ih => cases p <;> simp [ih] <;> omega

@[simp] theorem startsWith_punct (c d : Char) (joint : Bool) (ts : List Token) :
    startsWith [c] (.punct d joint :: ts) = (c == d) := rfl

theorem startsWith_pair {c d : Char} {ts : List Token} (h : startsWith [c, d] ts = true) :
    ∃ ts', ts = .punct c true :: ts' ∧ startsWith [d] ts' = true := by
  cases ts with
  | nil => cases h
  | cons t ts =>
    cases t with
    | punct e joint =>
      cases joint with
      | false => cases h
      | true =>
        have h : (c == e && startsWith [d] ts) = true := h
        rw [Bool.and_eq_true, beq_iff_eq] at h
        exact ⟨ts, by rw [h.1], h.2⟩
    | _ => cases h

/-- The number of tokens of some pieces. -/
def size (ps : List Piece) : Nat := (tokens ps).length

@[simp] theorem size_nil : size [] = 0 := rfl

@[simp] theorem size_word (w : String) (ps : List Piece) : size (.word w :: ps) = size ps + 1 := rfl

@[simp] theorem size_symbol (c : Char) (ps : List Piece) :
    size (.symbol c :: ps) = size ps + 1 := rfl

@[simp] theorem size_blank (ps : List Piece) : size (.blank :: ps) = size ps := rfl

@[simp] theorem size_opening (d : Delimiter) (ps : List Piece) :
    size (.opening d :: ps) = size ps + 1 := rfl

@[simp] theorem size_closing (d : Delimiter) (ps : List Piece) :
    size (.closing d :: ps) = size ps + 1 := rfl

@[simp] theorem size_append (ps qs : List Piece) : size (ps ++ qs) = size ps + size qs :=
  length_tokens_append ps qs

/-- Punctuation of one character that is next, told by the character. -/
theorem startsWith_one_iff {c : Char} {ts : List Token} :
    startsWith [c] ts = true ↔ ∃ joint ts', ts = .punct c joint :: ts' := by
  constructor
  · intro h
    cases ts with
    | nil => cases h
    | cons t ts =>
      cases t with
      | punct d joint =>
        rw [startsWith_punct, beq_iff_eq] at h
        exact ⟨joint, ts, by rw [h]⟩
      | _ => cases h
  · rintro ⟨joint, ts', rfl⟩
    simp

/-- What the tokens after a type are not. -/
structure EndsType (plus : Bool) (ts : List Token) : Prop where
  angle : startsWith ['<'] ts = false
  separator : startsWith [':', ':'] ts = false
  paren : opens .paren ts = false
  bang : startsWith ['!'] ts = false
  arrow : startsWith ['-', '>'] ts = false
  sum : (plus && startsWith ['+'] ts) = false

theorem EndsType.of_endsType {plus : Bool} {ts : List Token} (h : endsType plus ts = true) :
    EndsType plus ts := by
  cases ts with
  | nil => cases plus <;> exact ⟨rfl, rfl, rfl, rfl, rfl, rfl⟩
  | cons t ts =>
    cases t with
    | closing d => cases plus <;> exact ⟨rfl, rfl, rfl, rfl, rfl, rfl⟩
    | punct c joint =>
      simp only [endsType, atEnd, startsColon, startsWith_punct, Bool.or_eq_true, Bool.and_eq_true,
        Bool.not_eq_true', beq_iff_eq, Bool.false_eq_true, false_or] at h
      constructor <;> rcases h with ((((rfl | rfl) | rfl) | rfl) | ⟨rfl, hcolons⟩) | ⟨rfl, rfl⟩ <;>
        cases joint <;> simp_all [startsWith, opens]
    | _ => simp [endsType, atEnd, startsWith, startsColon] at h

theorem startsWith_pair_of_ne {c d e : Char} (h : c ≠ e) (joint : Bool) (ts : List Token) :
    startsWith [c, d] (.punct e joint :: ts) = false := by
  refine Bool.eq_false_iff.2 fun hs => ?_
  obtain ⟨ts', heq, -⟩ := startsWith_pair hs
  cases heq
  exact h rfl

/-- Of the keywords only a few begin a type. -/
theorem ne_keyword_of_startsType {w k : String} {ts : List Token}
    (h : startsType (.ident w :: ts) = true) (hk : isKeyword k = true)
    (hother : k ∉ ["fn", "dyn", "impl"] ++ rootWords) : w ≠ k := by
  rintro rfl
  have h : (["fn", "dyn", "impl"].contains w || (!isKeyword w || rootWords.contains w)) = true := by
    simpa [startsType, startsPathWord, startsName, startsAnyOf, opens, startsWith] using h
  rw [hk, Bool.or_eq_true, Bool.not_true, Bool.false_or, List.contains_iff_mem,
    List.contains_iff_mem] at h
  exact hother (List.mem_append.2 h)

/-- What the tokens of a type do not begin with. -/
structure BeginsType (ts : List Token) : Prop where
  lifetime : startsLifetime ts = false
  const : startsConst ts = false
  atEnd : atEnd ts = false
  close : startsWith ['>'] ts = false
  relaxed : startsWith ['?'] ts = false
  hash : startsWith ['#'] ts = false
  point : startsWith ['.'] ts = false
  equal : startsWith ['='] ts = false
  angle : startsWith ['<'] ts = false
  keyword : ∀ k ∈ ["mut", "const", "_", "use", "for"], startsKeyword k ts = false

theorem BeginsType.of_startsType {ts : List Token} (h : startsType ts = true) : BeginsType ts := by
  cases ts with
  | nil => cases h
  | cons t ts =>
    cases t with
    | ident w =>
      have hne : ∀ k, isKeyword k = true → k ∉ ["fn", "dyn", "impl"] ++ rootWords → w ≠ k :=
        fun k => ne_keyword_of_startsType h
      refine ⟨rfl, ?_, rfl, rfl, rfl, rfl, rfl, rfl, rfl, fun k hk => ?_⟩
      · simp [startsConst, startsLiteral, opens, hne "true" (by decide) (by decide),
          hne "false" (by decide) (by decide)]
      · have hkeyword : ∀ k ∈ ["mut", "const", "_", "use", "for"],
            isKeyword k = true ∧ k ∉ ["fn", "dyn", "impl"] ++ rootWords := by decide
        exact beq_false_of_ne (hne k (hkeyword k hk).1 (hkeyword k hk).2)
    | punct c joint =>
      have hc : c = ':' ∨ c = '*' ∨ c = '&' ∨ c = '!' := by
        by_contra hc
        simp only [not_or] at hc
        obtain ⟨hcolon, hstar, hand, hbang⟩ := hc
        simp [startsType, startsPathWord, startsName, startsAnyOf, opens,
          startsWith_pair_of_ne (Ne.symm hcolon), Ne.symm hstar, Ne.symm hand, Ne.symm hbang] at h
      have hconst : startsConst (.punct c joint :: ts) = false := by
        rcases hc with rfl | rfl | rfl | rfl <;> simp [startsConst, startsLiteral, opens]
      rcases hc with rfl | rfl | rfl | rfl <;>
        exact ⟨rfl, hconst, rfl, rfl, rfl, rfl, rfl, rfl, rfl, fun _ _ => rfl⟩
    | opening d =>
      cases d with
      | brace => cases h
      | _ => exact ⟨rfl, rfl, rfl, rfl, rfl, rfl, rfl, rfl, rfl, fun _ _ => rfl⟩
    | _ => cases h

/-! ## Rows of pieces -/

theorem size_le_joinPieces (sep : List Piece) {pss : List (List Piece)} :
    ∀ ps ∈ pss, size ps ≤ size (joinPieces sep pss) := by
  induction pss with
  | nil => exact List.forall_mem_nil _
  | cons qs pss ih =>
    cases pss with
    | nil => simp [joinPieces]
    | cons rs pss =>
      refine List.forall_mem_cons.2 ⟨by simp [joinPieces], fun ps hps => ?_⟩
      have hle := ih ps hps
      simp only [joinPieces, size_append] at hle ⊢
      omega

/-- **Values with commas between them are read one after the other.** -/
theorem run_separated_pieces {α : Type} {p : Parse α} {stop : List Token → Bool}
    {fin : List Piece} {R : α → List Piece → Prop} {as : List α} {pss : List (List Piece)}
    (hcomma : ∀ ps, stop (tokens (.symbol ',' :: ps)) = false) (hfin : stop (tokens fin) = true)
    (hitem : ∀ a, ∀ ps ∈ pss, R a ps → ∀ qs, (qs = fin ∨ ∃ rest, qs = .symbol ',' :: rest) →
      stop (tokens (ps ++ qs)) = false ∧ p.run (tokens (ps ++ qs)) = some (a, tokens qs))
    (h : List.Forall₂ R as pss) :
    (separated stop [','] p).run (tokens (joinPieces commaPieces pss ++ fin)) =
      some (as, tokens fin) := by
  induction h with
  | nil => exact run_separated_nil hfin
  | @cons a ps as pss ha has ih =>
    have ih := ih fun a ps hps => hitem a ps (List.mem_cons_of_mem _ hps)
    cases has with
    | nil =>
      obtain ⟨hstop, hrun⟩ := hitem a ps List.mem_cons_self ha fin (Or.inl rfl)
      exact run_separated_last hstop hrun hfin
    | @cons b qs bs qss hb hbs =>
      obtain ⟨hstop, hrun⟩ := hitem a ps List.mem_cons_self ha
        (commaPieces ++ (joinPieces commaPieces (qs :: qss) ++ fin)) (Or.inr ⟨_, rfl⟩)
      rw [joinPieces, List.append_assoc, List.append_assoc]
      · refine run_separated_cons hstop hrun (hcomma _) rfl ?_ ih
        show (tokens (joinPieces commaPieces (qs :: qss) ++ fin)).length < _
        simp [commaPieces]
        omega
      · exact List.cons_ne_nil _ _

/-- **Values with plus signs between them are read one after the other.** -/
theorem run_chained_pieces {α : Type} {p : Parse α} {stop : List Token → Bool}
    {fin : List Piece} {R : α → List Piece → Prop} {as : List α} {pss : List (List Piece)}
    (hne : pss ≠ []) (hfin : startsWith ['+'] (tokens fin) = false)
    (hitem : ∀ a, ∀ ps ∈ pss, R a ps → ∀ qs, (qs = fin ∨ ∃ rest, qs = plusPieces ++ rest) →
      stop (tokens (ps ++ qs)) = false ∧ p.run (tokens (ps ++ qs)) = some (a, tokens qs))
    (h : List.Forall₂ R as pss) :
    (chained stop ['+'] p).run (tokens (joinPieces plusPieces pss ++ fin)) =
      some (as, tokens fin) := by
  induction h with
  | nil => exact absurd rfl hne
  | @cons a ps as pss ha has ih =>
    have ih := fun hne => ih hne fun a ps hps => hitem a ps (List.mem_cons_of_mem _ hps)
    cases has with
    | nil =>
      obtain ⟨hstop, hrun⟩ := hitem a ps List.mem_cons_self ha fin (Or.inl rfl)
      exact run_chained_last hstop hrun hfin
    | @cons b qs bs qss hb hbs =>
      obtain ⟨hstop, hrun⟩ := hitem a ps List.mem_cons_self ha
        (plusPieces ++ (joinPieces plusPieces (qs :: qss) ++ fin)) (Or.inr ⟨_, rfl⟩)
      rw [joinPieces, List.append_assoc, List.append_assoc]
      · refine run_chained_cons hstop hrun rfl ?_ (ih (List.cons_ne_nil _ _))
        show (tokens (joinPieces plusPieces (qs :: qss) ++ fin)).length < _
        simp [plusPieces]
        omega
      · exact List.cons_ne_nil _ _

/-! ## Types -/

def TypeExpr.isParen : TypeExpr → Bool
  | .paren _ => true
  | _ => false

/-- Whether tokens may follow a type: those that end one, and a separator after parentheses. -/
def MayFollow (plus : Bool) (t : TypeExpr) (ts : List Token) : Prop :=
  endsType plus ts = true ∨ (t.isParen = true ∧ startsWith [':', ':'] ts = true)

theorem MayFollow.endsType {plus : Bool} {t : TypeExpr} {ts : List Token} (h : MayFollow plus t ts)
    (ht : t.isParen = false) : endsType plus ts = true := by
  rcases h with h | ⟨hparen, -⟩
  · exact h
  · rw [ht] at hparen
    cases hparen

theorem endsType_withoutSum {plus : Bool} {ts : List Token} (h : endsType plus ts = true) :
    endsType false ts = true := by
  cases plus with
  | false => exact h
  | true => simp_all [Source.endsType]

/-- Whether a word that may name a parameter, and a colon after it, is next. -/
def startsNamed (ts : List Token) : Bool :=
  startsVariadic ts || ((startsName ts || startsKeyword "_" ts || startsKeyword "self" ts) &&
    startsColon (afterTree ts))

/-- From the pieces a type is read, where it may be a sum of bounds (`plus`) or not. -/
structure TypeExpr.LaysOut (plus : Bool) (t : TypeExpr) (ps : List Piece) : Prop where
  starts : ∀ qs, startsType (tokens (ps ++ qs)) = true
  unnamed : ∀ qs, startsWith [':'] (tokens qs) = false → startsNamed (tokens (ps ++ qs)) = false
  read : ∀ n qs, size ps ≤ n → MayFollow plus t (tokens qs) →
    ∃ b, (typeRule (upTo n) plus).run (tokens (ps ++ qs)) = some ((t, b), tokens qs)

theorem startsType_symbol {c : Char} (hc : c ∈ ['*', '&', '!']) {joint : Bool} {ts : List Token} :
    startsType (.punct c joint :: ts) = true := by
  simp only [List.mem_cons, List.not_mem_nil, or_false] at hc
  rcases hc with rfl | rfl | rfl <;> simp [startsType]

theorem startsNamed_punct {c : Char} (hc : c ≠ '.') {joint : Bool} {ts : List Token} :
    startsNamed (.punct c joint :: ts) = false := by
  have hdots : startsWith ['.', '.', '.'] (.punct c joint :: ts) = false := by
    cases joint
    · rfl
    · simp [startsWith, Ne.symm hc]
  simp [startsNamed, startsVariadic, hdots, startsName, startsKeyword]

/-- A rule for a type that is no bound. -/
theorem run_typeRule_of {g : Grammar} {plus : Bool} {p : Parse TypeExpr} {ts rest : List Token}
    {t : TypeExpr} (hrule : (typeRule g plus).run ts = (do return (← p, none)).run ts)
    (h : p.run ts = some (t, rest)) : ∃ b, (typeRule g plus).run ts = some ((t, b), rest) := by
  refine ⟨none, ?_⟩
  rw [hrule, run_bind_of h]
  rfl

theorem run_lifetime?_pieces {l : Option String} {ps : List Piece}
    (hps : startsLifetime (tokens ps) = false) :
    lifetime?.run (tokens (lifetimePieces l ++ ps)) = some (l, tokens ps) := by
  cases l with
  | none => simp [lifetimePieces, lifetime?, hps]
  | some l => rfl

theorem run_keyword?_pieces {w : String} {ps : List Piece}
    (hps : startsKeyword w (tokens ps) = false) (written : Bool) :
    (keyword? w).run (tokens (wordPieces written w ++ ps)) = some (written, tokens ps) := by
  cases written with
  | false => simp [wordPieces, keyword?, hps]
  | true => simp [wordPieces, keyword?, keyword, demand, startsKeyword]

namespace TypeExpr.LaysOut

variable {plus : Bool} {t : TypeExpr} {ps : List Piece}

theorem run_wholeType (h : LaysOut true t ps) {n : Nat} (qs : List Piece) (hn : size ps < n)
    (hqs : endsType true (tokens qs) = true) :
    (wholeType (upTo n)).run (tokens (ps ++ qs)) = some (t, tokens qs) := by
  obtain ⟨n, rfl⟩ := Nat.exists_eq_succ_of_ne_zero (Nat.ne_of_gt (Nat.zero_lt_of_lt hn))
  obtain ⟨b, hb⟩ := h.read n qs (Nat.le_of_lt_succ hn) (Or.inl hqs)
  have htype : ((upTo (n + 1)).type true).run (tokens (ps ++ qs)) = some ((t, b), tokens qs) := hb
  rw [wholeType, run_bind_of htype]
  rfl

theorem run_plainType (h : LaysOut false t ps) {n : Nat} {qs : List Piece} (hn : size ps < n)
    (hqs : endsType false (tokens qs) = true) :
    (plainType (upTo n)).run (tokens (ps ++ qs)) = some (t, tokens qs) := by
  obtain ⟨n, rfl⟩ := Nat.exists_eq_succ_of_ne_zero (Nat.ne_of_gt (Nat.zero_lt_of_lt hn))
  obtain ⟨b, hb⟩ := h.read n qs (Nat.le_of_lt_succ hn) (Or.inl hqs)
  have htype : ((upTo (n + 1)).type false).run (tokens (ps ++ qs)) = some ((t, b), tokens qs) := hb
  rw [plainType, run_bind_of htype]
  rfl

theorem reference {lifetime : Option String} {mutable : Bool} (h : LaysOut false t ps) :
    LaysOut plus (.reference lifetime mutable t)
      (.symbol '&' :: (lifetimePieces lifetime ++ (wordPieces mutable "mut" ++ ps))) := by
  refine ⟨fun qs => startsType_symbol (by decide), fun qs _ => startsNamed_punct (by decide),
    fun n qs hn hqs => ?_⟩
  have hbegins := BeginsType.of_startsType (h.starts qs)
  have hmut := run_keyword?_pieces (hbegins.keyword "mut" (by decide)) mutable
  have hlife : lifetime?.run (tokens (lifetimePieces lifetime ++ (wordPieces mutable "mut" ++
      (ps ++ qs)))) = some (lifetime, tokens (wordPieces mutable "mut" ++ (ps ++ qs))) := by
    refine run_lifetime?_pieces ?_
    cases mutable with
    | false => exact hbegins.lifetime
    | true => rfl
  have htarget := h.run_plainType (n := n) (by simp at hn; omega) (endsType_withoutSum (hqs.endsType rfl))
  simp only [List.cons_append, List.append_assoc, tokens_symbol]
  generalize meets _ = joint
  refine run_typeRule_of (p := referenceType (upTo n)) (by cases joint <;> rfl) ?_
  rw [referenceType, run_symbol_punct, run_bind_of hlife, run_bind_of hmut, run_bind_of htarget]
  rfl

theorem pointer {mutable : Bool} (h : LaysOut false t ps) :
    LaysOut plus (.pointer mutable t)
      (.symbol '*' :: .word (if mutable then "mut" else "const") :: .blank :: ps) := by
  refine ⟨fun qs => startsType_symbol (by decide), fun qs _ => startsNamed_punct (by decide),
    fun n qs hn hqs => ?_⟩
  have htarget := h.run_plainType (n := n) (by simp at hn; omega)
    (endsType_withoutSum (hqs.endsType rfl))
  refine run_typeRule_of (p := pointerType (upTo n)) rfl ?_
  rw [List.cons_append, tokens_symbol, pointerType, run_symbol_punct, run_keyword?_bind]
  cases mutable with
  | false =>
    show (keyword "const" >>= _).run (.ident "const" :: tokens (ps ++ qs)) = _
    rw [run_keyword_ident, run_bind_of htarget]
    rfl
  | true =>
    show (plainType (upTo n) >>= _).run (tokens (ps ++ qs)) = _
    rw [run_bind_of htarget]
    rfl

theorem never : LaysOut plus .never [.symbol '!'] := by
  refine ⟨fun qs => startsType_symbol (by decide), fun qs _ => startsNamed_punct (by decide),
    fun n qs hn hqs => ⟨none, ?_⟩⟩
  show (typeRule (upTo n) plus).run (.punct '!' (meets qs) :: tokens qs) = _
  cases meets qs <;> rfl

theorem slice (h : LaysOut true t ps) :
    LaysOut plus (.slice t) (.opening .bracket :: (ps ++ [.closing .bracket])) := by
  refine ⟨fun qs => rfl, fun qs _ => rfl, fun n qs hn hqs => ?_⟩
  have helem := h.run_wholeType (n := n) (.closing .bracket :: qs) (by simp at hn; omega) rfl
  simp only [List.cons_append, List.append_assoc, List.nil_append, tokens_opening]
  refine run_typeRule_of (p := bracketType (upTo n)) rfl (run_group ?_)
  rw [run_bind_of helem]
  rfl

theorem run_type (h : LaysOut true t ps) {n : Nat} (qs : List Piece) (hn : size ps < n)
    (hqs : endsType true (tokens qs) = true) :
    ∃ b, ((upTo n).type true).run (tokens (ps ++ qs)) = some ((t, b), tokens qs) := by
  obtain ⟨n, rfl⟩ := Nat.exists_eq_succ_of_ne_zero (Nat.ne_of_gt (Nat.zero_lt_of_lt hn))
  exact h.read n qs (Nat.le_of_lt_succ hn) (Or.inl hqs)

theorem paren (h : LaysOut true t ps) :
    LaysOut plus (.paren t) (.opening .paren :: (ps ++ [.closing .paren])) := by
  refine ⟨fun qs => rfl, fun qs _ => rfl, fun n qs hn hqs => ?_⟩
  have hsum : (plus && startsWith ['+'] (tokens qs)) = false := by
    rcases hqs with hqs | ⟨-, hqs⟩
    · exact (EndsType.of_endsType hqs).sum
    · obtain ⟨ts, hts, -⟩ := startsWith_pair hqs
      rw [hts]
      simp
  have hbegins := BeginsType.of_startsType (h.starts (.closing .paren :: qs))
  obtain ⟨b, hb⟩ := h.run_type (n := n) (.closing .paren :: qs) (by simp at hn; omega) rfl
  have hinside : (enclosed (upTo n)).run (tokens (ps ++ .closing .paren :: qs)) =
      some (.type t b, tokens (.closing .paren :: qs)) := by
    rw [enclosed, run_next_bind, if_neg (by simp [hbegins.atEnd]), run_next_bind,
      if_neg (by simp [hbegins.lifetime]), run_next_bind, if_neg (by simp [hbegins.relaxed]),
      run_bind_of hb]
    rfl
  have hgroup := run_group (d := .paren) hinside
  simp only [List.cons_append, List.append_assoc, List.nil_append, tokens_opening]
  refine ⟨none, ?_⟩
  show (parenType (upTo n) plus).run _ = _
  rw [parenType, run_bind_of hgroup]
  cases b with
  | none => rfl
  | some b =>
    show (Parse.next _ >>= _).run _ = _
    rw [run_next_bind, hsum]
    rfl

/-! ### Types after one another -/

variable {ts : List TypeExpr} {pss : List (List Piece)}

theorem run_commaList (h : List.Forall₂ (LaysOut true) ts pss) {n : Nat}
    (hn : ∀ ps ∈ pss, size ps < n) (d : Delimiter) (qs : List Piece) :
    (commaList (wholeType (upTo n))).run (tokens (joinPieces commaPieces pss ++ .closing d :: qs)) =
      some (ts, tokens (.closing d :: qs)) := by
  refine run_separated_pieces (fun _ => rfl) rfl (fun t ps hps ht rest hrest => ?_) h
  have hends : endsType true (tokens rest) = true := by
    rcases hrest with rfl | ⟨rest, rfl⟩
    · rfl
    · simp [endsType]
  exact ⟨(BeginsType.of_startsType (ht.starts rest)).atEnd, ht.run_wholeType rest (hn ps hps) hends⟩

theorem size_le_tuplePieces : ∀ ps ∈ pss, size ps ≤ size (tuplePieces pss) := by
  intro ps hps
  unfold tuplePieces
  split
  · rw [List.mem_singleton.1 hps]
    simp
  · exact size_le_joinPieces commaPieces ps hps

theorem run_enclosed_tuple (h : List.Forall₂ (LaysOut true) ts pss) {n : Nat}
    (hn : ∀ ps ∈ pss, size ps < n) (qs : List Piece) :
    (enclosed (upTo n)).run (tokens (tuplePieces pss ++ .closing .paren :: qs)) =
      some (.tuple ts, tokens (.closing .paren :: qs)) := by
  cases h with
  | nil => rfl
  | @cons t ps ts pss ht hts =>
    obtain ⟨hps, hpss⟩ := List.forall_mem_cons.1 hn
    -- the first element is read before the comma, and the others as a list
    have hfirst : ∀ rest, (commaList (wholeType (upTo n))).run (tokens rest) =
        some (ts, tokens (.closing .paren :: qs)) →
        (enclosed (upTo n)).run (tokens (ps ++ .symbol ',' :: rest)) =
          some (.tuple (t :: ts), tokens (.closing .paren :: qs)) := by
      intro rest hrest
      have hbegins := BeginsType.of_startsType (ht.starts (.symbol ',' :: rest))
      obtain ⟨b, hb⟩ := ht.run_type (n := n) (.symbol ',' :: rest) hps (by simp [endsType])
      rw [enclosed, run_next_bind, if_neg (by simp [hbegins.atEnd]), run_next_bind,
        if_neg (by simp [hbegins.lifetime]), run_next_bind, if_neg (by simp [hbegins.relaxed]),
        run_bind_of hb]
      show (symbol? [','] >>= _).run (.punct ',' _ :: tokens rest) = _
      rw [run_symbol?_punct]
      show (commaList (wholeType (upTo n)) >>= fun ts => pure (Enclosed.tuple (t :: ts))).run _ = _
      rw [run_bind_of hrest]
      rfl
    cases hts with
    | nil =>
      rw [tuplePieces, List.append_assoc]
      exact hfirst _ (run_commaList .nil (List.forall_mem_nil _) .paren qs)
    | @cons u rs us rss hu hus =>
      have hpieces : tuplePieces (ps :: rs :: rss) ++ .closing .paren :: qs =
          ps ++ .symbol ',' :: .blank :: (joinPieces commaPieces (rs :: rss) ++
            .closing .paren :: qs) := by
        simp [tuplePieces, joinPieces, commaPieces]
      rw [hpieces]
      exact hfirst _ (run_commaList (.cons hu hus) hpss .paren qs)

theorem tuple (h : List.Forall₂ (LaysOut true) ts pss) :
    LaysOut plus (.tuple ts) (.opening .paren :: (tuplePieces pss ++ [.closing .paren])) := by
  refine ⟨fun qs => rfl, fun qs _ => rfl, fun n qs hn hqs => ?_⟩
  have hless : ∀ ps ∈ pss, size ps < n := by
    intro ps hps
    have hle := size_le_tuplePieces ps hps
    simp at hn
    omega
  have hgroup := run_group (d := .paren) (run_enclosed_tuple h hless qs)
  simp only [List.cons_append, List.append_assoc, List.nil_append, tokens_opening]
  refine ⟨none, ?_⟩
  show (parenType (upTo n) plus).run _ = _
  rw [parenType, run_bind_of hgroup]
  rfl

end TypeExpr.LaysOut

/-! ## What functions return -/

/-- The pieces of what a function returns, if it is written. -/
inductive OutputLaysOut : Option TypeExpr → List Piece → Prop
  | unwritten : OutputLaysOut none []
  | written {t : TypeExpr} {ps : List Piece} (h : t.LaysOut false ps) :
    OutputLaysOut (some t) (.blank :: .symbol '-' :: .symbol '>' :: .blank :: ps)

/-- Whether a separator may come after what a function returns. -/
def isClosedOutput : Option TypeExpr → Bool
  | none => true
  | some t => t.isParen

theorem isClosed_called (inputs : List TypeExpr) (output : Option TypeExpr) :
    SegmentArgs.isClosed (.called inputs output) = isClosedOutput output := by
  cases output with
  | none => rfl
  | some t => cases t <;> rfl

/-- Whether tokens may follow what a function returns. -/
def MayFollowOutput (output : Option TypeExpr) (ts : List Token) : Prop :=
  endsType false ts = true ∨ (isClosedOutput output = true ∧ startsWith [':', ':'] ts = true)

theorem OutputLaysOut.run {output : Option TypeExpr} {ps : List Piece}
    (h : OutputLaysOut output ps) {n : Nat} (hn : size ps ≤ n) {qs : List Piece}
    (hqs : MayFollowOutput output (tokens qs)) :
    (output? (upTo n) false).run (tokens (ps ++ qs)) = some (output, tokens qs) := by
  cases h with
  | unwritten =>
    have harrow : startsWith ['-', '>'] (tokens qs) = false := by
      rcases hqs with hqs | ⟨-, hqs⟩
      · exact (EndsType.of_endsType hqs).arrow
      · obtain ⟨ts, hts, -⟩ := startsWith_pair hqs
        rw [hts]
        exact startsWith_pair_of_ne (by decide) true ts
    rw [output?, run_symbol?_bind, List.nil_append, if_neg (by simp [harrow])]
    rfl
  | @written t ps h =>
    obtain ⟨n, rfl⟩ := Nat.exists_eq_succ_of_ne_zero (n := n) (by rintro rfl; simp at hn)
    obtain ⟨b, hb⟩ := h.read n qs (by simp at hn; omega) hqs
    have htype : ((upTo (n + 1)).type false).run (tokens (ps ++ qs)) = some ((t, b), tokens qs) := hb
    rw [output?, run_symbol?_bind, if_pos rfl]
    show (((upTo (n + 1)).type false) >>= fun r => pure (some r.1)).run (tokens (ps ++ qs)) = _
    rw [run_bind_of htype]
    rfl

/-! ## Function pointers -/

namespace TypeExpr.LaysOut

variable {plus : Bool} {t : TypeExpr} {ps : List Piece} {ts : List TypeExpr}
  {pss : List (List Piece)}

/-- A parameter of a function pointer is read as the type alone. -/
theorem run_pointerParam (h : LaysOut true t ps) {n : Nat} (hn : size ps < n) (first : Bool)
    {qs : List Piece} (hends : endsType true (tokens qs) = true)
    (hcolon : startsWith [':'] (tokens qs) = false) :
    (pointerParam (upTo n) first).run (tokens (ps ++ qs)) = some (some t, tokens qs) := by
  have hbegins := BeginsType.of_startsType (h.starts qs)
  have hunnamed := h.unnamed qs hcolon
  simp only [startsNamed, Bool.or_eq_false_iff] at hunnamed
  obtain ⟨hvariadic, hnamed⟩ := hunnamed
  have hattributes : (outerAttributes (upTo n)).run (tokens (ps ++ qs)) =
      some ([], tokens (ps ++ qs)) := run_many_nil (by simp [hbegins.hash])
  have hmutSelf : (first && startsKeyword "mut" (tokens (ps ++ qs)) &&
      startsKeyword "self" (afterTree (tokens (ps ++ qs)))) = false := by
    simp [hbegins.keyword "mut" (by decide)]
  have hname : ((startsName (tokens (ps ++ qs)) || startsKeyword "_" (tokens (ps ++ qs)) ||
      (first && startsKeyword "self" (tokens (ps ++ qs)))) &&
        startsColon (afterTree (tokens (ps ++ qs)))) = false := by
    cases first <;> simp_all
  have htype := h.run_wholeType qs hn hends
  rw [pointerParam, run_bind_of (run_discard_of hattributes), run_next_bind,
    if_neg (by simp [hvariadic])]
  dsimp only
  rw [run_next_bind, hmutSelf, if_neg Bool.false_ne_true, run_next_bind, hname, run_next_bind,
    if_neg Bool.false_ne_true, run_next_bind, hmutSelf, Bool.and_false, if_neg Bool.false_ne_true,
    Bool.false_and, if_neg Bool.false_ne_true, run_bind_of htype]
  rfl

theorem run_pointerParams (h : List.Forall₂ (LaysOut true) ts pss) {n : Nat}
    (hn : ∀ ps ∈ pss, size ps < n) (qs : List Piece) :
    (pointerParams (upTo n)).run (tokens (joinPieces commaPieces pss ++ .closing .paren :: qs)) =
      some (ts, tokens (.closing .paren :: qs)) := by
  cases h with
  | nil => rfl
  | @cons t ps ts pss ht hts =>
    obtain ⟨hps, hpss⟩ := List.forall_mem_cons.1 hn
    have hall : ((some t :: ts.map some).dropLast.all (·.isSome)) = true := by
      refine List.all_eq_true.2 fun o ho => ?_
      have ho := List.dropLast_subset _ ho
      rw [← List.map_cons] at ho
      obtain ⟨u, -, rfl⟩ := List.mem_map.1 ho
      rfl
    have hvalues : (some t :: ts.map some).filterMap id = t :: ts := by simp
    have hrow : ∀ {qs}, endsType true (tokens qs) = true → startsWith [':'] (tokens qs) = false →
        (pointerParams (upTo n)).run (tokens (ps ++ qs)) =
          (do
            let rest ← if ← symbol? [','] then commaList (pointerParam (upTo n) false) else pure []
            demand fun _ => (some t :: rest).dropLast.all (·.isSome)
            return (some t :: rest).filterMap id).run (tokens qs) := by
      intro qs hends hcolon
      have hbegins := BeginsType.of_startsType (ht.starts qs)
      rw [pointerParams, run_next_bind, if_neg (by simp [hbegins.atEnd]),
        run_bind_of (ht.run_pointerParam hps true hends hcolon)]
    cases hts with
    | nil =>
      rw [joinPieces, hrow rfl rfl]
      rfl
    | @cons u rs us rss hu hus =>
      have hrest : (commaList (pointerParam (upTo n) false)).run
          (tokens (joinPieces commaPieces (rs :: rss) ++ .closing .paren :: qs)) =
            some ((u :: us).map some, tokens (.closing .paren :: qs)) := by
        refine run_separated_pieces (R := fun o ps => ∃ t, o = some t ∧ LaysOut true t ps)
          (fun _ => rfl) rfl ?_ ?_
        · rintro o ps hps ⟨t, rfl, ht⟩ rest hrest
          have hends : endsType true (tokens rest) = true ∧
              startsWith [':'] (tokens rest) = false := by
            rcases hrest with rfl | ⟨rest, rfl⟩
            · exact ⟨rfl, rfl⟩
            · exact ⟨by simp [endsType], rfl⟩
          exact ⟨(BeginsType.of_startsType (ht.starts rest)).atEnd,
            ht.run_pointerParam (hpss ps hps) false hends.1 hends.2⟩
        · rw [List.forall₂_map_left_iff]
          exact List.Forall₂.imp (fun t ps ht => ⟨t, rfl, ht⟩) (.cons hu hus)
      rw [joinPieces, List.append_assoc, hrow (by simp [commaPieces, endsType]) rfl]
      · show (symbol? [','] >>= _).run (.punct ',' _ :: _) = _
        rw [run_symbol?_punct]
        show (commaList (pointerParam (upTo n) false) >>= _).run
          (tokens (joinPieces commaPieces (rs :: rss) ++ .closing .paren :: qs)) = _
        rw [run_bind_of hrest, run_demand_bind, if_pos hall, hvalues]
        rfl
      · exact List.cons_ne_nil _ _

theorem function {output : Option TypeExpr} {os : List Piece}
    (h : List.Forall₂ (LaysOut true) ts pss) (houtput : OutputLaysOut output os) :
    LaysOut plus (.function true ts output)
      (.word "fn" :: .opening .paren :: (joinPieces commaPieces pss ++ .closing .paren :: os)) := by
  refine ⟨fun qs => rfl, fun qs _ => rfl, fun n qs hn hqs => ?_⟩
  have hless : ∀ ps ∈ pss, size ps < n := by
    intro ps hps
    have hle := size_le_joinPieces commaPieces ps hps
    simp at hn
    omega
  have hgroup := run_group (d := .paren) (run_pointerParams h hless (os ++ qs))
  have hout := houtput.run (n := n) (by simp at hn; omega)
    (Or.inl (endsType_withoutSum (hqs.endsType rfl)))
  simp only [List.cons_append, List.append_assoc, tokens_word, tokens_opening]
  refine run_typeRule_of (p := functionPointer (upTo n) false) rfl ?_
  have hconvention : ∀ ts, convention?.run (.ident "fn" :: ts) = some (false, .ident "fn" :: ts) :=
    fun _ => rfl
  rw [functionPointer, run_keyword?_bind, if_neg (by simp [startsKeyword]), run_bind_of (hconvention _),
    run_keyword_ident, run_bind_of hgroup, run_bind_of hout]
  rfl

end TypeExpr.LaysOut

end Mapwright.Source
