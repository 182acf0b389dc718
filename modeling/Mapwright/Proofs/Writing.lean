import Mapwright.Proofs.Except
import Mapwright.Proofs.Pieces
import Mapwright.Source.TypeExpr

/-!
# Types in pieces

The plain way to write a type, piece by piece, says what its spelling has to be.
A type with a part that cannot be repeated has no pieces.  Rows of pieces do not
run into one another if the parts of the type do not.

    t.pieces? and t.spell are one text, or both are missing       (`TypeExpr.rel_spell`)
    the pieces of the parts are apart → so are those of the type  (`Apart`)
-/

namespace Mapwright.Source

/-! ## Rows of pieces -/

/-- Rows of pieces with a separator between them. -/
def joinPieces (sep : List Piece) : List (List Piece) → List Piece
  | [] => []
  | [ps] => ps
  | ps :: pss => ps ++ (sep ++ joinPieces sep pss)

def commaPieces : List Piece := [.symbol ',', .blank]

def plusPieces : List Piece := [.blank, .symbol '+', .blank]

def separatorPieces : List Piece := [.symbol ':', .symbol ':']

def equalPieces : List Piece := [.blank, .symbol '=', .blank]

/-- The pieces of a lifetime that is written before something. -/
def lifetimePieces : Option String → List Piece
  | none => []
  | some l => [.lifetime l, .blank]

/-- The pieces of a word that is written before something or not. -/
def wordPieces (written : Bool) (w : String) : List Piece :=
  if written then [.word w, .blank] else []

/-- The pieces of the elements of a tuple. -/
def tuplePieces : List (List Piece) → List Piece
  | [ps] => ps ++ [.symbol ',']
  | pss => joinPieces commaPieces pss

/-- The pieces of a path whose segments have the given ones. -/
def pathPieces (absolute : Bool) (rows : List (List Piece)) : List Piece :=
  (if absolute then separatorPieces else []) ++ joinPieces separatorPieces rows

/-- The pieces of a number, which may have a minus. -/
def numberPieces (text : String) : List Piece :=
  match text.toList with
  | '-' :: cs => [.symbol '-', .number (String.ofList cs)]
  | _ => [.number text]

/-! ## Types -/

mutual

/-- The pieces in which a type is written, if there is a way to write it again. -/
def TypeExpr.pieces? : TypeExpr → Option (List Piece)
  | .path p => p.pieces?
  | .qualified _ => none
  | .reference lifetime mutable target => do
    return .symbol '&' ::
      (lifetimePieces lifetime ++ (wordPieces mutable "mut" ++ (← target.pieces?)))
  | .tuple elems => do
    return .opening .paren :: (tuplePieces (← typesPieces? elems) ++ [.closing .paren])
  | .array elem length => do
    let elem ← elem.pieces?
    let length ← length.pieces?
    return .opening .bracket :: (elem ++ .symbol ';' :: .blank :: (length ++ [.closing .bracket]))
  | .slice elem => do return .opening .bracket :: ((← elem.pieces?) ++ [.closing .bracket])
  | .paren inner => do return .opening .paren :: ((← inner.pieces?) ++ [.closing .paren])
  | .pointer mutable target => do
    return .symbol '*' :: .word (if mutable then "mut" else "const") :: .blank ::
      (← target.pieces?)
  | .never => some [.symbol '!']
  | .traitObject bounds => do
    return .word "dyn" :: .blank :: joinPieces plusPieces (← boundsPieces? bounds)
  | .implTrait bounds => do
    return .word "impl" :: .blank :: joinPieces plusPieces (← boundsPieces? bounds)
  | .function false _ _ => none
  | .function true inputs output => do
    let inputs ← typesPieces? inputs
    let output ← outputPieces? output
    return .word "fn" :: .opening .paren :: (joinPieces commaPieces inputs ++
      .closing .paren :: output)
  | .inferred => none
  | .unspelled => none
termination_by structural t => t

def Path.pieces? : Path → Option (List Piece)
  | ⟨absolute, segments⟩ => do return pathPieces absolute (← segmentsPieces? segments)

def Segment.pieces? : Segment → Option (List Piece)
  | ⟨name, args⟩ => do return .word name :: (← args.pieces?)

def SegmentArgs.pieces? : SegmentArgs → Option (List Piece)
  | .none => some []
  | .angled args => do
    return .symbol '<' :: (joinPieces commaPieces (← argsPieces? args) ++ [.symbol '>'])
  | .called inputs output => do
    let inputs ← typesPieces? inputs
    let output ← outputPieces? output
    return .opening .paren :: (joinPieces commaPieces inputs ++ .closing .paren :: output)

def GenericArg.pieces? : GenericArg → Option (List Piece)
  | .lifetime name => some [.lifetime name]
  | .type type => type.pieces?
  | .const value => value.pieces?
  | .assocType name type => do return .word name :: (equalPieces ++ (← type.pieces?))
  | .assocConst name value => do return .word name :: (equalPieces ++ (← value.pieces?))
  | .constraint name bounds => do
    return .word name :: .symbol ':' :: .blank :: joinPieces plusPieces (← boundsPieces? bounds)

def Bound.pieces? : Bound → Option (List Piece)
  | .trait relaxed path => do
    return (if relaxed then [.symbol '?'] else []) ++ (← path.pieces?)
  | .lifetime name => some [.lifetime name]
  | .captures => none
  | .unspelled => none

def ConstExpr.pieces? : ConstExpr → Option (List Piece)
  | .int text => some (numberPieces text)
  | .bool value => some [.word (if value then "true" else "false")]
  | .otherLiteral => none
  | .path p => p.pieces?
  | .computed => none

/-- The pieces of what a function returns, if it is written. -/
def outputPieces? : Option TypeExpr → Option (List Piece)
  | none => some []
  | some t => do return .blank :: .symbol '-' :: .symbol '>' :: .blank :: (← t.pieces?)

def typesPieces? : List TypeExpr → Option (List (List Piece))
  | [] => some []
  | t :: ts => do return (← t.pieces?) :: (← typesPieces? ts)

def segmentsPieces? : List Segment → Option (List (List Piece))
  | [] => some []
  | s :: ss => do return (← s.pieces?) :: (← segmentsPieces? ss)

def argsPieces? : List GenericArg → Option (List (List Piece))
  | [] => some []
  | a :: as => do return (← a.pieces?) :: (← argsPieces? as)

def boundsPieces? : List Bound → Option (List (List Piece))
  | [] => some []
  | b :: bs => do return (← b.pieces?) :: (← boundsPieces? bs)

end

/-! ## Spellings -/

/-- Whether a text is made of the pieces. -/
def IsTextOf (ps : List Piece) (s : String) : Prop := letters ps = s.toList

theorem isTextOf_joinPieces (sep : List Piece) (separator : String) (hsep : IsTextOf sep separator)
    {pss : List (List Piece)} {ss : List String} (h : List.Forall₂ IsTextOf pss ss) :
    IsTextOf (joinPieces sep pss) (joined separator ss) := by
  induction h with
  | nil => rfl
  | @cons ps s pss ss hs hss ih =>
    cases hss with
    | nil => simpa [IsTextOf, joinPieces, joined] using hs
    | cons hs' hss =>
      rw [IsTextOf, joinPieces, letters_append, letters_append, ih, hs, hsep, joined, joined,
        String.intercalate_cons_of_ne_nil (List.cons_ne_nil _ _), String.toList_append,
        String.toList_append, List.append_assoc]
      exact List.cons_ne_nil _ _

/-- A step that leaves pieces and a text alike may be taken on both sides. -/
theorem rel_bind {α β γ δ ε : Type} {R : α → β → Prop} {S : γ → δ → Prop} {o : Option α}
    {x : Except ε β} {f : α → Option γ} {g : β → Except ε δ} (h : Option.Rel R o x.toOption)
    (hfg : ∀ a b, R a b → Option.Rel S (f a) (g b).toOption) :
    Option.Rel S (o >>= f) (x >>= g).toOption := by
  cases x with
  | error e =>
    cases h
    exact .none
  | ok b =>
    cases h with
    | some hab => exact hfg _ _ hab

theorem rel_map {α β γ δ ε : Type} {R : α → β → Prop} {S : γ → δ → Prop} {o : Option α}
    {x : Except ε β} {f : α → γ} {g : β → δ} (h : Option.Rel R o x.toOption)
    (hfg : ∀ a b, R a b → S (f a) (g b)) :
    Option.Rel S (do return f (← o)) (do return g (← x) : Except ε δ).toOption :=
  rel_bind h fun a b hab => .some (hfg a b hab)

/-- The text of arguments in parentheses and what they lead to. -/
theorem isTextOf_called {pss : List (List Piece)} {ss : List String} {os : List Piece} {o : String}
    (h : List.Forall₂ IsTextOf pss ss) (ho : IsTextOf os o) :
    IsTextOf (.opening .paren :: (joinPieces commaPieces pss ++ .closing .paren :: os))
      ("(" ++ joined ", " ss ++ ")" ++ o) := by
  have hjoined := isTextOf_joinPieces commaPieces ", " rfl h
  rw [IsTextOf] at hjoined ho ⊢
  simp [hjoined, ho, Piece.letters, Delimiter.chars, String.toList_append]

theorem isTextOf_output {ps : List Piece} {s : String} (h : IsTextOf ps s) :
    IsTextOf (.blank :: .symbol '-' :: .symbol '>' :: .blank :: ps) (" -> " ++ s) := by
  rw [IsTextOf] at h ⊢
  simp [h, Piece.letters, String.toList_append]

theorem isTextOf_word (w : String) {ps : List Piece} {s : String} (h : IsTextOf ps s) :
    IsTextOf (.word w :: ps) (w ++ s) := by
  rw [IsTextOf] at h ⊢
  simp [h, Piece.letters, String.toList_append]

theorem isTextOf_numberPieces (text : String) : IsTextOf (numberPieces text) text := by
  unfold numberPieces IsTextOf
  split
  · next cs h => simp [h, Piece.letters]
  · simp [Piece.letters]

mutual

/-- **The spelling of a type is written in its pieces**, and there is none if they are missing. -/
theorem TypeExpr.rel_spell : ∀ t : TypeExpr, Option.Rel IsTextOf t.pieces? t.spell.toOption
  | .path p => p.rel_spell
  | .qualified _ => .none
  | .reference lifetime mutable target => by
    refine rel_map target.rel_spell fun ps s h => ?_
    rw [IsTextOf] at h ⊢
    cases lifetime <;> cases mutable <;>
      simp [h, Piece.letters, lifetimePieces, wordPieces, String.toList_append]
  | .tuple elems => by
    refine rel_map (rel_spellTypes elems) fun pss ss h => ?_
    have hjoined := isTextOf_joinPieces commaPieces ", " rfl h
    cases h with
    | nil => rfl
    | cons h hss =>
      cases hss with
      | nil =>
        simp_all [IsTextOf, tuplePieces, tupleText, Piece.letters, Delimiter.chars, String.toList_append]
      | cons h' hss =>
        simp_all [IsTextOf, tuplePieces, tupleText, Piece.letters, Delimiter.chars, String.toList_append]
  | .array elem length => by
    refine rel_bind elem.rel_spell fun ps s h => ?_
    refine rel_map length.rel_spell fun qs t h' => ?_
    rw [IsTextOf] at h h' ⊢
    simp [h, h', Piece.letters, Delimiter.chars, String.toList_append]
  | .slice elem => by
    refine rel_map elem.rel_spell fun ps s h => ?_
    rw [IsTextOf] at h ⊢
    simp [h, Piece.letters, Delimiter.chars, String.toList_append]
  | .paren inner => by
    refine rel_map inner.rel_spell fun ps s h => ?_
    rw [IsTextOf] at h ⊢
    simp [h, Piece.letters, Delimiter.chars, String.toList_append]
  | .pointer mutable target => by
    refine rel_map target.rel_spell fun ps s h => ?_
    rw [IsTextOf] at h ⊢
    cases mutable <;> simp [h, Piece.letters, String.toList_append]
  | .never => .some rfl
  | .traitObject bounds => by
    refine rel_map (rel_spellBounds bounds) fun pss ss h => ?_
    have hjoined := isTextOf_joinPieces plusPieces " + " rfl h
    rw [IsTextOf] at hjoined ⊢
    simp [hjoined, Piece.letters, String.toList_append]
  | .implTrait bounds => by
    refine rel_map (rel_spellBounds bounds) fun pss ss h => ?_
    have hjoined := isTextOf_joinPieces plusPieces " + " rfl h
    rw [IsTextOf] at hjoined ⊢
    simp [hjoined, Piece.letters, String.toList_append]
  | .function false _ output => by
    cases output <;> exact .none
  | .function true inputs none => by
    refine rel_bind (rel_spellTypes inputs) fun pss ss h => .some ?_
    have hcalled := isTextOf_word "fn" (isTextOf_called h (show IsTextOf [] "" from rfl))
    simpa [IsTextOf, String.toList_append] using hcalled
  | .function true inputs (some output) => by
    refine rel_bind (rel_spellTypes inputs) fun pss ss h => ?_
    show Option.Rel _ ((output.pieces? >>= fun os => pure _) >>= fun os => pure _) _
    rw [bind_assoc]
    refine rel_map output.rel_spell fun os o ho => ?_
    have hcalled := isTextOf_word "fn" (isTextOf_called h (isTextOf_output ho))
    simpa [IsTextOf, String.toList_append] using hcalled
  | .inferred => .none
  | .unspelled => .none
termination_by structural t => t

theorem Path.rel_spell : ∀ p : Path, Option.Rel IsTextOf p.pieces? p.spell.toOption
  | ⟨absolute, segments⟩ => by
    refine rel_map (rel_spellSegments segments) fun pss ss h => ?_
    have hjoined := isTextOf_joinPieces separatorPieces "::" rfl h
    rw [IsTextOf] at hjoined ⊢
    rw [pathPieces, letters_append, hjoined, String.toList_append]
    cases absolute <;> rfl

theorem Segment.rel_spell : ∀ s : Segment, Option.Rel IsTextOf s.pieces? s.spell.toOption
  | ⟨name, args⟩ => by
    refine rel_map args.rel_spell fun ps s h => ?_
    rw [IsTextOf] at h ⊢
    simp [h, Piece.letters, String.toList_append]

theorem SegmentArgs.rel_spell : ∀ a : SegmentArgs, Option.Rel IsTextOf a.pieces? a.spell.toOption
  | .none => .some rfl
  | .angled args => by
    refine rel_map (rel_spellArgs args) fun pss ss h => ?_
    have hjoined := isTextOf_joinPieces commaPieces ", " rfl h
    rw [IsTextOf] at hjoined ⊢
    simp [hjoined, Piece.letters, String.toList_append]
  | .called inputs none => by
    refine rel_bind (rel_spellTypes inputs) fun pss ss h => .some ?_
    have hcalled := isTextOf_called h (show IsTextOf [] "" from rfl)
    rwa [String.append_empty] at hcalled
  | .called inputs (some output) => by
    refine rel_bind (rel_spellTypes inputs) fun pss ss h => ?_
    show Option.Rel _ ((output.pieces? >>= fun os => pure _) >>= fun os => pure _) _
    rw [bind_assoc]
    refine rel_map output.rel_spell fun os o ho => ?_
    have hcalled := isTextOf_called h (isTextOf_output ho)
    simpa [IsTextOf, String.toList_append] using hcalled

theorem GenericArg.rel_spell : ∀ a : GenericArg, Option.Rel IsTextOf a.pieces? a.spell.toOption
  | .lifetime name => .some (by simp [IsTextOf, Piece.letters])
  | .type type => type.rel_spell
  | .const value => value.rel_spell
  | .assocType name type => by
    refine rel_map type.rel_spell fun ps s h => ?_
    rw [IsTextOf] at h ⊢
    simp [h, equalPieces, Piece.letters, String.toList_append]
  | .assocConst name value => by
    refine rel_map value.rel_spell fun ps s h => ?_
    rw [IsTextOf] at h ⊢
    simp [h, equalPieces, Piece.letters, String.toList_append]
  | .constraint name bounds => by
    refine rel_map (rel_spellBounds bounds) fun pss ss h => ?_
    have hjoined := isTextOf_joinPieces plusPieces " + " rfl h
    rw [IsTextOf] at hjoined ⊢
    simp [hjoined, Piece.letters, String.toList_append]

theorem Bound.rel_spell : ∀ b : Bound, Option.Rel IsTextOf b.pieces? b.spell.toOption
  | .trait relaxed path => by
    refine rel_map path.rel_spell fun ps s h => ?_
    rw [IsTextOf] at h ⊢
    cases relaxed <;> simp [h, Piece.letters, String.toList_append]
  | .lifetime name => .some (by simp [IsTextOf, Piece.letters])
  | .captures => .none
  | .unspelled => .none

theorem ConstExpr.rel_spell : ∀ c : ConstExpr, Option.Rel IsTextOf c.pieces? c.spell.toOption
  | .int text => .some (isTextOf_numberPieces text)
  | .bool value => .some (by simp [IsTextOf, Piece.letters])
  | .otherLiteral => .none
  | .path p => p.rel_spell
  | .computed => .none

theorem rel_spellTypes : ∀ ts : List TypeExpr,
    Option.Rel (List.Forall₂ IsTextOf) (typesPieces? ts) (spellTypes ts).toOption
  | [] => .some .nil
  | t :: ts => rel_bind t.rel_spell fun _ _ h =>
    rel_map (rel_spellTypes ts) fun _ _ hs => .cons h hs

theorem rel_spellSegments : ∀ ss : List Segment,
    Option.Rel (List.Forall₂ IsTextOf) (segmentsPieces? ss) (spellSegments ss).toOption
  | [] => .some .nil
  | s :: ss => rel_bind s.rel_spell fun _ _ h =>
    rel_map (rel_spellSegments ss) fun _ _ hs => .cons h hs

theorem rel_spellArgs : ∀ as : List GenericArg,
    Option.Rel (List.Forall₂ IsTextOf) (argsPieces? as) (spellArgs as).toOption
  | [] => .some .nil
  | a :: as => rel_bind a.rel_spell fun _ _ h =>
    rel_map (rel_spellArgs as) fun _ _ hs => .cons h hs

theorem rel_spellBounds : ∀ bs : List Bound,
    Option.Rel (List.Forall₂ IsTextOf) (boundsPieces? bs) (spellBounds bs).toOption
  | [] => .some .nil
  | b :: bs => rel_bind b.rel_spell fun _ _ h =>
    rel_map (rel_spellBounds bs) fun _ _ hs => .cons h hs

end

/-- Two sides are alike, or both of them fail. -/
theorem rel_toOption_iff {α β ε : Type} {R : α → β → Prop} {o : Option α} {x : Except ε β} :
    Option.Rel R o x.toOption ↔
      (∃ a b, o = some a ∧ x = .ok b ∧ R a b) ∨ (o = none ∧ ∃ e, x = .error e) := by
  constructor
  · intro h
    cases x with
    | error e =>
      cases h
      exact Or.inr ⟨rfl, e, rfl⟩
    | ok b =>
      cases h with
      | some hab => exact Or.inl ⟨_, b, rfl, rfl, hab⟩
  · rintro (⟨a, b, rfl, rfl, hab⟩ | ⟨rfl, e, rfl⟩)
    · exact .some hab
    · exact .none

/-- A spelling is the text of the pieces. -/
theorem TypeExpr.spell_eq_ok_iff {t : TypeExpr} {s : String} :
    t.spell = .ok s ↔ ∃ ps, t.pieces? = some ps ∧ IsTextOf ps s := by
  rcases rel_toOption_iff.1 t.rel_spell with ⟨ps, s', hps, hs', htext⟩ | ⟨hps, e, he⟩
  · rw [hs', hps]
    constructor
    · rintro ⟨⟩
      exact ⟨ps, rfl, htext⟩
    · rintro ⟨_, ⟨⟩, htext'⟩
      rw [String.toList_inj.1 (htext.symm.trans htext')]
  · simp [he, hps]

/-- A type has a spelling if it has pieces. -/
theorem TypeExpr.exists_spell_iff (t : TypeExpr) :
    (∃ s, t.spell = .ok s) ↔ t.pieces?.isSome = true := by
  rcases rel_toOption_iff.1 t.rel_spell with ⟨ps, s, hps, hs, -⟩ | ⟨hps, e, he⟩
  · simp [hps, hs]
  · simp [hps, he]

/-! ## Pieces apart -/

/-- Numbers end where the pieces begin. -/
def EndsNumber (ps : List Piece) : Prop := ∃ p ∈ ps.head?, p.endsNumber = true

theorem EndsNumber.endsWords {ps : List Piece} (h : EndsNumber ps) : EndsWords ps := by
  obtain ⟨p, hp, hends⟩ := h
  obtain ⟨qs, rfl⟩ := List.head?_eq_some_iff.1 hp
  cases p <;> first | exact (endsWords_cons _ _).2 rfl | cases hends

/-- Whether pieces can be laid out before whatever begins as `ends` says. -/
def LaidBefore (ends : List Piece → Prop) (ps : List Piece) : Prop :=
  ∀ openings qs, ends qs → Laid openings qs → Laid openings (ps ++ qs)

/-- The characters of a lifetime. -/
def IsLifetime (l : String) : Prop := ∃ w, IsIdentifier w ∧ l.toList = '\x27' :: w

theorem isIdentifier_of_all {w : String} (h : w.toList.all Char.isAlpha = true)
    (hne : w.toList ≠ []) : IsIdentifier w.toList := by
  cases hw : w.toList with
  | nil => exact absurd hw hne
  | cons c cs =>
    rw [hw, List.all_cons, Bool.and_eq_true, List.all_eq_true] at h
    refine .plain ⟨?_, fun d hd => ?_⟩
    · simp [Text.isIdentifierStart, h.1]
    · simp [Text.isIdentifierContinue, Char.isAlphanum, h.2 d hd]

namespace LaidBefore

variable {ends : List Piece → Prop} {ps : List Piece} {pss : List (List Piece)}

/-- What can be laid out before the end of a word can be laid out before that of a number. -/
theorem number (h : LaidBefore EndsWords ps) : LaidBefore EndsNumber ps :=
  fun openings qs hends hqs => h openings qs hends.endsWords hqs

theorem nil : LaidBefore ends [] := fun _ _ _ hqs => hqs

theorem symbol {c : Char} (hc : c ∈ typeSymbols) (h : LaidBefore ends ps) :
    LaidBefore ends (.symbol c :: ps) := fun openings qs hends hqs => ⟨hc, h openings qs hends hqs⟩

theorem blank (h : LaidBefore ends ps) : LaidBefore ends (.blank :: ps) := h

/-- A word can stand before pieces that begin with something else. -/
theorem word {w : String} (hw : IsIdentifier w.toList)
    (hends : ∀ qs, ends qs → EndsWords (ps ++ qs)) (h : LaidBefore ends ps) :
    LaidBefore ends (.word w :: ps) :=
  fun openings qs hqs hlaid => ⟨hw, hends qs hqs, h openings qs hqs hlaid⟩

theorem lifetimePieces {l : Option String} (hl : ∀ x ∈ l, IsLifetime x) (h : LaidBefore ends ps) :
    LaidBefore ends (lifetimePieces l ++ ps) := by
  cases l with
  | none => exact h
  | some l =>
    exact fun openings qs hends hqs => ⟨hl l rfl, (endsWords_cons _ _).2 rfl, h openings qs hends hqs⟩

theorem wordPieces {w : String} (hw : IsIdentifier w.toList) (h : LaidBefore ends ps)
    (written : Bool) : LaidBefore ends (wordPieces written w ++ ps) := by
  cases written with
  | false => exact h
  | true => exact word hw (fun qs _ => (endsWords_cons _ _).2 rfl) h

/-- Pieces can be laid out one after the other. -/
theorem append {ends' : List Piece → Prop} {qs : List Piece} (h : LaidBefore ends' ps)
    (hends : ∀ rest, ends rest → ends' (qs ++ rest)) (hqs : LaidBefore ends qs) :
    LaidBefore ends (ps ++ qs) := by
  intro openings rest hrest hlaid
  rw [List.append_assoc]
  exact h openings (qs ++ rest) (hends rest hrest) (hqs openings rest hrest hlaid)

/-- Rows can be laid out one after the other if each can be before the separator. -/
theorem joinPieces {sep : List Piece} (hends : ∀ rest, ends (sep ++ rest))
    (hsep : LaidBefore (fun _ => True) sep) (h : ∀ ps ∈ pss, LaidBefore ends ps) :
    LaidBefore ends (joinPieces sep pss) := by
  induction pss with
  | nil => exact nil
  | cons ps pss ih =>
    obtain ⟨hps, hpss⟩ := List.forall_mem_cons.1 h
    cases pss with
    | nil => exact hps
    | cons qs pss =>
      have hmore : LaidBefore ends (sep ++ Source.joinPieces sep (qs :: pss)) :=
        hsep.append (fun _ _ => trivial) (ih hpss)
      exact hps.append (fun rest _ => by rw [List.append_assoc]; exact hends _) hmore

/-- What is inside a group can be laid out up to its end. -/
theorem enclosed {ends' : List Piece → Prop} {qs : List Piece} {d : Delimiter}
    (h : LaidBefore ends' ps) (hends : ∀ rest, ends' (.closing d :: rest))
    (hqs : LaidBefore ends qs) : LaidBefore ends (.opening d :: (ps ++ .closing d :: qs)) := by
  intro openings rest hrest hlaid
  have hinside := h (d :: openings) (.closing d :: (qs ++ rest)) (hends _)
    ((laid_closing openings _ d).2 (hqs openings rest hrest hlaid))
  simpa using hinside

/-! ### Types -/

theorem reference {lifetime : Option String} (hlifetime : ∀ l ∈ lifetime, IsLifetime l)
    (h : LaidBefore ends ps) (mutable : Bool) : LaidBefore ends
      (.symbol '&' :: (Source.lifetimePieces lifetime ++ (Source.wordPieces mutable "mut" ++ ps))) :=
  symbol (by decide) (lifetimePieces hlifetime
    (wordPieces (isIdentifier_of_all (by decide) (by decide)) h mutable))

theorem pointer (h : LaidBefore ends ps) (mutable : Bool) : LaidBefore ends
    (.symbol '*' :: .word (if mutable then "mut" else "const") :: .blank :: ps) := by
  have hword : IsIdentifier (if mutable then "mut" else "const").toList := by
    cases mutable <;> exact isIdentifier_of_all (by decide) (by decide)
  exact symbol (by decide) (word hword (fun _ _ => (endsWords_cons _ _).2 rfl) h.blank)

theorem array {cs : List Piece} (h : LaidBefore EndsWords ps) (hcs : LaidBefore EndsNumber cs) :
    LaidBefore ends (.opening .bracket ::
      (ps ++ .symbol ';' :: .blank :: (cs ++ [.closing .bracket]))) := by
  have hinside : LaidBefore EndsNumber (ps ++ .symbol ';' :: .blank :: cs) :=
    h.append (fun _ _ => (endsWords_cons _ _).2 rfl) (symbol (by decide) hcs.blank)
  have hend : LaidBefore ends [] := nil
  simpa using hinside.enclosed (d := .bracket) (fun _ => ⟨_, rfl, rfl⟩) hend

/-- A lifetime by itself. -/
theorem lifetime {l : String} (hl : IsLifetime l) (hends : ∀ qs, ends qs → EndsWords qs) :
    LaidBefore ends [.lifetime l] := fun _ qs hqs hlaid => ⟨hl, hends qs hqs, hlaid⟩

/-- A number by itself. -/
theorem integer {n : String} (hn : IsInteger n.toList) : LaidBefore EndsNumber [.number n] :=
  fun _ _ hqs hlaid => ⟨hn, hqs, hlaid⟩

theorem boolWord (value : Bool) :
    LaidBefore EndsNumber [.word (if value then "true" else "false")] := by
  refine word ?_ (fun _ hends => hends.endsWords) nil
  cases value <;> exact isIdentifier_of_all (by decide) (by decide)

/-- Rows with commas between them are laid out up to a piece that ends what each of them does. -/
theorem commas (hends : ∀ rest, ends (.symbol ',' :: rest)) (h : ∀ ps ∈ pss, LaidBefore ends ps) :
    LaidBefore ends (Source.joinPieces commaPieces pss) :=
  joinPieces (fun _ => hends _) (symbol (by decide) nil.blank) h

theorem tuple (h : ∀ ps ∈ pss, LaidBefore EndsWords ps) :
    LaidBefore ends (.opening .paren :: (tuplePieces pss ++ [.closing .paren])) := by
  have hinside : LaidBefore EndsWords (tuplePieces pss) := by
    unfold tuplePieces
    split
    · exact (h _ List.mem_cons_self).append (fun _ _ => (endsWords_cons _ _).2 rfl)
        (symbol (by decide) nil)
    · exact commas (fun _ => (endsWords_cons _ _).2 rfl) h
  exact hinside.enclosed (fun _ => (endsWords_cons _ _).2 rfl) nil

/-- Bounds with plus signs between them. -/
theorem sum (h : ∀ ps ∈ pss, LaidBefore EndsWords ps) :
    LaidBefore EndsWords (Source.joinPieces plusPieces pss) :=
  joinPieces (fun _ => (endsWords_cons _ _).2 rfl) (symbol (by decide) nil.blank).blank h

/-- Bounds after a word. -/
theorem bounds {w : String} (hw : IsIdentifier w.toList) (h : ∀ ps ∈ pss, LaidBefore EndsWords ps) :
    LaidBefore EndsWords (.word w :: .blank :: Source.joinPieces plusPieces pss) :=
  word hw (fun _ _ => (endsWords_cons _ _).2 rfl) (sum h).blank

theorem output (h : LaidBefore ends ps) :
    LaidBefore ends (.blank :: .symbol '-' :: .symbol '>' :: .blank :: ps) :=
  (symbol (by decide) (symbol (by decide) h.blank)).blank

/-- Arguments in parentheses, and what they lead to. -/
theorem called {os : List Piece} (h : ∀ ps ∈ pss, LaidBefore EndsWords ps)
    (hos : LaidBefore ends os) : LaidBefore ends
      (.opening .paren :: (Source.joinPieces commaPieces pss ++ .closing .paren :: os)) :=
  (commas (fun _ => (endsWords_cons _ _).2 rfl) h).enclosed
    (fun _ => (endsWords_cons _ _).2 rfl) hos

/-- Arguments in angle brackets. -/
theorem angled (h : ∀ ps ∈ pss, LaidBefore EndsNumber ps) : LaidBefore ends
    (.symbol '<' :: (Source.joinPieces commaPieces pss ++ [.symbol '>'])) :=
  symbol (by decide) ((commas (fun _ => ⟨_, rfl, rfl⟩) h).append (fun _ _ => ⟨_, rfl, rfl⟩)
    (symbol (by decide) nil))

/-- A name and its value. -/
theorem named {name : String} (hname : IsIdentifier name.toList) (h : LaidBefore ends ps) :
    LaidBefore ends (.word name :: (equalPieces ++ ps)) :=
  word hname (fun _ _ => (endsWords_cons _ _).2 rfl) (symbol (by decide) h.blank).blank

/-- A name and its bounds. -/
theorem constraint {name : String} (hname : IsIdentifier name.toList)
    (h : ∀ ps ∈ pss, LaidBefore EndsWords ps) : LaidBefore EndsNumber
      (.word name :: .symbol ':' :: .blank :: Source.joinPieces plusPieces pss) :=
  word hname (fun _ _ => (endsWords_cons _ _).2 rfl) (symbol (by decide) (sum h).number.blank)

theorem path (h : ∀ ps ∈ pss, LaidBefore EndsWords ps) (absolute : Bool) :
    LaidBefore EndsWords (pathPieces absolute pss) := by
  have hrows : LaidBefore EndsWords (Source.joinPieces separatorPieces pss) :=
    joinPieces (fun _ => (endsWords_cons _ _).2 rfl) (symbol (by decide) (symbol (by decide) nil)) h
  cases absolute with
  | false => exact hrows
  | true => exact symbol (by decide) (symbol (by decide) hrows)

end LaidBefore

end Mapwright.Source
