import Mapwright.Proofs.BoundLayouts

/-!
# Layouts of arguments

Arguments in angle brackets, and the constants that stand there or in the
length of an array.
-/

namespace Mapwright.Source

open Token Parse Grammar

variable {qs : List Piece}

/-! ## Constants as arguments -/

/-- From the pieces a constant is read where it is an argument. -/
inductive ConstExpr.LaysOut : ConstExpr → List Piece → Prop
  | int {n : String} (hn : IsInteger n.toList) : LaysOut (.int n) [.number n]
  | negative {n : String} (hn : IsInteger n.toList) :
    LaysOut (.int ("-" ++ n)) [.symbol '-', .number n]
  | bool (value : Bool) : LaysOut (.bool value) [.word (if value then "true" else "false")]

namespace ConstExpr.LaysOut

variable {c : ConstExpr} {ps : List Piece}

theorem begins (h : c.LaysOut ps) (qs : List Piece) :
    startsConst (tokens (ps ++ qs)) = true ∧ startsLifetime (tokens (ps ++ qs)) = false ∧
      startsWith ['>'] (tokens (ps ++ qs)) = false ∧
      startsWith ['='] (tokens (ps ++ qs)) = false ∧
      startsWith ['<'] (tokens (ps ++ qs)) = false := by
  cases h with
  | bool value => cases value <;> exact ⟨rfl, rfl, rfl, rfl, rfl⟩
  | _ => exact ⟨rfl, rfl, rfl, rfl, rfl⟩

theorem run_constArg (h : c.LaysOut ps) (g : Grammar) (qs : List Piece) :
    (constArg g).run (tokens (ps ++ qs)) = some (c, tokens qs) := by
  cases h with
  | bool value => cases value <;> rfl
  | _ => rfl

end ConstExpr.LaysOut

/-! ## Arguments in angle brackets -/

/-- Whether an argument in angle brackets ends here. -/
def endsArg (ts : List Token) : Bool := startsWith [','] ts || startsWith ['>'] ts

/-- What the tokens after an argument in angle brackets are, and are not. -/
structure EndsArg (ts : List Token) : Prop where
  type : endsType true ts = true
  plus : startsWith ['+'] ts = false
  equal : startsWith ['='] ts = false
  colon : startsWith [':'] ts = false
  bound : startsBound true ts = false

theorem EndsArg.of_endsArg {ts : List Token} (h : endsArg ts = true) : EndsArg ts := by
  obtain ⟨c, joint, ts, rfl, hc⟩ : ∃ c joint ts', ts = .punct c joint :: ts' ∧
      (c = ',' ∨ c = '>') := by
    rcases Bool.or_eq_true _ _ ▸ h with h | h
    all_goals
      obtain ⟨joint, ts', rfl⟩ := startsWith_one_iff.1 h
    · exact ⟨_, joint, ts', rfl, Or.inl rfl⟩
    · exact ⟨_, joint, ts', rfl, Or.inr rfl⟩
  rcases hc with rfl | rfl <;> cases joint <;>
    exact ⟨by simp [endsType], rfl, rfl, rfl, by simp [startsBound, startsWord, startsWith,
      startsLifetime, opens]⟩

/-- From the pieces an argument in angle brackets is read. -/
structure GenericArg.LaysOut (a : GenericArg) (ps : List Piece) : Prop where
  close : ∀ qs, startsWith ['>'] (tokens (ps ++ qs)) = false
  equal : ∀ qs, startsWith ['='] (tokens (ps ++ qs)) = false
  angle : ∀ qs, startsWith ['<'] (tokens (ps ++ qs)) = false
  read : ∀ n qs, size ps < n → endsArg (tokens qs) = true →
    (genericArg (upTo n)).run (tokens (ps ++ qs)) = some (a, tokens qs)

/-- A word that can stand before the value of an argument. -/
structure IsArgName (name : String) : Prop where
  segment : IsSegmentName name
  ne_try : name ≠ "try"

namespace GenericArg.LaysOut

variable {ps : List Piece} {name : String}

theorem lifetime (l : String) : LaysOut (.lifetime l) [.lifetime l] := by
  refine ⟨fun qs => rfl, fun qs => rfl, fun qs => rfl, fun n qs hn hqs => ?_⟩
  have hplus := (EndsArg.of_endsArg hqs).plus
  show (genericArg (upTo n)).run (.lifetime l :: tokens qs) = _
  rw [genericArg, run_next_bind, if_pos (by simp [startsLifetime, afterTree, hplus])]
  rfl

theorem const {c : ConstExpr} (h : c.LaysOut ps) : LaysOut (.const c) ps := by
  refine ⟨fun qs => (h.begins qs).2.2.1, fun qs => (h.begins qs).2.2.2.1,
    fun qs => (h.begins qs).2.2.2.2, fun n qs hn hqs => ?_⟩
  obtain ⟨hconst, hlifetime, -⟩ := h.begins qs
  rw [genericArg, run_next_bind, if_neg (by simp [hlifetime]), run_next_bind, if_pos hconst,
    run_bind_of (h.run_constArg _ qs)]
  rfl

/-- How an argument goes on after a type that names it. -/
def named (g : Grammar) (t : TypeExpr) (name : String) : Parse GenericArg := do
  if ← symbol? ['='] then
    if ← next startsConst then return .assocConst name (← constArg g)
    else return .assocType name (← wholeType g)
  else if ← symbol? [':'] then
    let bounds ← chained (fun ts => startsWith [','] ts || startsWith ['>'] ts) ['+']
      (g.bound false true)
    return .constraint name bounds
  else return .type t

theorem run_genericArg_type {g : Grammar} {ts mid : List Token} {t : TypeExpr}
    (hts : startsType ts = true) (h : (wholeType g).run ts = some (t, mid)) :
    (genericArg g).run ts = (match boundName? t with
      | none => pure (GenericArg.type t)
      | some name => named g t name).run mid := by
  have hbegins := BeginsType.of_startsType hts
  rw [genericArg, run_next_bind, if_neg (by simp [hbegins.lifetime]), run_next_bind,
    if_neg (by simp [hbegins.const]), run_bind_of h]
  rfl

theorem type {t : TypeExpr} (h : t.LaysOut true ps) : LaysOut (.type t) ps := by
  have hbegins := fun qs => BeginsType.of_startsType (h.starts qs)
  refine ⟨fun qs => (hbegins qs).close, fun qs => (hbegins qs).equal, fun qs => (hbegins qs).angle,
    fun n qs hn hqs => ?_⟩
  have hends := EndsArg.of_endsArg hqs
  rw [run_genericArg_type (h.starts qs) (h.run_wholeType qs hn hends.type)]
  cases boundName? t with
  | none => rfl
  | some name =>
    show (named (upTo n) t name).run (tokens qs) = _
    rw [named, run_symbol?_bind, if_neg (by simp [hends.equal]), if_neg Bool.false_ne_true,
      run_symbol?_bind, if_neg (by simp [hends.colon])]
    rfl

/-- The word before a value is read as a type. -/
theorem run_name (hname : IsArgName name) {n : Nat} (hn : 1 < n) {qs : List Piece}
    (hqs : endsType true (tokens qs) = true) :
    (genericArg (upTo n)).run (.ident name :: tokens qs) =
      (named (upTo n) (.path ⟨false, [⟨name, .none⟩]⟩) name).run (tokens qs) := by
  have hlayout : SegmentsLayOut [⟨name, .none⟩] [[.word name]] :=
    ⟨.cons (.plain hname.segment) .nil, List.cons_ne_nil _ _, fun h => absurd rfl h, trivial⟩
  have htype : TypeExpr.LaysOut true (.path ⟨false, [⟨name, .none⟩]⟩)
      (pathPieces false [[.word name]]) :=
    hlayout.type true (Or.inr fun h => hname.ne_try (Option.some.inj h))
  exact run_genericArg_type (htype.starts qs) (htype.run_wholeType qs hn hqs)

/-- What begins with a name is laid out if the name and what comes after it are read. -/
theorem of_name {a : GenericArg} {rest : List Piece}
    (hread : ∀ n qs, size rest + 1 < n → endsArg (tokens qs) = true →
      (genericArg (upTo n)).run (.ident name :: tokens (rest ++ qs)) = some (a, tokens qs)) :
    LaysOut a (.word name :: rest) := ⟨fun _ => rfl, fun _ => rfl, fun _ => rfl, hread⟩

theorem assocType {t : TypeExpr} (hname : IsArgName name) (h : t.LaysOut true ps) :
    LaysOut (.assocType name t) (.word name :: (equalPieces ++ ps)) := by
  refine of_name fun n qs hn hqs => ?_
  have hends := EndsArg.of_endsArg hqs
  have hbegins := BeginsType.of_startsType (h.starts qs)
  have htype := h.run_wholeType (n := n) qs (by simp [equalPieces] at hn; omega) hends.type
  rw [List.append_assoc, run_name hname (by omega) (by simp [equalPieces, endsType])]
  show (named (upTo n) _ name).run (.punct '=' false :: tokens (ps ++ qs)) = _
  rw [named, run_symbol?_punct, if_pos rfl, run_next_bind, if_neg (by simp [hbegins.const]),
    run_bind_of htype]
  rfl

theorem assocConst {c : ConstExpr} (hname : IsArgName name) (h : c.LaysOut ps) :
    LaysOut (.assocConst name c) (.word name :: (equalPieces ++ ps)) := by
  refine of_name fun n qs hn hqs => ?_
  obtain ⟨hconst, -⟩ := h.begins qs
  rw [List.append_assoc, run_name hname (by omega) (by simp [equalPieces, endsType])]
  show (named (upTo n) _ name).run (.punct '=' false :: tokens (ps ++ qs)) = _
  rw [named, run_symbol?_punct, if_pos rfl, run_next_bind, if_pos hconst,
    run_bind_of (h.run_constArg _ qs)]
  rfl

theorem constraint {bs : List Bound} {pss : List (List Piece)} (hname : IsArgName name)
    (h : List.Forall₂ Bound.LaysOut bs pss) :
    LaysOut (.constraint name bs)
      (.word name :: .symbol ':' :: .blank :: joinPieces plusPieces pss) := by
  refine of_name fun n qs hn hqs => ?_
  have hends := EndsArg.of_endsArg hqs
  obtain ⟨n, rfl⟩ := Nat.exists_eq_succ_of_ne_zero (Nat.ne_of_gt (Nat.zero_lt_of_lt hn))
  have hless : ∀ ps ∈ pss, size ps ≤ n := by
    intro ps hps
    have hle := size_le_joinPieces plusPieces ps hps
    simp at hn
    omega
  have hbounds : (chained (fun ts => startsWith [','] ts || startsWith ['>'] ts) ['+']
      (boundRule (upTo n) false true)).run (tokens (joinPieces plusPieces pss ++ qs)) =
        some (bs, tokens qs) := by
    cases h with
    | nil => exact run_chained_nil hqs
    | cons hb hbs =>
      exact run_chained_bounds (.cons hb hbs) (List.cons_ne_nil _ _) hless
        (fun ts hts => by simp [hts.comma, hts.close]) hends.type
  have hbound : (upTo (n + 1)).bound false true = boundRule (upTo n) false true := rfl
  rw [run_name hname (by omega) (by simp [endsType, startsColon, startsWith, meets])]
  show (named (upTo (n + 1)) _ name).run
    (.punct ':' false :: tokens (joinPieces plusPieces pss ++ qs)) = _
  rw [named, run_symbol?_bind, if_neg (by simp), if_neg Bool.false_ne_true, run_symbol?_punct,
    if_pos rfl, hbound, run_bind_of hbounds]
  rfl

end GenericArg.LaysOut

/-- What comes after the bracket makes no operator of it. -/
theorem startsAngled_of_not {ts : List Token} (hequal : startsWith ['='] ts = false)
    (hangle : startsWith ['<'] ts = false) {joint : Bool} :
    startsAngled false (.punct '<' joint :: ts) = true := by
  have hcompare : startsWith ['<', '='] (.punct '<' joint :: ts) = false := by
    cases joint <;> simp [startsWith, hequal]
  have hshift : startsWith ['<', '<', '='] (.punct '<' joint :: ts) = false := by
    refine Bool.eq_false_iff.2 fun h => ?_
    have hpair : startsWith ['<', '='] ts = true := by
      cases joint with
      | false => cases h
      | true => exact h
    obtain ⟨ts', rfl, -⟩ := startsWith_pair hpair
    cases hangle
  simp [startsAngled, hcompare, hshift]

/-- Arguments in angle brackets are laid out with commas between them. -/
theorem AngledLaysOut.of_args {as : List GenericArg} {pss : List (List Piece)}
    (h : List.Forall₂ GenericArg.LaysOut as pss) :
    AngledLaysOut as (.symbol '<' :: (joinPieces commaPieces pss ++ [.symbol '>'])) := by
  have hpieces : ∀ qs, (.symbol '<' :: (joinPieces commaPieces pss ++ [.symbol '>'])) ++ qs =
      .symbol '<' :: (joinPieces commaPieces pss ++ .symbol '>' :: qs) := fun qs => by simp
  refine ⟨fun qs => by simp, fun qs => ?_, fun n qs hn => ?_⟩
  · have hfirst : startsWith ['='] (tokens (joinPieces commaPieces pss ++ .symbol '>' :: qs)) = false ∧
        startsWith ['<'] (tokens (joinPieces commaPieces pss ++ .symbol '>' :: qs)) = false := by
      cases h with
      | nil => exact ⟨rfl, rfl⟩
      | cons ha has =>
        rw [joinPieces_cons, List.append_assoc]
        exact ⟨ha.equal _, ha.angle _⟩
    rw [hpieces, tokens_symbol]
    exact startsAngled_of_not hfirst.1 hfirst.2
  · have hless : ∀ ps ∈ pss, size ps < n := by
      intro ps hps
      have hle := size_le_joinPieces commaPieces ps hps
      simp at hn
      omega
    have hargs : (separated (startsWith ['>']) [','] (genericArg (upTo n))).run
        (tokens (joinPieces commaPieces pss ++ .symbol '>' :: qs)) =
          some (as, tokens (.symbol '>' :: qs)) := by
      refine run_separated_pieces (fun ps => by simp) (by simp) (fun a ps hps ha rest hrest => ?_) h
      have hends : endsArg (tokens rest) = true := by
        rcases hrest with rfl | ⟨rest, rfl⟩ <;> simp [endsArg]
      exact ⟨ha.close rest, ha.read n rest (hless ps hps) hends⟩
    have hseparator : (symbol? [':', ':']).run (tokens (.symbol '<' :: (joinPieces commaPieces pss ++
        .symbol '>' :: qs))) = some (false, tokens (.symbol '<' :: (joinPieces commaPieces pss ++
          .symbol '>' :: qs))) := by
      simp [symbol?, startsWith_pair_of_ne (show ':' ≠ '<' by decide)]
    rw [hpieces, angledArgs, run_bind_of (run_discard_of hseparator), tokens_symbol, run_symbol_punct,
      run_bind_of hargs, tokens_symbol, run_symbol_punct]
    rfl

/-! ## Lengths of arrays -/

/-- From the pieces a constant is read where it is the length of an array. -/
inductive ConstExpr.LaysOutLength : ConstExpr → List Piece → Prop
  | int {n : String} (hn : IsInteger n.toList) : LaysOutLength (.int n) [.number n]
  | bool (value : Bool) :
    LaysOutLength (.bool value) [.word (if value then "true" else "false")]
  /-- A path of names; the bare word `try` alone is no path. -/
  | path {absolute : Bool} {names : List String} (hnames : ∀ w ∈ names, IsSegmentName w)
    (hne : names ≠ []) (htry : absolute = true ∨ names ≠ ["try"]) :
    LaysOutLength (.path ⟨absolute, names.map (⟨·, .none⟩)⟩)
      (pathPieces absolute (names.map fun w => [.word w]))

section Names

variable {names : List String} {absolute : Bool}

theorem tokens_tail_names (names : List String) (qs : List Piece) :
    tokens (tailPieces (names.map fun w => [.word w]) ++ qs) = laterTokens names ++ tokens qs := by
  induction names with
  | nil => rfl
  | cons w names ih =>
    rw [List.map_cons, tailPieces_cons]
    exact congrArg (fun ts => .punct ':' true :: .punct ':' false :: .ident w :: ts) ih

theorem tokens_names (hne : names ≠ []) (absolute : Bool) (qs : List Piece) :
    tokens (pathPieces absolute (names.map fun w => [.word w]) ++ qs) =
      (NamePath.mk absolute names).tokens ++ tokens qs := by
  obtain ⟨w, names, rfl⟩ := List.exists_cons_of_ne_nil hne
  have htail := congrArg (.ident w :: ·) (tokens_tail_names names qs)
  rw [List.map_cons, pathPieces_cons]
  cases absolute with
  | false => exact htail
  | true => exact congrArg (fun ts => .punct ':' true :: .punct ':' false :: ts) htail

end Names

/-- Before the end of a group nothing goes on with an expression that is a constant. -/
theorem run_exprRule_of_atom {g : Grammar} {ts rest : List Token} {c : ConstExpr} {d : Delimiter}
    (hsymbol : ∀ s ∈ ['#', '&', '*', '!', '-'], startsWith [s] ts = false)
    (h : (atom g true).run ts = some (.constant c, .closing d :: rest)) :
    (exprRule g true).run ts = some (.constant c, .closing d :: rest) := by
  have hattributes : (outerAttributes g).run ts = some ([], ts) :=
    run_many_nil (by simp [hsymbol '#' (by decide)])
  have htrailers : (trailersRule g (.constant c)).run (.closing d :: rest) =
      some (.constant c, .closing d :: rest) := rfl
  have hoperators : (operatorsRule g true Precedence.lowest (.constant c)).run (.closing d :: rest) =
      some (.constant c, .closing d :: rest) := rfl
  have hoperand : (operandRule g true).run ts = some (.constant c, .closing d :: rest) := by
    rw [operandRule, run_bind_of hattributes, run_next_bind,
      if_neg (by simp [hsymbol '&' (by decide)]), run_next_bind,
      if_neg (by simp [hsymbol '*' (by decide), hsymbol '!' (by decide), hsymbol '-' (by decide)]),
      run_bind_of h, run_bind_of htrailers]
    rfl
  rw [exprRule, run_bind_of hoperand]
  exact hoperators

/-- A word that is a segment begins no expression but a path. -/
theorem begins_pathExpr {w : String} (hw : IsSegmentName w) {ts : List Token} (hbrace : opens .brace ts = false)
    (htry : w = "try" → startsWith [':', ':'] ts = true) :
    startsLiteral (.ident w :: ts) = false ∧ startsBlock (.ident w :: ts) = false ∧
      startsKeyword "async" (.ident w :: ts) = false ∧ startsClosure (.ident w :: ts) = false ∧
      startsPathExpr (.ident w :: ts) = true := by
  have hother : ∀ k ∈ ["true", "false", "if", "while", "loop", "match", "unsafe", "for", "const",
      "async", "move", "static"], w ≠ k := by
    have hkeyword : ∀ k ∈ ["true", "false", "if", "while", "loop", "match", "unsafe", "for", "const",
        "async", "move", "static"], isKeyword k = true ∧ k ∉ "Self" :: bareSegments := by decide
    exact fun k hk => hw.ne_keyword (hkeyword k hk).1 (hkeyword k hk).2
  simp only [List.forall_mem_cons, List.not_mem_nil, false_implies, implies_true, and_true] at hother
  obtain ⟨htrue, hfalse, hif, hwhile, hloop, hmatch, hunsafe, hfor, hconst, hasync, hmove, hstatic⟩ :=
    hother
  refine ⟨by simp [startsLiteral, htrue, hfalse], ?_, by simp [startsKeyword, hasync], ?_, ?_⟩
  · have hword : opens .brace (.ident w :: ts) = false := rfl
    simp [startsBlock, startsAnyOf, startsKeyword, afterTree, hif, hwhile, hloop, hmatch, hunsafe,
      hfor, hbrace, hword]
  · simp [startsClosure, startsBinder, startsAnyOf, startsKeyword, startsWith, hmove, hstatic, hfor,
      hconst, hasync]
  · by_cases heq : w = "try"
    · simp [startsPathExpr, heq, startsKeyword, afterTree, htry heq]
    · simp [startsPathExpr, startsPath, startsPathWord_of_ne hw heq ts]

/-- A path of names is an expression. -/
theorem run_atom_names {names : List String} {absolute : Bool}
    (hnames : ∀ w ∈ names, IsSegmentName w) (hne : names ≠ [])
    (htry : absolute = true ∨ names ≠ ["try"]) (n : Nat) (qs : List Piece) :
    (atom (upTo n) true).run (tokens (pathPieces absolute (names.map fun w => [.word w]) ++
        .closing .bracket :: qs)) =
      some (.constant (.path ⟨absolute, names.map (⟨·, .none⟩)⟩),
        tokens (.closing .bracket :: qs)) := by
  have hpath : (path (upTo n) true).run (tokens (pathPieces absolute (names.map fun w => [.word w]) ++
      .closing .bracket :: qs)) =
        some (⟨absolute, names.map (⟨·, .none⟩)⟩, tokens (.closing .bracket :: qs)) := by
    rw [tokens_names hne]
    exact run_path_names hnames rfl rfl hne (upTo n) true absolute
  have hexpr : startsWith ['<'] (tokens (pathPieces absolute (names.map fun w => [.word w]) ++
      .closing .bracket :: qs)) = false → (pathExpr (upTo n) true).run
        (tokens (pathPieces absolute (names.map fun w => [.word w]) ++ .closing .bracket :: qs)) =
      some (.constant (.path ⟨absolute, names.map (⟨·, .none⟩)⟩),
        tokens (.closing .bracket :: qs)) := by
    intro hangle
    rw [pathExpr, run_bind_of (run_anyPath hangle hpath)]
    dsimp only
    rw [run_next_bind, if_neg (by simp [startsBang, startsWith]), run_next_bind,
      if_neg (by simp [opens])]
    rfl
  obtain ⟨w, vs, rfl⟩ := List.exists_cons_of_ne_nil hne
  cases absolute with
  | true => exact hexpr rfl
  | false =>
    -- a word is next, and after it the end of the group or a separator
    obtain ⟨ts, hts, hbrace, hhash, hseparator⟩ : ∃ ts,
        tokens (pathPieces false ((w :: vs).map fun w => [.word w]) ++ .closing .bracket :: qs) =
          .ident w :: ts ∧ opens .brace ts = false ∧ startsWith ['#'] ts = false ∧
          (w = "try" → startsWith [':', ':'] ts = true) := by
      cases vs with
      | nil =>
        refine ⟨_, rfl, rfl, rfl, fun heq => ?_⟩
        rw [heq] at htry
        exact absurd rfl (htry.resolve_left Bool.false_ne_true)
      | cons v vs => exact ⟨_, rfl, rfl, rfl, fun _ => rfl⟩
    obtain ⟨hliteral, hblock, hasync, hclosure, hstarts⟩ :=
      begins_pathExpr (hnames w List.mem_cons_self) hbrace hseparator
    rw [hts] at hexpr ⊢
    rw [atom, run_next_bind, if_neg (by simp [hliteral]), run_next_bind, if_neg (by simp [hblock]),
      run_next_bind, if_neg (by simp [hasync]), run_next_bind, if_neg (by simp [hclosure]),
      run_next_bind, if_neg (by simp [afterTree, hhash]), run_next_bind, if_pos hstarts]
    exact hexpr rfl

namespace ConstExpr.LaysOutLength

variable {c : ConstExpr} {ps : List Piece}

theorem run_expr (h : c.LaysOutLength ps) {n : Nat} (hn : 0 < n) (qs : List Piece) :
    ((upTo n).expr true).run (tokens (ps ++ .closing .bracket :: qs)) =
      some (.constant c, tokens (.closing .bracket :: qs)) := by
  obtain ⟨n, rfl⟩ := Nat.exists_eq_succ_of_ne_zero (Nat.ne_of_gt hn)
  show (exprRule (upTo n) true).run _ = _
  cases h with
  | int hn => exact run_exprRule_of_atom (by simp [startsWith]) rfl
  | bool value => cases value <;> exact run_exprRule_of_atom (by simp [startsWith]) rfl
  | @path absolute names hnames hne htry =>
    refine run_exprRule_of_atom (fun s hs => ?_) (run_atom_names hnames hne htry n qs)
    obtain ⟨w, vs, rfl⟩ := List.exists_cons_of_ne_nil hne
    have hcolon : s ≠ ':' := by
      rintro rfl
      exact absurd hs (by decide)
    cases absolute with
    | true => exact beq_false_of_ne hcolon
    | false => cases vs <;> rfl

end ConstExpr.LaysOutLength

/-- An array is laid out with its length. -/
theorem TypeExpr.LaysOut.array {plus : Bool} {t : TypeExpr} {c : ConstExpr} {ps cs : List Piece}
    (h : t.LaysOut true ps) (hc : c.LaysOutLength cs) :
    TypeExpr.LaysOut plus (.array t c)
      (.opening .bracket :: (ps ++ .symbol ';' :: .blank :: (cs ++ [.closing .bracket]))) := by
  have hpieces : ∀ qs, (.opening .bracket :: (ps ++ .symbol ';' :: .blank ::
      (cs ++ [.closing .bracket]))) ++ qs = .opening .bracket :: (ps ++ .symbol ';' :: .blank ::
        (cs ++ .closing .bracket :: qs)) := fun qs => by simp
  refine ⟨fun qs => rfl, fun qs _ => rfl, fun n qs hn hqs => ?_⟩
  have hless : size ps < n ∧ 0 < n := by
    simp at hn
    omega
  have helem := h.run_wholeType (n := n) (.symbol ';' :: .blank ::
    (cs ++ .closing .bracket :: qs)) hless.1 (by simp [endsType])
  rw [hpieces, tokens_opening]
  refine run_typeRule_of (p := bracketType (upTo n)) rfl (run_group ?_)
  rw [run_bind_of helem]
  show (symbol? [';'] >>= _).run (.punct ';' false :: tokens (cs ++ .closing .bracket :: qs)) = _
  rw [run_symbol?_punct, if_pos rfl, run_bind_of (hc.run_expr hless.2 qs)]
  rfl

end Mapwright.Source
