import Mapwright.Proofs.Layouts

/-!
# Layouts of paths

A path is laid out segment by segment.  The grammar reads the segments up to
the first one with arguments in parentheses, then these arguments, and goes on
from there.  In a bound it does so once only.
-/

namespace Mapwright.Source

open Token Parse Grammar

/-! ## Segments -/

/-- The words that are a segment by themselves and take no arguments in angle brackets. -/
def bareSegments : List String := ["super", "self", "crate", "try"]

/-- A word that can be a segment of a path. -/
structure IsSegmentName (w : String) : Prop where
  identifier : IsIdentifier w.toList
  kind : w ∈ bareSegments ∨ w = "Self" ∨ isKeyword w = false

/-- From the pieces the arguments in angle brackets are read. -/
structure AngledLaysOut (args : List GenericArg) (ps : List Piece) : Prop where
  angle : ∀ qs, startsWith ['<'] (tokens (ps ++ qs)) = true
  starts : ∀ qs, startsAngled false (tokens (ps ++ qs)) = true
  read : ∀ n qs, size ps ≤ n →
    (angledArgs (upTo n)).run (tokens (ps ++ qs)) = some (.angled args, tokens qs)

/-- From the pieces the arguments in parentheses, and what they lead to, are read. -/
structure CalledLaysOut (inputs : List TypeExpr) (output : Option TypeExpr) (ps : List Piece) :
    Prop where
  starts : ∀ qs, opens .paren (tokens (ps ++ qs)) = true
  read : ∀ n qs, size ps ≤ n → MayFollowOutput output (tokens qs) →
    (calledArgs (upTo n)).run (tokens (ps ++ qs)) = some (.called inputs output, tokens qs)

/-- The pieces of a segment. -/
inductive Segment.LaysOut : Segment → List Piece → Prop
  | plain {name : String} (hname : IsSegmentName name) : LaysOut ⟨name, .none⟩ [.word name]
  | angled {name : String} {args : List GenericArg} {ps : List Piece} (hname : IsSegmentName name)
    (hbare : name ∉ bareSegments) (h : AngledLaysOut args ps) :
    LaysOut ⟨name, .angled args⟩ (.word name :: ps)
  | called {name : String} {inputs : List TypeExpr} {output : Option TypeExpr} {ps : List Piece}
    (hname : IsSegmentName name) (h : CalledLaysOut inputs output ps) :
    LaysOut ⟨name, .called inputs output⟩ (.word name :: ps)

/-- The pieces of the segments after the first one. -/
def tailPieces (rows : List (List Piece)) : List Piece := rows.flatMap (separatorPieces ++ ·)

theorem tailPieces_cons (row : List Piece) (rows : List (List Piece)) (qs : List Piece) :
    tailPieces (row :: rows) ++ qs = separatorPieces ++ (row ++ (tailPieces rows ++ qs)) := by
  simp [tailPieces]

theorem exists_of_opens {d : Delimiter} {ts : List Token} (h : opens d ts = true) :
    ∃ ts', ts = .opening d :: ts' := by
  cases ts with
  | nil => cases h
  | cons t ts =>
    cases t with
    | opening e => exact ⟨ts, by rw [eq_of_beq h]⟩
    | _ => cases h

theorem joinPieces_cons (sep : List Piece) (ps : List Piece) (pss : List (List Piece)) :
    joinPieces sep (ps :: pss) = ps ++ pss.flatMap (sep ++ ·) := by
  induction pss generalizing ps with
  | nil => simp [joinPieces]
  | cons qs pss ih =>
    rw [joinPieces, ih, List.flatMap_cons, List.append_assoc]
    exact List.cons_ne_nil _ _

variable {ss : List Segment} {rows : List (List Piece)}

/-- The segments after the first one begin with a separator, and a word comes after it. -/
theorem tokens_tailPieces_cons (h : List.Forall₂ Segment.LaysOut ss rows) (hne : ss ≠ [])
    (qs : List Piece) : ∃ joint w ts,
      tokens (tailPieces rows ++ qs) = .punct ':' true :: .punct ':' joint :: .ident w :: ts := by
  cases h with
  | nil => exact absurd rfl hne
  | cons hs hss => cases hs <;> exact ⟨_, _, _, rfl⟩

theorem not_startsAngled_tail (h : List.Forall₂ Segment.LaysOut ss rows) {qs : List Piece}
    (hangle : startsWith ['<'] (tokens qs) = false)
    (hseparator : startsWith [':', ':'] (tokens qs) = false) (inExpr : Bool) :
    startsAngled inExpr (tokens (tailPieces rows ++ qs)) = false := by
  cases h with
  | nil => simp [tailPieces, startsAngled, hangle, hseparator]
  | cons hs hss => cases hs <;> cases inExpr <;> rfl

/-! ## Reading segments -/

theorem startsAnyOf_bareSegments {name : String} {ts : List Token} (h : name ∉ bareSegments) :
    startsAnyOf ["super", "self", "crate", "try"] (.ident name :: ts) = false :=
  Bool.eq_false_iff.2 (mt startsAnyOf_ident.1 h)

theorem run_nameOr {name : String} {words : List String} {ts : List Token}
    (h : name ∈ words ∨ isKeyword name = false) :
    (nameOr words).run (.ident name :: ts) = some (name, ts) := by
  have hget : (get : Parse (List Token)).run (.ident name :: ts) =
      some (.ident name :: ts, .ident name :: ts) := rfl
  rw [nameOr, run_bind_of hget]
  cases hwords : startsAnyOf words (.ident name :: ts) with
  | true => rfl
  | false =>
    have hname : isKeyword name = false := by
      refine h.resolve_left fun hmem => ?_
      rw [startsAnyOf_ident.2 hmem] at hwords
      cases hwords
    rw [if_neg Bool.false_ne_true, Parse.name, run_demand_bind, if_pos (by simp [startsName, hname])]
    rfl

theorem run_segment_plain {g : Grammar} {name : String} (hname : IsSegmentName name) {inExpr : Bool}
    {ts : List Token} (hts : startsAngled inExpr ts = false) :
    (segment g inExpr).run (.ident name :: ts) = some (⟨name, .none⟩, ts) := by
  rw [Grammar.segment, run_next_bind]
  by_cases hbare : name ∈ bareSegments
  · have hstarts : startsAnyOf ["super", "self", "crate", "try"] (.ident name :: ts) = true :=
      startsAnyOf_ident.2 hbare
    rw [hstarts]
    rfl
  · have hkind : name ∈ ["Self"] ∨ isKeyword name = false := by
      simpa using hname.kind.resolve_left hbare
    rw [startsAnyOf_bareSegments hbare, if_neg Bool.false_ne_true, run_bind_of (run_nameOr hkind),
      run_next_bind, hts]
    rfl

theorem run_segment_angled {g : Grammar} {name : String} (hname : IsSegmentName name)
    (hbare : name ∉ bareSegments) {ts rest : List Token} {args : SegmentArgs}
    (hts : startsAngled false ts = true) (hargs : (angledArgs g).run ts = some (args, rest)) :
    (segment g false).run (.ident name :: ts) = some (⟨name, args⟩, rest) := by
  have hkind : name ∈ ["Self"] ∨ isKeyword name = false := by
    simpa using hname.kind.resolve_left hbare
  rw [Grammar.segment, run_next_bind, startsAnyOf_bareSegments hbare, if_neg Bool.false_ne_true,
    run_bind_of (run_nameOr hkind), run_next_bind, hts, if_pos rfl, run_bind_of hargs]
  rfl

theorem run_moreSegments_nil {g : Grammar} {inExpr : Bool} {ts : List Token}
    (h : startsWith [':', ':'] ts = false) : (moreSegments g inExpr).run ts = some ([], ts) :=
  run_many_nil (by simp [h])

theorem run_moreSegments_cons {g : Grammar} [Taking g] {inExpr joint : Bool} {w : String}
    {ts mid rest : List Token} {s : Segment} {ss : List Segment}
    (hs : (segment g inExpr).run (.ident w :: ts) = some (s, mid))
    (hss : (moreSegments g inExpr).run mid = some (ss, rest)) :
    (moreSegments g inExpr).run (.punct ':' true :: .punct ':' joint :: .ident w :: ts) =
      some (s :: ss, rest) := by
  have hsymbol : (do symbol [':', ':']; segment g inExpr).run
      (.punct ':' true :: .punct ':' joint :: .ident w :: ts) = some (s, mid) := by
    rw [run_symbol_bind, if_pos (by simp [startsWith])]
    exact hs
  refine run_many_cons (by simp [startsWith, afterTree, opens]) hsymbol ?_ hss
  have hle := (Takes.suffix _ _ _ hs).length_le
  simp only [List.length_cons] at hle ⊢
  omega

/-! ## Paths of names -/

/-- Names with a separator before each. -/
def laterTokens : List String → List Token
  | [] => []
  | name :: names => .punct ':' true :: .punct ':' false :: .ident name :: laterTokens names

/-- A path of names as it is spelled. -/
def NamePath.tokens (p : NamePath) : List Token :=
  (if p.absolute then [.punct ':' true, .punct ':' false] else []) ++ (laterTokens p.names).drop 2

/-- A path begins with a separator or with its first name. -/
theorem run_root_bind {α : Type} (f : Bool → Parse α) (absolute : Bool) (name : String)
    (names : List String) (rest : List Token) :
    (symbol? [':', ':'] >>= f).run ((NamePath.mk absolute (name :: names)).tokens ++ rest) =
      (f absolute).run (.ident name :: (laterTokens names ++ rest)) := by
  rw [run_symbol?_bind]
  cases absolute <;> rfl

section

variable {names : List String} {rest : List Token} (hnames : ∀ name ∈ names, IsSegmentName name)
  (hangle : startsWith ['<'] rest = false) (hseparator : startsWith [':', ':'] rest = false)

include hangle hseparator

theorem not_startsAngled_names (inExpr : Bool) (names : List String) :
    startsAngled inExpr (laterTokens names ++ rest) = false := by
  cases names with
  | nil => simp [laterTokens, startsAngled, hangle, hseparator]
  | cons name names => cases inExpr <;> rfl

include hnames

theorem run_moreSegments_names (g : Grammar) [Taking g] (inExpr : Bool) :
    (moreSegments g inExpr).run (laterTokens names ++ rest) =
      some (names.map (⟨·, .none⟩), rest) := by
  induction names with
  | nil => exact run_moreSegments_nil hseparator
  | cons name names ih =>
    obtain ⟨hname, hnames⟩ := List.forall_mem_cons.1 hnames
    have hangled := not_startsAngled_names hangle hseparator inExpr names
    exact run_moreSegments_cons (run_segment_plain hname hangled) (ih hnames)

/-- A path of names is read as it is spelled. -/
theorem run_path_names (hne : names ≠ []) (g : Grammar) [Taking g] (inExpr absolute : Bool) :
    (path g inExpr).run ((NamePath.mk absolute names).tokens ++ rest) =
      some ((NamePath.mk absolute names).toPath, rest) := by
  obtain ⟨name, names, rfl⟩ := List.exists_cons_of_ne_nil hne
  obtain ⟨hname, hnames⟩ := List.forall_mem_cons.1 hnames
  have hangled := not_startsAngled_names hangle hseparator inExpr names
  rw [path, run_root_bind, run_bind_of (run_segment_plain hname hangled),
    run_bind_of (run_moreSegments_names hnames hangle hseparator g inExpr)]
  rfl

end

/-! ## Whole paths -/

/-- Whether only arguments in parentheses that are allowed to are followed by more segments. -/
def CallsAllowed (allowed : Option TypeExpr → Prop) : List Segment → Prop
  | [] => True
  | s :: ss => (ss ≠ [] → ∀ inputs output, s.args = .called inputs output → allowed output) ∧
    CallsAllowed allowed ss

/-- How the reading of a path ends once the segments up to the first arguments in parentheses are
read: from a path, and the tokens that are left, a path comes about. -/
structure Finishes (n : Nat) (absolute : Bool) (allowed : Option TypeExpr → Prop)
    (qs : List Piece) (ends : Path → List Token → Path → Prop) : Prop where
  done : ∀ ss, ends ⟨absolute, ss⟩ (tokens qs) ⟨absolute, ss⟩
  /-- The arguments are read, and the segments after them if there are such. -/
  call : ∀ {pre ss more : List Segment} {name inputs output ps rest} {mid : List Token},
    size ps ≤ n → CalledLaysOut inputs output ps → (ss ≠ [] → allowed output) →
    (ss = [] → rest = qs) → MayFollowOutput output (tokens rest) →
    (moreSegments (upTo n) false).run (tokens rest) = some (more, mid) →
    (∀ pre, ends ⟨absolute, pre ++ more⟩ mid ⟨absolute, pre ++ ss⟩) →
    ends ⟨absolute, pre ++ [⟨name, .none⟩]⟩ (tokens (ps ++ rest))
      ⟨absolute, pre ++ ⟨name, .called inputs output⟩ :: ss⟩

variable {n : Nat} {absolute : Bool} {allowed : Option TypeExpr → Prop} {qs : List Piece}
  {ends : Path → List Token → Path → Prop}

/-- A segment is read, and what follows it as before. -/
theorem run_segment (hends : Finishes n absolute allowed qs ends)
    (hclosed : ∀ output, allowed output → isClosedOutput output = true)
    (hqs : endsType false (tokens qs) = true) {s : Segment} {row : List Piece}
    (hs : s.LaysOut row) (h : List.Forall₂ Segment.LaysOut ss rows) (hn : size row ≤ n)
    (hcalls : ss ≠ [] → ∀ inputs output, s.args = .called inputs output → allowed output)
    {more : List Segment} {mid : List Token}
    (hmore : (moreSegments (upTo n) false).run (tokens (tailPieces rows ++ qs)) = some (more, mid))
    (hfinish : ∀ pre, ends ⟨absolute, pre ++ more⟩ mid ⟨absolute, pre ++ ss⟩) :
    ∃ first after more' mid', (segment (upTo n) false).run (tokens (row ++ (tailPieces rows ++ qs))) =
        some (first, after) ∧ (moreSegments (upTo n) false).run after = some (more', mid') ∧
      ∀ pre, ends ⟨absolute, pre ++ first :: more'⟩ mid' ⟨absolute, pre ++ s :: ss⟩ := by
  have hfollow := EndsType.of_endsType hqs
  have hangled := not_startsAngled_tail h hfollow.angle hfollow.separator false
  have hon : ∀ pre, ends ⟨absolute, pre ++ s :: more⟩ mid ⟨absolute, pre ++ s :: ss⟩ := by
    intro pre
    simpa using hfinish (pre ++ [s])
  cases hs with
  | plain hname => exact ⟨_, _, _, _, run_segment_plain hname hangled, hmore, hon⟩
  | @angled name args ps hname hbare hargs =>
    have hread := hargs.read n (tailPieces rows ++ qs) (Nat.le_of_succ_le hn)
    exact ⟨_, _, _, _, run_segment_angled hname hbare (hargs.starts _) hread, hmore, hon⟩
  | @called name inputs output ps hname hargs =>
    obtain ⟨ts, hts⟩ := exists_of_opens (hargs.starts (tailPieces rows ++ qs))
    have hname : (segment (upTo n) false).run (.ident name :: tokens (ps ++ (tailPieces rows ++ qs))) =
        some (⟨name, .none⟩, tokens (ps ++ (tailPieces rows ++ qs))) :=
      run_segment_plain hname (by rw [hts]; rfl)
    have hnone : (moreSegments (upTo n) false).run (tokens (ps ++ (tailPieces rows ++ qs))) =
        some ([], tokens (ps ++ (tailPieces rows ++ qs))) :=
      run_moreSegments_nil (by rw [hts]; rfl)
    refine ⟨_, _, _, _, hname, hnone, fun pre => ?_⟩
    refine hends.call (Nat.le_of_succ_le hn) hargs (fun hne => hcalls hne _ _ rfl) ?_ ?_ hmore hfinish
    · rintro rfl
      cases h
      rfl
    · by_cases hne : ss = []
      · subst hne
        cases h
        exact Or.inl hqs
      · obtain ⟨joint, w, ts, heq⟩ := tokens_tailPieces_cons h hne qs
        refine Or.inr ⟨hclosed _ (hcalls hne _ _ rfl), ?_⟩
        rw [heq]
        rfl

/-- **The segments of a path are read again.** -/
theorem run_segments (hends : Finishes n absolute allowed qs ends)
    (hclosed : ∀ output, allowed output → isClosedOutput output = true)
    (hqs : endsType false (tokens qs) = true) (h : List.Forall₂ Segment.LaysOut ss rows)
    (hn : ∀ row ∈ rows, size row ≤ n) (hcalls : CallsAllowed allowed ss) :
    ∃ more mid, (moreSegments (upTo n) false).run (tokens (tailPieces rows ++ qs)) =
      some (more, mid) ∧ ∀ pre, ends ⟨absolute, pre ++ more⟩ mid ⟨absolute, pre ++ ss⟩ := by
  induction h with
  | nil =>
    exact ⟨[], tokens qs, run_moreSegments_nil (EndsType.of_endsType hqs).separator,
      fun pre => hends.done _⟩
  | @cons s row ss rows hs hss ih =>
    obtain ⟨hrow, hrows⟩ := List.forall_mem_cons.1 hn
    obtain ⟨more, mid, hmore, hfinish⟩ := ih hrows hcalls.2
    obtain ⟨first, after, more', mid', hfirst, hmore', hfinish'⟩ :=
      run_segment hends hclosed hqs hs hss hrow hcalls.1 hmore hfinish
    refine ⟨first :: more', mid', ?_, hfinish'⟩
    rw [tailPieces_cons]
    cases hs <;> exact run_moreSegments_cons hfirst hmore'

theorem pathPieces_cons (absolute : Bool) (row : List Piece) (rows : List (List Piece))
    (qs : List Piece) : pathPieces absolute (row :: rows) ++ qs =
      (if absolute then separatorPieces else []) ++ (row ++ (tailPieces rows ++ qs)) := by
  simp [pathPieces, joinPieces_cons, tailPieces]

/-- The beginning of a path is read, and what follows it as the reading of a path ends. -/
theorem run_path (hends : Finishes n absolute allowed qs ends)
    (hclosed : ∀ output, allowed output → isClosedOutput output = true)
    (hqs : endsType false (tokens qs) = true) (h : List.Forall₂ Segment.LaysOut ss rows)
    (hne : ss ≠ []) (hn : ∀ row ∈ rows, size row ≤ n) (hcalls : CallsAllowed allowed ss) :
    ∃ p mid, (path (upTo n) false).run (tokens (pathPieces absolute rows ++ qs)) = some (p, mid) ∧
      ends p mid ⟨absolute, ss⟩ := by
  cases h with
  | nil => exact absurd rfl hne
  | @cons s row ss rows hs hss =>
    obtain ⟨hrow, hrows⟩ := List.forall_mem_cons.1 hn
    obtain ⟨more, mid, hmore, hfinish⟩ := run_segments hends hclosed hqs hss hrows hcalls.2
    obtain ⟨first, after, more', mid', hfirst, hmore', hfinish'⟩ :=
      run_segment hends hclosed hqs hs hss hrow hcalls.1 hmore hfinish
    refine ⟨⟨absolute, first :: more'⟩, mid', ?_, hfinish' []⟩
    rw [pathPieces_cons]
    have hsymbol : ∀ f : Bool → Parse Path, (symbol? [':', ':'] >>= f).run
        (tokens ((if absolute then separatorPieces else []) ++ (row ++ (tailPieces rows ++ qs)))) =
          (f absolute).run (tokens (row ++ (tailPieces rows ++ qs))) := by
      intro f
      cases absolute with
      | true =>
        rw [run_symbol?_bind, if_pos (by cases hs <;> rfl)]
        rfl
      | false =>
        rw [run_symbol?_bind, if_neg (by cases hs <;> exact Bool.false_ne_true)]
        rfl
    rw [path, hsymbol, run_bind_of hfirst, run_bind_of hmore']
    rfl

/-! ## The two ways to go on -/

theorem segmentsOpen_concat (pre : List Segment) (s : Segment) :
    Path.segmentsOpen (pre ++ [s]) = s.args.isEmpty := by
  induction pre with
  | nil => rfl
  | cons t pre ih =>
    cases pre with
    | nil => exact ih
    | cons u pre => exact ih

theorem closeSegments_concat (pre : List Segment) (name : String) (args args' : SegmentArgs) :
    Path.closeSegments args' (pre ++ [⟨name, args⟩]) = pre ++ [⟨name, args'⟩] := by
  induction pre with
  | nil => rfl
  | cons t pre ih =>
    cases pre with
    | nil => exact congrArg (t :: ·) ih
    | cons u pre => exact congrArg (t :: ·) ih

theorem length_lt_of_called {inputs : List TypeExpr} {output : Option TypeExpr} {ps : List Piece}
    (h : CalledLaysOut inputs output ps) (rest : List Piece) :
    (tokens rest).length < (tokens (ps ++ rest)).length := by
  obtain ⟨ts, hts⟩ := exists_of_opens (h.starts [])
  rw [List.append_nil] at hts
  rw [length_tokens_append, hts, List.length_cons]
  omega

/-- Where arguments in parentheses are next, the last segment of a path takes them. -/
theorem takes_called (absolute : Bool) {inputs : List TypeExpr} {output : Option TypeExpr} {ps : List Piece}
    (h : CalledLaysOut inputs output ps) (pre : List Segment) (name : String)
    (rest : List Piece) :
    (Path.isOpen ⟨absolute, pre ++ [⟨name, .none⟩]⟩ && startsCalled (tokens (ps ++ rest))) = true ∧
      (symbol? [':', ':']).run (tokens (ps ++ rest)) = some (false, tokens (ps ++ rest)) ∧
      Path.close ⟨absolute, pre ++ [⟨name, .none⟩]⟩ (.called inputs output) =
        ⟨absolute, pre ++ [⟨name, .called inputs output⟩]⟩ := by
  obtain ⟨ts, hts⟩ := exists_of_opens (h.starts rest)
  rw [Path.isOpen, segmentsOpen_concat, hts, Path.close, closeSegments_concat]
  exact ⟨rfl, rfl, rfl⟩

theorem not_startsCalled (hqs : endsType false (tokens qs) = true) :
    startsCalled (tokens qs) = false := by
  have hfollow := EndsType.of_endsType hqs
  simp [startsCalled, hfollow.paren, hfollow.separator]

/-- A path as a type goes on after closed arguments in parentheses. -/
theorem finishes_calledPath (hqs : endsType false (tokens qs) = true) :
    Finishes n absolute (fun output => isClosedOutput output = true) qs fun p mid p' =>
      ∀ fuel, mid.length ≤ fuel →
        (calledPathUpTo (upTo n) fuel p).run mid = some (p', tokens qs) := by
  have hdone : ∀ fuel ss, (calledPathUpTo (upTo n) fuel ⟨absolute, ss⟩).run (tokens qs) =
      some (⟨absolute, ss⟩, tokens qs) := by
    intro fuel ss
    cases fuel with
    | zero => rfl
    | succ fuel =>
      rw [calledPathUpTo, run_next_bind, not_startsCalled hqs, Bool.and_false]
      rfl
  refine ⟨fun ss fuel _ => hdone fuel ss, ?_⟩
  intro pre ss more name inputs output ps rest mid hps hargs hclosed hlast hrest hmore hfinish fuel
    hfuel
  obtain ⟨htest, hsymbol, hclose⟩ := takes_called absolute hargs pre name rest
  have hless := length_lt_of_called hargs rest
  have hread := hargs.read n rest hps hrest
  cases fuel with
  | zero => omega
  | succ fuel =>
    rw [calledPathUpTo, run_next_bind, htest, if_pos rfl, run_bind_of (run_discard_of hsymbol),
      run_bind_of hread, hclose, isClosed_called]
    cases houtput : isClosedOutput output with
    | true =>
      have hmid := (Takes.suffix _ _ _ hmore).length_le
      rw [if_pos rfl, run_bind_of hmore]
      have hon := hfinish (pre ++ [⟨name, .called inputs output⟩]) fuel (by omega)
      rw [List.append_assoc pre _ ss, List.singleton_append] at hon
      exact hon
    | false =>
      have hnil : ss = [] := by
        by_contra hne
        have hopen := hclosed hne
        rw [houtput] at hopen
        cases hopen
      rw [hnil, hlast hnil]
      simpa [Path.append] using hdone fuel (pre ++ [⟨name, .called inputs output⟩])

/-- How a bound goes on after the segments of its path. -/
def boundCall (g : Grammar) (p : Path) : Parse Path := do
  if ← next (fun ts => p.isOpen && startsCalled ts) then
    discard (symbol? [':', ':'])
    return p.close (← calledArgs g)
  else return p

theorem run_boundCall_bind {g : Grammar} {α : Type} {k : Path → Parse α} {p p' : Path}
    {mid rest : List Token} (h : (boundCall g p).run mid = some (p', rest)) :
    (do
      if ← next (fun ts => p.isOpen && startsCalled ts) then
        discard (symbol? [':', ':'])
        k (p.close (← calledArgs g))
      else k p).run mid = (k p').run rest := by
  rw [← run_bind_of h, boundCall, bind_assoc, run_next_bind, run_next_bind]
  cases p.isOpen && startsCalled mid with
  | false => rfl
  | true =>
    rw [if_pos rfl, if_pos rfl, bind_assoc]
    simp only [bind_assoc, pure_bind]

/-- A path in a bound ends after arguments in parentheses. -/
theorem finishes_boundCall (absolute : Bool) (hqs : endsType false (tokens qs) = true) :
    Finishes n absolute (fun _ => False) qs fun p mid p' =>
      (boundCall (upTo n) p).run mid = some (p', tokens qs) := by
  refine ⟨fun ss => ?_, ?_⟩
  · rw [boundCall, run_next_bind, not_startsCalled hqs, Bool.and_false]
    rfl
  · intro pre ss more name inputs output ps rest mid hps hargs hclosed hlast hrest hmore hfinish
    have hnil : ss = [] := not_not.1 hclosed
    obtain ⟨htest, hsymbol, hclose⟩ := takes_called absolute hargs pre name rest
    rw [boundCall, run_next_bind, htest, if_pos rfl, run_bind_of (run_discard_of hsymbol),
      run_bind_of (hargs.read n rest hps hrest), hclose, hnil, hlast hnil]
    rfl

/-! ## Paths as types -/

/-- From the pieces the segments of a path are read where the path is a type. -/
structure SegmentsLayOut (ss : List Segment) (rows : List (List Piece)) : Prop where
  segments : List.Forall₂ Segment.LaysOut ss rows
  ne_nil : ss ≠ []
  calls : CallsAllowed (fun output => isClosedOutput output = true) ss

theorem size_le_pathPieces (absolute : Bool) :
    ∀ row ∈ rows, size row ≤ size (pathPieces absolute rows) := by
  intro row hrow
  have hle := size_le_joinPieces separatorPieces row hrow
  rw [pathPieces, size_append]
  omega

/-- What a path begins with, and what comes after its first word. -/
theorem tokens_pathPieces (h : List.Forall₂ Segment.LaysOut ss rows) (hne : ss ≠ [])
    (absolute : Bool) (qs : List Piece) :
    (∃ joint ts, absolute = true ∧
      tokens (pathPieces absolute rows ++ qs) = .punct ':' true :: .punct ':' joint :: ts) ∨
    ∃ w ts, absolute = false ∧ (ss.head?.map (·.name)) = some w ∧
      tokens (pathPieces absolute rows ++ qs) = .ident w :: ts ∧ (ts = tokens qs ∨
        startsWith ['<'] ts = true ∨ opens .paren ts = true ∨ ∃ joint v vs,
          ts = .punct ':' true :: .punct ':' joint :: .ident v :: vs) := by
  cases h with
  | nil => exact absurd rfl hne
  | @cons s row ss rows hs hss =>
    rw [pathPieces_cons]
    cases absolute with
    | true => exact Or.inl ⟨_, _, rfl, rfl⟩
    | false =>
      right
      cases hs with
      | @plain name hname =>
        refine ⟨name, _, rfl, rfl, rfl, ?_⟩
        by_cases hnil : ss = []
        · subst hnil
          cases hss
          exact Or.inl rfl
        · obtain ⟨joint, v, vs, hvs⟩ := tokens_tailPieces_cons hss hnil qs
          exact Or.inr (Or.inr (Or.inr ⟨joint, v, vs, hvs⟩))
      | @angled name args ps hname hbare hargs =>
        exact ⟨name, tokens (ps ++ (tailPieces rows ++ qs)), rfl, rfl, rfl,
          Or.inr (Or.inl (hargs.angle _))⟩
      | @called name inputs output ps hname hargs =>
        exact ⟨name, tokens (ps ++ (tailPieces rows ++ qs)), rfl, rfl, rfl,
          Or.inr (Or.inr (Or.inl (hargs.starts _)))⟩

theorem Segment.LaysOut.isSegmentName {s : Segment} {row : List Piece} (h : s.LaysOut row) :
    IsSegmentName s.name := by
  cases h <;> assumption

/-- Of the words that are segments, only `try` begins no path as a type. -/
theorem startsPathWord_of_ne {w : String} (h : IsSegmentName w) (hne : w ≠ "try") (ts : List Token) :
    startsPathWord (.ident w :: ts) = true := by
  have hroot : w ∈ rootWords ∨ isKeyword w = false := by
    rcases h.kind with hbare | rfl | hname
    · have hroots : ∀ v ∈ bareSegments, v ≠ "try" → v ∈ rootWords := by decide
      exact Or.inl (hroots w hbare hne)
    · exact Or.inl (by decide)
    · exact Or.inr hname
  rcases hroot with hroot | hname
  · simp [startsPathWord, startsAnyOf_ident.2 hroot]
  · simp [startsPathWord, startsName, hname]

theorem not_startsAnyOf_of_pathWord {w : String} {ts : List Token}
    (h : startsPathWord (.ident w :: ts) = true) {words : List String}
    (hwords : words.all (fun k => isKeyword k && !rootWords.contains k) = true) :
    startsAnyOf words (.ident w :: ts) = false := by
  refine Bool.eq_false_iff.2 fun hw => ?_
  have hkeyword := List.all_eq_true.1 hwords w (startsAnyOf_ident.1 hw)
  simp only [Bool.and_eq_true, Bool.not_eq_true'] at hkeyword
  have hpath : (!isKeyword w || rootWords.contains w) = true := h
  rw [hkeyword.1, hkeyword.2] at hpath
  cases hpath

theorem startsNamed_ident {w : String} {ts : List Token} (hcolon : startsColon ts = false)
    (hdots : startsWith [':'] ts = true → startsWith ['.', '.', '.'] (afterTree ts) = false) :
    startsNamed (.ident w :: ts) = false := by
  have hword : startsWith ['.', '.', '.'] (.ident w :: ts) = false := rfl
  have hafter : afterTree (.ident w :: ts) = ts := rfl
  have hvariadic : startsVariadic (.ident w :: ts) = false := by
    rw [startsVariadic, hword, hafter]
    cases hc : startsWith [':'] ts with
    | false => simp
    | true => simp [hdots hc]
  rw [startsNamed, hvariadic, hafter, hcolon, Bool.and_false]
  rfl

theorem run_binder?_none {g : Grammar} {ts : List Token} (h : startsKeyword "for" ts = false) :
    (binder? g).run ts = some (false, ts) := by
  rw [binder?, run_keyword?_bind, if_neg (by simp [h])]
  rfl

theorem run_anyPath {g : Grammar} {inExpr : Bool} {ts mid : List Token} {p : Path}
    (hts : startsWith ['<'] ts = false) (h : (path g inExpr).run ts = some (p, mid)) :
    (anyPath g inExpr).run ts = some ((false, p), mid) := by
  rw [anyPath, run_symbol?_bind, if_neg (by simp [hts])]
  show (path g inExpr >>= fun p => pure (false, p)).run ts = _
  rw [run_bind_of h]
  rfl

theorem run_typeRule_of_path {g : Grammar} {plus : Bool} {ts : List Token}
    (hpath : startsPath ts = true)
    (hword : startsAnyOf ["for", "fn", "unsafe", "extern"] ts = false)
    (hparen : opens .paren ts = false) :
    (typeRule g plus).run ts = (pathType g plus false).run ts := by
  have hfor : startsKeyword "for" ts = false := by
    cases ts with
    | nil => rfl
    | cons t ts => cases t <;> simp_all [startsAnyOf, startsKeyword]
  have hfn : startsAnyOf ["fn", "unsafe", "extern"] ts = false := by
    cases ts with
    | nil => rfl
    | cons t ts => cases t <;> simp_all [startsAnyOf]
  rw [typeRule, run_bind_of (run_binder?_none hfor), run_demand_bind, if_pos (by simp),
    run_next_bind, if_neg (by simp [hparen]), run_next_bind, if_neg (by simp [hfn]), run_next_bind,
    if_pos hpath]

/-- What a path begins with begins no type of another kind, unless it is the bare word `try`. -/
theorem SegmentsLayOut.begins (h : SegmentsLayOut ss rows)
    (hfirst : absolute = true ∨ ss.head?.map (·.name) ≠ some "try") (qs : List Piece) :
    startsType (tokens (pathPieces absolute rows ++ qs)) = true ∧
      startsPath (tokens (pathPieces absolute rows ++ qs)) = true ∧
      startsAnyOf ["for", "fn", "unsafe", "extern"]
        (tokens (pathPieces absolute rows ++ qs)) = false ∧
      opens .paren (tokens (pathPieces absolute rows ++ qs)) = false ∧
      startsWith ['<'] (tokens (pathPieces absolute rows ++ qs)) = false := by
  rcases tokens_pathPieces h.segments h.ne_nil absolute qs with ⟨joint, ts, -, hts⟩ |
    ⟨w, ts, habsolute, hw, hts, -⟩
  · rw [hts]
    exact ⟨by simp [startsType, startsWith], by simp [startsPath, startsWith], rfl, rfl, rfl⟩
  · rw [hts]
    have hne : w ≠ "try" := by
      rintro rfl
      exact hfirst.elim (fun h => by rw [habsolute] at h; cases h) (fun h => h hw)
    obtain ⟨s, hs, rfl⟩ := Option.map_eq_some_iff.1 hw
    obtain ⟨row, -, hrow⟩ := exists_of_forall₂_right h.segments.flip s (List.mem_of_head? hs)
    have hword := startsPathWord_of_ne hrow.isSegmentName hne ts
    exact ⟨by simp [startsType, hword], by simp [startsPath, hword],
      not_startsAnyOf_of_pathWord hword (by decide), rfl, rfl⟩

/-- A path begins no name of a parameter. -/
theorem SegmentsLayOut.not_startsNamed (h : SegmentsLayOut ss rows) (absolute : Bool)
    {qs : List Piece} (hqs : startsWith [':'] (tokens qs) = false) :
    startsNamed (tokens (pathPieces absolute rows ++ qs)) = false := by
  rcases tokens_pathPieces h.segments h.ne_nil absolute qs with ⟨joint, ts, -, hts⟩ |
    ⟨w, ts, -, -, hts, hafter⟩
  · rw [hts]
    exact startsNamed_punct (by decide)
  · rw [hts]
    rcases hafter with rfl | hangle | hparen | ⟨joint, v, vs, rfl⟩
    · exact startsNamed_ident (by simp [startsColon, hqs]) (by simp [hqs])
    · obtain ⟨joint, ts', rfl⟩ := startsWith_one_iff.1 hangle
      exact startsNamed_ident (by simp [startsColon]) (by simp)
    · obtain ⟨ts', rfl⟩ := exists_of_opens hparen
      exact startsNamed_ident rfl (fun hc => by cases hc)
    · exact startsNamed_ident (by simp [startsColon, startsWith]) (fun _ => by cases joint <;> rfl)

/-- A path is read where it is a type, unless it begins with the bare word `try`. -/
theorem SegmentsLayOut.type (h : SegmentsLayOut ss rows) (plus : Bool)
    (hfirst : absolute = true ∨ ss.head?.map (·.name) ≠ some "try") :
    TypeExpr.LaysOut plus (.path ⟨absolute, ss⟩) (pathPieces absolute rows) := by
  refine ⟨fun qs => (h.begins hfirst qs).1, fun qs hqs => h.not_startsNamed absolute hqs,
    fun n qs hn hqs => ?_⟩
  have hqs := hqs.endsType rfl
  have hends := endsType_withoutSum hqs
  obtain ⟨p', mid, hpath, hcalls⟩ := run_path (finishes_calledPath hends) (fun _ h => h) hends
    h.segments h.ne_nil (fun row hrow => (size_le_pathPieces absolute row hrow).trans hn) h.calls
  obtain ⟨-, hstarts, hwords, hparen, hangle⟩ := h.begins hfirst qs
  have hfollow := EndsType.of_endsType hqs
  have hbang : startsBang (tokens qs) = false := by simp [startsBang, hfollow.bang]
  have hcalled : (calledPath (upTo n) p').run mid = some (⟨absolute, ss⟩, tokens qs) :=
    hcalls mid.length le_rfl
  refine ⟨some (.trait false ⟨absolute, ss⟩), ?_⟩
  rw [run_typeRule_of_path hstarts hwords hparen, pathType, run_bind_of (run_anyPath hangle hpath)]
  dsimp only
  rw [run_bind_of hcalled, if_neg Bool.false_ne_true, run_next_bind, hbang, Bool.and_false,
    if_neg Bool.false_ne_true, run_next_bind, hfollow.sum]
  rfl

/-! ## Arguments in parentheses -/

theorem CalledLaysOut.of_types {inputs : List TypeExpr} {output : Option TypeExpr}
    {pss : List (List Piece)} {os : List Piece}
    (h : List.Forall₂ (TypeExpr.LaysOut true) inputs pss) (houtput : OutputLaysOut output os) :
    CalledLaysOut inputs output
      (.opening .paren :: (joinPieces commaPieces pss ++ .closing .paren :: os)) := by
  refine ⟨fun qs => rfl, fun n qs hn hqs => ?_⟩
  have hless : ∀ ps ∈ pss, size ps < n := by
    intro ps hps
    have hle := size_le_joinPieces commaPieces ps hps
    simp at hn
    omega
  have hgroup := run_group (d := .paren)
    (TypeExpr.LaysOut.run_commaList h hless .paren (os ++ qs))
  have hout := houtput.run (n := n) (by simp at hn; omega) hqs
  simp only [List.cons_append, List.append_assoc, tokens_opening]
  rw [calledArgs, run_bind_of hgroup, run_bind_of hout]
  rfl

end Mapwright.Source
