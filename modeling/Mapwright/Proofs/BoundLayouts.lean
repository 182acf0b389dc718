import Mapwright.Proofs.PathLayouts

/-!
# Layouts of bounds

A bound is laid out as its path or lifetime, and bounds with plus signs between
them.  A trait object begins with `dyn`, whatever it was read from.
-/

namespace Mapwright.Source

open Token Parse Grammar

variable {ss : List Segment} {rows : List (List Piece)} {qs : List Piece}

/-! ## Bounds -/

/-- From the pieces a bound is read. -/
structure Bound.LaysOut (b : Bound) (ps : List Piece) : Prop where
  starts : ∀ qs, startsBound false (tokens (ps ++ qs)) = true
  read : ∀ n captures consts qs, size ps ≤ n → endsType false (tokens qs) = true →
    (boundRule (upTo n) captures consts).run (tokens (ps ++ qs)) = some (b, tokens qs)

theorem IsSegmentName.ne_keyword {w k : String} (h : IsSegmentName w) (hk : isKeyword k = true)
    (hother : k ∉ "Self" :: bareSegments) : w ≠ k := by
  rintro rfl
  rcases h.kind with hbare | rfl | hname
  · exact hother (List.mem_cons_of_mem _ hbare)
  · exact hother List.mem_cons_self
  · rw [hk] at hname
    cases hname

namespace Bound.LaysOut

theorem lifetime (l : String) : LaysOut (.lifetime l) [.lifetime l] :=
  ⟨fun _ => rfl, fun _ _ _ _ _ _ => rfl⟩

/-- What a path begins with is no other beginning of a bound. -/
theorem begins_path (h : List.Forall₂ Segment.LaysOut ss rows) (hne : ss ≠ []) (absolute : Bool)
    (qs : List Piece) :
    startsBound false (tokens (pathPieces absolute rows ++ qs)) = true ∧
      startsLifetime (tokens (pathPieces absolute rows ++ qs)) = false ∧
      opens .paren (tokens (pathPieces absolute rows ++ qs)) = false ∧
      opens .bracket (tokens (pathPieces absolute rows ++ qs)) = false ∧
      startsWith ['?'] (tokens (pathPieces absolute rows ++ qs)) = false ∧
      ∀ k ∈ ["use", "for", "const"],
        startsKeyword k (tokens (pathPieces absolute rows ++ qs)) = false := by
  rcases tokens_pathPieces h hne absolute qs with ⟨joint, ts, -, hts⟩ | ⟨w, ts, -, hw, hts, -⟩
  · rw [hts]
    exact ⟨by simp [startsBound, startsWith], rfl, rfl, rfl, rfl, fun _ _ => rfl⟩
  · rw [hts]
    obtain ⟨s, hs, rfl⟩ := Option.map_eq_some_iff.1 hw
    obtain ⟨row, -, hrow⟩ := exists_of_forall₂_right h.flip s (List.mem_of_head? hs)
    refine ⟨by simp [startsBound, startsWord], rfl, rfl, rfl, rfl, fun k hk => ?_⟩
    have hkeyword : ∀ k ∈ ["use", "for", "const"],
        isKeyword k = true ∧ k ∉ "Self" :: bareSegments := by decide
    exact beq_false_of_ne (hrow.isSegmentName.ne_keyword (hkeyword k hk).1 (hkeyword k hk).2)

theorem trait (h : List.Forall₂ Segment.LaysOut ss rows) (hne : ss ≠ [])
    (hcalls : CallsAllowed (fun _ => False) ss) (relaxed absolute : Bool) :
    LaysOut (.trait relaxed ⟨absolute, ss⟩)
      ((if relaxed then [.symbol '?'] else []) ++ pathPieces absolute rows) := by
  refine ⟨fun qs => ?_, fun n captures consts qs hn hqs => ?_⟩
  · cases relaxed with
    | false => exact (begins_path h hne absolute qs).1
    | true => simp [startsBound]
  · have hrows : ∀ row ∈ rows, size row ≤ n := by
      intro row hrow
      have hle := size_le_pathPieces absolute row hrow
      simp at hn
      omega
    obtain ⟨p, mid, hpath, hcall⟩ := run_path (finishes_boundCall absolute hqs)
      (fun _ h => h.elim) hqs h hne hrows hcalls
    obtain ⟨-, hlifetime, hparen, hbracket, hmark, hfor⟩ := begins_path h hne absolute qs
    -- whether the question mark is there or not, no other beginning of a bound is
    have hstart : ∀ ts, startsLifetime ts = false → opens .paren ts = false →
        opens .bracket ts = false → (∀ k ∈ ["use", "for", "const"], startsKeyword k ts = false) →
        (symbol? ['?']).run ts = some (relaxed, tokens (pathPieces absolute rows ++ qs)) →
        (boundRule (upTo n) captures consts).run ts =
          some (.trait relaxed ⟨absolute, ss⟩, tokens qs) := by
      intro ts hlifetime hparen hbracket hwords hmark
      rw [boundRule, run_next_bind, if_neg (by simp [hlifetime]), run_keyword?_bind,
        if_neg (by simp [hwords]), if_neg Bool.false_ne_true, run_next_bind,
        if_neg (by simp [hparen]), traitBound,
        run_bind_of (run_binder?_none (hwords "for" (by decide))), run_next_bind,
        if_neg (by simp [hbracket]), run_keyword?_bind, if_neg (by simp [hwords])]
      have hlate : ∀ k : Bool → Parse Bound,
          (if (relaxed && !false) = true then binder? (upTo n) >>= k else k false).run
            (tokens (pathPieces absolute rows ++ qs)) =
              (k false).run (tokens (pathPieces absolute rows ++ qs)) := by
        intro k
        cases relaxed with
        | false => rfl
        | true => exact run_bind_of (run_binder?_none (hfor "for" (by decide)))
      dsimp only
      rw [run_demand_bind, if_pos (by simp), run_bind_of hmark]
      refine (hlate _).trans ((run_bind_of hpath).trans ?_)
      refine (run_boundCall_bind (k := fun p => do
        demand fun _ => !(relaxed && (false || false))
        return if false then Bound.unspelled else Bound.trait relaxed p) hcall).trans ?_
      rw [run_demand_bind, if_pos (by simp)]
      rfl
    cases relaxed with
    | false =>
      refine hstart _ hlifetime hparen hbracket hfor ?_
      simp [symbol?, hmark]
    | true => exact hstart _ rfl rfl rfl (fun _ _ => rfl) (by simp [symbol?, symbol, demand])

end Bound.LaysOut

/-! ## Sums of bounds -/

/-- What the tokens of a bound do not begin with. -/
structure BeginsBound (ts : List Token) : Prop where
  starts : ∀ consts, startsBound consts ts = true
  comma : startsWith [','] ts = false
  close : startsWith ['>'] ts = false
  star : startsWith ['*'] ts = false

theorem BeginsBound.of_startsBound {ts : List Token} (h : startsBound false ts = true) :
    BeginsBound ts := by
  have hany : ∀ consts, startsBound consts ts = true := by
    intro consts
    simp only [startsBound, Bool.false_and, Bool.or_false] at h
    simp [startsBound, h]
  cases ts with
  | nil => cases h
  | cons t ts =>
    cases t with
    | punct c joint =>
      have hc : c = ':' ∨ c = '?' := by
        by_contra hc
        obtain ⟨hcolon, hmark⟩ := not_or.1 hc
        simp [startsBound, startsWord, startsLifetime, opens,
          startsWith_pair_of_ne (Ne.symm hcolon), Ne.symm hmark] at h
      rcases hc with rfl | rfl <;> exact ⟨hany, rfl, rfl, rfl⟩
    | _ => exact ⟨hany, rfl, rfl, rfl⟩

variable {bs : List Bound} {pss : List (List Piece)}

/-- Bounds are read one after the other. -/
theorem run_chained_bounds (h : List.Forall₂ Bound.LaysOut bs pss) (hne : pss ≠ []) {n : Nat}
    (hn : ∀ ps ∈ pss, size ps ≤ n) {captures consts : Bool} {stop : List Token → Bool}
    (hstop : ∀ ts, BeginsBound ts → stop ts = false) (hends : endsType true (tokens qs) = true) :
    (chained stop ['+'] (boundRule (upTo n) captures consts)).run
      (tokens (joinPieces plusPieces pss ++ qs)) = some (bs, tokens qs) := by
  refine run_chained_pieces hne (EndsType.of_endsType hends).sum (fun b ps hps hb rest hrest => ?_) h
  have hrest : endsType false (tokens rest) = true := by
    rcases hrest with rfl | ⟨rest, rfl⟩
    · exact endsType_withoutSum hends
    · simp [plusPieces, endsType]
  exact ⟨hstop _ (.of_startsBound (hb.starts rest)), hb.read n captures consts rest (hn ps hps) hrest⟩

/-- Bounds are read where a type may be a sum of bounds, or if there is only one. -/
theorem run_bounds (h : List.Forall₂ Bound.LaysOut bs pss) (hne : bs ≠ []) {n : Nat}
    (hn : ∀ ps ∈ pss, size ps ≤ n) {plus : Bool} (captures consts : Bool)
    (hplus : plus = true ∨ bs.length = 1) (hends : endsType plus (tokens qs) = true) :
    (bounds (upTo n) plus captures consts).run (tokens (joinPieces plusPieces pss ++ qs)) =
      some (bs, tokens qs) := by
  cases h with
  | nil => exact absurd rfl hne
  | @cons b ps bs pss hb hbs =>
    obtain ⟨hps, hpss⟩ := List.forall_mem_cons.1 hn
    cases hbs with
    | nil =>
      have hfirst := hb.read n captures consts qs hps (endsType_withoutSum hends)
      rw [joinPieces, bounds, run_bind_of hfirst]
      cases plus with
      | false => rfl
      | true =>
        have hnone : (moreBounds (upTo n) captures consts).run (tokens qs) =
            some ([], tokens qs) := by
          have hsum : startsWith ['+'] (tokens qs) = false := (EndsType.of_endsType hends).sum
          rw [moreBounds, run_symbol?_bind, if_neg (by simp [hsum])]
          rfl
        rw [if_pos rfl, run_bind_of hnone]
        rfl
    | @cons c rs cs rss hc hcs =>
      have hplus : plus = true := hplus.resolve_right (by simp)
      subst hplus
      have hfirst := hb.read n captures consts (plusPieces ++ (joinPieces plusPieces (rs :: rss) ++
        qs)) hps (by simp [plusPieces, endsType])
      have hmore : (chained (fun ts => !startsBound consts ts) ['+']
          (boundRule (upTo n) captures consts)).run
            (tokens (joinPieces plusPieces (rs :: rss) ++ qs)) = some (c :: cs, tokens qs) :=
        run_chained_bounds (.cons hc hcs) (List.cons_ne_nil _ _) hpss
          (fun ts hts => by simp [hts.starts consts]) hends
      rw [joinPieces, List.append_assoc, List.append_assoc, bounds, run_bind_of hfirst, if_pos rfl,
        moreBounds, bind_assoc]
      · show (symbol? ['+'] >>= _).run (.punct '+' false :: tokens (joinPieces plusPieces (rs :: rss) ++
          qs)) = _
        rw [run_symbol?_punct, if_pos rfl, run_bind_of hmore]
        rfl
      · exact List.cons_ne_nil _ _

/-- The bounds of a type are read if one of them is on a trait. -/
theorem run_traitBounds (h : List.Forall₂ Bound.LaysOut bs pss) {n : Nat}
    (hn : ∀ ps ∈ pss, size ps ≤ n) {plus : Bool} (captures consts : Bool)
    (hplus : plus = true ∨ bs.length = 1) (htrait : bs.any boundsTrait = true)
    (hends : endsType plus (tokens qs) = true) :
    (traitBounds (upTo n) plus captures consts).run (tokens (joinPieces plusPieces pss ++ qs)) =
      some (bs, tokens qs) := by
  have hne : bs ≠ [] := by
    rintro rfl
    cases htrait
  rw [traitBounds, run_bind_of (run_bounds h hne hn captures consts hplus hends), run_demand_bind,
    if_pos htrait]
  rfl

/-- A trait object is read after `dyn`. -/
theorem TypeExpr.LaysOut.traitObject {plus : Bool} (h : List.Forall₂ Bound.LaysOut bs pss)
    (hplus : plus = true ∨ bs.length = 1) (htrait : bs.any boundsTrait = true) :
    TypeExpr.LaysOut plus (.traitObject bs)
      (.word "dyn" :: .blank :: joinPieces plusPieces pss) := by
  refine ⟨fun qs => rfl, fun qs _ => rfl, fun n qs hn hqs => ?_⟩
  have hrows : ∀ ps ∈ pss, size ps ≤ n := by
    intro ps hps
    have hle := size_le_joinPieces plusPieces ps hps
    simp at hn
    omega
  have hbounds := run_traitBounds h hrows false false hplus htrait (hqs.endsType rfl)
  have hstar : startsWith ['*'] (tokens (joinPieces plusPieces pss ++ qs)) = false := by
    cases h with
    | nil => cases htrait
    | cons hb hbs =>
      rw [joinPieces_cons, List.append_assoc]
      exact (BeginsBound.of_startsBound (hb.starts _)).star
  refine run_typeRule_of (p := dynType (upTo n) plus) rfl ?_
  show (dynType (upTo n) plus).run (.ident "dyn" :: tokens (joinPieces plusPieces pss ++ qs)) = _
  rw [dynType, run_keyword_ident, run_symbol?_bind, if_neg (by simp [hstar]), run_bind_of hbounds]
  rfl

/-- An opaque type is read after `impl`. -/
theorem TypeExpr.LaysOut.implTrait {plus : Bool} (h : List.Forall₂ Bound.LaysOut bs pss)
    (hplus : plus = true ∨ bs.length = 1) (htrait : bs.any boundsTrait = true) :
    TypeExpr.LaysOut plus (.implTrait bs)
      (.word "impl" :: .blank :: joinPieces plusPieces pss) := by
  refine ⟨fun qs => rfl, fun qs _ => rfl, fun n qs hn hqs => ?_⟩
  have hrows : ∀ ps ∈ pss, size ps ≤ n := by
    intro ps hps
    have hle := size_le_joinPieces plusPieces ps hps
    simp at hn
    omega
  have hbounds := run_traitBounds h hrows true true hplus htrait (hqs.endsType rfl)
  refine run_typeRule_of (p := implType (upTo n) plus) rfl ?_
  show (implType (upTo n) plus).run (.ident "impl" :: tokens (joinPieces plusPieces pss ++ qs)) = _
  rw [implType, run_keyword_ident, run_bind_of hbounds]
  rfl

end Mapwright.Source
