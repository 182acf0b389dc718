import Mapwright.Proofs.Items
import Mapwright.Proofs.Names
import Mapwright.Proofs.ReadingBack
import Mapwright.Proofs.Signatures

/-!
# Types that are kept

A text declares a type by tokens that stand in it one after the other.  What is
written for the type has these tokens, up to blanks, only if they are the plain
way to write the type and it is no reference with a lifetime.

    the types in the items of a text are declared by its tokens     (`declaredIn_of_mem_read`)
    t is declared, t.withoutLifetime.spell = .ok s → s keeps t      (`keeps_of_spell`)
-/

namespace Mapwright.Source

open Token Parse

/-! ## Tokens up to blanks -/

/-- The token, if it is punctuation whether or not it meets what comes after it. -/
def Token.apart : Token → Token
  | .punct c _ => .punct c false
  | t => t

/-- The tokens are the same up to the blanks between them. -/
def SameTokens (ts us : List Token) : Prop := ts.map Token.apart = us.map Token.apart

theorem Token.apart_eq_punct_iff {t : Token} {c : Char} :
    t.apart = .punct c false ↔ ∃ joint, t = .punct c joint := by
  cases t <;> simp [Token.apart]

theorem Token.apart_eq_lifetime_iff {t : Token} {l : String} :
    t.apart = .lifetime l ↔ t = .lifetime l := by
  cases t <;> simp [Token.apart]

/-- A text has the tokens, up to blanks. -/
def HasTokens (text : String) (ws : List Token) : Prop :=
  ∃ ts, tokens? text.toList = some ts ∧ SameTokens ts ws

/-! ## Declared types -/

/-- A text declares a type by some of its tokens: they stand in it one after the other, and where
they do the type is read from them. -/
def DeclaredBy (text : String) (t : TypeExpr) (ws : List Token) : Prop :=
  ∃ before after depth plus bound, fileTokens? text = some (before ++ (ws ++ after)) ∧
    ((Grammar.upTo depth).type plus).run (ws ++ after) = some ((t, bound), after)

/-- A text declares a type by some of its tokens, if the type can be written again. -/
def IsDeclaredIn (text : String) (t : TypeExpr) : Prop :=
  t.pieces?.isSome = true → ∃ ws, DeclaredBy text t ws

/-- The tokens are the plain way to write a type. -/
def IsPlainly (t : TypeExpr) (ws : List Token) : Prop :=
  ∃ ps, t.pieces? = some ps ∧ SameTokens (tokens ps) ws

/-- What is written for a type that a text declares: its plain text, without the lifetime of an
outer reference.  So the tokens of the declaration are kept if they are plain, and if there is no
such lifetime. -/
structure Keeps (text : String) (t : TypeExpr) (written : String) : Prop where
  declared : ∃ ws, DeclaredBy text t ws
  plain : ∃ ps, t.withoutLifetime.pieces? = some ps ∧ IsTextOf ps written
  full : ∀ ws, DeclaredBy text t ws →
    (HasTokens written ws ↔ IsPlainly t ws ∧ t.lifetime? = none)

/-! ## Tokens of pieces -/

/-- A row of pieces that begins with a word, if it has any. -/
def BeginsWithWord (ps : List Piece) : Prop := ∃ w qs, ps = .word w :: qs

theorem startsLifetime_joinPieces {sep : List Piece} {pss : List (List Piece)}
    (h : ∀ ps ∈ pss, BeginsWithWord ps) : startsLifetime (tokens (joinPieces sep pss)) = false := by
  cases pss with
  | nil => rfl
  | cons ps pss =>
    obtain ⟨w, qs, rfl⟩ := h ps List.mem_cons_self
    cases pss <;> rfl

theorem beginsWithWord_of_segmentsPieces? {ss : List Segment} {pss : List (List Piece)}
    (h : segmentsPieces? ss = some pss) : ∀ ps ∈ pss, BeginsWithWord ps := by
  induction ss generalizing pss with
  | nil =>
    cases h
    exact List.forall_mem_nil _
  | cons s ss ih =>
    obtain ⟨name, args⟩ := s
    obtain ⟨ps, hps, h⟩ := Option.bind_eq_some_iff.1 h
    obtain ⟨qss, hqss, h⟩ := Option.bind_eq_some_iff.1 h
    cases h
    obtain ⟨qs, -, hargs⟩ := Option.bind_eq_some_iff.1 hps
    cases hargs
    exact List.forall_mem_cons.2 ⟨⟨name, qs, rfl⟩, ih hqss⟩

/-- No type begins with a lifetime. -/
theorem TypeExpr.not_startsLifetime {t : TypeExpr} {ps : List Piece} (h : t.pieces? = some ps) :
    startsLifetime (tokens ps) = false := by
  cases t with
  | path p =>
    obtain ⟨absolute, ss⟩ := p
    obtain ⟨rows, hrows, hs⟩ := Option.bind_eq_some_iff.1 h
    cases hs
    cases absolute with
    | true => rfl
    | false => exact startsLifetime_joinPieces (beginsWithWord_of_segmentsPieces? hrows)
  | array elem length =>
    obtain ⟨_, -, h⟩ := Option.bind_eq_some_iff.1 h
    obtain ⟨_, -, h⟩ := Option.bind_eq_some_iff.1 h
    cases h
    rfl
  | function plain inputs output =>
    cases plain with
    | false => cases h
    | true =>
      obtain ⟨_, -, h⟩ := Option.bind_eq_some_iff.1 h
      obtain ⟨_, -, h⟩ := Option.bind_eq_some_iff.1 h
      cases h
      rfl
  | never =>
    cases h
    rfl
  | qualified p => cases h
  | inferred => cases h
  | unspelled => cases h
  | _ =>
    obtain ⟨_, -, h⟩ := Option.bind_eq_some_iff.1 h
    cases h
    rfl

/-! ## Lifetimes of outer references -/

namespace TypeExpr

theorem withoutLifetime_eq_self {t : TypeExpr} (h : t.lifetime? = none) : t.withoutLifetime = t := by
  cases t with
  | reference lifetime mutable target => rw [withoutLifetime, show lifetime = none from h]
  | _ => rfl

theorem exists_of_lifetime? {t : TypeExpr} {l : String} (h : t.lifetime? = some l) :
    ∃ mutable target, t = .reference (some l) mutable target := by
  cases t with
  | reference lifetime mutable target => exact ⟨mutable, target, by rw [show lifetime = some l from h]⟩
  | _ => cases h

/-- A type can be written without the lifetime exactly if it can be written with it. -/
theorem pieces?_withoutLifetime_isSome (t : TypeExpr) :
    t.withoutLifetime.pieces?.isSome = t.pieces?.isSome := by
  cases t with
  | reference lifetime mutable target =>
    show (target.pieces?.bind _).isSome = (target.pieces?.bind _).isSome
    cases target.pieces? <;> rfl
  | _ => rfl

/-- The pieces can be laid out without the lifetime if they can be with it. -/
theorem ReadsBack.laidBefore_withoutLifetime {plus : Bool} {t : TypeExpr} (h : t.ReadsBack plus)
    {ps : List Piece} (hps : t.withoutLifetime.pieces? = some ps) : LaidBefore EndsWords ps := by
  cases hl : t.lifetime? with
  | none => exact (h ps (withoutLifetime_eq_self hl ▸ hps)).1
  | some l =>
    obtain ⟨mutable, target, rfl⟩ := exists_of_lifetime? hl
    obtain ⟨qs, hqs, hs⟩ := Option.bind_eq_some_iff.1 hps
    cases hs
    have hwith : (TypeExpr.reference (some l) mutable target).pieces? = some (.symbol '&' ::
        (lifetimePieces (some l) ++ (wordPieces mutable "mut" ++ qs))) :=
      Option.bind_eq_some_iff.2 ⟨qs, hqs, rfl⟩
    intro openings rest hrest hlaid
    have hall := (h _ hwith).1 openings rest hrest hlaid
    exact ⟨hall.1, hall.2.2.2⟩

end TypeExpr

/-- A reference with a lifetime is read from tokens that have one after the first of them. -/
theorem exists_lifetime_of_run_type {depth : Nat} {plus : Bool} {l : String} {mutable joint : Bool}
    {target : TypeExpr} {bound : Option Bound} {ts after : List Token}
    (h : ((Grammar.upTo depth).type plus).run (.punct '&' joint :: ts) =
      some ((.reference (some l) mutable target, bound), after)) :
    ∃ mid, ts = .lifetime l :: mid ∧ after <:+ mid := by
  cases depth with
  | zero => cases h
  | succ depth =>
    have hrule : (Grammar.typeRule (Grammar.upTo depth) plus).run (.punct '&' joint :: ts) =
        (do return (← Grammar.referenceType (Grammar.upTo depth), none)).run
          (.punct '&' joint :: ts) := by cases joint <;> rfl
    have h : (Grammar.typeRule (Grammar.upTo depth) plus).run (.punct '&' joint :: ts) =
      some ((.reference (some l) mutable target, bound), after) := h
    rw [hrule, StateT.run_bind] at h
    obtain ⟨⟨t, rest⟩, href, h⟩ := Option.bind_eq_some_iff.1 h
    cases h
    rw [Grammar.referenceType, run_symbol_punct, StateT.run_bind] at href
    obtain ⟨⟨lifetime, mid⟩, hlifetime, href⟩ := Option.bind_eq_some_iff.1 href
    have hafter := Takes.suffix mid _ _ href
    have hsome : lifetime = some l := by
      rw [StateT.run_bind] at href
      obtain ⟨_, -, href⟩ := Option.bind_eq_some_iff.1 href
      rw [StateT.run_bind] at href
      obtain ⟨_, -, href⟩ := Option.bind_eq_some_iff.1 href
      cases href
      rfl
    subst hsome
    cases ts with
    | nil => cases hlifetime
    | cons t ts =>
      cases t with
      | lifetime l' =>
        cases hlifetime
        exact ⟨mid, rfl, hafter⟩
      | _ => cases hlifetime

/-- A reference with a lifetime is not declared by the tokens that it has without the lifetime. -/
theorem not_sameTokens_withoutLifetime {text l : String} {t : TypeExpr} {ws : List Token}
    (h : DeclaredBy text t ws) (hl : t.lifetime? = some l) {ps : List Piece}
    (hps : t.withoutLifetime.pieces? = some ps) : ¬SameTokens (tokens ps) ws := by
  obtain ⟨mutable, target, rfl⟩ := TypeExpr.exists_of_lifetime? hl
  obtain ⟨qs, hqs, hs⟩ := Option.bind_eq_some_iff.1 hps
  cases hs
  intro hsame
  -- the first of the tokens is the one of the reference, and the next is no lifetime
  obtain ⟨w, ws', rfl, hw, hrest⟩ := List.map_eq_cons_iff.1 hsame.symm
  obtain ⟨joint, rfl⟩ := Token.apart_eq_punct_iff.1 hw
  obtain ⟨before, after, depth, plus, bound, -, hrun⟩ := h
  obtain ⟨mid, hmid, hafter⟩ := exists_lifetime_of_run_type hrun
  have hnone : startsLifetime (tokens (wordPieces mutable "mut" ++ qs)) = false := by
    cases mutable with
    | false => exact TypeExpr.not_startsLifetime hqs
    | true => rfl
  cases ws' with
  | nil =>
    have hlength := hafter.length_le
    have heq := congrArg List.length hmid
    simp at heq
    omega
  | cons x xs =>
    obtain ⟨rfl, -⟩ := List.cons.inj hmid
    obtain ⟨y, ys, hys, hy, -⟩ := List.map_eq_cons_iff.1 hrest.symm
    obtain rfl := Token.apart_eq_lifetime_iff.1 hy
    rw [show tokens (wordPieces mutable "mut" ++ qs) = .lifetime l :: ys from hys] at hnone
    cases hnone

/-! ## What is kept -/

theorem DeclaredBy.readsBack {text : String} {t : TypeExpr} {ws : List Token}
    (h : DeclaredBy text t ws) : ∃ plus, t.ReadsBack plus := by
  obtain ⟨before, after, depth, plus, bound, htext, hrun⟩ := h
  have hspelled := (spelled_of_tokens? htext).suffix (List.suffix_append before _)
  exact ⟨plus, ((Grammar.readsBack_upTo depth).type plus _ _ _ hspelled trivial hrun).back⟩

/-- **What is kept of a declared type** if it is written without the lifetime of an outer
reference. -/
theorem keeps_of_spell {text s : String} {t : TypeExpr} (h : ∃ ws, DeclaredBy text t ws)
    (hs : t.withoutLifetime.spell = .ok s) : Keeps text t s := by
  obtain ⟨ps, hps, htext⟩ := TypeExpr.spell_eq_ok_iff.1 hs
  refine ⟨h, ⟨ps, hps, htext⟩, fun ws hws => ?_⟩
  obtain ⟨plus, hback⟩ := hws.readsBack
  have htokens : tokens? s.toList = some (tokens ps) :=
    htext ▸ (hback.laidBefore_withoutLifetime hps).tokens?_letters
  have hkept : HasTokens s ws ↔ SameTokens (tokens ps) ws := by
    rw [HasTokens, htokens]
    simp
  rw [hkept]
  cases hl : t.lifetime? with
  | none =>
    rw [TypeExpr.withoutLifetime_eq_self hl] at hps
    simp [IsPlainly, hps]
  | some l =>
    exact iff_of_false (not_sameTokens_withoutLifetime hws hl hps) fun h => by cases h.2

-- a binder is no part of the type that is read, so this is not the plain way to write it
example : (type? "dyn for<\x27a> Fn(&\x27a str)").map (·.spell) = some (.ok "dyn Fn(&\x27a str)") := by
  decide +kernel

/-! ## Types in items -/

/-- The types in the items of a text are declared by tokens of it, if they can be written again. -/
theorem declaredIn_of_items? {text : String} {items : List Item} (h : items? text = some items) :
    ∀ item ∈ items, item.Declares (IsDeclaredIn text) := by
  obtain ⟨ts, hts, -⟩ := Option.bind_eq_some_iff.1 h
  refine declares_of_items? hts (fun depth plus => ?_) (fun h => (by cases h)) h
  intro ts' r rest hts' hrun _
  obtain ⟨before, rfl⟩ := hts'
  obtain ⟨ws, rfl⟩ := Takes.suffix ts' r rest hrun
  exact ⟨ws, before, rest, depth, plus, r.2, hts, hrun⟩

mutual

theorem Item.declares_of_mem_read {P : TypeExpr → Prop} (scope : Scope) :
    ∀ (item : Item), item.Declares P → ∀ e ∈ item.read scope, e.2.Declares P
  | .module none, _ => fun _ he => absurd he List.not_mem_nil
  | .module (some items), .inside h => declares_of_mem_read (scope.within items) items h
  | .struct _ _, h => by simpa [Item.read] using h
  | .enumeration _, h => by simpa [Item.read] using h
  | .implementation _ _ _, h => by simpa [Item.read] using h
  | .trait _, h => by simpa [Item.read] using h
  | .use _, h => by simpa [Item.read] using h
  | .alias _ _, h => by simpa [Item.read] using h
  | .other, h => by simpa [Item.read] using h

theorem declares_of_mem_read {P : TypeExpr → Prop} (scope : Scope) :
    ∀ (items : List Item), (∀ item ∈ items, item.Declares P) → ∀ e ∈ read scope items,
      e.2.Declares P
  | [], _ => fun _ he => absurd he List.not_mem_nil
  | item :: items, h => by
    obtain ⟨hitem, hitems⟩ := List.forall_mem_cons.1 h
    exact List.forall_mem_append.2 ⟨Item.declares_of_mem_read scope item hitem,
      declares_of_mem_read scope items hitems⟩

end

/-- So are the types in the items that are read from the modules inside. -/
theorem declaredIn_of_mem_read {text : String} {items : List Item} (h : items? text = some items) :
    ∀ e ∈ read (Scope.ofItems items) items, e.2.Declares (IsDeclaredIn text) :=
  declares_of_mem_read _ items (declaredIn_of_items? h)

end Mapwright.Source
