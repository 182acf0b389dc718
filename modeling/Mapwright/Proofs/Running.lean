import Mapwright.Proofs.Parsing

/-!
# Running parsers

What a parser gives on given tokens, one step after the other.  Repetition is
unrolled: it goes on as it would if it began where the last value ended, for
more steps than it takes make no difference.

    p.run ts = some (a, mid) → (p >>= f).run ts = (f a).run mid                       (`run_bind_of`)
    p gives a, and many gives as from there on → many gives a :: as                   (`run_many_cons`, and so for the others)
-/

namespace Mapwright.Source.Parse

open Token

variable {α β : Type}

/-! ## One after the other -/

theorem run_bind_of {p : Parse α} {f : α → Parse β} {ts mid : List Token} {a : α}
    (h : p.run ts = some (a, mid)) : (p >>= f).run ts = (f a).run mid := by
  rw [StateT.run_bind, h]
  rfl

theorem run_symbol?_bind (sym : List Char) (f : Bool → Parse α) (ts : List Token) :
    (symbol? sym >>= f).run ts =
      if startsWith sym ts then (f true).run (ts.drop sym.length) else (f false).run ts := by
  have hsymbol : (symbol? sym).run ts =
      some (if startsWith sym ts then (true, ts.drop sym.length) else (false, ts)) := by
    cases h : startsWith sym ts with
    | true =>
      have hs : (symbol sym).run ts = some ((), ts.drop sym.length) := by
        simp [symbol, demand, h]
      simp [symbol?, h, hs]
    | false => simp [symbol?, h]
  rw [run_bind_of hsymbol]
  cases startsWith sym ts <;> rfl

theorem run_keyword_bind (w : String) (f : Unit → Parse α) (ts : List Token) :
    (keyword w >>= f).run ts = if startsKeyword w ts then (f ()).run (ts.drop 1) else none := by
  unfold keyword
  rw [bind_assoc, run_demand_bind]
  rfl

theorem run_keyword?_bind (w : String) (f : Bool → Parse α) (ts : List Token) :
    (keyword? w >>= f).run ts =
      if startsKeyword w ts then (f true).run (ts.drop 1) else (f false).run ts := by
  have hkeyword : (keyword? w).run ts =
      some (if startsKeyword w ts then (true, ts.drop 1) else (false, ts)) := by
    cases h : startsKeyword w ts with
    | true =>
      have hs : (keyword w).run ts = some ((), ts.drop 1) := by
        simp [keyword, demand, h]
      simp [keyword?, h, hs]
    | false => simp [keyword?, h]
  rw [run_bind_of hkeyword]
  cases startsKeyword w ts <;> rfl

theorem run_symbol_punct (c : Char) (joint : Bool) (f : Unit → Parse α) (ts : List Token) :
    (symbol [c] >>= f).run (.punct c joint :: ts) = (f ()).run ts := by
  rw [run_symbol_bind, if_pos (by simp [startsWith])]
  rfl

theorem run_symbol?_punct (c : Char) (joint : Bool) (f : Bool → Parse α) (ts : List Token) :
    (symbol? [c] >>= f).run (.punct c joint :: ts) = (f true).run ts := by
  rw [run_symbol?_bind, if_pos (by simp [startsWith])]
  rfl

theorem run_keyword_ident (w : String) (f : Unit → Parse α) (ts : List Token) :
    (keyword w >>= f).run (.ident w :: ts) = (f ()).run ts := by
  rw [run_keyword_bind, if_pos (by simp [startsKeyword])]
  rfl

theorem run_discard_of {p : Parse α} {ts mid : List Token} {a : α} (h : p.run ts = some (a, mid)) :
    (discard p).run ts = some (PUnit.unit, mid) := by
  show ((fun _ => PUnit.unit) <$> p).run ts = _
  rw [StateT.run_map, h]
  rfl

/-! ## Groups -/

theorem run_group {p : Parse α} {d : Delimiter} {ts rest : List Token} {a : α}
    (h : p.run ts = some (a, .closing d :: rest)) :
    (group d p).run (.opening d :: ts) = some (a, rest) := by
  have hdrop : (modify (·.drop 1) : Parse PUnit).run (.opening d :: ts) = some (⟨⟩, ts) := rfl
  unfold group
  rw [run_demand_bind, if_pos (by simp [opens]), run_bind_of hdrop, run_bind_of h]
  rfl

/-! ## Repetition -/

/-- Whatever one parser gives, the other gives as well. -/
def Extends (q p : Parse α) : Prop := ∀ ts r, p.run ts = some r → q.run ts = some r

namespace Extends

theorem refl (p : Parse α) : Extends p p := fun _ _ h => h

theorem bind {p q : Parse α} {f f' : α → Parse β} (hp : Extends q p)
    (hf : ∀ a, Extends (f' a) (f a)) : Extends (q >>= f') (p >>= f) := by
  intro ts r h
  rw [StateT.run_bind] at h
  obtain ⟨⟨a, mid⟩, ha, hr⟩ := Option.bind_eq_some_iff.1 h
  rw [run_bind_of (hp ts _ ha)]
  exact hf a mid r hr

theorem ite {c : Prop} [Decidable c] {p p' q q' : Parse α} (hp : Extends p' p)
    (hq : Extends q' q) : Extends (if c then p' else q') (if c then p else q) := by
  split
  · exact hp
  · exact hq

/-- A repetition may go on for longer. -/
theorem upTo (rep : Nat → Parse α) (hzero : rep 0 = failure)
    (hsucc : ∀ n m, Extends (rep m) (rep n) → Extends (rep (m + 1)) (rep (n + 1))) {n m : Nat}
    (hle : n ≤ m) : Extends (rep m) (rep n) := by
  induction n generalizing m with
  | zero =>
    intro ts r h
    rw [hzero] at h
    cases h
  | succ n ih =>
    obtain ⟨m, rfl⟩ := Nat.exists_eq_add_of_le' (Nat.lt_of_lt_of_le n.succ_pos hle)
    exact hsucc n m (ih (Nat.le_of_succ_le_succ hle))

end Extends

section

variable {p : Parse α} {stop : List Token → Bool} {sep : List Char} {ts mid rest : List Token}
  {a : α} {as : List α}

theorem run_many_nil (h : stop ts = true) : (many stop p).run ts = some ([], ts) := by
  show (manyUpTo stop p (ts.length + 1)).run ts = _
  simp [manyUpTo, h]

theorem run_many_cons (hstop : stop ts = false) (ha : p.run ts = some (a, mid))
    (hless : mid.length < ts.length) (has : (many stop p).run mid = some (as, rest)) :
    (many stop p).run ts = some (a :: as, rest) := by
  have hextends : Extends (manyUpTo stop p ts.length) (manyUpTo stop p (mid.length + 1)) := by
    refine Extends.upTo (manyUpTo stop p) rfl (fun n m ih => ?_) hless
    exact (Extends.refl _).bind fun _ => .ite (.refl _) ((Extends.refl _).bind fun _ =>
      ih.bind fun _ => .refl _)
  have has : (manyUpTo stop p ts.length).run mid = some (as, rest) := hextends mid _ has
  show (manyUpTo stop p (ts.length + 1)).run ts = _
  have hget : (get : Parse (List Token)).run ts = some (ts, ts) := rfl
  rw [manyUpTo, run_bind_of hget, if_neg (by simp [hstop]), run_bind_of ha, run_bind_of has]
  rfl

theorem run_separated_nil (h : stop ts = true) : (separated stop sep p).run ts = some ([], ts) := by
  show (separatedUpTo stop sep p (ts.length + 1)).run ts = _
  simp [separatedUpTo, h]

theorem run_separated_last (hstop : stop ts = false) (ha : p.run ts = some (a, mid))
    (hend : stop mid = true) : (separated stop sep p).run ts = some ([a], mid) := by
  have hget : ∀ ts, (get : Parse (List Token)).run ts = some (ts, ts) := fun _ => rfl
  show (separatedUpTo stop sep p (ts.length + 1)).run ts = _
  rw [separatedUpTo, run_bind_of (hget ts), if_neg (by simp [hstop]), run_bind_of ha,
    run_bind_of (hget mid), if_pos hend]
  rfl

theorem run_separated_cons (hstop : stop ts = false) (ha : p.run ts = some (a, mid))
    (hmore : stop mid = false) (hsep : startsWith sep mid = true)
    (hless : (mid.drop sep.length).length < ts.length)
    (has : (separated stop sep p).run (mid.drop sep.length) = some (as, rest)) :
    (separated stop sep p).run ts = some (a :: as, rest) := by
  have hget : ∀ ts, (get : Parse (List Token)).run ts = some (ts, ts) := fun _ => rfl
  have hextends : Extends (separatedUpTo stop sep p ts.length)
      (separatedUpTo stop sep p ((mid.drop sep.length).length + 1)) := by
    refine Extends.upTo (separatedUpTo stop sep p) rfl (fun n m ih => ?_) hless
    exact (Extends.refl _).bind fun _ => .ite (.refl _) ((Extends.refl _).bind fun _ =>
      (Extends.refl _).bind fun _ => .ite (.refl _) ((Extends.refl _).bind fun _ =>
        ih.bind fun _ => .refl _))
  have has : (separatedUpTo stop sep p ts.length).run (mid.drop sep.length) = some (as, rest) :=
    hextends _ _ has
  show (separatedUpTo stop sep p (ts.length + 1)).run ts = _
  rw [separatedUpTo, run_bind_of (hget ts), if_neg (by simp [hstop]), run_bind_of ha,
    run_bind_of (hget mid), if_neg (by simp [hmore]), run_symbol_bind, if_pos hsep,
    run_bind_of has]
  rfl

theorem run_chained_nil (h : stop ts = true) : (chained stop sep p).run ts = some ([], ts) := by
  show (chainedUpTo stop sep p (ts.length + 1)).run ts = _
  simp [chainedUpTo, h]

theorem run_chained_last (hstop : stop ts = false) (ha : p.run ts = some (a, mid))
    (hsep : startsWith sep mid = false) : (chained stop sep p).run ts = some ([a], mid) := by
  have hget : (get : Parse (List Token)).run ts = some (ts, ts) := rfl
  show (chainedUpTo stop sep p (ts.length + 1)).run ts = _
  rw [chainedUpTo, run_bind_of hget, if_neg (by simp [hstop]), run_bind_of ha, run_symbol?_bind,
    if_neg (by simp [hsep])]
  rfl

theorem run_chained_cons (hstop : stop ts = false) (ha : p.run ts = some (a, mid))
    (hsep : startsWith sep mid = true) (hless : (mid.drop sep.length).length < ts.length)
    (has : (chained stop sep p).run (mid.drop sep.length) = some (as, rest)) :
    (chained stop sep p).run ts = some (a :: as, rest) := by
  have hget : (get : Parse (List Token)).run ts = some (ts, ts) := rfl
  have hextends : Extends (chainedUpTo stop sep p ts.length)
      (chainedUpTo stop sep p ((mid.drop sep.length).length + 1)) := by
    refine Extends.upTo (chainedUpTo stop sep p) rfl (fun n m ih => ?_) hless
    exact (Extends.refl _).bind fun _ => .ite (.refl _) ((Extends.refl _).bind fun _ =>
      (Extends.refl _).bind fun _ => .ite (ih.bind fun _ => .refl _) (.refl _))
  have has : (chainedUpTo stop sep p ts.length).run (mid.drop sep.length) = some (as, rest) :=
    hextends _ _ has
  show (chainedUpTo stop sep p (ts.length + 1)).run ts = _
  rw [chainedUpTo, run_bind_of hget, if_neg (by simp [hstop]), run_bind_of ha, run_symbol?_bind,
    if_pos hsep]
  show (chainedUpTo stop sep p ts.length >>= fun as => pure (a :: as)).run _ = _
  rw [run_bind_of has]
  rfl

end

end Mapwright.Source.Parse
