import Mathlib.Data.List.Forall2

/-!
# Steps that may fail

When a sequence of steps succeeds and what it gives then, and what is wrong if
it does not: for two steps, for a step and a function, and for one step for each
element of a list.  A step for each element leaves two lists side by side.
-/

namespace Mapwright

variable {ε α β : Type}

theorem bind_eq_ok_iff {x : Except ε α} {f : α → Except ε β} {b : β} :
    (x >>= f) = .ok b ↔ ∃ a, x = .ok a ∧ f a = .ok b := by
  cases x with
  | error e => simp [bind, Except.bind]
  | ok a => simp [bind, Except.bind]

theorem bind_eq_error_iff {x : Except ε α} {f : α → Except ε β} {e : ε} :
    (x >>= f) = .error e ↔ x = .error e ∨ ∃ a, x = .ok a ∧ f a = .error e := by
  cases x with
  | error e => simp [bind, Except.bind]
  | ok a => simp [bind, Except.bind]

theorem map_eq_ok_iff {x : Except ε α} {f : α → β} {b : β} :
    x.map f = .ok b ↔ ∃ a, x = .ok a ∧ f a = b := by
  cases x with
  | error e => simp [Except.map]
  | ok a => simp [Except.map]

theorem mapError_eq_ok_iff {ε' : Type} {x : Except ε α} {f : ε → ε'} {a : α} :
    x.mapError f = .ok a ↔ x = .ok a := by
  cases x <;> simp [Except.mapError]

theorem mapError_eq_error_iff {ε' : Type} {x : Except ε α} {f : ε → ε'} {e' : ε'} :
    x.mapError f = .error e' ↔ ∃ e, x = .error e ∧ f e = e' := by
  cases x <;> simp [Except.mapError]

theorem toOption_eq_some_iff {x : Except ε α} {a : α} : x.toOption = some a ↔ x = .ok a := by
  cases x <;> simp [Except.toOption]

theorem mapM_eq_ok_iff {f : α → Except ε β} {as : List α} {bs : List β} :
    as.mapM f = .ok bs ↔ List.Forall₂ (fun a b => f a = .ok b) as bs := by
  induction as generalizing bs with
  | nil =>
    simp only [List.mapM_nil, pure, Except.pure, Except.ok.injEq, List.forall₂_nil_left_iff]
    exact eq_comm
  | cons a as ih =>
    simp only [List.mapM_cons, bind_eq_ok_iff, pure, Except.pure, Except.ok.injEq,
      List.forall₂_cons_left_iff, ih]
    constructor
    · rintro ⟨b, hb, bs', hbs, rfl⟩
      exact ⟨b, bs', hb, hbs, rfl⟩
    · rintro ⟨b, bs', hb, hbs, rfl⟩
      exact ⟨b, hb, bs', hbs, rfl⟩

theorem mapM_congr {f g : α → Except ε β} {as : List α} (h : ∀ a ∈ as, f a = g a) :
    as.mapM f = as.mapM g := by
  induction as with
  | nil => rfl
  | cons a as ih =>
    rw [List.mapM_cons, List.mapM_cons, h a List.mem_cons_self,
      ih fun b hb => h b (List.mem_cons_of_mem a hb)]

/-- What is wrong, if something is. -/
def error? : Except ε α → Option ε
  | .error e => some e
  | .ok _ => none

theorem error?_eq_none_iff {x : Except ε α} : error? x = none ↔ ∃ a, x = .ok a := by
  cases x <;> simp [error?]

theorem error?_eq_some_iff {x : Except ε α} {e : ε} : error? x = some e ↔ x = .error e := by
  cases x <;> simp [error?]

theorem error?_map (x : Except ε α) (f : α → β) : error? (x.map f) = error? x := by
  cases x <;> rfl

theorem error?_mapError {ε' : Type} (x : Except ε α) (f : ε → ε') :
    error? (x.mapError f) = (error? x).map f := by
  cases x <;> rfl

/-- What is wrong with two steps: what is wrong with the first, or else with the second one. -/
theorem error?_bind {x : Except ε α} {f : α → Except ε β} {o : Option ε}
    (h : ∀ a, x = .ok a → error? (f a) = o) : error? (x >>= f) = (error? x).or o := by
  cases x with
  | error e => rfl
  | ok a => exact h a rfl

theorem error?_bind_pure (x : Except ε α) (f : α → β) :
    error? (x >>= fun a => pure (f a)) = error? x := by
  cases x <;> rfl

/-- One step for each element of a list goes wrong where the first of them does. -/
theorem error?_mapM (f : α → Except ε β) (as : List α) :
    error? (as.mapM f) = as.findSome? fun a => error? (f a) := by
  induction as with
  | nil => rfl
  | cons a as ih =>
    rw [List.mapM_cons, List.findSome?_cons, ← ih]
    cases f a with
    | error e => rfl
    | ok b => cases as.mapM f <;> rfl

theorem exists_of_mapM_eq_error {f : α → Except ε β} {as : List α} {e : ε}
    (h : as.mapM f = .error e) : ∃ a ∈ as, f a = .error e := by
  have hfirst : error? (as.mapM f) = some e := error?_eq_some_iff.2 h
  rw [error?_mapM] at hfirst
  obtain ⟨a, ha, he⟩ := List.exists_of_findSome?_eq_some hfirst
  exact ⟨a, ha, error?_eq_some_iff.1 he⟩

/-! ## Steps that end alike -/

section

variable {γ δ : Type}

/-- Steps end alike with one fault, or with results of which the same is seen. -/
theorem map_eq_map_cases {x y : Except ε α} {f : α → β} (h : x.map f = y.map f) :
    (∃ e, x = .error e ∧ y = .error e) ∨ ∃ a b, x = .ok a ∧ y = .ok b ∧ f a = f b := by
  cases x with
  | error e =>
    cases y with
    | error e' =>
      cases h
      exact Or.inl ⟨e, rfl, rfl⟩
    | ok b => cases h
  | ok a =>
    cases y with
    | error e' => cases h
    | ok b => exact Or.inr ⟨a, b, rfl, rfl, Except.ok.inj h⟩

/-- Results of which the same is seen are replaced alike where there are none. -/
theorem getD_toOption_congr {x y : Except ε α} {f : α → β} (h : x.map f = y.map f) (a : α) :
    f (x.toOption.getD a) = f (y.toOption.getD a) := by
  rcases map_eq_map_cases h with ⟨e, hx, hy⟩ | ⟨b, c, hx, hy, hbc⟩
  · rw [hx, hy]
  · rw [hx, hy]
    exact hbc

theorem map_mapError_congr {x y : Except ε α} {f : α → β} (h : x.map f = y.map f) (g : ε → δ) :
    (x.mapError g).map f = (y.mapError g).map f := by
  rcases map_eq_map_cases h with ⟨e, hx, hy⟩ | ⟨a, b, hx, hy, hab⟩
  · rw [hx, hy]
  · rw [hx, hy]
    exact congrArg Except.ok hab

/-- Steps that end alike are followed by steps that end alike. -/
theorem map_bind_congr {x y : Except ε α} {f : α → β} {k k' : α → Except ε γ} {h : γ → δ}
    (hx : x.map f = y.map f) (hk : ∀ a b, f a = f b → (k a).map h = (k' b).map h) :
    (x >>= k).map h = (y >>= k').map h := by
  rcases map_eq_map_cases hx with ⟨e, hx, hy⟩ | ⟨a, b, hx, hy, hab⟩
  · rw [hx, hy]
    rfl
  · rw [hx, hy]
    exact hk a b hab

/-- One step for each element of a list ends alike if each of them does. -/
theorem map_mapM_congr {g : α → α} {f : β → γ} {k k' : α → Except ε β} {as : List α}
    (hk : ∀ a ∈ as, (k' (g a)).map f = (k a).map f) :
    ((as.map g).mapM k').map (List.map f) = (as.mapM k).map (List.map f) := by
  induction as with
  | nil => rfl
  | cons a as ih =>
    obtain ⟨ha, has⟩ := List.forall_mem_cons.1 hk
    rw [List.map_cons, List.mapM_cons, List.mapM_cons]
    refine map_bind_congr ha fun b b' hb => map_bind_congr (ih has) fun bs bs' hbs => ?_
    exact congrArg Except.ok (congrArg₂ List.cons hb hbs)

end

/-! ## Lists side by side -/

theorem exists_of_forall₂_right {R : α → β → Prop} {as : List α} {bs : List β}
    (h : List.Forall₂ R as bs) : ∀ b ∈ bs, ∃ a ∈ as, R a b := by
  induction h with
  | nil => exact fun _ hb => absurd hb List.not_mem_nil
  | @cons a b as bs hab _ ih =>
    intro c hc
    rcases List.mem_cons.1 hc with rfl | hc
    · exact ⟨a, List.mem_cons_self, hab⟩
    · obtain ⟨d, hd, hdc⟩ := ih c hc
      exact ⟨d, List.mem_cons_of_mem a hd, hdc⟩

theorem forall₂_comp {γ : Type} {R : α → β → Prop} {S : β → γ → Prop} {as : List α} {bs : List β}
    {cs : List γ} (hab : List.Forall₂ R as bs) (hbc : List.Forall₂ S bs cs) :
    List.Forall₂ (fun a c => ∃ b, R a b ∧ S b c) as cs := by
  induction hab generalizing cs with
  | nil =>
    cases hbc
    exact .nil
  | @cons a b as bs h _ ih =>
    cases hbc with
    | cons hc htail => exact .cons ⟨b, h, hc⟩ (ih htail)

theorem exists_forall₂_iff {R : α → β → Prop} {as : List α} :
    (∃ bs, List.Forall₂ R as bs) ↔ ∀ a ∈ as, ∃ b, R a b := by
  induction as with
  | nil => exact iff_of_true ⟨[], .nil⟩ fun _ ha => absurd ha List.not_mem_nil
  | cons a as ih =>
    rw [List.forall_mem_cons, ← ih]
    constructor
    · rintro ⟨_, hbs⟩
      cases hbs with
      | cons hb htail => exact ⟨⟨_, hb⟩, _, htail⟩
    · rintro ⟨⟨b, hb⟩, bs, hbs⟩
      exact ⟨b :: bs, .cons hb hbs⟩

/-- Rows that go with the same one are related in one way exactly if that one is in another. -/
theorem forall₂_iff_of_forall₂ {γ : Type} {R : α → β → Prop} {S U : α → γ → Prop}
    {T : β → γ → Prop} {as : List α} {bs : List β} {cs : List γ} (hR : List.Forall₂ R as bs)
    (hS : List.Forall₂ S as cs) (h : ∀ a b c, R a b → S a c → (T b c ↔ U a c)) :
    List.Forall₂ T bs cs ↔ List.Forall₂ U as cs := by
  induction hR generalizing cs with
  | nil =>
    cases hS
    simp
  | cons hab _ ih =>
    cases hS with
    | cons hac hS => simp only [List.forall₂_cons, h _ _ _ hab hac, ih hS]

theorem forall₂_filter {R : α → β → Prop} {p : α → Bool} {q : β → Bool}
    (h : ∀ a b, R a b → p a = q b) {as : List α} {bs : List β} (hab : List.Forall₂ R as bs) :
    List.Forall₂ R (as.filter p) (bs.filter q) :=
  List.rel_filter (fun a b hr => Bool.eq_iff_iff.1 (h a b hr)) hab

/-- The first good element of a list stands beside that of the other list. -/
theorem exists_find?_of_forall₂ {R : α → β → Prop} {p : α → Bool} {q : β → Bool}
    (h : ∀ a b, R a b → p a = q b) {as : List α} {bs : List β} (hab : List.Forall₂ R as bs) {a : α}
    (ha : as.find? p = some a) : ∃ b, bs.find? q = some b ∧ R a b := by
  induction hab with
  | nil => cases ha
  | @cons a' b as bs hr _ ih =>
    rw [List.find?_cons] at ha ⊢
    rw [← h a' b hr]
    split at ha
    · cases ha
      exact ⟨b, rfl, hr⟩
    · exact ih ha

end Mapwright
