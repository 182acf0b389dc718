import Mathlib.Data.List.Induction
import Mapwright.NameMap

/-!
# The last one counts

A name map answers with what was stored last under a name.  The same goes for
whatever is built by taking in one thing after the other: what is seen of it at
the end is what the last thing that bears on it has left.

    (∀ s, view (step s d) = …) → view (l.foldl step s) = what the last hit of l says     (`view_foldl`)
    (m.insertAll es).find? k = the last entry of es called k, or else m.find? k          (`find?_insertAll`)
    (k, v) ∈ m.entries ↔ m.find? k = some v                                              (`mem_entries_iff`)
    (∀ k, m.find? k = m'.find? k) → m = m'                                               (`ext_find?`)
-/

namespace Mapwright

/-! ## The last hit of a list -/

section

variable {α β σ : Type} {p : α → Bool} {l : List α} {a : α}

theorem findRev?_concat (p : α → Bool) (l : List α) (a : α) :
    (l ++ [a]).findRev? p = if p a then some a else l.findRev? p := by
  rw [List.findRev?_eq_find?_reverse, List.findRev?_eq_find?_reverse, List.reverse_append,
    List.reverse_singleton, List.singleton_append, List.find?_cons]
  cases p a <;> rfl

theorem findRev?_append (p : α → Bool) (l l' : List α) :
    (l ++ l').findRev? p = (l'.findRev? p).or (l.findRev? p) := by
  simp only [List.findRev?_eq_find?_reverse, List.reverse_append, List.find?_append]

theorem findRev?_map (f : β → α) (p : α → Bool) (l : List β) :
    (l.map f).findRev? p = (l.findRev? (p ∘ f)).map f := by
  rw [List.findRev?_eq_find?_reverse, List.findRev?_eq_find?_reverse, ← List.map_reverse,
    List.find?_map]

theorem findRev?_eq_getLast?_filter (p : α → Bool) (l : List α) :
    l.findRev? p = (l.filter p).getLast? := by
  rw [List.findRev?_eq_find?_reverse, ← List.head?_filter, List.filter_reverse, List.head?_reverse]

theorem mem_of_findRev? (h : l.findRev? p = some a) : a ∈ l := by
  rw [List.findRev?_eq_find?_reverse] at h
  exact List.mem_reverse.1 (List.mem_of_find?_eq_some h)

theorem prop_of_findRev? (h : l.findRev? p = some a) : p a = true := by
  rw [List.findRev?_eq_find?_reverse] at h
  exact List.find?_some h

theorem findRev?_eq_none_iff : l.findRev? p = none ↔ ∀ a ∈ l, p a = false := by
  rw [List.findRev?_eq_find?_reverse, List.find?_eq_none]
  simp only [List.mem_reverse, Bool.not_eq_true]

/-- The first hit of a list is still there if only others are dropped. -/
theorem find?_filter_of_keep {keep : α → Bool} :
    ∀ {l : List α}, (∀ a, l.find? p = some a → keep a = true) → (l.filter keep).find? p = l.find? p
  | [], _ => rfl
  | a :: l, h => by
    cases hp : p a with
    | true =>
      have hk : keep a = true := h a (by rw [List.find?_cons, hp])
      rw [List.filter_cons_of_pos hk, List.find?_cons, List.find?_cons, hp]
    | false =>
      have ih : (l.filter keep).find? p = l.find? p :=
        find?_filter_of_keep fun b hb => h b (by rw [List.find?_cons, hp]; exact hb)
      rw [List.filter_cons]
      split
      · rw [List.find?_cons, List.find?_cons, hp]
        exact ih
      · rw [List.find?_cons, hp]
        exact ih

theorem findRev?_filter_of_keep {keep : α → Bool}
    (h : ∀ a, l.findRev? p = some a → keep a = true) :
    (l.filter keep).findRev? p = l.findRev? p := by
  simp only [List.findRev?_eq_find?_reverse] at h ⊢
  rw [← List.filter_reverse]
  exact find?_filter_of_keep h

/-- What is seen at the end of a run is what its last hit has left: a step that is one makes it be
seen, and no other step has a bearing on it. -/
theorem view_foldl (view : σ → β) (step : σ → α → σ) (p : α → Bool) (left : α → β)
    (hhit : ∀ s a, p a = true → view (step s a) = left a)
    (hmiss : ∀ s a, p a = false → view (step s a) = view s) (s : σ) (l : List α) :
    view (l.foldl step s) = ((l.findRev? p).map left).getD (view s) := by
  induction l using List.reverseRecOn with
  | nil => rfl
  | append_singleton l a ih =>
    rw [List.foldl_append, List.foldl_cons, List.foldl_nil, findRev?_concat]
    cases hp : p a with
    | true => rw [hhit _ _ hp]; rfl
    | false => rw [hmiss _ _ hp, ih]; rfl

end

namespace NameMap

variable {α : Type}

/-! ## What is stored -/

theorem lookup_eq_some_of_mem {k : String} {v : α} :
    ∀ {l : List (String × α)}, l.Pairwise (fun a b => a.1 < b.1) → (k, v) ∈ l →
      lookup k l = some v
  | (k', v') :: rest, hs, h => by
    obtain ⟨hlt, hs⟩ := List.pairwise_cons.1 hs
    rcases List.mem_cons.1 h with h | h
    · cases h
      exact if_pos rfl
    · have hne : k ≠ k' := fun hk => String.lt_irrefl k' (hk ▸ hlt (k, v) h)
      rw [lookup, if_neg hne]
      exact lookup_eq_some_of_mem hs h

theorem mem_of_lookup_eq_some {k : String} {v : α} :
    ∀ {l : List (String × α)}, lookup k l = some v → (k, v) ∈ l
  | (k', v') :: rest, h => by
    rw [lookup] at h
    split at h
    · next hk =>
      cases h
      rw [hk]
      exact List.mem_cons_self
    · exact List.mem_cons_of_mem _ (mem_of_lookup_eq_some h)

theorem mem_entries_iff (m : NameMap α) (k : String) (v : α) :
    (k, v) ∈ m.entries ↔ m.find? k = some v :=
  ⟨lookup_eq_some_of_mem m.sorted, mem_of_lookup_eq_some⟩

theorem mem_values_iff (m : NameMap α) (v : α) : v ∈ m.values ↔ ∃ k, m.find? k = some v := by
  simp only [values, List.mem_map, Prod.exists, mem_entries_iff]
  constructor
  · rintro ⟨k, w, h, rfl⟩
    exact ⟨k, h⟩
  · rintro ⟨k, h⟩
    exact ⟨k, v, h, rfl⟩

theorem mem_names_iff (m : NameMap α) (k : String) : k ∈ m.names ↔ (m.find? k).isSome = true := by
  simp only [names, List.mem_map, Prod.exists, mem_entries_iff, Option.isSome_iff_exists,
    exists_and_right, exists_eq_right]

theorem nodup_entries (m : NameMap α) : m.entries.Nodup := by
  refine m.sorted.imp ?_
  intro a b hlt heq
  rw [heq] at hlt
  exact String.lt_irrefl b.1 hlt

/-- Maps that answer every lookup alike are equal. -/
theorem ext_find? {m m' : NameMap α} (h : ∀ k, m.find? k = m'.find? k) : m = m' := by
  have hperm : m.entries.Perm m'.entries := by
    refine (List.perm_ext_iff_of_nodup m.nodup_entries m'.nodup_entries).2 fun e => ?_
    rw [mem_entries_iff, mem_entries_iff, h]
  have hentries : m.entries = m'.entries := by
    refine List.Perm.eq_of_pairwise (fun a b _ _ hab hba => ?_) m.sorted m'.sorted hperm
    exact absurd (String.lt_trans hab hba) (String.lt_irrefl a.1)
  cases m
  cases m'
  cases hentries
  rfl

/-- A map that was filled from a list has the last entry of each name. -/
theorem find?_insertAll (m : NameMap α) (es : List (String × α)) (k : String) :
    (m.insertAll es).find? k = ((es.findRev? (·.1 == k)).map (·.2)).or (m.find? k) := by
  rw [insertAll, view_foldl (find? · k) _ (·.1 == k) fun e => some e.2]
  · cases es.findRev? (·.1 == k) <;> rfl
  · intro m e he
    rw [find?_insert, if_pos (eq_of_beq he)]
  · intro m e he
    rw [find?_insert, if_neg (ne_of_beq_false he)]

end NameMap

/-- The set of the names in a list contains those names. -/
theorem NameSet.contains_ofNames (ks : List String) (k : String) :
    (NameSet.ofNames ks).contains k = true ↔ k ∈ ks := by
  rw [NameSet.ofNames, NameMap.contains, NameMap.ofList, NameMap.find?_insertAll,
    NameMap.find?_empty, Option.or_none, Option.isSome_map, Option.isSome_iff_ne_none, ne_eq,
    findRev?_eq_none_iff]
  simp

theorem NameSet.mem_names_ofNames (ks : List String) (k : String) :
    k ∈ (NameSet.ofNames ks).names ↔ k ∈ ks :=
  (NameMap.mem_names_iff _ k).trans (NameSet.contains_ofNames ks k)

/-- Sets of the same names are equal. -/
theorem NameSet.ext_names {s s' : NameSet} (h : ∀ k, k ∈ s.names ↔ k ∈ s'.names) : s = s' := by
  refine NameMap.ext_find? fun k => ?_
  have hsome : (s.find? k).isSome = (s'.find? k).isSome := by
    rw [Bool.eq_iff_iff, ← NameMap.mem_names_iff, ← NameMap.mem_names_iff, h k]
  cases hs : s.find? k <;> cases hs' : s'.find? k <;> simp_all

end Mapwright
