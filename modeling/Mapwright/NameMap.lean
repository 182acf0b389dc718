/-!
# Name maps: finite maps from names, kept in name order

A `NameMap α` is a list of entries with strictly increasing names, so two maps
that answer every lookup alike are equal, and listing a map gives each name
once, in order.  Names are compared by code points, which for UTF-8 text is the
order of the bytes.

    (m.insert k v).find? k' = if k = k' then some v else m.find? k'      (find?_insert)
    (m.erase k).find? k'    = if k = k' then none else m.find? k'        (find?_erase)
-/

namespace Mapwright

/-- A finite map from names to values; the entries are in increasing name order. -/
structure NameMap (α : Type) where
  entries : List (String × α)
  sorted : entries.Pairwise (fun a b => a.1 < b.1)
deriving DecidableEq

/-- A set of names: a map that says nothing about them but that they are there. -/
abbrev NameSet := NameMap Unit

namespace NameMap

variable {α β : Type}

/-! ## Entry lists -/

/-- The value of the first entry called `k`. -/
def lookup (k : String) : List (String × α) → Option α
  | [] => none
  | (k', v) :: rest => if k = k' then some v else lookup k rest

/-- Puts an entry at its place in an ordered list, in exchange for one of the same name. -/
def place (k : String) (v : α) : List (String × α) → List (String × α)
  | [] => [(k, v)]
  | (k', v') :: rest =>
    if k < k' then (k, v) :: (k', v') :: rest
    else if k = k' then (k, v) :: rest
    else (k', v') :: place k v rest

theorem fst_of_mem_place {k : String} {v : α} {e : String × α} :
    ∀ {l : List (String × α)}, e ∈ place k v l → e.1 = k ∨ e ∈ l
  | [], h => by simp_all [place]
  | (k', v') :: rest, h => by
    have ih := @fst_of_mem_place k v e rest
    unfold place at h
    split at h
    · simp only [List.mem_cons] at h ⊢
      rcases h with rfl | h
      · exact .inl rfl
      · exact .inr h
    · split at h
      · simp only [List.mem_cons] at h ⊢
        rcases h with rfl | h
        · exact .inl rfl
        · exact .inr (.inr h)
      · simp only [List.mem_cons] at h ⊢
        rcases h with rfl | h
        · exact .inr (.inl rfl)
        · exact (ih h).imp id .inr

theorem place_sorted (k : String) (v : α) :
    ∀ {l : List (String × α)}, l.Pairwise (fun a b => a.1 < b.1) →
      (place k v l).Pairwise (fun a b => a.1 < b.1)
  | [], _ => by simp [place]
  | (k', v') :: rest, h => by
    have hrest := List.pairwise_cons.1 h
    unfold place
    split
    · rename_i hlt
      refine List.pairwise_cons.2 ⟨fun e he => ?_, h⟩
      simp only [List.mem_cons] at he
      rcases he with rfl | he
      · exact hlt
      · exact String.lt_trans hlt (hrest.1 e he)
    · split
      · rename_i heq
        subst heq
        exact List.pairwise_cons.2 ⟨fun e he => hrest.1 e he, hrest.2⟩
      · rename_i hnlt hne
        refine List.pairwise_cons.2 ⟨fun e he => ?_, place_sorted k v hrest.2⟩
        rcases fst_of_mem_place he with h1 | h1
        · rw [h1]
          rcases Std.lt_trichotomy k k' with h2 | h2 | h2
          · exact absurd h2 hnlt
          · exact absurd h2 hne
          · exact h2
        · exact hrest.1 e h1

/-! ## Operations -/

/-- The map without entries. -/
def empty : NameMap α := ⟨[], .nil⟩

instance : Inhabited (NameMap α) := ⟨empty⟩

/-- The value stored under `k`. -/
def find? (m : NameMap α) (k : String) : Option α := lookup k m.entries

def contains (m : NameMap α) (k : String) : Bool := (m.find? k).isSome

/-- Stores `v` under `k`, replacing what was stored there. -/
def insert (m : NameMap α) (k : String) (v : α) : NameMap α :=
  ⟨place k v m.entries, place_sorted k v m.sorted⟩

/-- Drops what is stored under `k`. -/
def erase (m : NameMap α) (k : String) : NameMap α :=
  ⟨m.entries.filter (fun e => e.1 != k), m.sorted.filter _⟩

/-- The names, in increasing order. -/
def names (m : NameMap α) : List String := m.entries.map (·.1)

/-- The values, in the order of their names. -/
def values (m : NameMap α) : List α := m.entries.map (·.2)

def size (m : NameMap α) : Nat := m.entries.length

def isEmpty (m : NameMap α) : Bool := m.entries.isEmpty

/-- Stores the entries of a list one after the other, so that the last one of a name stays. -/
def insertAll (m : NameMap α) (es : List (String × α)) : NameMap α :=
  es.foldl (fun m e => m.insert e.1 e.2) m

def ofList (es : List (String × α)) : NameMap α := empty.insertAll es

end NameMap

namespace NameSet

/-- The set of the names in a list. -/
def ofNames (ks : List String) : NameSet := NameMap.ofList (ks.map (·, ()))

end NameSet

/-! ## Lookup after each operation -/

namespace NameMap

variable {α : Type}

theorem lookup_place (k k' : String) (v : α) :
    ∀ l : List (String × α),
      lookup k' (place k v l) = if k = k' then some v else lookup k' l
  | [] => by simp [place, lookup, eq_comm]
  | (k₁, v₁) :: rest => by
    have ih := lookup_place k k' v rest
    unfold place
    split
    · simp [lookup, eq_comm]
    · split
      · rename_i heq
        subst heq
        by_cases h : k = k'
        · simp [lookup, h]
        · simp [lookup, h, Ne.symm h]
      · rename_i hne
        by_cases h : k' = k₁
        · subst h
          simp [lookup, hne]
        · simp [lookup, h, ih]

theorem lookup_filter_ne (k k' : String) :
    ∀ l : List (String × α),
      lookup k' (l.filter (fun e => e.1 != k)) = if k = k' then none else lookup k' l
  | [] => by simp [lookup]
  | (k₁, v₁) :: rest => by
    have ih := lookup_filter_ne k k' rest
    by_cases h₁ : k₁ = k
    · subst h₁
      by_cases h : k₁ = k'
      · subst h
        simpa using ih
      · simpa [lookup, h, Ne.symm h] using ih
    · by_cases h : k' = k₁
      · subst h
        simp [lookup, h₁, Ne.symm h₁]
      · simp [lookup, h₁, h, ih]

@[simp] theorem find?_empty (k : String) : (empty : NameMap α).find? k = none := rfl

@[simp] theorem find?_insert (m : NameMap α) (k k' : String) (v : α) :
    (m.insert k v).find? k' = if k = k' then some v else m.find? k' :=
  lookup_place k k' v m.entries

@[simp] theorem find?_erase (m : NameMap α) (k k' : String) :
    (m.erase k).find? k' = if k = k' then none else m.find? k' :=
  lookup_filter_ne k k' m.entries

end NameMap

end Mapwright
