import Mapwright.Proofs.Scopes

/-!
# What imports denote

An import binds the last name of a path, or another name, to the path.  In a
group, `self` stands for the path before the group.  A scope has what the
imports of its items denote, as long as `self` is listed in none of their
groups: such a `self` is taken for the last name of a path.

A name that is bound to a path is described like the path, as long as that is
not a single name which stands for something else.

    tree.bindings path = tree.denoted path listed ↔ `self` is not listed     (`bindings_eq_denoted_iff`)
    a scope has the last binding that its items denote                       (`find?_within_denoted`)
    a bound name is described like its path ↔ the path is its own            (`typeName_path_eq_iff`)
-/

namespace Mapwright.Source

/-! ## What a tree of imports denotes -/

/-- Whether a name that stands in a group after a path is that of the path itself. -/
def isPrefix (listed : Bool) (path : List String) (name : String) : Bool :=
  listed && name == "self" && !path.isEmpty

/-- The path that the last name of an import stands for. -/
def fullPath (listed : Bool) (path : List String) (name : String) : List String :=
  if isPrefix listed path name then path else path ++ [name]

mutual

/-- The names that a tree of imports binds below a path, with the full paths that they denote;
`listed` says whether the tree stands in a group. -/
def UseTree.denoted (path : List String) (listed : Bool) : UseTree → List (String × List String)
  | .path name rest => rest.denoted (path ++ [name]) false
  | .name name =>
    [((fullPath listed path name).getLast?.getD name, fullPath listed path name)]
  | .rename name alias_ => [(alias_, fullPath listed path name)]
  | .glob => []
  | .group trees => denotedOfTrees path trees

def denotedOfTrees (path : List String) : List UseTree → List (String × List String)
  | [] => []
  | t :: ts => t.denoted path true ++ denotedOfTrees path ts

end

mutual

/-- Whether `self` is listed in a group of a tree of imports. -/
def UseTree.listsSelf (path : List String) (listed : Bool) : UseTree → Bool
  | .path name rest => rest.listsSelf (path ++ [name]) false
  | .name name => isPrefix listed path name
  | .rename name _ => isPrefix listed path name
  | .glob => false
  | .group trees => treesListSelf path trees

def treesListSelf (path : List String) : List UseTree → Bool
  | [] => false
  | t :: ts => t.listsSelf path true || treesListSelf path ts

end

theorem fullPath_eq_iff (listed : Bool) (path : List String) (name : String) :
    path ++ [name] = fullPath listed path name ↔ isPrefix listed path name = false := by
  unfold fullPath
  cases isPrefix listed path name with
  | false => simp
  | true => simp

theorem getLast?_fullPath {listed : Bool} {path : List String} {name : String}
    (h : isPrefix listed path name = false) :
    (fullPath listed path name).getLast?.getD name = name := by
  rw [← (fullPath_eq_iff ..).2 h]
  simp

theorem fullPath_ne_nil (listed : Bool) (path : List String) (name : String) :
    fullPath listed path name ≠ [] := by
  unfold fullPath isPrefix
  cases path with
  | nil => simp
  | cons x rest => split <;> simp

mutual

/-- For each binding of a tree one is denoted, and neither is bound to the empty path. -/
theorem UseTree.forall₂_denoted (path : List String) (listed : Bool) :
    ∀ t : UseTree, List.Forall₂ (fun b d => b.2 ≠ [] ∧ d.2 ≠ []) (t.bindings path)
      (t.denoted path listed)
  | .path name rest => rest.forall₂_denoted (path ++ [name]) false
  | .name name =>
    .cons ⟨List.concat_ne_nil name path, fullPath_ne_nil listed path name⟩ .nil
  | .rename name _ =>
    .cons ⟨List.concat_ne_nil name path, fullPath_ne_nil listed path name⟩ .nil
  | .glob => .nil
  | .group trees => forall₂_denotedOfTrees path trees

theorem forall₂_denotedOfTrees (path : List String) :
    ∀ ts : List UseTree, List.Forall₂ (fun b d => b.2 ≠ [] ∧ d.2 ≠ []) (bindingsOfTrees path ts)
      (denotedOfTrees path ts)
  | [] => .nil
  | t :: ts => List.rel_append (t.forall₂_denoted path true) (forall₂_denotedOfTrees path ts)

end

mutual

/-- **What is bound is what is denoted**, exactly if `self` is not listed. -/
theorem UseTree.bindings_eq_denoted_iff (path : List String) (listed : Bool) :
    ∀ t : UseTree, t.bindings path = t.denoted path listed ↔ t.listsSelf path listed = false
  | .path name rest => rest.bindings_eq_denoted_iff (path ++ [name]) false
  | .name name => by
    rw [UseTree.bindings, UseTree.denoted, UseTree.listsSelf, List.singleton_inj, Prod.mk.injEq, fullPath_eq_iff]
    constructor
    · exact fun h => h.2
    · exact fun h => ⟨(getLast?_fullPath h).symm, h⟩
  | .rename name alias_ => by
    rw [UseTree.bindings, UseTree.denoted, UseTree.listsSelf, List.singleton_inj, Prod.mk.injEq, fullPath_eq_iff]
    exact and_iff_right rfl
  | .glob => iff_of_true rfl rfl
  | .group trees => bindingsOfTrees_eq_denoted_iff path trees

theorem bindingsOfTrees_eq_denoted_iff (path : List String) :
    ∀ ts : List UseTree, bindingsOfTrees path ts = denotedOfTrees path ts ↔
      treesListSelf path ts = false
  | [] => iff_of_true rfl rfl
  | t :: ts => by
    have hlength := (t.forall₂_denoted path true).length_eq
    rw [bindingsOfTrees, denotedOfTrees, treesListSelf, Bool.or_eq_false_iff,
      ← t.bindings_eq_denoted_iff path true, ← bindingsOfTrees_eq_denoted_iff path ts]
    constructor
    · exact fun h => List.append_inj h hlength
    · rintro ⟨ht, hts⟩
      rw [ht, hts]

end

/-! ## Scopes -/

/-- The names that an item binds, with the paths that they stand for. -/
def Item.denoted : Item → List (String × List String)
  | .use tree => tree.denoted [] false
  | item => item.bindings

/-- Whether an item is an import that lists `self`. -/
def Item.listsSelf : Item → Bool
  | .use tree => tree.listsSelf [] false
  | _ => false

theorem Item.forall₂_denoted :
    ∀ item : Item, List.Forall₂ (fun b d => b.2 ≠ [] ∧ d.2 ≠ []) item.bindings item.denoted
  | .use tree => tree.forall₂_denoted [] false
  | .alias name type => by
    show List.Forall₂ _ (bindings (.alias name type)) (bindings (.alias name type))
    rw [List.forall₂_same]
    cases hpath : type.path? with
    | none => simp [bindings, hpath]
    | some p =>
      by_cases hlength : p.names.length ≤ 1
      · simp [bindings, hpath, hlength]
      · have hne : p.names ≠ [] := List.ne_nil_of_length_pos (by omega)
        simp [bindings, hpath, hlength, hne]
  | .struct _ _ => .nil
  | .enumeration _ => .nil
  | .implementation _ _ _ => .nil
  | .trait _ => .nil
  | .module _ => .nil
  | .other => .nil

/-- Nothing is bound to the empty path. -/
theorem Item.bindings_ne_nil (item : Item) : ∀ b ∈ item.bindings, b.2 ≠ [] := by
  intro b hb
  obtain ⟨d, -, hne, -⟩ := exists_of_forall₂_right item.forall₂_denoted.flip b hb
  exact hne

/-- Nothing stands for the empty path. -/
theorem Item.denoted_ne_nil (item : Item) : ∀ b ∈ item.denoted, b.2 ≠ [] := by
  intro d hd
  obtain ⟨b, -, -, hne⟩ := exists_of_forall₂_right item.forall₂_denoted d hd
  exact hne

theorem Item.bindings_eq_denoted_iff (item : Item) :
    item.bindings = item.denoted ↔ item.listsSelf = false := by
  cases item with
  | use tree => exact tree.bindings_eq_denoted_iff [] false
  | _ => exact iff_of_true rfl rfl

/-- Items bind what they denote, exactly if none of them lists `self`. -/
theorem flatMap_bindings_eq_iff (items : List Item) :
    items.flatMap Item.bindings = items.flatMap Item.denoted ↔
      ∀ item ∈ items, item.listsSelf = false := by
  induction items with
  | nil => exact iff_of_true rfl fun _ h => absurd h List.not_mem_nil
  | cons item items ih =>
    rw [List.flatMap_cons, List.flatMap_cons, List.forall_mem_cons, ← ih,
      ← item.bindings_eq_denoted_iff]
    constructor
    · exact fun h => List.append_inj h item.forall₂_denoted.length_eq
    · rintro ⟨hitem, hitems⟩
      rw [hitem, hitems]

namespace Scope

/-- A scope has the last binding of a name that the items denote, or else what is bound around
them. -/
theorem find?_within_denoted (outer : Scope) {items : List Item}
    (hself : ∀ item ∈ items, item.listsSelf = false) (name : String) :
    (outer.within items).find? name =
      (((items.flatMap Item.denoted).findRev? (·.1 == name)).map (·.2)).or (outer.find? name) := by
  rw [within, NameMap.find?_insertAll, (flatMap_bindings_eq_iff items).2 hself]

/-- A path of several names is described by its last one. -/
theorem typeName_cons_cons (s : Scope) (x y : String) (rest : List String) :
    some (s.typeName (x :: y :: rest)) = (x :: y :: rest).getLast? := by
  show some ((x :: y :: rest).getLast?.getD "") = _
  rw [List.getLast?_cons_cons, List.getLast?_cons]
  rfl

/-- What a bound name is described by: the last name of what it stands for. -/
theorem typeName_of_find? {s : Scope} {name : String} {path : List String}
    (h : s.find? name = some path) (hne : path ≠ []) :
    some (s.typeName [name]) = path.getLast? := by
  show some (((s.find? name).bind (·.getLast?)).getD name) = _
  rw [h, Option.bind_some, List.getLast?_eq_some_getLast hne]
  rfl

/-- Whether a path is described by its own last name. -/
def Direct (s : Scope) (path : List String) : Prop := ∀ name, path = [name] → s.typeName [name] = name

/-- **A name is described like the path that it is bound to**, exactly if that is described by its own
last name. -/
theorem typeName_path_eq_iff {s : Scope} {name : String} {path : List String}
    (h : s.find? name = some path) (hne : path ≠ []) :
    s.typeName path = s.typeName [name] ↔ s.Direct path := by
  have hname := typeName_of_find? h hne
  match path with
  | [x] =>
    rw [show s.typeName [name] = x from Option.some.inj hname]
    constructor
    · rintro hx y hy
      cases hy
      exact hx
    · exact fun hdirect => hdirect x rfl
  | x :: y :: rest =>
    refine iff_of_true ?_ fun _ hz => by cases hz
    exact Option.some.inj ((s.typeName_cons_cons x y rest).trans hname.symm)

end Scope

end Mapwright.Source
