import Mapwright.Proofs.Declared
import Mapwright.Proofs.Except
import Mapwright.Source.Declarations

/-!
# Where declarations come from

The items of a file, with those of the modules inside it, in the order in which
they are read, each with the scope it is read in (`read`).  What the file
declares is what they declare one after the other; the methods of a type are
those of the impls on it that are of no trait.

    declarations scope module items = (read scope items).flatMap …       (`declarations_eq_flatMap`)
    a method of a type is declared → some impl on the type has it        (`exists_inherentMethod`)
-/

namespace Mapwright.Source

/-! ## Items in their scopes -/

mutual

/-- An item, or what is inside a module, with the scope it is read in. -/
def Item.read (scope : Scope) : Item → List (Scope × Item)
  | .module none => []
  | .module (some items) => read (scope.within items) items
  | item => [(scope, item)]

/-- The items of a file and of the modules inside it, each with the scope it is read in. -/
def read (scope : Scope) : List Item → List (Scope × Item)
  | [] => []
  | item :: items => item.read scope ++ read scope items

end

mutual

theorem Item.declarations_eq_flatMap (scope : Scope) (module : ModuleId) :
    ∀ item : Item, item.declarations scope module =
      (item.read scope).flatMap fun e => e.2.declarations e.1 module
  | .module none => rfl
  | .module (some items) => declarations_eq_flatMap (scope.within items) module items
  | .struct _ _ => rfl
  | .enumeration _ => rfl
  | .implementation _ _ _ => by simp [Item.read]
  | .trait _ => by simp [Item.read]
  | .use _ => rfl
  | .alias _ _ => rfl
  | .other => rfl

/-- A file declares what its items declare, one after the other. -/
theorem declarations_eq_flatMap (scope : Scope) (module : ModuleId) :
    ∀ items : List Item, declarations scope module items =
      (read scope items).flatMap fun e => e.2.declarations e.1 module
  | [] => rfl
  | item :: items => by
    rw [declarations, read, List.flatMap_append, Item.declarations_eq_flatMap scope module item,
      declarations_eq_flatMap scope module items]

end

mutual

theorem Item.ne_module_of_mem_read (scope : Scope) :
    ∀ (item : Item), ∀ e ∈ item.read scope, ∀ inner, e.2 ≠ .module inner
  | .module none => fun _ he => absurd he List.not_mem_nil
  | .module (some items) => ne_module_of_mem_read (scope.within items) items
  | .struct _ _ => by simp [Item.read]
  | .enumeration _ => by simp [Item.read]
  | .implementation _ _ _ => by simp [Item.read]
  | .trait _ => by simp [Item.read]
  | .use _ => by simp [Item.read]
  | .alias _ _ => by simp [Item.read]
  | .other => by simp [Item.read]

theorem ne_module_of_mem_read (scope : Scope) :
    ∀ (items : List Item), ∀ e ∈ read scope items, ∀ inner, e.2 ≠ .module inner
  | [] => fun _ he => absurd he List.not_mem_nil
  | item :: items => by
    intro e he
    rcases List.mem_append.1 he with he | he
    · exact Item.ne_module_of_mem_read scope item e he
    · exact ne_module_of_mem_read scope items e he

end

/-! ## Declarations of a text -/

/-- What is made of an outcome that may be missing. -/
theorem mem_getD_map_iff {α β : Type} {o : Option α} {f : α → List β} {b : β} :
    b ∈ (o.map f).getD [] ↔ ∃ a, o = some a ∧ b ∈ f a := by
  cases o <;> simp

theorem mem_declarations?_iff (module : ModuleId) (text : String) (d : Declaration) :
    d ∈ (declarations? module text).getD [] ↔
      ∃ items, items? text = some items ∧
        ∃ e ∈ read (Scope.ofItems items) items, d ∈ e.2.declarations e.1 module := by
  simp only [declarations?, mem_getD_map_iff, declarations_eq_flatMap, List.mem_flatMap]

theorem eq_of_implDeclaration? {scope : Scope} {module : ModuleId} {ofTrait : Bool}
    {owner : TypeExpr} {methods : List Signature} {d : Declaration}
    (h : implDeclaration? scope module ofTrait owner methods = some d) :
    ∃ p, ofTrait = false ∧ owner = .path p ∧
      d = .methods (scope.typeName p.names) module (methods.filterMap (·.method? scope)) := by
  unfold implDeclaration? at h
  split at h
  · next p =>
    cases h
    exact ⟨p, rfl, rfl, rfl⟩
  · cases h

/-- **What a trait needs to declare a unit.** -/
theorem TraitItem.unit_eq_ok_iff {scope : Scope} {module : ModuleId} {t : TraitItem} {marker : Attribute}
    {u : MappingUnit} :
    t.unit scope module marker = .ok u ↔
      ∃ settings base functions, marker.settings = .ok settings ∧ t.generic = false ∧
        settings.base.mapM (baseRef scope) = .ok base ∧
        t.functions.mapM (·.function scope) = .ok functions ∧
        u = ⟨t.name, module, t.visibility.render, settings.wrappers, base, settings.implName,
          functions⟩ := by
  unfold unit
  simp only [bind_eq_ok_iff, mapError_eq_ok_iff]
  cases t.generic with
  | true => simp [bind, Except.bind]
  | false =>
    simp only [Bool.false_eq_true, if_false, bind_eq_ok_iff, mapError_eq_ok_iff, pure, Except.pure,
      Except.ok.injEq, true_and]
    constructor
    · rintro ⟨settings, hsettings, base, hbase, functions, hfunctions, rfl⟩
      exact ⟨settings, base, functions, hsettings, hbase, hfunctions, rfl⟩
    · rintro ⟨settings, base, functions, hsettings, hbase, hfunctions, rfl⟩
      exact ⟨settings, hsettings, base, hbase, functions, hfunctions, rfl⟩

theorem TraitItem.module_of_unit {scope : Scope} {module : ModuleId} {t : TraitItem}
    {marker : Attribute} {u : MappingUnit} (h : t.unit scope module marker = .ok u) :
    u.module = module := by
  obtain ⟨settings, base, functions, -, -, -, -, rfl⟩ := unit_eq_ok_iff.1 h
  rfl

/-- Whatever says in which module it stands says so rightly. -/
theorem module_of_mem_declarations? {module : ModuleId} {text : String} {d : Declaration}
    (hd : d ∈ (declarations? module text).getD []) {m : ModuleId} (hm : d.module? = some m) :
    m = module := by
  obtain ⟨items, -, ⟨scope, item⟩, he, hd⟩ := (mem_declarations?_iff ..).1 hd
  cases item with
  | struct name fields =>
    cases List.mem_singleton.1 hd
    exact (Option.some.inj hm).symm
  | enumeration name =>
    cases List.mem_singleton.1 hd
    exact (Option.some.inj hm).symm
  | implementation ofTrait owner methods =>
    obtain ⟨p, -, -, rfl⟩ := eq_of_implDeclaration? (Option.mem_toList.1 hd)
    exact (Option.some.inj hm).symm
  | trait t =>
    obtain ⟨marker, -, rfl⟩ := Option.map_eq_some_iff.1 (Option.mem_toList.1 hd)
    split at hm
    · next u hu =>
      rw [← Option.some.inj hm]
      exact t.module_of_unit hu
    · cases hm
  | module inner => exact absurd rfl (ne_module_of_mem_read _ items _ he inner)
  | _ => cases hd

/-! ## Methods of types -/

/-- The methods of an item, if it is an impl on the type that is of no trait. -/
def Item.inherentMethods (type : String) (scope : Scope) : Item → List Signature
  | .implementation false (.path p) methods =>
    if scope.typeName p.names = type then methods else []
  | _ => []

/-- The methods of all impls on a type that are of no trait, each with the scope it is read in. -/
def inherentMethods (type : String) (text : String) : List (Scope × Signature) :=
  ((items? text).map fun items => (read (Scope.ofItems items) items).flatMap fun e =>
    (e.2.inherentMethods type e.1).map (e.1, ·)).getD []

/-- A method that a text declares for a type is one of an impl on the type. -/
theorem exists_inherentMethod {module : ModuleId} {text type method : String} {d : Declaration}
    (hd : d ∈ (declarations? module text).getD []) (hadds : d.adds type method = true) :
    ∃ e ∈ inherentMethods type text, e.2.method? e.1 = (d.method? method).map (method, ·) := by
  obtain ⟨module', sigs, sig, rfl, hsig, hm⟩ := Declaration.eq_methods_of_adds hadds
  obtain ⟨items, hitems, ⟨scope, item⟩, he, hd⟩ := (mem_declarations?_iff ..).1 hd
  have himpl : ∃ p methods, item = .implementation false (.path p) methods ∧
      type = scope.typeName p.names ∧ sigs = methods.filterMap (·.method? scope) := by
    cases item with
    | implementation ofTrait owner methods =>
      obtain ⟨p, rfl, rfl, h⟩ := eq_of_implDeclaration? (Option.mem_toList.1 hd)
      cases h
      exact ⟨p, methods, rfl, rfl, rfl⟩
    | trait t =>
      obtain ⟨marker, -, h⟩ := Option.map_eq_some_iff.1 (Option.mem_toList.1 hd)
      split at h <;> cases h
    | module inner => exact absurd rfl (ne_module_of_mem_read _ items _ he inner)
    | struct name fields => cases List.mem_singleton.1 hd
    | enumeration name => cases List.mem_singleton.1 hd
    | _ => cases hd
  obtain ⟨p, methods, rfl, rfl, rfl⟩ := himpl
  obtain ⟨s, hs, hsm⟩ := List.mem_filterMap.1 hsig
  refine ⟨(scope, s), ?_, by rw [hm, hsm, Option.map_some]⟩
  rw [inherentMethods, hitems, Option.map_some, Option.getD_some]
  refine List.mem_flatMap.2 ⟨_, he, List.mem_map.2 ⟨s, ?_, rfl⟩⟩
  rw [Item.inherentMethods, if_pos rfl]
  exact hs

theorem Signature.method?_eq_some_iff {scope : Scope} {s : Signature} {name : String}
    {sig : MethodSig} :
    s.method? scope = some (name, sig) ↔
      (∃ k, s.receiverOf = .ok (some k)) ∧ s.paramsOf scope = .ok sig.params ∧
        s.returnsOf scope = .ok sig.returns ∧ s.name = name := by
  obtain ⟨params, returns⟩ := sig
  unfold Signature.method?
  constructor
  · intro h
    split at h
    · next k params' returns' hk hparams hreturns =>
      cases h
      exact ⟨⟨k, hk⟩, hparams, hreturns, rfl⟩
    · cases h
  · rintro ⟨⟨k, hk⟩, hparams, hreturns, rfl⟩
    simp only [hk, hparams, hreturns]

/-- The text of a block of code. -/
def inBraces (code : String) : String := " \x7b " ++ code ++ " \x7d "

/-- The items that the characters of a file make up. -/
def itemsOfChars? (cs : List Char) : Option (List Item) :=
  (tokens? (dropByteOrderMark (dropInterpreterLine (dropByteOrderMark cs)))).bind itemsOfTokens?

theorem toList_join (pieces : List String) :
    (String.join pieces).toList = pieces.flatMap String.toList := by
  have hfold : ∀ start : String, (pieces.foldl (· ++ ·) start).toList =
      start.toList ++ pieces.flatMap String.toList := by
    induction pieces with
    | nil => simp
    | cons piece pieces ih =>
      intro start
      rw [List.foldl_cons, ih, String.toList_append, List.flatMap_cons, List.append_assoc]
  exact (hfold "").trans (by simp)

/-- A text is read by its pieces, each of which has its own characters. -/
theorem items?_join (pieces : List String) :
    items? (String.join pieces) = itemsOfChars? (pieces.flatMap String.toList) := by
  rw [← toList_join]
  rfl

end Mapwright.Source

/-! ## Reading texts -/

namespace Mapwright.Generator

/-- Reads texts one after the other.  One that is not well formed leaves everything as it is. -/
def addSources (g : Generator) (sources : List (ModuleId × String)) : Generator :=
  sources.foldl (fun g s => (g.addSource s.1 s.2).toOption.getD g) g

theorem addSources_eq_declareAll (sources : List (ModuleId × String)) (g : Generator) :
    g.addSources sources =
      g.declareAll (sources.flatMap fun s => (Source.declarations? s.1 s.2).getD []) := by
  induction sources generalizing g with
  | nil => rfl
  | cons s sources ih =>
    have hstep : (g.addSource s.1 s.2).toOption.getD g =
        g.declareAll ((Source.declarations? s.1 s.2).getD []) := by
      unfold addSource
      cases Source.declarations? s.1 s.2 <;> rfl
    rw [List.flatMap_cons, declareAll_append, ← hstep]
    exact ih _

end Mapwright.Generator
