import Mapwright.Proofs.Imports
import Mapwright.Proofs.LastDeclaration
import Mapwright.Proofs.Rearrangement

/-!
# Types that are declared in a module

A bare name in a module stands for what the items of the module bind it to, or
else for what the items around it do, from the inside to the outside.  Structs
and enums bind nothing.  So the bare name of a type that a module declares is
that of the type, unless the nearest items around it that bind the name bind it
to a path with another last name.

    a module is read in the scope of what is around it           (`declarations_of_mem_blocks`)
    bare names in a module refer to one type                     (`refers_inside`)
    which is the declared one ↔ nothing around it says otherwise (`refers_of_mem_blocks`)
    it is not always the declared one                            (`not_forall_refers`)
-/

namespace Mapwright.Source

/-! ## Modules in their surroundings -/

mutual

/-- The modules in an item, each with the items around it, the innermost first. -/
def Item.blocks (around : List (List Item)) : Item → List (List (List Item) × List Item)
  | .module (some items) => (around, items) :: blocksAmong (items :: around) items
  | _ => []

def blocksAmong (around : List (List Item)) : List Item → List (List (List Item) × List Item)
  | [] => []
  | item :: items => item.blocks around ++ blocksAmong around items

end

/-- A file and the modules inside it, each with the items around it. -/
def blocks (items : List Item) : List (List (List Item) × List Item) :=
  ([], items) :: blocksAmong [items] items

/-- The scope inside items that are nested, the innermost first. -/
def Scope.inside : List (List Item) → Scope
  | [] => NameMap.empty
  | items :: around => (inside around).within items

mutual

theorem Item.declarations_of_mem_blocks (module : ModuleId) (around : List (List Item)) :
    ∀ item : Item, ∀ b ∈ item.blocks around,
      declarations (Scope.inside (b.2 :: b.1)) module b.2 <:+:
        item.declarations (Scope.inside around) module
  | .module (some items) => by
    intro b hb
    rcases List.mem_cons.1 hb with rfl | hb
    · exact List.infix_rfl
    · exact declarations_of_mem_blocksAmong module (items :: around) items b hb
  | .module none => fun _ hb => absurd hb List.not_mem_nil
  | .struct _ _ => fun _ hb => absurd hb List.not_mem_nil
  | .enumeration _ => fun _ hb => absurd hb List.not_mem_nil
  | .implementation _ _ _ => fun _ hb => absurd hb List.not_mem_nil
  | .trait _ => fun _ hb => absurd hb List.not_mem_nil
  | .use _ => fun _ hb => absurd hb List.not_mem_nil
  | .alias _ _ => fun _ hb => absurd hb List.not_mem_nil
  | .other => fun _ hb => absurd hb List.not_mem_nil

theorem declarations_of_mem_blocksAmong (module : ModuleId) (around : List (List Item)) :
    ∀ items : List Item, ∀ b ∈ blocksAmong around items,
      declarations (Scope.inside (b.2 :: b.1)) module b.2 <:+:
        declarations (Scope.inside around) module items
  | [] => fun _ hb => absurd hb List.not_mem_nil
  | item :: items => by
    intro b hb
    rcases List.mem_append.1 hb with hb | hb
    · exact (item.declarations_of_mem_blocks module around b hb).trans
        (List.prefix_append ..).isInfix
    · exact (declarations_of_mem_blocksAmong module around items b hb).trans
        (List.suffix_append ..).isInfix

end

/-- A module of a text is read in the scope of its items and of those around it. -/
theorem declarations_of_mem_blocks {text : String} {items : List Item}
    (hitems : items? text = some items) {b : List (List Item) × List Item} (hb : b ∈ blocks items)
    (module : ModuleId) :
    declarations (Scope.inside (b.2 :: b.1)) module b.2 <:+:
      (declarations? module text).getD [] := by
  rw [declarations?, hitems]
  rcases List.mem_cons.1 hb with rfl | hb
  · exact List.infix_rfl
  · exact declarations_of_mem_blocksAmong module [items] items b hb

/-! ## Names -/

/-- What a name is bound to by the nearest items that bind it. -/
def boundAround? (name : String) : List (List Item) → Option (List String)
  | [] => none
  | items :: around =>
    ((items.findRev? (·.binds name)).bind (·.boundTo? name)).or (boundAround? name around)

theorem Scope.find?_inside (name : String) :
    ∀ around, (Scope.inside around).find? name = boundAround? name around
  | [] => rfl
  | items :: around => by
    rw [inside, find?_within, find?_inside name around, boundAround?]

/-- The name of the type that a bare name stands for. -/
def nameAround (name : String) (around : List (List Item)) : String :=
  ((boundAround? name around).bind (·.getLast?)).getD name

theorem Scope.typeName_inside {name : String} {items : List Item}
    (hown : ∀ item ∈ items, item.binds name = false) (around : List (List Item)) :
    (Scope.inside (items :: around)).typeName [name] = nameAround name around := by
  have hnone : items.findRev? (·.binds name) = none := findRev?_eq_none_iff.2 hown
  show (((Scope.inside (items :: around)).find? name).bind _).getD name = _
  rw [find?_inside, boundAround?, hnone]
  rfl

theorem ne_nil_of_boundAround? {name : String} {path : List String} :
    ∀ {around : List (List Item)}, boundAround? name around = some path → path ≠ []
  | [], h => by cases h
  | items :: around, h => by
    rcases Option.or_eq_some_iff.1 h with h | ⟨-, h⟩
    · obtain ⟨item, -, hbound⟩ := Option.bind_eq_some_iff.1 h
      exact item.bindings_ne_nil _ (item.mem_bindings_of_boundTo? hbound)
    · exact ne_nil_of_boundAround? h

/-- A name stands for itself exactly if what binds it binds it to a path that ends in it. -/
theorem nameAround_eq_iff (name : String) (around : List (List Item)) :
    nameAround name around = name ↔
      ∀ path, boundAround? name around = some path → path.getLast? = some name := by
  unfold nameAround
  cases hbound : boundAround? name around with
  | none => exact iff_of_true rfl fun _ h => by cases h
  | some path =>
    have hlast := List.getLast?_eq_some_getLast (ne_nil_of_boundAround? hbound)
    rw [Option.bind_some, hlast, Option.getD_some]
    constructor
    · intro hname path' hpath
      cases hpath
      rw [hlast, hname]
    · intro h
      exact Option.some.inj (hlast.symm.trans (h path rfl))

/-! ## Bare names -/

/-- Whether a type is a bare name, borrowed or not. -/
def TypeExpr.IsBare (name : String) (t : TypeExpr) : Prop := t.passed.1 = bareType name

theorem spell_bareType (name : String) : (bareType name).spell = .ok name := by
  show Except.ok ("" ++ (name ++ "")) = _
  rw [String.append_empty, String.empty_append]

theorem TypeExpr.ref_of_isBare {name : String} {t : TypeExpr} (h : t.IsBare name) (scope : Scope) :
    t.ref scope = .ok ⟨scope.typeName [name], name, t.passed.2⟩ := by
  refine ref_eq_ok_iff.2 ⟨name, ?_, ?_⟩
  · rw [show t.passed.1 = _ from h, spell_bareType]
  · rw [show t.passed.1 = _ from h]
    rfl

/-- The signatures in an item. -/
def Item.signatures : Item → List Signature
  | .implementation _ _ methods => methods
  | .trait t => t.functions.map (·.signature)
  | _ => []

/-- In items that are read in a scope, the bare name `name` refers to the type `target` wherever it
stands. -/
structure Refers (scope : Scope) (module : ModuleId) (items : List Item) (name target : String) :
    Prop where
  fields : ∀ owner fields, Item.struct owner (.named fields) ∈ items → ∀ f ∈ fields,
    f.2.IsBare name → fieldParam scope f = ⟨f.1, ⟨target, name, f.2.passed.2⟩⟩
  params : ∀ item ∈ items, ∀ s ∈ item.signatures, ∀ p ∈ s.params, p.type.IsBare name →
    ∀ x, p.name = some x →
      Signature.paramOf scope p = .ok ⟨x, ⟨target, name, p.type.passed.2⟩⟩
  returns : ∀ item ∈ items, ∀ s ∈ item.signatures, ∀ t, s.output = some t → t.IsBare name →
    s.returnsOf scope = .ok (some ⟨target, name, t.passed.2⟩)
  bases : ∀ t, Item.trait t ∈ items → ∀ marker settings, marker.settings = .ok settings →
    (settings.base.map .path) = some (bareType name) → ∀ u, t.unit scope module marker = .ok u →
      u.base = some ⟨target, name, .owned⟩
  impls : ∀ methods, Item.implementation false (bareType name) methods ∈ items →
    (Item.implementation false (bareType name) methods).declarations scope module =
      [.methods target module (methods.filterMap (·.method? scope))]

/-- A bare name refers to what it is described by. -/
theorem refers_typeName (scope : Scope) (module : ModuleId) (items : List Item) (name : String) :
    Refers scope module items name (scope.typeName [name]) where
  fields := by
    intro owner fields _ f _ hbare
    rw [fieldParam, TypeExpr.ref_of_isBare hbare]
    rfl
  params := by
    intro item _ s _ p _ hbare x hx
    exact paramOf_eq_ok_iff.2 ⟨hx, TypeExpr.ref_of_isBare hbare scope⟩
  returns := by
    intro item _ s _ t ht hbare
    exact Signature.returnsOf_eq_ok_iff.2
      (Or.inr ⟨t, _, ht, TypeExpr.ref_of_isBare hbare scope, rfl⟩)
  bases := by
    intro t _ marker settings hsettings hbase u hunit
    obtain ⟨settings', base, functions, hsettings', -, hread, -, rfl⟩ :=
      TraitItem.unit_eq_ok_iff.1 hunit
    cases hsettings.symm.trans hsettings'
    obtain ⟨p, hp, hpath⟩ := Option.map_eq_some_iff.1 hbase
    cases hpath
    have hspell : Path.spell ⟨false, [⟨name, .none⟩]⟩ = .ok name := spell_bareType name
    rw [hp, Option.mapM_some, baseRef, hspell] at hread
    cases hread
    rfl
  impls := fun _ _ => rfl

/-! ## Declared types -/

/-- Whether an item declares a struct or an enum of the given name. -/
def Item.declaresType (name : String) : Item → Bool
  | .struct n _ => n == name
  | .enumeration n => n == name
  | _ => false

theorem Item.places_of_declaresType {name : String} (scope : Scope) (module : ModuleId)
    {item : Item} (h : item.declaresType name = true) :
    ∃ d ∈ item.declarations scope module, d.places name = true := by
  cases item with
  | struct n fields => exact ⟨_, List.mem_singleton_self _, h⟩
  | enumeration n => exact ⟨_, List.mem_singleton_self _, h⟩
  | _ => cases h

theorem mem_declarations_of_mem {scope : Scope} {module : ModuleId} {d : Declaration}
    {item : Item} :
    ∀ {items : List Item}, item ∈ items → d ∈ item.declarations scope module →
      d ∈ declarations scope module items
  | first :: items, hitem, hd => by
    rcases List.mem_cons.1 hitem with rfl | hitem
    · exact List.mem_append_left _ hd
    · exact List.mem_append_right _ (mem_declarations_of_mem hitem hd)

/-- A type that is declared is described. -/
theorem isSome_describe?_of_places {ds : List Declaration} {d : Declaration} {name : String}
    (hd : d ∈ ds) (hplaces : d.places name = true) (g : Generator) :
    ((g.declareAll ds).registry.describe? name).isSome = true := by
  have hmodule := Generator.module_declareAll g ds name
  cases hlast : ds.findRev? (·.places name) with
  | none => exact absurd hplaces (Bool.eq_false_iff.1 (findRev?_eq_none_iff.1 hlast d hd))
  | some last =>
    obtain ⟨m, hm⟩ := Option.isSome_iff_exists.1 (Declaration.isSome_module?_of_concerns
      (Declaration.concerns_of_places (prop_of_findRev? hlast)))
    rw [hlast, Option.bind_some, hm, Option.some_or, Option.some_or] at hmodule
    rw [← Option.isSome_map (f := (·.module)), hmodule]
    rfl

/-- **What the bare name of a type that a module declares refers to.**  It is one type wherever the
name stands in the module, and it is the declared one exactly if the nearest items around the module
that bind the name, if there are any, bind it to a path that ends in it. -/
theorem refers_of_mem_blocks {text : String} {top : List Item} (htop : items? text = some top)
    {around : List (List Item)} {items : List Item} (hblock : (around, items) ∈ blocks top)
    {name : String} (hdeclared : ∃ item ∈ items, item.declaresType name = true)
    (hown : ∀ item ∈ items, item.binds name = false) (module : ModuleId) (g : Generator) :
    declarations (Scope.inside (items :: around)) module items <:+:
        (declarations? module text).getD [] ∧
      (∃ g', g.addSource module text = .ok g' ∧
        (g'.registry.describe? name).isSome = true) ∧
      Refers (Scope.inside (items :: around)) module items name (nameAround name around) ∧
      (nameAround name around = name ↔
        ∀ path, boundAround? name around = some path → path.getLast? = some name) := by
  have hread := declarations_of_mem_blocks htop hblock module
  refine ⟨hread, ⟨g.declareAll (declarations (Scope.ofItems top) module top), ?_, ?_⟩, ?_,
    nameAround_eq_iff name around⟩
  · rw [Generator.addSource, declarations?, htop]
    rfl
  · obtain ⟨item, hitem, hdeclares⟩ := hdeclared
    obtain ⟨d, hd, hplaces⟩ :=
      item.places_of_declaresType (Scope.inside (items :: around)) module hdeclares
    have hmem := hread.subset (mem_declarations_of_mem hitem hd)
    rw [declarations?, htop] at hmem
    exact isSome_describe?_of_places hmem hplaces g
  · rw [← Scope.typeName_inside hown around]
    exact refers_typeName ..

/-! ## A record under another name -/

/-- A ledger has records of its own, but around it the entries of an archive are called records. -/
def ledger : List String :=
  ["use crate::archive::Entry as Record; mod ledger \x7b struct Record", inBraces "total: u32",
    "struct Page", inBraces "record: Record", "\x7d"]

def recordItem : Item := .struct "Record" (.named [("total", bareType "u32")])

def pageItem : Item := .struct "Page" (.named [("record", bareType "Record")])

def ledgerItems : List Item :=
  [.use (.path "crate" (.path "archive" (.rename "Entry" "Record"))),
    .module (some [recordItem, pageItem])]

def ledgerTokens : List Token :=
  [.ident "use", .ident "crate"] ++ separatorTokens ++ [.ident "archive"] ++ separatorTokens ++
    [.ident "Entry", .ident "as", .ident "Record", .punct ';' false, .ident "mod",
      .ident "ledger"] ++
    braceTokens ([.ident "struct", .ident "Record"] ++
      braceTokens [.ident "total", .punct ':' false, .ident "u32"] ++
      [.ident "struct", .ident "Page"] ++
      braceTokens [.ident "record", .punct ':' false, .ident "Record"])

set_option maxRecDepth 100000 in
theorem items?_ledger : items? (String.join ledger) = some ledgerItems := by
  have htokens : tokens? (dropByteOrderMark (dropInterpreterLine (dropByteOrderMark
      (ledger.flatMap String.toList)))) = some ledgerTokens := by
    decide +kernel
  rw [items?_join, itemsOfChars?, htokens]
  rfl

theorem mem_blocks_ledgerItems : ([ledgerItems], [recordItem, pageItem]) ∈ blocks ledgerItems :=
  List.mem_cons_of_mem _ List.mem_cons_self

theorem not_binds_ledger (name : String) :
    ∀ item ∈ [recordItem, pageItem], item.binds name = false := by
  simp [recordItem, pageItem, Item.binds, Item.bindings]

/-- In the ledger, the records are entries and the pages are pages. -/
theorem refers_of_mem_blocks_ledger :
    Refers (Scope.inside [[recordItem, pageItem], ledgerItems]) "ledger.rs" [recordItem, pageItem]
        "Record" "Entry" ∧
      Refers (Scope.inside [[recordItem, pageItem], ledgerItems]) "ledger.rs"
        [recordItem, pageItem] "Page" "Page" :=
  ⟨(refers_of_mem_blocks items?_ledger mem_blocks_ledgerItems ⟨recordItem, by simp, by rfl⟩
      (not_binds_ledger "Record") "ledger.rs" .new).2.2.1,
    (refers_of_mem_blocks items?_ledger mem_blocks_ledgerItems ⟨pageItem, by simp, by rfl⟩
      (not_binds_ledger "Page") "ledger.rs" .new).2.2.1⟩

/-- **A type that a module declares is not always what its name refers to there.**  The record of a
page is an entry of the archive. -/
theorem not_forall_refers :
    ¬∀ (text : String) (top : List Item), items? text = some top →
      ∀ (around : List (List Item)) (items : List Item), (around, items) ∈ blocks top →
      ∀ name : String, (∃ item ∈ items, item.declaresType name = true) →
        (∀ item ∈ items, item.binds name = false) →
        ∀ module, Refers (Scope.inside (items :: around)) module items name name := by
  intro h
  have hrefers := h _ _ items?_ledger _ _ mem_blocks_ledgerItems "Record"
    ⟨recordItem, by simp, by rfl⟩ (not_binds_ledger "Record") "ledger.rs"
  have hfield := hrefers.fields "Page" [("record", bareType "Record")] (by simp [pageItem])
    ("record", bareType "Record") (by simp) rfl
  have hentry : (fieldParam (Scope.inside [[recordItem, pageItem], ledgerItems])
      ("record", bareType "Record")).type.name = "Entry" := by decide
  rw [hfield] at hentry
  exact absurd hentry (by decide)

end Mapwright.Source
