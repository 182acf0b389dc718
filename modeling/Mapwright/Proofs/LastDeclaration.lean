import Mapwright.Proofs.Constructors

/-!
# Types that are declared more than once

Of all structs and enums of a name, in whatever modules and files they stand,
the last one says where the type is declared.  The last struct says what the
type is built from and which properties it has.  So the descriptor follows the
last declaration, unless that is an enum and a struct with fields of its own
came before.

    what is declared of a name = its structs and enums, in order         (`places_declarations?`)
    the properties of a type = the fields it is built from               (`properties_declareAll`)
    the descriptor after all declarations                                (`describes_addSources`)
    it does not always follow the last one                               (`not_forall_describes`)
-/

namespace Mapwright

namespace Source

/-! ## Structs and enums as they are read -/

/-- The declaration of a type by an item: the module and the scope that it stands in, and the fields
if it is a struct. -/
structure TypeItem where
  module : ModuleId
  scope : Scope
  fields : Option Fields

namespace TypeItem

/-- The fields of a struct, with their scope. -/
def struct? (t : TypeItem) : Option (Scope × Fields) := t.fields.map (t.scope, ·)

/-- The fields of the struct literal: none for an enum and for a struct with positional ones. -/
def constructor? (t : TypeItem) : Option (List Param) := t.fields.bind (·.constructor t.scope)

/-- What the item declares of the name `type`. -/
def declaration (type : String) (t : TypeItem) : Declaration :=
  match t.fields with
  | some fields => .struct type t.module (fields.constructor t.scope)
  | none => .enumeration type t.module

/-- Whether a descriptor is what the item alone would give. -/
structure Describes (t : TypeItem) (d : TypeDescriptor) : Prop where
  module : d.module = t.module
  constructor : d.constructor = t.constructor?
  properties : d.properties = propertiesOf (t.constructor?.getD [])

theorem module?_declaration (type : String) (t : TypeItem) :
    (t.declaration type).module? = some t.module := by
  unfold declaration
  cases t.fields <;> rfl

end TypeItem

/-- The item as the declaration of a type, if it is one. -/
def Item.typeItems (type : String) (module : ModuleId) (scope : Scope) : Item → List TypeItem
  | .struct name fields => if name = type then [⟨module, scope, some fields⟩] else []
  | .enumeration name => if name = type then [⟨module, scope, none⟩] else []
  | _ => []

/-- The structs and enums of one name in a text, in order. -/
def typeItems (type : String) (module : ModuleId) (text : String) : List TypeItem :=
  ((items? text).map fun items => (read (Scope.ofItems items) items).flatMap fun e =>
    e.2.typeItems type module e.1).getD []

theorem Item.places_declarations (scope : Scope) (module : ModuleId) (type : String) (item : Item)
    (h : ∀ inner, item ≠ .module inner) :
    (item.declarations scope module).filter (·.places type) =
      (item.typeItems type module scope).map (·.declaration type) := by
  cases item with
  | struct name fields =>
    by_cases hname : name = type
    · simp [Item.declarations, Item.typeItems, Declaration.places, TypeItem.declaration, hname]
    · simp [Item.declarations, Item.typeItems, Declaration.places, hname]
  | enumeration name =>
    by_cases hname : name = type
    · simp [Item.declarations, Item.typeItems, Declaration.places, TypeItem.declaration, hname]
    · simp [Item.declarations, Item.typeItems, Declaration.places, hname]
  | implementation ofTrait owner methods =>
    cases hd : implDeclaration? scope module ofTrait owner methods with
    | none => simp [Item.declarations, Item.typeItems, hd]
    | some d =>
      obtain ⟨p, -, -, rfl⟩ := eq_of_implDeclaration? hd
      simp [Item.declarations, Item.typeItems, Declaration.places, hd]
  | trait t =>
    cases hd : t.declaration? scope module with
    | none => simp [Item.declarations, Item.typeItems, hd]
    | some d =>
      have hplaces : d.places type = false := by
        obtain ⟨marker, -, rfl⟩ := Option.map_eq_some_iff.1 hd
        split <;> rfl
      simp [Item.declarations, Item.typeItems, hd, hplaces]
  | module inner => exact absurd rfl (h inner)
  | _ => rfl

/-- What a text declares of a type is what its structs and enums of that name do. -/
theorem places_declarations? (module : ModuleId) (type text : String) :
    ((declarations? module text).getD []).filter (·.places type) =
      (typeItems type module text).map (·.declaration type) := by
  unfold declarations? typeItems
  cases items? text with
  | none => rfl
  | some items =>
    simp only [Option.map_some, Option.getD_some, declarations_eq_flatMap, List.filter_flatMap,
      List.map_flatMap]
    exact List.flatMap_congr fun e he =>
      Item.places_declarations e.1 module type e.2 (ne_module_of_mem_read _ items e he)

/-- The structs of a name are among its structs and enums. -/
theorem structs_eq_filterMap (module : ModuleId) (type text : String) :
    structs type text = (typeItems type module text).filterMap (·.struct?) := by
  have hitem : ∀ (scope : Scope) (item : Item), (item.structs type).map (scope, ·) =
      (item.typeItems type module scope).filterMap (·.struct?) := by
    intro scope item
    cases item with
    | struct name fields =>
      by_cases hname : name = type
      · simp [Item.structs, Item.typeItems, TypeItem.struct?, hname]
      · simp [Item.structs, Item.typeItems, hname]
    | enumeration name =>
      by_cases hname : name = type
      · simp [Item.structs, Item.typeItems, TypeItem.struct?, hname]
      · simp [Item.structs, Item.typeItems, hname]
    | _ => rfl
  unfold structs typeItems
  cases items? text with
  | none => rfl
  | some items =>
    simp only [Option.map_some, Option.getD_some, List.filterMap_flatMap, hitem]

end Source

open Source

/-- The structs and enums of one name over all sources, in the order in which they are read. -/
def typeItemsOf (sources : List (ModuleId × String)) (type : String) : List TypeItem :=
  sources.flatMap fun s => typeItems type s.1 s.2

/-- What a type is built from: the fields of the last struct of its name. -/
def builtFrom (sources : List (ModuleId × String)) (type : String) : Option (List Param) :=
  (structsOf sources type).getLast?.bind fun e => e.2.constructor e.1

section

variable {sources : List (ModuleId × String)} {type : String} {last : TypeItem}
  (hlast : (typeItemsOf sources type).getLast? = some last)

theorem structsOf_eq_filterMap (sources : List (ModuleId × String)) (type : String) :
    structsOf sources type = (typeItemsOf sources type).filterMap (·.struct?) := by
  rw [structsOf, typeItemsOf, List.filterMap_flatMap]
  exact List.flatMap_congr fun s _ => structs_eq_filterMap s.1 type s.2

include hlast

/-- If the last declaration is a struct, the type is built from its fields. -/
theorem builtFrom_of_struct {fields : Fields} (hfields : last.fields = some fields) :
    builtFrom sources type = last.constructor? := by
  obtain ⟨init, hinit⟩ := List.getLast?_eq_some_iff.1 hlast
  have hstruct : last.struct? = some (last.scope, fields) := by
    rw [TypeItem.struct?, hfields, Option.map_some]
  have hstructs : structsOf sources type =
      init.filterMap (·.struct?) ++ [(last.scope, fields)] := by
    rw [structsOf_eq_filterMap, hinit, List.filterMap_append, List.filterMap_cons_some hstruct]
    rfl
  rw [builtFrom, hstructs, List.getLast?_concat, TypeItem.constructor?, hfields]
  rfl

end

/-! ## Descriptors -/

namespace Generator

section

variable (settings : Settings) (sources : List (ModuleId × String)) (type : String)

/-- A type that was declared has the properties that it is built from. -/
theorem properties_declareAll {ds : List Declaration} {d : TypeDescriptor}
    (hd : ((fresh settings).declareAll ds).registry.describe? type = some d) :
    d.properties = propertiesOf (d.constructor.getD []) := by
  have hconstructor := constructor_declareAll (fresh settings) ds type
  refine NameMap.ext_find? fun x => ?_
  have hproperty := property?_declareAll (fresh settings) ds type x
  rw [hd, Option.bind_some] at hconstructor hproperty
  rw [hconstructor]
  refine hproperty.trans ?_
  -- the last struct has left both of them
  cases ds.findRev? (·.builds type) with
  | none => rfl
  | some d => rfl

/-- The last struct or enum of a name says where the type is declared. -/
theorem module_addSources {last : TypeItem}
    (hlast : (typeItemsOf sources type).getLast? = some last) :
    (((fresh settings).addSources sources).registry.describe? type).map (·.module) =
      some last.module := by
  have hplaces : (sources.flatMap fun s => (declarations? s.1 s.2).getD []).filter (·.places type) =
      (typeItemsOf sources type).map (·.declaration type) := by
    rw [typeItemsOf, List.filter_flatMap, List.map_flatMap]
    exact List.flatMap_congr fun s _ => places_declarations? s.1 type s.2
  rw [addSources_eq_declareAll, module_declareAll, findRev?_eq_getLast?_filter, hplaces,
    List.getLast?_map, hlast]
  show (((some (last.declaration type)).bind (·.module?)).or none).or _ = _
  rw [Option.bind_some, TypeItem.module?_declaration]
  rfl

/-- **What is known of a type that is declared.**  It stands where its last struct or enum stands, and
is built from the fields of its last struct, which are its properties.  This is what the last struct
or enum says exactly if that is a struct, or if there are no fields of a struct before it. -/
theorem describes_addSources (last : TypeItem)
    (hlast : (typeItemsOf sources type).getLast? = some last) :
    ∃ d, ((fresh settings).addSources sources).registry.describe? type = some d ∧
      d.module = last.module ∧ d.constructor = builtFrom sources type ∧
      d.properties = propertiesOf ((builtFrom sources type).getD []) ∧
      (last.Describes d ↔ last.fields.isSome = true ∨ builtFrom sources type = none) := by
  obtain ⟨d, hd, hmodule⟩ := Option.map_eq_some_iff.1 (module_addSources settings sources type hlast)
  have hconstructor : d.constructor = builtFrom sources type := by
    have h := constructor_addSources settings sources type
    rwa [hd, Option.bind_some] at h
  have hproperties : d.properties = propertiesOf (d.constructor.getD []) := by
    rw [addSources_eq_declareAll] at hd
    exact properties_declareAll settings type hd
  refine ⟨d, hd, hmodule, hconstructor, hconstructor ▸ hproperties, ?_⟩
  have hbuilt : last.Describes d ↔ builtFrom sources type = last.constructor? := by
    constructor
    · intro h
      rw [← hconstructor, h.constructor]
    · intro h
      exact ⟨hmodule, hconstructor.trans h, by rw [hproperties, hconstructor, h]⟩
  rw [hbuilt]
  cases hfields : last.fields with
  | some fields => exact iff_of_true (builtFrom_of_struct hlast hfields) (Or.inl rfl)
  | none =>
    -- an enum says that there are no fields
    rw [TypeItem.constructor?, hfields]
    simp

end

/-! ## A status that is taken for a struct -/

/-- A status was a struct with a code, and became an enum. -/
def statusSources : List (ModuleId × String) :=
  [(.inline, String.join ["struct Status", inBraces "code: u32"]),
    (.inline, String.join ["enum Status", inBraces "Active, Closed"])]

theorem typeItemsOf_statusSources :
    (typeItemsOf statusSources "Status").map (·.fields.isSome) = [true, false] ∧
      builtFrom statusSources "Status" = some [⟨"code", .named "u32"⟩] := by
  simp only [typeItemsOf, typeItems, builtFrom, structsOf, structs, statusSources,
    List.flatMap_cons, List.flatMap_nil, items?_join]
  decide +kernel

theorem exists_last_statusSources : ∃ last,
    (typeItemsOf statusSources "Status").getLast? = some last ∧ last.fields.isSome = false := by
  obtain ⟨t, rest, hitems, -, hrest⟩ := List.map_eq_cons_iff.1 typeItemsOf_statusSources.1
  obtain ⟨last, rfl, henum⟩ := List.map_eq_singleton_iff.1 hrest
  exact ⟨last, by rw [hitems]; rfl, henum⟩

/-- The status keeps the code of the struct that it was. -/
theorem describes_addSources_status : ∃ last d,
    (typeItemsOf statusSources "Status").getLast? = some last ∧
      ((fresh .standard).addSources statusSources).registry.describe? "Status" = some d ∧
      d.constructor = some [⟨"code", .named "u32"⟩] ∧ ¬last.Describes d := by
  obtain ⟨last, hlast, henum⟩ := exists_last_statusSources
  obtain ⟨d, hd, -, hconstructor, -, hiff⟩ :=
    describes_addSources .standard statusSources "Status" last hlast
  have hbuilt := typeItemsOf_statusSources.2
  refine ⟨last, d, hlast, hd, hconstructor.trans hbuilt, ?_⟩
  rw [hiff, henum, hbuilt]
  simp

/-- **A type is not always as it was declared last.**  The enum has the fields of a struct. -/
theorem not_forall_describes :
    ¬∀ (settings : Settings) (sources : List (ModuleId × String)) (type : String) (last : TypeItem),
      (typeItemsOf sources type).getLast? = some last →
      ∃ d, ((fresh settings).addSources sources).registry.describe? type = some d ∧
        last.Describes d := by
  intro h
  obtain ⟨last, hlast, henum⟩ := exists_last_statusSources
  obtain ⟨d, hd, hdescribes⟩ := h .standard statusSources "Status" last hlast
  have hkept := constructor_addSources .standard statusSources "Status"
  have hfields : last.fields = none := Option.isSome_eq_false_iff.1 henum |> Option.isNone_iff_eq_none.1
  rw [hd, Option.bind_some, hdescribes.constructor, TypeItem.constructor?, hfields] at hkept
  cases hkept.trans typeItemsOf_statusSources.2

end Generator

end Mapwright
