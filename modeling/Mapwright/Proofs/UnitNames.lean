import Mapwright.Proofs.History
import Mapwright.Proofs.Meaning
import Mapwright.Proofs.Signatures
import Mapwright.Proofs.Tokens

/-!
# The names of units that are read

The name of a trait is read as a name, and so are those of its functions,
however deep in modules the trait stands.  So a unit that comes from a text has
names that are identifiers and no keywords, and with it each of its functions.

    items? text = some items → every trait among them is named           (`named_of_items?`)
    reading actions only → every unit of the generator is named          (`named_of_units_after`)
-/

namespace Mapwright

open Code (IsName)

namespace Source

open Token Parse

/-! ## Named traits -/

theorem isName_iff {x : String} : IsName x ↔ IsIdentifier x.toList ∧ isKeyword x = false := by
  have hends : EndsIdentifier x.toList [] := ⟨fun _ hc => (by cases hc), fun _ h => (by cases h)⟩
  have hidentifier : identifier? x.toList = some (x.toList, []) ↔ IsIdentifier x.toList := by
    rw [identifier?_eq_some_iff]
    exact ⟨fun h => h.2.1, fun h => ⟨(List.append_nil _).symm, h, hends⟩⟩
  rw [IsName, hidentifier]

/-- The trait and its functions have names. -/
structure TraitItem.Named (t : TraitItem) : Prop where
  name : IsName t.name
  functions : ∀ f ∈ t.functions, IsName f.signature.name

/-- The item, if it is a trait, and every trait inside it are named. -/
def Item.Named (item : Item) : Prop :=
  ∀ scope, ∀ e ∈ item.read scope, ∀ t, e.2 = .trait t → t.Named

/-- An item that is no trait and has no items inside. -/
def Item.IsPlain : Item → Prop
  | .trait _ => False
  | .module _ => False
  | _ => True

namespace Item

theorem IsPlain.named {item : Item} (h : item.IsPlain) : item.Named := by
  intro scope e he t ht
  cases item with
  | trait => cases h
  | module => cases h
  | _ =>
    cases List.mem_singleton.1 he
    cases ht

theorem named_trait {t : TraitItem} (h : t.Named) : (Item.trait t).Named := by
  intro scope e he t' ht
  cases List.mem_singleton.1 he
  cases ht
  exact h

theorem named_of_mem_read {items : List Item} (h : ∀ item ∈ items, item.Named) {scope : Scope}
    {e : Scope × Item} (he : e ∈ Source.read scope items) {t : TraitItem} (ht : e.2 = .trait t) :
    t.Named := by
  induction items with
  | nil => cases he
  | cons item items ih =>
    obtain ⟨hitem, hitems⟩ := List.forall_mem_cons.1 h
    rcases List.mem_append.1 he with he | he
    · exact hitem scope e he t ht
    · exact ih hitems he

theorem named_module {items : List Item} (h : ∀ item ∈ items, item.Named) :
    (Item.module (some items)).Named :=
  fun _ _ he _ ht => named_of_mem_read h he ht

theorem named_outside : (Item.module none).Named := fun _ _ he => absurd he List.not_mem_nil

end Item

/-! ## Reading items -/

namespace Grammar

variable {g : Grammar} [Taking g] {P : List Token → Prop}

/-- The grammar gives named items where items are nested. -/
def NamesItems (g : Grammar) : Prop :=
  Reads Anywhere g.items fun items _ => ∀ item ∈ items, item.Named

theorem reads_signature (safe : Bool) : Reads P (signature g safe) fun s _ => IsName s.name := by
  unfold signature
  refine .after fun isConst => .after fun isAsync => .after fun unsafety => .optionally fun _ => ?_
  refine .after fun foreign => .after fun _ => reads_name.bind fun name => .given fun hname => ?_
  refine .after fun generic => .after fun ps => .after fun output => .after fun _ => ?_
  exact .pure fun _ _ => isName_iff.2 hname

theorem reads_traitMember : Reads P (traitMember g) fun m _ => ∀ f ∈ m, IsName f.signature.name := by
  unfold traitMember
  refine .after fun _ => .after fun vis => .after fun isDefault => .after fun _ => ?_
  refine .ite (fun _ => ?_) (fun _ => .after fun _ => ?_)
  · refine (reads_signature false).bind fun s => .given fun hs => .after fun hasBody => ?_
    refine .pure fun _ _ => ?_
    split
    · exact forall_mem_some hs
    · exact forall_mem_none
  refine .ite (fun _ => .after fun _ => .pure fun _ _ => forall_mem_none) (fun _ => .after fun _ => ?_)
  refine .ite (fun _ => .after fun _ => .pure fun _ _ => forall_mem_none) (fun _ => ?_)
  exact .after fun _ => .after fun _ => .pure fun _ _ => forall_mem_none

theorem reads_traitItem (outer : List Attribute) (vis : Visibility) :
    Reads P (traitItem g outer vis) fun item _ => item.Named := by
  unfold traitItem
  refine .after fun unsafety => .after fun auto => .after fun _ => ?_
  refine reads_name.bind fun name => .given fun hname => .after fun generic => .after fun _ => ?_
  refine .ite (fun _ => ?_) (fun _ => .after fun _ => ?_)
  · refine .after fun _ => .after fun _ => .after fun _ => .after fun _ => .pure fun _ _ => ?_
    exact Item.IsPlain.named trivial
  refine .optionally fun _ => .after fun _ => .group (.after fun inner => ?_) .brace
  refine (reads_traitMember.many atEnd).map fun ms _ hms => Item.named_trait ⟨?_, ?_⟩
  · exact isName_iff.2 hname
  · exact List.forall_mem_filterMap.2 hms

theorem reads_moduleItem (hg : g.NamesItems) : Reads P (moduleItem g) fun item _ => item.Named := by
  unfold moduleItem
  refine .after fun _ => .after fun _ => .after fun _ => .after fun elsewhere => ?_
  refine .ite (fun _ => .pure fun _ _ => Item.named_outside) (fun _ => ?_)
  refine .group (.after fun _ => ?_) .brace
  exact hg.map fun items _ hitems => Item.named_module hitems

/-! ### Items without traits -/

theorem yields_implItem_plain (whole : List Token) (vis : Visibility) :
    Yields whole (implItem g vis) Item.IsPlain := by
  unfold implItem
  refine .after fun _ => .after fun _ => .after fun _ => .after fun _ => .optionally fun _ => ?_
  refine .after fun isConst => ?_
  extract_lets plain rest
  have hrest : ∀ u, Yields whole (rest u) Item.IsPlain := by
    intro u
    refine .after fun negative => .optionally fun _ => .after fun first => .after fun _ => ?_
    refine .ite (fun _ => .after fun self => .after fun ms => .pure ?_)
      (fun _ => .after fun _ => .after fun ms => .pure ?_)
    · split <;> trivial
    · split <;> trivial
  exact .ite (fun _ => .after fun _ => .after hrest) (fun _ => hrest ())

theorem yields_structItem_plain (whole : List Token) :
    Yields whole (structItem g) Item.IsPlain := by
  unfold structItem
  refine .after fun _ => .after fun name => .after fun _ => .after fun _ => .after fun _ => ?_
  refine .ite (fun _ => ?_) (fun _ => .after fun _ => ?_)
  · exact .after fun _ => .after fun _ => .after fun _ => .pure trivial
  · exact .ite (fun _ => .after fun _ => .pure trivial) (fun _ => .after fun _ => .pure trivial)

theorem yields_useItem_plain (whole : List Token) : Yields whole useItem Item.IsPlain := by
  unfold useItem
  refine .after fun _ => .after fun _ => .after fun _ => .after fun tree => .after fun _ => .pure ?_
  cases tree <;> trivial

theorem reads_plain {p : Parse Item} (h : ∀ whole, Yields whole p Item.IsPlain) :
    Reads P p fun item _ => item.Named :=
  fun ts item rest _ _ hrun => (h ts ts item rest (List.suffix_refl ts) hrun).named

theorem reads_item (hg : g.NamesItems) : Reads P (item g) fun item _ => item.Named := by
  have hother : ∀ {P}, Reads P (pure .other : Parse Item) fun item _ => item.Named :=
    .pure fun _ _ => Item.IsPlain.named trivial
  unfold item
  refine .after fun outer => ?_
  unfold itemRest
  refine .after fun vis => .after fun _ => ?_
  refine .ite (fun _ => .after fun _ => .after fun _ => hother) (fun _ => .after fun _ => ?_)
  refine .ite (fun _ => .after fun _ => hother) (fun _ => .after fun _ => ?_)
  refine .ite (fun _ => .after fun _ => .after fun _ => hother) (fun _ => .after fun _ => ?_)
  refine .ite (fun _ => reads_plain yields_useItem_plain) (fun _ => .after fun _ => ?_)
  refine .ite (fun _ => .after fun _ => hother) (fun _ => .after fun _ => ?_)
  refine .ite (fun _ => .after fun _ => hother) (fun _ => .after fun _ => ?_)
  refine .ite (fun _ => reads_traitItem outer vis) (fun _ => .after fun _ => ?_)
  refine .ite (fun _ => reads_plain (yields_implItem_plain · vis)) (fun _ => .after fun _ => ?_)
  refine .ite (fun _ => reads_moduleItem hg) (fun _ => .after fun _ => ?_)
  refine .ite (fun _ => .after fun r => ?_) (fun _ => .after fun _ => ?_)
  · obtain ⟨name, type⟩ := r
    cases type with
    | none => exact hother
    | some type => exact .pure fun _ _ => Item.IsPlain.named trivial
  refine .ite (fun _ => reads_plain yields_structItem_plain) (fun _ => .after fun _ => ?_)
  refine .ite (fun _ => ?_) (fun _ => .after fun _ => ?_)
  · unfold enumItem
    refine .after fun _ => .after fun name => .after fun _ => .after fun _ => .after fun _ => ?_
    exact .pure fun _ _ => Item.IsPlain.named trivial
  refine .ite (fun _ => .after fun _ => hother) (fun _ => .after fun _ => ?_)
  refine .ite (fun _ => .after fun _ => hother) (fun _ => ?_)
  exact .after fun _ => .after fun _ => hother

theorem reads_itemsRule (hg : g.NamesItems) :
    Reads Anywhere (itemsRule g) fun items _ => ∀ item ∈ items, item.Named :=
  (reads_item hg).many atEnd

theorem namesItems_upTo (depth : Nat) : (upTo depth).NamesItems := by
  induction depth with
  | zero => exact .failure
  | succ depth ih => exact reads_itemsRule ih

end Grammar

/-- **The traits of a well-formed text are named.** -/
theorem named_of_items? {text : String} {items : List Item} (h : items? text = some items) :
    ∀ item ∈ items, item.Named := by
  obtain ⟨ts, hts, hitems⟩ := Option.bind_eq_some_iff.1 h
  have hfile : Reads Anywhere (Grammar.file (Grammar.ofTokens ts)) fun items _ =>
      ∀ item ∈ items, item.Named :=
    .after fun _ => Grammar.reads_itemsRule (Grammar.namesItems_upTo _)
  exact hfile.run? (spelled_of_tokens? hts) hitems

end Source

/-! ## Named units -/

/-- The unit and its functions have names. -/
structure MappingUnit.Named (u : MappingUnit) : Prop where
  name : IsName u.name
  functions : ∀ f ∈ u.functions, IsName f.name

theorem Source.TraitItem.Named.unit {t : TraitItem} (ht : t.Named) {scope : Scope}
    {module : ModuleId} {u : MappingUnit} (h : t.declaration? scope module = some (.unit u)) :
    u.Named := by
  refine ⟨?_, fun m hm => ?_⟩
  · obtain ⟨marker, -, hd⟩ := Option.map_eq_some_iff.1 h
    split at hd
    · next u' hu =>
      cases hd
      obtain ⟨settings, base, functions, -, -, -, -, rfl⟩ := unit_eq_ok_iff.1 hu
      exact ht.name
    · cases hd
  · obtain ⟨f, hf, hfm⟩ := exists_of_forall₂_right (functions_of_declaration? h) m hm
    rw [(TraitFn.name_of_function hfm).1]
    exact ht.functions f hf

/-- **A unit that a text declares is named.** -/
theorem named_of_mem_declarations? {module : ModuleId} {text : String} {u : MappingUnit}
    (h : .unit u ∈ (Source.declarations? module text).getD []) : u.Named := by
  obtain ⟨items, hitems, ⟨scope, item⟩, he, hd⟩ := (Source.mem_declarations?_iff ..).1 h
  cases item with
  | trait t =>
    have ht := Source.Item.named_of_mem_read (Source.named_of_items? hitems) he rfl
    exact ht.unit (Option.mem_toList.1 hd)
  | implementation ofTrait owner methods =>
    obtain ⟨p, -, -, heq⟩ := Source.eq_of_implDeclaration? (Option.mem_toList.1 hd)
    cases heq
  | struct name fields => cases List.mem_singleton.1 hd
  | enumeration name => cases List.mem_singleton.1 hd
  | module inner => exact absurd rfl (Source.ne_module_of_mem_read _ items _ he inner)
  | _ => cases hd

/-- Whether an action hands a unit in that was not read. -/
def Action.handsIn : Action → Bool
  | .addUnit _ => true
  | _ => false

/-- Everything that a reading action declares is declared by a text. -/
theorem Action.exists_text_of_mem {a : Action} (ha : a.handsIn = false) {d : Declaration}
    (hd : d ∈ a.declarations) :
    ∃ module text, d ∈ (Source.declarations? module text).getD [] := by
  have hfile : ∀ root here path, d ∈ (fileDeclarations? root here path).getD [] →
      ∃ module text, d ∈ (Source.declarations? module text).getD [] := by
    intro root here path hd
    unfold fileDeclarations? at hd
    cases htext : root.readText? path here with
    | none => simp [htext] at hd
    | some text =>
      rw [htext] at hd
      exact ⟨path, text, hd⟩
  cases a with
  | addUnit u => cases ha
  | addSource module text => exact ⟨module, text, hd⟩
  | addFile root path here => exact hfile root here path hd
  | addDirectory root path here =>
    obtain ⟨ds, hds, hd⟩ := List.mem_flatMap.1 hd
    obtain ⟨path', -, rfl⟩ := List.mem_map.1 (List.takeWhile_subset _ hds)
    exact hfile root here path' hd
  | _ => cases hd

/-- **A generator that only reads holds named units.** -/
theorem Generator.named_of_units_after {actions : List Action}
    (hreading : ∀ a ∈ actions, a.handsIn = false) :
    ∀ u ∈ (after actions).units.values, u.Named := by
  intro u hu
  obtain ⟨name, hfind⟩ := (NameMap.mem_values_iff _ _).1 hu
  have hlast := (units_after_iff actions name u).1 hfind
  obtain ⟨a, ha, hd⟩ := List.mem_flatMap.1 (mem_of_findRev? hlast)
  obtain ⟨module, text, hd⟩ := Action.exists_text_of_mem (hreading a ha) hd
  exact named_of_mem_declarations? hd

end Mapwright
