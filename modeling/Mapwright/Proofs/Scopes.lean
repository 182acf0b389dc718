import Mathlib.Data.List.Find
import Mapwright.Proofs.NameMap
import Mapwright.Proofs.Names

/-!
# What depends on a scope

A name is looked up in the items around it, and then in what is bound around
these.  A scope is only asked for names that are no keywords, or what it says is
of no consequence, so that scopes which agree on the other names let well-named
items declare the same.

    (s.within items).find? w = the last binding of w in items, or else s.find? w      (`find?_within`)
    s.Alike s' → item.WellNamed → item.declarations s module = item.declarations s' module
                                                                       (`declarations_congr`)
-/

namespace Mapwright

theorem findRev?_flatMap {α β : Type} (f : β → List α) (p : α → Bool) (l : List β) :
    (l.flatMap f).findRev? p =
      (l.findRev? fun b => (f b).any p).bind fun b => (f b).findRev? p := by
  induction l using List.reverseRecOn with
  | nil => rfl
  | append_singleton l b ih =>
    rw [List.flatMap_append, List.flatMap_singleton, findRev?_append, findRev?_concat, ih]
    cases hb : (f b).any p with
    | true =>
      obtain ⟨a, ha, hp⟩ := List.any_eq_true.1 hb
      cases hfound : (f b).findRev? p with
      | none =>
        rw [findRev?_eq_none_iff.1 hfound a ha] at hp
        cases hp
      | some found => rw [if_pos rfl, Option.bind_some, hfound, Option.some_or]
    | false =>
      have hnone : (f b).findRev? p = none :=
        findRev?_eq_none_iff.2 fun a ha => Bool.eq_false_iff.2 (List.any_eq_false.1 hb a ha)
      rw [hnone, Option.none_or, if_neg Bool.false_ne_true]

namespace Source

/-- Whether an item binds a name. -/
def Item.binds (name : String) (item : Item) : Bool := item.bindings.any (·.1 == name)

/-- The full path that an item binds a name to. -/
def Item.boundTo? (name : String) (item : Item) : Option (List String) :=
  (item.bindings.findRev? (·.1 == name)).map (·.2)

theorem Item.exists_boundTo? {name : String} (item : Item) (h : item.binds name = true) :
    ∃ path, item.boundTo? name = some path := by
  obtain ⟨b, hb, hname⟩ := List.any_eq_true.1 h
  cases hbound : item.boundTo? name with
  | some path => exact ⟨path, rfl⟩
  | none =>
    rw [boundTo?, Option.map_eq_none_iff, findRev?_eq_none_iff] at hbound
    rw [hbound b hb] at hname
    cases hname

theorem Item.mem_bindings_of_boundTo? {name : String} {path : List String} (item : Item)
    (h : item.boundTo? name = some path) : (name, path) ∈ item.bindings := by
  obtain ⟨b, hb, rfl⟩ := Option.map_eq_some_iff.1 h
  have hname := prop_of_findRev? hb
  rw [← eq_of_beq hname]
  exact mem_of_findRev? hb

theorem Item.WellNamed.bindsWell {item : Item} (h : item.WellNamed) :
    ∀ b ∈ item.bindings, BindsWell b := by
  cases h with
  | imported h => exact h []
  | @aliased name type h =>
    intro b hb hkeyword
    have hname : b.1 = name := by
      rw [Item.bindings] at hb
      split at hb
      · split at hb
        · cases hb
        · rw [List.mem_singleton.1 hb]
      · cases hb
    rw [hname, h] at hkeyword
    cases hkeyword
  | _ => exact fun b hb => absurd hb List.not_mem_nil

/-! ## Lookups -/

namespace Scope

theorem find?_within (s : Scope) (items : List Item) (name : String) :
    (s.within items).find? name =
      ((items.findRev? (·.binds name)).bind (·.boundTo? name)).or (s.find? name) := by
  rw [within, NameMap.find?_insertAll, findRev?_flatMap]
  refine congrArg (Option.or · (s.find? name)) ?_
  show Option.map _ (Option.bind (items.findRev? (·.binds name)) _) = _
  cases items.findRev? (·.binds name) <;> rfl

/-- Every keyword that is bound is an underscore, or else the last name of what it stands for. -/
def WellNamed (s : Scope) : Prop := ∀ name path, s.find? name = some path → BindsWell (name, path)

theorem wellNamed_empty : WellNamed NameMap.empty := fun _ _ h => by cases h

theorem WellNamed.within {s : Scope} (hs : s.WellNamed) {items : List Item}
    (hitems : ∀ item ∈ items, item.WellNamed) : (s.within items).WellNamed := by
  intro name path h
  rw [find?_within] at h
  cases hfound : items.findRev? (·.binds name) with
  | none =>
    rw [hfound] at h
    exact hs name path h
  | some item =>
    have hbinds : item.binds name = true := prop_of_findRev? hfound
    obtain ⟨path', hbound⟩ := item.exists_boundTo? hbinds
    rw [hfound, Option.bind_some, hbound, Option.some_or] at h
    cases h
    exact (hitems item (mem_of_findRev? hfound)).bindsWell _ (item.mem_bindings_of_boundTo? hbound)

/-- A keyword that can be referred to stands for itself. -/
theorem WellNamed.typeName_keyword {s : Scope} (hs : s.WellNamed) {name : String}
    (hkeyword : isKeyword name = true) (hne : name ≠ "_") : s.typeName [name] = name := by
  show ((s.find? name).bind (·.getLast?)).getD name = name
  cases hfound : s.find? name with
  | none => rfl
  | some path =>
    have hlast : path.getLast? = some name := (hs name path hfound hkeyword).resolve_left hne
    rw [Option.bind_some, hlast, Option.getD_some]

theorem WellNamed.not_marker_of_keyword {s : Scope} (hs : s.WellNamed) {name : String}
    (hkeyword : isKeyword name = true) (hne : name ≠ "_") :
    (s.find? name).any markerPaths.contains = false := by
  cases hfound : s.find? name with
  | none => rfl
  | some path =>
    have hlast : path.getLast? = some name := (hs name path hfound hkeyword).resolve_left hne
    refine Bool.eq_false_iff.2 fun hmarker => ?_
    have hmem : path ∈ markerPaths := List.contains_iff_mem.1 hmarker
    have hmapper : ∀ p ∈ markerPaths, p.getLast? = some "mapper" := by decide
    rw [hmapper path hmem] at hlast
    cases hlast
    cases hkeyword

/-- Scopes that say the same of all names but keywords. -/
structure Alike (s s' : Scope) : Prop where
  left : s.WellNamed
  right : s'.WellNamed
  same : ∀ name, isKeyword name = false → s.find? name = s'.find? name

theorem WellNamed.alike {s : Scope} (hs : s.WellNamed) : s.Alike s := ⟨hs, hs, fun _ _ => rfl⟩

namespace Alike

variable {s s' : Scope}

theorem within (h : s.Alike s') {items : List Item} (hitems : ∀ item ∈ items, item.WellNamed) :
    (s.within items).Alike (s'.within items) where
  left := h.left.within hitems
  right := h.right.within hitems
  same := by
    intro name hname
    rw [find?_within, find?_within, h.same name hname]

theorem typeName (h : s.Alike s') {names : List String} (hne : names ≠ ["_"]) :
    s.typeName names = s'.typeName names := by
  match names with
  | [] => rfl
  | [name] =>
    cases hkeyword : isKeyword name with
    | false =>
      show ((s.find? name).bind _).getD name = ((s'.find? name).bind _).getD name
      rw [h.same name hkeyword]
    | true =>
      have hname : name ≠ "_" := fun hname => hne (hname ▸ rfl)
      rw [h.left.typeName_keyword hkeyword hname, h.right.typeName_keyword hkeyword hname]
  | _ :: _ :: _ => rfl

theorem marks (h : s.Alike s') {a : Attribute} (ha : a.path.WellNamed) : a.marks s = a.marks s' := by
  unfold Attribute.marks
  match hnames : a.path.names with
  | [] => rfl
  | [name] =>
    cases hkeyword : isKeyword name with
    | false => simp only [h.same name hkeyword]
    | true =>
      have hname : name ≠ "_" := ha name (hnames ▸ List.mem_singleton_self name)
      show (s.find? name).any _ = (s'.find? name).any _
      rw [h.left.not_marker_of_keyword hkeyword hname, h.right.not_marker_of_keyword hkeyword hname]
  | _ :: _ :: _ => rfl

end Alike

end Scope

/-! ## Declarations in scopes that are alike -/

section

variable {s s' : Scope}

theorem Path.WellNamed.names_ne {p : Path} (hp : p.WellNamed) : p.names ≠ ["_"] := by
  intro hnames
  have hmem : "_" ∈ p.segments.map (·.name) := by
    rw [show p.segments.map (·.name) = ["_"] from hnames]
    exact List.mem_cons_self
  obtain ⟨segment, hsegment, hname⟩ := List.mem_map.1 hmem
  exact hp segment hsegment hname

theorem TypeExpr.WellNamed.passed {t : TypeExpr} (ht : t.WellNamed) : t.passed.1.WellNamed := by
  cases t with
  | reference lifetime mutable target => cases mutable <;> exact ht
  | _ => exact ht

theorem TypeExpr.ref_congr (h : s.Alike s') {t : TypeExpr} (ht : t.WellNamed) :
    t.ref s = t.ref s' := by
  have hpassed := ht.passed
  unfold TypeExpr.ref
  generalize t.passed = r at hpassed ⊢
  obtain ⟨target, passing⟩ := r
  cases target with
  | path p => simp only [h.typeName (Path.WellNamed.names_ne hpassed)]
  | _ => rfl

namespace Signature

theorem paramsOf_congr (h : s.Alike s') {f : Signature} (hf : f.WellNamed) :
    f.paramsOf s = f.paramsOf s' := by
  refine mapM_congr fun p hp => ?_
  unfold paramOf
  cases p.name with
  | none => rfl
  | some name => simp only [TypeExpr.ref_congr h (hf.params p hp)]

theorem returnsOf_congr (h : s.Alike s') {f : Signature} (hf : f.WellNamed) :
    f.returnsOf s = f.returnsOf s' := by
  unfold returnsOf
  cases houtput : f.output with
  | none => rfl
  | some t => simp only [TypeExpr.ref_congr h (hf.output t houtput)]

theorem method?_congr (h : s.Alike s') {f : Signature} (hf : f.WellNamed) :
    f.method? s = f.method? s' := by
  unfold method?
  rw [paramsOf_congr h hf, returnsOf_congr h hf]

end Signature

theorem TraitFn.function_congr (h : s.Alike s') {f : TraitFn} (hf : f.signature.WellNamed) :
    f.function s = f.function s' := by
  unfold TraitFn.function Signature.provided Signature.required
  rw [Signature.paramsOf_congr h hf, Signature.returnsOf_congr h hf]

namespace TraitItem

theorem unit_congr (h : s.Alike s') {t : TraitItem} (ht : t.WellNamed) (module : ModuleId)
    (marker : Attribute) : t.unit s module marker = t.unit s' module marker := by
  have hfunctions : t.functions.mapM (·.function s) = t.functions.mapM (·.function s') :=
    mapM_congr fun f hf => TraitFn.function_congr h (ht.functions f hf)
  unfold unit
  rw [hfunctions]
  cases hsettings : marker.settings with
  | error e => rfl
  | ok settings =>
    have hbase : settings.base.mapM (baseRef s) = settings.base.mapM (baseRef s') := by
      cases hb : settings.base with
      | none => rfl
      | some p =>
        have hp := (wellNamed_base hsettings p hb).names_ne
        simp only [Option.mapM_some, baseRef, h.typeName hp]
    simp only [Except.mapError, bind, Except.bind, hbase]

theorem declaration?_congr (h : s.Alike s') {t : TraitItem} (ht : t.WellNamed)
    (module : ModuleId) : t.declaration? s module = t.declaration? s' module := by
  have hmarker : t.attributes.find? (·.marks s) = t.attributes.find? (·.marks s') :=
    List.find?_congr fun a ha => h.marks (ht.attributes a ha)
  unfold declaration?
  rw [hmarker]
  simp only [unit_congr h ht]

end TraitItem

theorem Fields.constructor_congr (h : s.Alike s') {fields : Fields} (hf : fields.WellNamed) :
    fields.constructor s = fields.constructor s' := by
  cases fields with
  | named fields =>
    refine congrArg some (List.map_congr_left fun field hfield => ?_)
    unfold fieldParam
    rw [TypeExpr.ref_congr h (hf field hfield)]
  | _ => rfl

theorem implDeclaration?_congr (h : s.Alike s') (module : ModuleId) (ofTrait : Bool)
    {self : TypeExpr} (hself : self.WellNamed) {methods : List Signature}
    (hmethods : ∀ f ∈ methods, f.WellNamed) :
    implDeclaration? s module ofTrait self methods =
      implDeclaration? s' module ofTrait self methods := by
  unfold implDeclaration?
  split
  · next p =>
    have hsigs : methods.filterMap (·.method? s) = methods.filterMap (·.method? s') :=
      List.filterMap_congr fun f hf => Signature.method?_congr h (hmethods f hf)
    rw [h.typeName (Path.WellNamed.names_ne hself), hsigs]
  · rfl

theorem declarations_eq_of_forall {module : ModuleId} {items : List Item}
    (h : ∀ item ∈ items, item.declarations s module = item.declarations s' module) :
    declarations s module items = declarations s' module items := by
  induction items with
  | nil => rfl
  | cons item items ih =>
    obtain ⟨hitem, hitems⟩ := List.forall_mem_cons.1 h
    rw [declarations, declarations, hitem, ih hitems]

/-- A well-named item declares the same in scopes that are alike. -/
theorem Item.declarations_congr {item : Item} (hitem : item.WellNamed) (module : ModuleId) :
    ∀ {s s' : Scope}, s.Alike s' → item.declarations s module = item.declarations s' module := by
  induction hitem with
  | struct hfields =>
    intro s s' h
    rw [Item.declarations, Item.declarations, Fields.constructor_congr h hfields]
  | implementation hself hmethods =>
    intro s s' h
    rw [Item.declarations, Item.declarations, implDeclaration?_congr h module _ hself hmethods]
  | trait ht =>
    intro s s' h
    rw [Item.declarations, Item.declarations, TraitItem.declaration?_congr h ht]
  | @inside items hitems ih =>
    intro s s' h
    rw [Item.declarations, Item.declarations]
    exact declarations_eq_of_forall fun item hitem => ih item hitem (h.within hitems)
  | _ => exact fun _ => rfl

end

end Source

end Mapwright
