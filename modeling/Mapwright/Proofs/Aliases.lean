import Mapwright.Proofs.FullPaths
import Mapwright.Proofs.Rearrangement

/-!
# Aliases

Where a source calls types by names that its imports bind, it may call them by
their paths.  Items that are the same in full declare the same outlines, so the
same becomes of all units: fields are bound alike, with the same diagnostics, and
shapes and dependencies stay as they are.  But an import that lists `self` binds
another path than the one it denotes.

    item.SameInFull s item' → both declare the same outlines    (`Item.SameInFull.map_outline_declarations`)
    SameInFull text text' → the same becomes of all units       (`SameInFull.sameOutcomes`)
    an alias may be written as the path that it stands for      (`transparent_aliases`)
    not every import binds the path that it denotes             (`not_forall_find?_denoted`)
-/

namespace Mapwright

namespace Source

/-! ## Signatures -/

def FnParam.inFull (s : Scope) (p : FnParam) : FnParam := ⟨p.name, p.type.inFull s⟩

def FnParam.lookupInFull (s : Scope) (p : FnParam) : FnParam := ⟨p.name, p.type.lookupInFull s⟩

namespace Signature

/-- A signature with all of its types in full. -/
def inFull (s : Scope) (sig : Signature) : Signature :=
  { sig with
    params := sig.params.map (·.inFull s)
    output := sig.output.map (·.inFull s) }

/-- The signature of a function to be implemented: its source and its target are looked up. -/
def lookupInFull (s : Scope) (sig : Signature) : Signature :=
  { sig with
    params := match sig.params with
      | [] => []
      | p :: ps => p.lookupInFull s :: ps.map (·.inFull s)
    output := sig.output.map (·.lookupInFull s) }

variable (s : Scope)

variable {seen : TypeRef → TypeRef}

/-- The same is seen of a parameter if the same is seen of its type. -/
theorem map_paramOf (name : Option String) {t t' : TypeExpr}
    (h : (t.ref s).map seen = (t'.ref s).map seen) :
    (paramOf s ⟨name, t⟩).map (fun p => Param.mk p.name (seen p.type)) =
      (paramOf s ⟨name, t'⟩).map fun p => Param.mk p.name (seen p.type) := by
  cases name with
  | none => rfl
  | some name =>
    exact map_bind_congr h fun _ _ hseen => congrArg (fun t => Except.ok (Param.mk name t)) hseen

/-- The same is seen of what is returned if the same is seen of its type. -/
theorem map_returnsOf {sig sig' : Signature} {f : TypeExpr → TypeExpr}
    (houtput : sig'.output = sig.output.map f)
    (h : ∀ t : TypeExpr, ((f t).ref s).map seen = (t.ref s).map seen) :
    (sig'.returnsOf s).map (Option.map seen) = (sig.returnsOf s).map (Option.map seen) := by
  unfold returnsOf
  rw [houtput]
  cases sig.output with
  | none => rfl
  | some t => exact map_bind_congr (h t) fun _ _ hseen => congrArg (fun t => Except.ok (some t)) hseen

theorem map_outline_paramOf (p : FnParam) :
    (paramOf s (p.inFull s)).map Param.outline = (paramOf s p).map Param.outline :=
  map_paramOf s p.name (p.type.map_outline_ref_inFull s)

theorem map_mention_paramOf (p : FnParam) :
    (paramOf s (p.lookupInFull s)).map Param.mention = (paramOf s p).map Param.mention :=
  map_paramOf s p.name (p.type.map_mention_ref_lookupInFull s)

variable (sig : Signature)

theorem map_outline_paramsOf : ((sig.inFull s).paramsOf s).map (List.map Param.outline) =
    (sig.paramsOf s).map (List.map Param.outline) :=
  map_mapM_congr fun p _ => map_outline_paramOf s p

theorem map_outlineParams_paramsOf :
    ((sig.lookupInFull s).paramsOf s).map (outlineParams Param.mention) =
      (sig.paramsOf s).map (outlineParams Param.mention) := by
  unfold paramsOf lookupInFull
  cases sig.params with
  | nil => rfl
  | cons p ps =>
    dsimp only
    rw [List.mapM_cons, List.mapM_cons]
    refine map_bind_congr (map_mention_paramOf s p) fun a b ha => ?_
    refine map_bind_congr (map_mapM_congr fun q _ => map_outline_paramOf s q) fun as bs has => ?_
    exact congrArg Except.ok (congrArg₂ List.cons ha has)

theorem map_outline_returnsOf : ((sig.inFull s).returnsOf s).map (Option.map TypeRef.outline) =
    (sig.returnsOf s).map (Option.map TypeRef.outline) :=
  map_returnsOf s rfl (TypeExpr.map_outline_ref_inFull s)

theorem map_mention_returnsOf : ((sig.lookupInFull s).returnsOf s).map (Option.map TypeRef.mention) =
    (sig.returnsOf s).map (Option.map TypeRef.mention) :=
  map_returnsOf s rfl (TypeExpr.map_mention_ref_lookupInFull s)

/-- A method in an outline. -/
theorem map_outline_method? : ((sig.inFull s).method? s).map (fun m => (m.1, m.2.outline)) =
    (sig.method? s).map fun m => (m.1, m.2.outline) := by
  unfold method?
  rw [show (sig.inFull s).receiverOf = sig.receiverOf from rfl]
  cases sig.receiverOf with
  | error e => rfl
  | ok receiver =>
    cases receiver with
    | none => rfl
    | some r =>
      rcases map_eq_map_cases (map_outline_paramsOf s sig) with ⟨e, hx, hy⟩ | ⟨ps, qs, hx, hy, hps⟩
      · rw [hx, hy]
      · rw [hx, hy]
        rcases map_eq_map_cases (map_outline_returnsOf s sig) with
          ⟨e, hx, hy⟩ | ⟨t, u, hx, hy, ht⟩
        · rw [hx, hy]
        · rw [hx, hy]
          exact congrArg some (congrArg (Prod.mk sig.name) (congrArg₂ MethodSig.mk hps ht))

theorem outline_provided_eq : (sig.provided s).outline =
    ⟨sig.name, sig.receiverOf.toOption.join,
      ((sig.paramsOf s).toOption.getD sig.unknownParams).map Param.outline,
      (sig.returnsOf s).toOption.join.map TypeRef.outline, .provided⟩ := by
  have hprovided : (sig.provided s).outlineSource = Param.outline := rfl
  have hparams : ∀ ps : List Param, outlineParams Param.outline ps = ps.map Param.outline := by
    intro ps
    cases ps <;> rfl
  unfold MappingFunction.outline
  rw [hprovided, hparams]
  rfl

/-- A function with a body in an outline. -/
theorem outline_provided : ((sig.inFull s).provided s).outline = (sig.provided s).outline := by
  have hunknown : (sig.inFull s).unknownParams = sig.unknownParams := by
    unfold unknownParams inFull
    rw [List.length_map]
  have hparams := getD_toOption_congr (map_outline_paramsOf s sig) sig.unknownParams
  have hreturns : ((sig.inFull s).returnsOf s).toOption.join.map TypeRef.outline =
      (sig.returnsOf s).toOption.join.map TypeRef.outline := by
    rcases map_eq_map_cases (map_outline_returnsOf s sig) with ⟨e, hx, hy⟩ | ⟨t, u, hx, hy, ht⟩
    · rw [hx, hy]
    · rw [hx, hy]
      exact ht
  rw [outline_provided_eq, outline_provided_eq, hunknown, hparams, hreturns]
  rfl

/-- A function to be implemented in an outline. -/
theorem map_outline_required :
    ((sig.lookupInFull s).required s).map (·.outline) = (sig.required s).map (·.outline) := by
  have hreceiver : (sig.lookupInFull s).receiverOf.map id = sig.receiverOf.map id := rfl
  have houtline : ∀ (name : String) (receiver : Option Receiver) (params : List Param)
      (returns : Option TypeRef), (MappingFunction.mk name receiver params returns .required).outline =
        ⟨name, receiver, outlineParams Param.mention params, returns.map TypeRef.mention, .required⟩ :=
    fun _ _ _ _ => rfl
  unfold required
  rw [show (sig.lookupInFull s).generic = sig.generic from rfl]
  by_cases hgeneric : sig.generic = true
  · rw [if_pos hgeneric, if_pos hgeneric]
    rfl
  · rw [if_neg hgeneric, if_neg hgeneric]
    refine map_bind_congr hreceiver fun r r' hr => ?_
    refine map_bind_congr (map_outlineParams_paramsOf s sig) fun ps qs hps => ?_
    refine map_bind_congr (map_mention_returnsOf s sig) fun t u ht => ?_
    show Except.ok (MappingFunction.mk _ r ps t .required).outline =
      Except.ok (MappingFunction.mk _ r' qs u .required).outline
    rw [houtline, houtline, hps, ht, show r = r' from hr]
    rfl

end Signature

/-! ## Items -/

/-- A function of a trait with its types in full. -/
def TraitFn.inFull (s : Scope) (f : TraitFn) : TraitFn :=
  ⟨if f.hasBody then f.signature.inFull s else f.signature.lookupInFull s, f.hasBody⟩

/-- What a marker says, with its base in full. -/
def MarkerSettings.inFull (s : Scope) (m : MarkerSettings) : MarkerSettings :=
  { m with base := m.base.map fun p => (p.inFull s).expand s }

def Fields.inFull (s : Scope) : Fields → Fields
  | .named fields => .named (fields.map fun field => (field.1, field.2.inFull s))
  | fields => fields

/-- Whether two traits are the same, but for how the types in them are written. -/
structure TraitItem.SameInFull (s : Scope) (t t' : TraitItem) : Prop where
  name : t.name = t'.name
  visibility : t.visibility = t'.visibility
  generic : t.generic = t'.generic
  marker : (t.attributes.find? (·.marks s)).map (fun a => a.settings.map (·.inFull s)) =
    (t'.attributes.find? (·.marks s)).map fun a => a.settings.map (·.inFull s)
  functions : t.functions.map (·.inFull s) = t'.functions.map (·.inFull s)

/-- Whether two items of a scope are the same, but for how the types in them are written. -/
inductive Item.SameInFull (s : Scope) : Item → Item → Prop
  | same (item : Item) : SameInFull s item item
  | struct {name : String} {fields fields' : Fields} (hfields : fields.inFull s = fields'.inFull s) :
    SameInFull s (.struct name fields) (.struct name fields')
  | implementation {ofTrait : Bool} {owner owner' : TypeExpr} {methods methods' : List Signature}
    (howner : owner.inFull s = owner'.inFull s)
    (hmethods : methods.map (·.inFull s) = methods'.map (·.inFull s)) :
    SameInFull s (.implementation ofTrait owner methods) (.implementation ofTrait owner' methods')
  | trait {t t' : TraitItem} (h : t.SameInFull s t') : SameInFull s (.trait t) (.trait t')

/-- Whether two texts have the same items in the same scopes, but for how the types in them are
written. -/
def SameInFull (text text' : String) : Prop :=
  ∃ items items', items? text = some items ∧ items? text' = some items' ∧
    List.Forall₂ (fun e e' => e.1 = e'.1 ∧ e.2.SameInFull e.1 e'.2)
      (read (Scope.ofItems items) items) (read (Scope.ofItems items') items')

theorem TraitFn.map_outline_function (s : Scope) (f : TraitFn) :
    ((f.inFull s).function s).map (·.outline) = (f.function s).map (·.outline) := by
  obtain ⟨sig, hasBody⟩ := f
  cases hasBody with
  | true => exact congrArg Except.ok (Signature.outline_provided s sig)
  | false =>
    exact map_mapError_congr (Signature.map_outline_required s sig)
      (Rejection.unsupportedSignature sig.name)

theorem map_mention_baseRef (s : Scope) (p : Path) :
    (baseRef s ((p.inFull s).expand s)).map TypeRef.mention = (baseRef s p).map TypeRef.mention := by
  have hname : s.typeName ((p.inFull s).expand s).names = s.typeName p.names := by
    rw [Path.typeName_expand, Path.names_inFull]
  have hspell := (Path.spelled_expand s (p.inFull s)).trans (p.spelled_inFull s)
  unfold baseRef
  rw [hname]
  exact map_bind_congr hspell fun _ _ _ => rfl

theorem map_mention_base (s : Scope) (m : MarkerSettings) :
    ((m.inFull s).base.mapM (baseRef s)).map (Option.map TypeRef.mention) =
      (m.base.mapM (baseRef s)).map (Option.map TypeRef.mention) := by
  unfold MarkerSettings.inFull
  dsimp only
  cases m.base with
  | none => rfl
  | some p =>
    rw [Option.map_some, Option.mapM_some, Option.mapM_some]
    exact map_bind_congr (map_mention_baseRef s p) fun t u h =>
      congrArg (fun t => Except.ok (some t)) h

/-- Traits that are the same, but for how their types are written, declare units of one outline. -/
theorem TraitItem.SameInFull.map_outline_unit {s : Scope} {t t' : TraitItem} (h : t.SameInFull s t')
    (module : ModuleId) {a a' : Attribute}
    (ha : a.settings.map (·.inFull s) = a'.settings.map (·.inFull s)) :
    (t.unit s module a).map (·.outline) = (t'.unit s module a').map (·.outline) := by
  have hsettings : (a.settings.mapError Rejection.invalidArguments).map (·.inFull s) =
      (a'.settings.mapError Rejection.invalidArguments).map (·.inFull s) := map_mapError_congr ha _
  have hfunctions : (t.functions.mapM (TraitFn.function s)).map (List.map (·.outline)) =
      (t'.functions.mapM (TraitFn.function s)).map (List.map (·.outline)) := by
    have hfull : ∀ fs : List TraitFn, ((fs.map (·.inFull s)).mapM (TraitFn.function s)).map
        (List.map (·.outline)) = (fs.mapM (TraitFn.function s)).map (List.map (·.outline)) :=
      fun fs => map_mapM_congr fun f _ => f.map_outline_function s
    rw [← hfull t.functions, ← hfull t'.functions, h.functions]
  unfold TraitItem.unit
  rw [h.name, h.generic, h.visibility]
  refine map_bind_congr hsettings fun m m' hm => ?_
  dsimp only
  by_cases hgeneric : t'.generic = true
  · rw [if_pos hgeneric, if_pos hgeneric]
    rfl
  · rw [if_neg hgeneric, if_neg hgeneric]
    have hbase : (m.base.mapM (baseRef s)).map (Option.map TypeRef.mention) =
        (m'.base.mapM (baseRef s)).map (Option.map TypeRef.mention) := by
      rw [← map_mention_base s m, ← map_mention_base s m', hm]
    refine map_bind_congr (map_mapError_congr hbase (Rejection.unsupportedSignature t'.name))
      fun b b' hb => ?_
    refine map_bind_congr hfunctions fun fs fs' hfs => ?_
    obtain ⟨hwrappers, -, himplName⟩ := MarkerSettings.mk.inj hm
    refine congrArg Except.ok ?_
    unfold MappingUnit.outline
    dsimp only
    rw [hwrappers, himplName, hb, hfs]

/-- Traits that are the same, but for how their types are written, make declarations of one outline. -/
theorem TraitItem.SameInFull.map_outline_declaration? {s : Scope} {t t' : TraitItem}
    (h : t.SameInFull s t') (module : ModuleId) :
    (t.declaration? s module).map (·.outline) = (t'.declaration? s module).map (·.outline) := by
  have hmarker := h.marker
  unfold TraitItem.declaration?
  cases hm : t.attributes.find? (·.marks s) with
  | none =>
    cases hm' : t'.attributes.find? (·.marks s) with
    | none => rfl
    | some a' =>
      rw [hm, hm'] at hmarker
      cases hmarker
  | some a =>
    cases hm' : t'.attributes.find? (·.marks s) with
    | none =>
      rw [hm, hm'] at hmarker
      cases hmarker
    | some a' =>
      rw [hm, hm'] at hmarker
      rw [Option.map_some, Option.map_some, Option.map_some, Option.map_some, h.name]
      rcases map_eq_map_cases (h.map_outline_unit module (Option.some.inj hmarker)) with
        ⟨e, hx, hy⟩ | ⟨u, v, hx, hy, huv⟩
      · rw [hx, hy]
      · rw [hx, hy]
        exact congrArg (fun u => some (Declaration.unit u)) huv

theorem outline_constructor_inFull (s : Scope) (fields : Fields) :
    ((fields.inFull s).constructor s).map (·.map Param.outline) =
      (fields.constructor s).map (·.map Param.outline) := by
  have hfield : ∀ field : String × TypeExpr,
      (fieldParam s (field.1, field.2.inFull s)).outline = (fieldParam s field).outline := by
    intro field
    exact congrArg (Param.mk field.1)
      (getD_toOption_congr (field.2.map_outline_ref_inFull s) unknownType)
  cases fields with
  | named fields =>
    show some (((fields.map fun field => (field.1, field.2.inFull s)).map (fieldParam s)).map _) =
      some ((fields.map (fieldParam s)).map _)
    rw [List.map_map, List.map_map, List.map_map]
    exact congrArg some (List.map_congr_left fun field _ => hfield field)
  | _ => rfl

theorem map_outline_implDeclaration? (s : Scope) (module : ModuleId) (ofTrait : Bool)
    (owner : TypeExpr) (methods : List Signature) :
    (implDeclaration? s module ofTrait (owner.inFull s) (methods.map (·.inFull s))).map (·.outline) =
      (implDeclaration? s module ofTrait owner methods).map (·.outline) := by
  have hmethods : ((methods.map (·.inFull s)).filterMap (·.method? s)).map
        (fun m => (m.1, m.2.outline)) =
      (methods.filterMap (·.method? s)).map fun m => (m.1, m.2.outline) := by
    rw [List.filterMap_map, List.map_filterMap, List.map_filterMap]
    exact List.filterMap_congr fun sig _ => Signature.map_outline_method? s sig
  cases ofTrait with
  | true => rfl
  | false =>
    cases owner with
    | path p =>
      show some (Declaration.methods (s.typeName ((p.inFull s).expand s).names) module _) =
        some (Declaration.methods (s.typeName p.names) module _)
      rw [Path.typeName_expand, Path.names_inFull, hmethods]
    | function plain inputs output => cases output <;> rfl
    | _ => rfl

/-- **Items that are the same, but for how their types are written, declare the same outlines.** -/
theorem Item.SameInFull.map_outline_declarations {s : Scope} {item item' : Item}
    (h : item.SameInFull s item') (module : ModuleId) :
    (item.declarations s module).map (·.outline) = (item'.declarations s module).map (·.outline) := by
  cases h with
  | same => rfl
  | @struct name fields fields' hfields =>
    have hconstructor : (fields.constructor s).map (·.map Param.outline) =
        (fields'.constructor s).map (·.map Param.outline) := by
      rw [← outline_constructor_inFull s fields, ← outline_constructor_inFull s fields', hfields]
    show [Declaration.struct name module _] = [Declaration.struct name module _]
    rw [hconstructor]
  | @implementation ofTrait owner owner' methods methods' howner hmethods =>
    have hdeclaration : (implDeclaration? s module ofTrait owner methods).map (·.outline) =
        (implDeclaration? s module ofTrait owner' methods').map (·.outline) := by
      rw [← map_outline_implDeclaration?, ← map_outline_implDeclaration? s module ofTrait owner',
        howner, hmethods]
    show (Option.toList _).map _ = (Option.toList _).map _
    rw [← Option.toList_map, ← Option.toList_map, hdeclaration]
  | trait h =>
    show (Option.toList _).map _ = (Option.toList _).map _
    rw [← Option.toList_map, ← Option.toList_map, h.map_outline_declaration? module]

theorem map_outline_declarations? {text text' : String} (h : SameInFull text text')
    (module : ModuleId) : ∃ ds ds', declarations? module text = some ds ∧
      declarations? module text' = some ds' ∧ ds.map (·.outline) = ds'.map (·.outline) := by
  obtain ⟨items, items', hitems, hitems', hread⟩ := h
  refine ⟨_, _, by rw [declarations?, hitems, Option.map_some],
    by rw [declarations?, hitems', Option.map_some], ?_⟩
  rw [declarations_eq_flatMap, declarations_eq_flatMap]
  generalize read (Scope.ofItems items) items = es at hread
  generalize read (Scope.ofItems items') items' = es' at hread
  induction hread with
  | nil => rfl
  | @cons e e' es es' hee _ ih =>
    obtain ⟨hscope, hitem⟩ := hee
    rw [List.flatMap_cons, List.flatMap_cons, List.map_append, List.map_append, ih,
      hitem.map_outline_declarations module, hscope]

end Source

/-! ## Units -/

/-- Whether the same becomes of all units, spellings apart. -/
structure Generator.SameOutcomes (g g' : Generator) : Prop where
  rejected : g.rejected = g'.rejected
  outcome : ∀ name, (g.units.find? name).map g.outcome = (g'.units.find? name).map g'.outcome

/-- The same becomes of all units of generators with one outline. -/
theorem Generator.sameOutcomes_of_outline {g g' : Generator} (h : g.outline = g'.outline) :
    g.SameOutcomes g' := by
  have houtcome : ∀ (g : Generator) (name : String), (g.units.find? name).map g.outcome =
      (g.outline.units.find? name).map g.outline.outcome := by
    intro g name
    rw [show g.outline.units = g.units.mapValues (·.outline) from rfl, NameMap.find?_mapValues,
      Option.map_map]
    congr 1
    funext u
    exact (g.outcome_outline u).symm
  constructor
  · show g.outline.rejected = g'.outline.rejected
    rw [h]
  · intro name
    rw [houtcome g, houtcome g', h]

theorem Generator.addSource_of_declarations? {module : ModuleId} {text : String}
    {ds : List Declaration} (h : Source.declarations? module text = some ds) (g : Generator) :
    g.addSource module text = .ok (g.declareAll ds) := by
  unfold addSource
  rw [h]

namespace Source

/-- Texts that are the same, but for how their types are written, lead to the same outcomes. -/
theorem SameInFull.sameOutcomes {text text' : String} (h : SameInFull text text') (g : Generator)
    (module : ModuleId) : ∃ g₁ g₂, g.addSource module text = .ok g₁ ∧
      g.addSource module text' = .ok g₂ ∧ g₁.SameOutcomes g₂ := by
  obtain ⟨ds, ds', hds, hds', houtline⟩ := map_outline_declarations? h module
  refine ⟨g.declareAll ds, g.declareAll ds', Generator.addSource_of_declarations? hds g,
    Generator.addSource_of_declarations? hds' g, Generator.sameOutcomes_of_outline ?_⟩
  calc (g.declareAll ds).outline
      = g.outline.declareAll (ds.map (·.outline)) := g.outline_declareAll ds
    _ = g.outline.declareAll (ds'.map (·.outline)) := by rw [houtline]
    _ = (g.declareAll ds').outline := (g.outline_declareAll ds').symm

/-- Whether a name is read like a path, with any arguments. -/
structure Scope.ReadsAs (s : Scope) (name : String) (path : List String) : Prop where
  typeName : s.typeName path = s.typeName [name]
  mention : ∀ args, ((TypeExpr.path (.ofNames path args)).ref s).map TypeRef.mention =
    ((TypeExpr.path (.ofNames [name] args)).ref s).map TypeRef.mention
  inFull : ∀ args, (TypeExpr.path (.ofNames path args)).inFull s =
    (TypeExpr.path (.ofNames [name] args)).inFull s

theorem Scope.readsAs_iff {s : Scope} {name : String} {path : List String}
    (h : s.find? name = some path) (hne : path ≠ []) : s.ReadsAs name path ↔ s.Direct path := by
  constructor
  · exact fun hreads => (typeName_path_eq_iff h hne).1 hreads.typeName
  · intro hdirect
    exact {
      typeName := (typeName_path_eq_iff h hne).2 hdirect
      mention := TypeExpr.map_mention_ref_ofNames h hne hdirect
      inFull := TypeExpr.inFull_ofNames h hne hdirect }

/-- **An alias may be written as the path that it stands for.**  Items bind what they denote, exactly
if no group of their imports lists `self`; their scope then has the last path that they denote.  A
name is read like the path that it is bound to, exactly if that is described by its own last name;
and where types are written in either way, the same becomes of all units. -/
theorem transparent_aliases (outer : Scope) (items : List Item) (g : Generator) (module : ModuleId) :
    (items.flatMap Item.bindings = items.flatMap Item.denoted ↔
      ∀ item ∈ items, item.listsSelf = false) ∧
    (∀ b ∈ items.flatMap Item.denoted, b.2 ≠ []) ∧
    ((∀ item ∈ items, item.listsSelf = false) → ∀ name, (outer.within items).find? name =
      (((items.flatMap Item.denoted).findRev? (·.1 == name)).map (·.2)).or (outer.find? name)) ∧
    (∀ name path, (outer.within items).find? name = some path → path ≠ [] →
      ((outer.within items).ReadsAs name path ↔ (outer.within items).Direct path)) ∧
    ∀ text text', SameInFull text text' → ∃ g₁ g₂, g.addSource module text = .ok g₁ ∧
      g.addSource module text' = .ok g₂ ∧ g₁.SameOutcomes g₂ := by
  refine ⟨flatMap_bindings_eq_iff items, ?_, ?_, ?_, ?_⟩
  · intro b hb
    obtain ⟨item, -, hb⟩ := List.mem_flatMap.1 hb
    exact item.denoted_ne_nil b hb
  · exact fun hself name => outer.find?_within_denoted hself name
  · exact fun name path h hne => Scope.readsAs_iff h hne
  · exact fun text text' h => h.sameOutcomes g module

/-! ## A grade under another name -/

/-- Notes are made of grades, which are called marks. -/
def marks (mark : String) : List String :=
  ["use mapper_derive::mapper; use crate::model::Grade as Mark; enum Grade", inBraces "Good",
    "struct Note", inBraces "text: String", "impl ", mark,
    inBraces ("fn text(&self) -> String" ++ inBraces ""), "#[mapper] trait Notes",
    inBraces ("fn note(&self, mark: &" ++ mark ++ ") -> Note;")]

def markFunction (mark note : TypeExpr) : TraitFn :=
  ⟨⟨⟨false, false, false, false⟩, "note", false, some ⟨true, none, false, false⟩,
    [⟨some "mark", .reference none false mark⟩], some note⟩, false⟩

def markItems (mark : TypeExpr) : List Item :=
  [.use (.path "mapper_derive" (.name "mapper")),
    .use (.path "crate" (.path "model" (.rename "Grade" "Mark"))),
    .enumeration "Grade", .struct "Note" (.named [("text", bareType "String")]),
    .implementation false mark [⟨⟨false, false, false, false⟩, "text", false,
      some ⟨true, none, false, false⟩, [], some (bareType "String")⟩],
    .trait ⟨[⟨false, ⟨false, ["mapper"]⟩, .none⟩], .inherited, "Notes", false,
      [markFunction mark (bareType "Note")]⟩]

def markPath : List String := ["crate", "model", "Grade"]

def markPathTokens : List Token :=
  [.ident "crate"] ++ separatorTokens ++ [.ident "model"] ++ separatorTokens ++ [.ident "Grade"]

def markImportTokens : List Token :=
  [.ident "use", .ident "mapper_derive"] ++ separatorTokens ++
    [.ident "mapper", .punct ';' false, .ident "use"] ++ markPathTokens ++
    [.ident "as", .ident "Mark", .punct ';' false]

def markStructTokens : List Token :=
  [.ident "enum", .ident "Grade"] ++ braceTokens [.ident "Good"] ++
    [.ident "struct", .ident "Note"] ++
    braceTokens [.ident "text", .punct ':' false, .ident "String"]

def markMethodTokens : List Token :=
  [.ident "fn", .ident "text", .opening .paren, .punct '&' false, .ident "self",
    .closing .paren] ++ arrowTokens ++ [.ident "String"] ++ braceTokens []

def markFunctionTokens (mark : List Token) : List Token :=
  [.ident "fn", .ident "note", .opening .paren, .punct '&' false, .ident "self", .punct ',' false,
    .ident "mark", .punct ':' false, .punct '&' false] ++ mark ++ [.closing .paren] ++
    arrowTokens ++ [.ident "Note", .punct ';' false]

def markTokens (mark : List Token) : List Token :=
  markImportTokens ++ markStructTokens ++ .ident "impl" :: mark ++ braceTokens markMethodTokens ++
    [.punct '#' false, .opening .bracket, .ident "mapper", .closing .bracket, .ident "trait",
      .ident "Notes"] ++ braceTokens (markFunctionTokens mark)

set_option maxRecDepth 100000 in
theorem items?_marks_name :
    items? (String.join (marks "Mark")) = some (markItems (bareType "Mark")) := by
  have htokens : tokens? (dropByteOrderMark (dropInterpreterLine (dropByteOrderMark
      ((marks "Mark").flatMap String.toList)))) = some (markTokens [.ident "Mark"]) := by
    decide +kernel
  rw [items?_join, itemsOfChars?, htokens]
  rfl

set_option maxRecDepth 100000 in
theorem items?_marks_path : items? (String.join (marks "crate::model::Grade")) =
    some (markItems (.path (.ofNames markPath .none))) := by
  have htokens : tokens? (dropByteOrderMark (dropInterpreterLine (dropByteOrderMark
      ((marks "crate::model::Grade").flatMap String.toList)))) =
      some (markTokens markPathTokens) := by
    decide +kernel
  rw [items?_join, itemsOfChars?, htokens]
  rfl

def markScope : Scope := Scope.ofItems (markItems (bareType "Mark"))

theorem find?_markScope : markScope.find? "Mark" = some markPath := by rfl

theorem direct_markPath : markScope.Direct markPath := fun _ h => by cases h

/-- The marks may be called by the path of the grades. -/
theorem sameInFull_marks :
    SameInFull (String.join (marks "Mark")) (String.join (marks "crate::model::Grade")) := by
  have hread : ∀ mark, read (Scope.ofItems (markItems mark)) (markItems mark) =
      (markItems mark).map (markScope, ·) := fun _ => rfl
  have hmark : (bareType "Mark").inFull markScope =
      (TypeExpr.path (.ofNames markPath .none)).inFull markScope :=
    (TypeExpr.inFull_ofNames find?_markScope (by decide) direct_markPath .none).symm
  refine ⟨_, _, items?_marks_name, items?_marks_path, ?_⟩
  rw [hread, hread]
  have hsame : ∀ item : Item, markScope = markScope ∧ item.SameInFull markScope item :=
    fun item => ⟨rfl, .same item⟩
  refine .cons (hsame _) (.cons (hsame _) (.cons (hsame _) (.cons (hsame _) (.cons ⟨rfl, ?_⟩
    (.cons ⟨rfl, ?_⟩ .nil)))))
  · exact .implementation hmark rfl
  · refine .trait ⟨rfl, rfl, rfl, rfl, ?_⟩
    exact congrArg (fun mark => [markFunction mark ((bareType "Note").lookupInFull markScope)]) hmark

def markDeclared : List Declaration :=
  [.enumeration "Grade" "model.rs", .struct "Note" "model.rs" (some [⟨"text", .named "String"⟩]),
    .methods "Grade" "model.rs" [("text", ⟨[], some (.named "String")⟩)],
    .unit ⟨"Notes", "model.rs", "", false, none, none, [⟨"note", some .ref,
      [⟨"mark", "Grade", "Mark", .shared⟩], some (.named "Note"), .required⟩]⟩]

theorem declarations?_marks :
    declarations? "model.rs" (String.join (marks "Mark")) = some markDeclared := by
  rw [declarations?, items?_marks_name]
  rfl

/-- What becomes of the notes: their text is that of the mark. -/
def notesOutcome : UnitOutcome :=
  .generated ⟨[("note", [("text", .accessor "text")])], .singleton, NameSet.ofNames ["model.rs"], []⟩

theorem outcome_markDeclared :
    ((Generator.new.declareAll markDeclared).units.find? "Notes").map
      (Generator.new.declareAll markDeclared).outcome = some notesOutcome := by rfl

/-- The grades may be called marks. -/
theorem transparent_aliases_marks :
    markScope.find? "Mark" = some markPath ∧ markScope.ReadsAs "Mark" markPath ∧
      ∃ g g', Generator.new.addSource "model.rs" (String.join (marks "Mark")) = .ok g ∧
        Generator.new.addSource "model.rs" (String.join (marks "crate::model::Grade")) = .ok g' ∧
        (g.units.find? "Notes").map g.outcome = some notesOutcome ∧
        (g'.units.find? "Notes").map g'.outcome = some notesOutcome := by
  obtain ⟨-, -, htable, hreads, hunits⟩ :=
    transparent_aliases NameMap.empty (markItems (bareType "Mark")) Generator.new "model.rs"
  have hself : ∀ item ∈ markItems (bareType "Mark"), item.listsSelf = false := by
    have hany : (markItems (bareType "Mark")).any Item.listsSelf = false := by rfl
    exact fun item hitem => Bool.eq_false_iff.2 (List.any_eq_false.1 hany item hitem)
  have hfound : markScope.find? "Mark" = some markPath := htable hself "Mark"
  obtain ⟨g, g', hg, hg', hsame⟩ := hunits _ _ sameInFull_marks
  have hnotes : (g.units.find? "Notes").map g.outcome = some notesOutcome := by
    rw [Generator.addSource_of_declarations? declarations?_marks] at hg
    cases hg
    exact outcome_markDeclared
  exact ⟨hfound, (hreads _ _ hfound (by decide)).2 direct_markPath, g, g', hg, hg', hnotes,
    (hsame.outcome "Notes").symm.trans hnotes⟩

/-- The grades are listed by `self`, and called marks. -/
def selfMark : List String := ["use crate::model::Grade::", inBraces "self as Mark", ";"]

theorem bindings_selfMark : (items? (String.join selfMark)).map (fun items =>
    (items.flatMap Item.denoted, (Scope.ofItems items).find? "Mark")) =
      some ([("Mark", markPath)], some (markPath ++ ["self"])) := by
  rw [selfMark, items?_join]
  decide +kernel

/-- **Not every import binds the path that it denotes.**  The mark is taken for something called
`self`. -/
theorem not_forall_find?_denoted :
    ¬∀ (text : String) (items : List Item), items? text = some items →
      ((items.flatMap Item.denoted).map (·.1)).Nodup →
      ∀ b ∈ items.flatMap Item.denoted, (Scope.ofItems items).find? b.1 = some b.2 := by
  intro h
  obtain ⟨items, hitems, hpair⟩ := Option.map_eq_some_iff.1 bindings_selfMark
  obtain ⟨hdenoted, hfound⟩ := Prod.mk.inj hpair
  have hpath := h _ items hitems (by rw [hdenoted]; decide) ("Mark", markPath)
    (by rw [hdenoted]; exact List.mem_cons_self)
  rw [hfound] at hpath
  cases hpath

end Source

end Mapwright
