import Mapwright.Proofs.Declared
import Mapwright.Proofs.Pass

/-!
# What planning looks at

Planning asks how values are passed and what things are called.  It asks for the
names of bases, sources and targets, since these are looked up, and for no
spelling at all.  An outline keeps what is asked for and leaves out the rest.

    (g.declareAll ds).outline = g.outline.declareAll (ds.map outline)      (`outline_declareAll`)
    g.outline.outcome u.outline = g.outcome u                              (`outcome_outline`)
-/

namespace Mapwright

/-! ## Maps -/

namespace NameMap

variable {α β : Type} (f : α → β)

/-- The map with something made of each value. -/
def mapValues (m : NameMap α) : NameMap β where
  entries := m.entries.map fun e => (e.1, f e.2)
  sorted := List.pairwise_map.2 m.sorted

theorem find?_mapValues (m : NameMap α) (k : String) :
    (m.mapValues f).find? k = (m.find? k).map f := by
  have hlookup : ∀ l : List (String × α),
      lookup k (l.map fun e => (e.1, f e.2)) = (lookup k l).map f := by
    intro l
    induction l with
    | nil => rfl
    | cons e l ih =>
      obtain ⟨k', v⟩ := e
      by_cases hk : k = k'
      · simp [lookup, hk]
      · simp [lookup, hk, ih]
  exact hlookup m.entries

@[simp] theorem mapValues_empty : (empty : NameMap α).mapValues f = empty := rfl

@[simp] theorem mapValues_insert (m : NameMap α) (k : String) (v : α) :
    (m.insert k v).mapValues f = (m.mapValues f).insert k (f v) := by
  refine ext_find? fun k' => ?_
  rw [find?_mapValues, find?_insert, find?_insert, find?_mapValues]
  by_cases hk : k = k'
  · rw [if_pos hk, if_pos hk, Option.map_some]
  · rw [if_neg hk, if_neg hk]

@[simp] theorem mapValues_erase (m : NameMap α) (k : String) :
    (m.erase k).mapValues f = (m.mapValues f).erase k := by
  refine ext_find? fun k' => ?_
  rw [find?_mapValues, find?_erase, find?_erase, find?_mapValues]
  by_cases hk : k = k'
  · rw [if_pos hk, if_pos hk, Option.map_none]
  · rw [if_neg hk, if_neg hk]

@[simp] theorem mapValues_insertAll (m : NameMap α) (es : List (String × α)) :
    (m.insertAll es).mapValues f = (m.mapValues f).insertAll (es.map fun e => (e.1, f e.2)) := by
  induction es generalizing m with
  | nil => rfl
  | cons e es ih =>
    show ((m.insert e.1 e.2).insertAll es).mapValues f = _
    rw [ih, mapValues_insert]
    rfl

end NameMap

/-! ## Outlines -/

/-- How a type is passed. -/
def TypeRef.outline (t : TypeRef) : TypeRef := ⟨"", "", t.passing⟩

/-- How a type is passed and looked up. -/
def TypeRef.mention (t : TypeRef) : TypeRef := ⟨t.name, "", t.passing⟩

def Param.outline (p : Param) : Param := ⟨p.name, p.type.outline⟩

def Param.mention (p : Param) : Param := ⟨p.name, p.type.mention⟩

def MethodSig.outline (sig : MethodSig) : MethodSig :=
  ⟨sig.params.map Param.outline, sig.returns.map TypeRef.outline⟩

def TypeDescriptor.outline (d : TypeDescriptor) : TypeDescriptor where
  name := d.name
  module := d.module
  constructor := d.constructor.map (·.map Param.outline)
  properties := d.properties.mapValues TypeRef.outline
  methods := d.methods.mapValues MethodSig.outline

/-- The first parameter of a function: that of a required one is looked up. -/
def MappingFunction.outlineSource (f : MappingFunction) (source : Param) : Param :=
  if f.isRequired then source.mention else source.outline

/-- What a function returns: that of a required one is looked up. -/
def MappingFunction.outlineReturns (f : MappingFunction) (target : TypeRef) : TypeRef :=
  if f.isRequired then target.mention else target.outline

/-- Parameters of which only the first one may be looked up. -/
def outlineParams (first : Param → Param) : List Param → List Param
  | [] => []
  | p :: ps => first p :: ps.map Param.outline

def MappingFunction.outline (f : MappingFunction) : MappingFunction :=
  { f with
    params := outlineParams f.outlineSource f.params
    returns := f.returns.map f.outlineReturns }

def MappingUnit.outline (u : MappingUnit) : MappingUnit :=
  { u with base := u.base.map TypeRef.mention, functions := u.functions.map (·.outline) }

def Declaration.outline : Declaration → Declaration
  | .struct name module constructor =>
    .struct name module (constructor.map (·.map Param.outline))
  | .enumeration name module => .enumeration name module
  | .methods type module sigs => .methods type module (sigs.map fun m => (m.1, m.2.outline))
  | .unit u => .unit u.outline
  | .rejected name reason => .rejected name reason

def Registry.outline (r : Registry) : Registry := ⟨r.types.mapValues (·.outline)⟩

def Generator.outline (g : Generator) : Generator :=
  { g with registry := g.registry.outline, units := g.units.mapValues (·.outline) }

/-! ## Declarations -/

theorem propertiesOf_outline (fields : List Param) :
    (propertiesOf fields).mapValues TypeRef.outline = propertiesOf (fields.map Param.outline) := by
  rw [propertiesOf, propertiesOf, NameMap.ofList, NameMap.ofList, NameMap.mapValues_insertAll,
    NameMap.mapValues_empty, List.map_map, List.map_map]
  rfl

namespace TypeDescriptor

variable (d : TypeDescriptor)

theorem outline_declareStruct (module : ModuleId) (constructor : Option (List Param)) :
    (d.declareStruct module constructor).outline =
      d.outline.declareStruct module (constructor.map (·.map Param.outline)) := by
  have hproperties : (propertiesOf (constructor.getD [])).mapValues TypeRef.outline =
      propertiesOf ((constructor.map (·.map Param.outline)).getD []) := by
    rw [propertiesOf_outline]
    cases constructor <;> rfl
  simp only [declareStruct, outline, hproperties]

theorem outline_declareMethods (methods : List (String × MethodSig)) :
    (d.declareMethods methods).outline =
      d.outline.declareMethods (methods.map fun m => (m.1, m.2.outline)) := by
  simp only [declareMethods, outline, NameMap.mapValues_insertAll]

end TypeDescriptor

namespace Registry

variable (r : Registry)

theorem describe?_outline (name : String) :
    r.outline.describe? name = (r.describe? name).map (·.outline) :=
  NameMap.find?_mapValues ..

theorem entry_outline (name : String) (module : ModuleId) :
    r.outline.entry name module = (r.entry name module).outline := by
  unfold entry
  rw [describe?_outline]
  cases r.describe? name <;> rfl

theorem outline_revise {name : String} {module : ModuleId} {f f' : TypeDescriptor → TypeDescriptor}
    (h : ∀ d, (f d).outline = f' d.outline) :
    (r.revise name module f).outline = r.outline.revise name module f' := by
  show (⟨(r.types.insert name (f (r.entry name module))).mapValues (·.outline)⟩ : Registry) =
    ⟨(r.types.mapValues (·.outline)).insert name (f' (r.outline.entry name module))⟩
  rw [NameMap.mapValues_insert, h, entry_outline]

end Registry

namespace Generator

variable (g : Generator)

theorem outline_reviseType {name : String} {module : ModuleId} {f f' : TypeDescriptor → TypeDescriptor}
    (h : ∀ d, (f d).outline = f' d.outline) :
    (g.reviseType name module f).outline = g.outline.reviseType name module f' :=
  congrArg (fun r => { g.outline with registry := r }) (g.registry.outline_revise h)

/-- A declaration is taken in by outlines like by what they are outlines of. -/
theorem outline_declare (d : Declaration) : (g.declare d).outline = g.outline.declare d.outline := by
  cases d with
  | struct name module constructor =>
    exact g.outline_reviseType fun d => d.outline_declareStruct module constructor
  | enumeration name module => exact g.outline_reviseType fun d => rfl
  | methods type module methods =>
    exact g.outline_reviseType fun d => d.outline_declareMethods methods
  | unit u =>
    exact congrArg (fun units => { g.outline with units, rejected := g.rejected.erase u.name })
      (NameMap.mapValues_insert ..)
  | rejected unit reason =>
    exact congrArg
      (fun units => { g.outline with units, rejected := g.rejected.insert unit reason })
      (NameMap.mapValues_erase ..)

theorem outline_declareAll (ds : List Declaration) :
    (g.declareAll ds).outline = g.outline.declareAll (ds.map (·.outline)) := by
  induction ds generalizing g with
  | nil => rfl
  | cons d ds ih =>
    show ((g.declare d).declareAll ds).outline = _
    rw [ih, outline_declare]
    rfl

end Generator

/-! ## Bindings -/

namespace MappingFunction

variable (f : MappingFunction)

theorem source?_outline : f.outline.source? = f.source?.map f.outlineSource := by
  unfold outline source?
  cases f.params <;> rfl

@[simp] theorem name_outlineSource (p : Param) : (f.outlineSource p).name = p.name := by
  unfold outlineSource
  split <;> rfl

@[simp] theorem passing_outlineSource (p : Param) :
    (f.outlineSource p).type.passing = p.type.passing := by
  unfold outlineSource
  split <;> rfl

theorem names_params_outline : f.outline.params.map (·.name) = f.params.map (·.name) := by
  unfold outline
  cases f.params with
  | nil => rfl
  | cons source rest =>
    show (f.outlineSource source).name :: (rest.map Param.outline).map (·.name) = _
    rw [name_outlineSource, List.map_map]
    rfl

theorem firstPassing_outline : firstPassing f.outline.params = firstPassing f.params := by
  unfold outline
  cases f.params with
  | nil => rfl
  | cons source rest => exact congrArg some (f.passing_outlineSource source)

end MappingFunction

theorem firstPassing_map_outline (params : List Param) :
    firstPassing (params.map Param.outline) = firstPassing params := by
  cases params <;> rfl

namespace TypeDescriptor

variable (d : TypeDescriptor) (name : String)

theorem method?_outline : d.outline.method? name = (d.method? name).map (·.outline) :=
  NameMap.find?_mapValues ..

theorem isSome_property?_outline : (d.outline.property? name).isSome = (d.property? name).isSome := by
  show ((d.properties.mapValues TypeRef.outline).find? name).isSome = _
  rw [NameMap.find?_mapValues, Option.isSome_map]
  rfl

theorem isSome_accessor?_outline : (d.outline.accessor? name).isSome = (d.accessor? name).isSome := by
  unfold accessor?
  rw [method?_outline]
  cases d.method? name with
  | none => rfl
  | some sig =>
    obtain ⟨params, returns⟩ := sig
    cases params with
    | nil => exact Option.isSome_map
    | cons p ps => rfl

end TypeDescriptor

section

variable (unit : MappingUnit) (base : Option TypeDescriptor) (f : MappingFunction) (name : String)

theorem sibling?_outline :
    unit.outline.sibling? f.outline name = (unit.sibling? f name).map (·.outline) := by
  show (unit.functions.map (·.outline)).find? _ = _
  rw [List.find?_map]
  rfl

theorem siblingPassing_outline :
    siblingPassing unit.outline (base.map (·.outline)) f.outline name =
      siblingPassing unit base f name := by
  unfold siblingPassing
  rw [sibling?_outline]
  cases unit.sibling? f name with
  | some g => exact congrArg some g.firstPassing_outline
  | none =>
    show (((base.map _).bind _).map _) = ((base.bind _).map _)
    cases base with
    | none => rfl
    | some d =>
      rw [Option.map_some, Option.bind_some, Option.bind_some, d.method?_outline, Option.map_map]
      congr 1
      funext sig
      exact firstPassing_map_outline sig.params

/-- A field is bound to the same in outlines. -/
theorem Binding.resolve_outline (source : TypeDescriptor) :
    resolve unit.outline (base.map (·.outline)) f.outline source.outline name =
      resolve unit base f source name := by
  have hparams : f.outline.params.any (·.name == name) = f.params.any (·.name == name) := by
    have h := congrArg (List.any · (· == name)) f.names_params_outline
    rw [List.any_map, List.any_map] at h
    exact h
  unfold resolve
  rw [hparams, siblingPassing_outline, source.isSome_accessor?_outline,
    source.isSome_property?_outline]

end

/-! ## Plans -/

def ResolvedField.outline (f : ResolvedField) : ResolvedField := ⟨f.param.outline, f.binding⟩

def ResolvedFunction.outline (r : ResolvedFunction) : ResolvedFunction where
  function := r.function.outline
  source := r.source.mention
  target := r.target.mention
  fields := r.fields.map (·.outline)

def Mapping.outline (m : Mapping) : Mapping := ⟨m.function.outline, m.source.mention, m.target.mention⟩

def PlannedFunction.outline (p : PlannedFunction) : PlannedFunction :=
  ⟨p.resolved.outline, p.sourceModule, p.targetModule⟩

def Plan.outline (p : Plan) : Plan :=
  ⟨p.unit.outline, p.base.map (·.outline), p.functions.map (·.outline)⟩

theorem ResolvedFunction.resolve_outline (unit : MappingUnit) (base : Option TypeDescriptor)
    (f : MappingFunction) (source : Param) (sourceType : TypeDescriptor) (target : TypeRef)
    (fields : List Param) :
    resolve unit.outline (base.map (·.outline)) f.outline source.mention sourceType.outline
        target.mention (fields.map Param.outline) =
      (resolve unit base f source sourceType target fields).outline := by
  have hfields : (fields.map Param.outline).map (fun p => ResolvedField.mk p
      (Binding.resolve unit.outline (base.map (·.outline)) f.outline sourceType.outline p.name)) =
      (fields.map fun p => ResolvedField.mk p
        (Binding.resolve unit base f sourceType p.name)).map (·.outline) := by
    rw [List.map_map, List.map_map]
    refine List.map_congr_left fun p _ => ?_
    exact congrArg (ResolvedField.mk p.outline) (Binding.resolve_outline unit base f p.name sourceType)
  unfold resolve
  rw [hfields]
  rfl

theorem ResolvedFunction.conflictingSibling?_outline (r : ResolvedFunction) :
    r.outline.conflictingSibling? = r.conflictingSibling? := by
  unfold conflictingSibling?
  rw [show r.outline.fields = r.fields.map ResolvedField.outline from rfl, List.findSome?_map]
  rfl

theorem Plan.diagnostics_outline (p : Plan) : p.outline.diagnostics = p.diagnostics := by
  have hfunction : ∀ r : ResolvedFunction,
      r.outline.diagnostics p.unit.name = r.diagnostics p.unit.name := by
    intro r
    show ((r.fields.map (·.outline)).filter _).map _ = (r.fields.filter _).map _
    rw [List.filter_map, List.map_map]
    rfl
  show ((p.functions.map (·.outline)).map (·.resolved)).flatMap _ =
    (p.functions.map (·.resolved)).flatMap _
  rw [List.map_map, List.flatMap_map, List.flatMap_map]
  exact List.flatMap_congr fun q _ => hfunction q.resolved

/-! ## Outcomes -/

/-- A reason without the spelling of the type that is to blame. -/
def Rejection.outline : Rejection → Rejection
  | .missingBase _ => .missingBase ""
  | .baseWithoutConstructor _ => .baseWithoutConstructor ""
  | .targetWithoutConstructor function _ => .targetWithoutConstructor function ""
  | .unsupportedSignature function (.returnsReference _) =>
    .unsupportedSignature function (.returnsReference "")
  | reason => reason

/-- Steps of planning that end alike: with results one of which is the outline of the other, with the
same missing type, or with refusals for one reason. -/
inductive Outlined {α β : Type} (f : α → β) : Except Obstacle α → Except Obstacle β → Prop
  | done (a : α) : Outlined f (.ok a) (.ok (f a))
  | missing (function type : String) :
    Outlined f (.error (.missingType function type)) (.error (.missingType function type))
  | refused {reason reason' : Rejection} (h : reason'.outline = reason.outline) :
    Outlined f (.error (.rejection reason)) (.error (.rejection reason'))

namespace Outlined

variable {α β γ δ : Type} {f : α → β} {h : γ → δ}

theorem bind {x : Except Obstacle α} {y : Except Obstacle β} {k : α → Except Obstacle γ}
    {k' : β → Except Obstacle δ} (hx : Outlined f x y) (hk : ∀ a, Outlined h (k a) (k' (f a))) :
    Outlined h (x >>= k) (y >>= k') := by
  cases hx with
  | done a => exact hk a
  | missing function type => exact .missing function type
  | refused h => exact .refused h

theorem mapM {k : α → Except Obstacle γ} {k' : β → Except Obstacle δ} {as : List α}
    (hk : ∀ a ∈ as, Outlined h (k a) (k' (f a))) :
    Outlined (List.map h) (as.mapM k) ((as.map f).mapM k') := by
  induction as with
  | nil => exact .done []
  | cons a as ih =>
    obtain ⟨ha, has⟩ := List.forall_mem_cons.1 hk
    rw [List.mapM_cons, List.map_cons, List.mapM_cons]
    exact ha.bind fun c => (ih has).bind fun cs => .done (c :: cs)

end Outlined

section

variable (registry : Registry) (unit : MappingUnit)

theorem outlined_checkBase :
    Outlined (Option.map (·.outline)) (checkBase registry unit)
      (checkBase registry.outline unit.outline) := by
  unfold checkBase
  rw [show unit.outline.base = unit.base.map TypeRef.mention from rfl]
  cases unit.base with
  | none => exact .done none
  | some b =>
    dsimp only [Option.map_some]
    rw [show b.mention.name = b.name from rfl, registry.describe?_outline]
    cases registry.describe? b.name with
    | none => exact .refused rfl
    | some d =>
      dsimp only [Option.map_some]
      rw [show d.outline.constructor = d.constructor.map (·.map Param.outline) from rfl]
      cases d.constructor with
      | none => exact .refused rfl
      | some fields => exact .done (some d)

theorem outlined_readMapping {f : MappingFunction} (hf : f.isRequired = true) :
    Outlined Mapping.outline ((readMapping f).mapError .rejection)
      ((readMapping f.outline).mapError .rejection) := by
  have hsource : f.outline.source? = f.source?.map Param.mention := by
    rw [f.source?_outline]
    congr 1
    funext p
    exact if_pos hf
  have hreturns : f.outline.returns = f.returns.map TypeRef.mention := by
    show f.returns.map _ = _
    congr 1
    funext t
    exact if_pos hf
  unfold readMapping
  rw [hsource, hreturns, show f.outline.receiver = f.receiver from rfl]
  cases f.receiver with
  | none => exact .refused rfl
  | some r =>
    cases f.source? with
    | none => exact .refused rfl
    | some source =>
      cases f.returns with
      | none => exact .refused rfl
      | some target =>
        dsimp only [Option.map_some]
        rw [show target.mention.isBorrowed = target.isBorrowed from rfl]
        cases target.isBorrowed with
        | true => exact .refused rfl
        | false => exact .done (⟨f, source, target⟩ : Mapping)

theorem outlined_checkSignatures :
    Outlined (List.map Mapping.outline) (checkSignatures unit) (checkSignatures unit.outline) := by
  have hrequired : unit.outline.requiredFunctions = unit.requiredFunctions.map (·.outline) := by
    show (unit.functions.map (·.outline)).filter _ = _
    rw [List.filter_map]
    rfl
  unfold checkSignatures
  rw [hrequired]
  exact Outlined.mapM fun f hf => outlined_readMapping (List.mem_filter.1 hf).2

theorem outlined_lookupType (function type : String) :
    Outlined (·.outline) (lookupType registry function type)
      (lookupType registry.outline function type) := by
  unfold lookupType
  rw [registry.describe?_outline]
  cases registry.describe? type with
  | none => exact .missing function type
  | some d => exact .done d

theorem outlined_planFunction (base : Option TypeDescriptor) (m : Mapping) :
    Outlined (·.outline) (planFunction registry unit base m)
      (planFunction registry.outline unit.outline (base.map (·.outline)) m.outline) := by
  unfold planFunction
  refine (outlined_lookupType registry m.function.name m.source.type.name).bind fun source => ?_
  refine (outlined_lookupType registry m.function.name m.target.name).bind fun target => ?_
  dsimp only
  rw [show target.outline.constructor = target.constructor.map (·.map Param.outline) from rfl]
  cases target.constructor with
  | none => exact .refused rfl
  | some fields =>
    have hresolved := ResolvedFunction.resolve_outline unit base m.function m.source source m.target
      fields
    dsimp only [Option.map_some]
    rw [show ResolvedFunction.resolve unit.outline (base.map (·.outline)) m.outline.function
      m.outline.source source.outline m.outline.target (fields.map Param.outline) = _ from hresolved,
      ResolvedFunction.conflictingSibling?_outline]
    cases (ResolvedFunction.resolve unit base m.function m.source source m.target
      fields).conflictingSibling? with
    | some sibling => exact .refused rfl
    | none => exact .done (⟨_, source.module, target.module⟩ : PlannedFunction)

/-- A unit is planned like its outline. -/
theorem outlined_planUnit (settings : Settings) :
    Outlined (·.outline) (planUnit settings registry unit)
      (planUnit settings registry.outline unit.outline) := by
  unfold planUnit
  refine (outlined_checkBase registry unit).bind fun base => ?_
  refine (outlined_checkSignatures unit).bind fun mappings => ?_
  refine (Outlined.mapM fun m _ => outlined_planFunction registry unit base m).bind
    fun functions => ?_
  have hdiagnostics := Plan.diagnostics_outline ⟨unit, base, functions⟩
  dsimp only
  rw [show (Plan.mk unit.outline (base.map (·.outline)) (functions.map (·.outline))).diagnostics =
    _ from hdiagnostics]
  split
  · exact .refused rfl
  · exact .done (⟨unit, base, functions⟩ : Plan)

end

/-- What is said of a planned unit, spellings apart. -/
structure Plan.Summary where
  /-- For each function its name, and for each field of its target the name and the binding. -/
  bindings : List (String × List (String × Binding))
  shape : Shape
  dependencies : NameSet
  diagnostics : List Diagnostic

def Plan.summary (settings : Settings) (p : Plan) : Summary where
  bindings := p.resolved.map fun r => (r.function.name, r.fields.map fun f => (f.param.name, f.binding))
  shape := (p.generate settings).shape
  dependencies := (p.generate settings).dependencies
  diagnostics := (p.generate settings).diagnostics

/-- What becomes of a unit, spellings apart. -/
inductive UnitOutcome
  | generated (summary : Plan.Summary)
  | missing (function type : String)
  | refused (reason : Rejection)

theorem Plan.summary_outline (settings : Settings) (p : Plan) :
    p.outline.summary settings = p.summary settings := by
  have hbindings : p.outline.resolved.map (fun r =>
      (r.function.name, r.fields.map fun f => (f.param.name, f.binding))) =
      p.resolved.map fun r => (r.function.name, r.fields.map fun f => (f.param.name, f.binding)) := by
    show ((p.functions.map (·.outline)).map (·.resolved)).map _ = (p.functions.map (·.resolved)).map _
    rw [List.map_map, List.map_map, List.map_map]
    refine List.map_congr_left fun q _ => ?_
    show (_, (q.resolved.fields.map (·.outline)).map _) = (_, q.resolved.fields.map _)
    rw [List.map_map]
    rfl
  have hshape : Code.shape p.outline.codeBase = Code.shape p.codeBase := by
    unfold Plan.codeBase Code.baseOf
    rw [show p.outline.unit.base = p.unit.base.map TypeRef.mention from rfl,
      show p.outline.base = p.base.map (·.outline) from rfl]
    cases p.unit.base with
    | none => rfl
    | some b =>
      cases p.base with
      | none => rfl
      | some d =>
        dsimp only [Option.map_some, Option.bind_some]
        rw [show d.outline.constructor = d.constructor.map (·.map Param.outline) from rfl]
        cases d.constructor with
        | none => rfl
        | some fields => cases fields <;> rfl
  have hdependencies : p.outline.dependencies = p.dependencies := by
    unfold Plan.dependencies
    rw [show p.outline.base = p.base.map (·.outline) from rfl,
      show p.outline.functions = p.functions.map (·.outline) from rfl, List.flatMap_map,
      Option.map_map]
    rfl
  unfold Plan.summary Plan.generate
  dsimp only
  rw [hbindings, hshape, hdependencies, p.diagnostics_outline]

namespace Generator

/-- What becomes of a unit in a pass. -/
def outcome (g : Generator) (unit : MappingUnit) : UnitOutcome :=
  match planUnit g.settings g.registry unit with
  | .ok plan => .generated (plan.summary g.settings)
  | .error (.missingType function type) => .missing function type
  | .error (.rejection reason) => .refused reason.outline

theorem outcome_outline (g : Generator) (unit : MappingUnit) :
    g.outline.outcome unit.outline = g.outcome unit := by
  have h := outlined_planUnit g.registry unit g.settings
  unfold outcome
  rw [show g.outline.settings = g.settings from rfl,
    show g.outline.registry = g.registry.outline from rfl]
  generalize planUnit g.settings g.registry unit = x at h
  generalize planUnit g.settings g.registry.outline unit.outline = y at h
  cases h with
  | done plan => exact congrArg UnitOutcome.generated (plan.summary_outline g.settings)
  | missing function type => rfl
  | refused h => exact congrArg UnitOutcome.refused h

end Generator

end Mapwright
