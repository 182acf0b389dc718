import Mapwright.Code.Emission
import Mapwright.Code.Printer
import Mapwright.Generator
import Mapwright.Report

/-!
# The generation pass

Each unit is checked, planned and printed by itself, looking only at the
descriptors of its base, sources and targets.  What is wrong with a unit is
found in a fixed order: its base, the signatures of all its functions, then for
each function its types and bindings, and at last its diagnostics.  A type that
nothing describes ends the pass; everything else only keeps the unit out.
-/

namespace Mapwright

/-- What stands between a unit and its code. -/
inductive Obstacle
  /-- The unit is refused. -/
  | rejection (reason : Rejection)
  /-- A function refers to a type that nothing describes. -/
  | missingType (function : String) (type : String)
deriving DecidableEq, Repr

/-! ## Checks -/

/-- The descriptor of the unit's base, which must have named fields. -/
def checkBase (registry : Registry) (unit : MappingUnit) : Except Obstacle (Option TypeDescriptor) :=
  match unit.base with
  | none => .ok none
  | some base =>
    match registry.describe? base.name with
    | none => .error (.rejection (.missingBase base.source))
    | some d =>
      match d.constructor with
      | none => .error (.rejection (.baseWithoutConstructor base.source))
      | some _ => .ok (some d)

/-- A required function with its source and its target. -/
structure Mapping where
  function : MappingFunction
  source : Param
  target : TypeRef
deriving DecidableEq, Repr

/-- Reads a function as a mapping: it takes `self` and a source, and returns an owned target. -/
def readMapping (f : MappingFunction) : Except Rejection Mapping :=
  match f.receiver, f.source?, f.returns with
  | none, _, _ => .error (.missingReceiver f.name)
  | some _, none, _ => .error (.noParameters f.name)
  | some _, some _, none => .error (.noReturnType f.name)
  | some _, some source, some target =>
    if target.isBorrowed then
      .error (.unsupportedSignature f.name (.returnsReference target.render))
    else .ok ⟨f, source, target⟩

def checkSignatures (unit : MappingUnit) : Except Obstacle (List Mapping) :=
  unit.requiredFunctions.mapM fun f => (readMapping f).mapError .rejection

/-! ## Plans -/

/-- A function with its bindings and the modules they come from. -/
structure PlannedFunction where
  resolved : ResolvedFunction
  sourceModule : ModuleId
  targetModule : ModuleId
deriving DecidableEq

/-- The descriptor of a type that a function refers to. -/
def lookupType (registry : Registry) (function : String) (type : String) :
    Except Obstacle TypeDescriptor :=
  match registry.describe? type with
  | some d => .ok d
  | none => .error (.missingType function type)

/-- Binds the fields of a mapping's target. -/
def planFunction (registry : Registry) (unit : MappingUnit) (base : Option TypeDescriptor)
    (m : Mapping) : Except Obstacle PlannedFunction := do
  let source ← lookupType registry m.function.name m.source.type.name
  let target ← lookupType registry m.function.name m.target.name
  match target.constructor with
  | none => .error (.rejection (.targetWithoutConstructor m.function.name m.target.source))
  | some fields =>
    let resolved := ResolvedFunction.resolve unit base m.function m.source source m.target fields
    match resolved.conflictingSibling? with
    | some sibling => .error (.rejection (.sharedSourceToMutSibling m.function.name sibling))
    | none => .ok ⟨resolved, source.module, target.module⟩

/-- A unit that can be generated. -/
structure Plan where
  unit : MappingUnit
  base : Option TypeDescriptor
  functions : List PlannedFunction
deriving DecidableEq

namespace Plan

def resolved (p : Plan) : List ResolvedFunction := p.functions.map (·.resolved)

def diagnostics (p : Plan) : List Diagnostic := p.resolved.flatMap (·.diagnostics p.unit.name)

/-- The modules that the plan was made from. -/
def dependencies (p : Plan) : NameSet :=
  NameSet.ofNames (p.unit.module :: (p.base.map (·.module)).toList ++
    p.functions.flatMap fun f => [f.sourceModule, f.targetModule])

end Plan

/-- Checks a unit and binds its functions. -/
def planUnit (settings : Settings) (registry : Registry) (unit : MappingUnit) :
    Except Obstacle Plan := do
  let base ← checkBase registry unit
  let mappings ← checkSignatures unit
  let functions ← mappings.mapM (planFunction registry unit base)
  let plan : Plan := ⟨unit, base, functions⟩
  if settings.denyUnresolved && !plan.diagnostics.isEmpty then
    .error (.rejection (.unresolved plan.diagnostics))
  else .ok plan

/-! ## Code -/

/-- The name of a unit's implementation. -/
def implNameOf (settings : Settings) (unit : MappingUnit) : String :=
  unit.implName.getD (unit.name ++ settings.implSuffix)

namespace Plan

def codeBase (p : Plan) : Option Code.Base := Code.baseOf p.unit p.base

def implementation (settings : Settings) (p : Plan) : Code.Implementation :=
  Code.implementation p.unit (implNameOf settings p.unit) p.codeBase p.resolved

def wrappers (settings : Settings) (p : Plan) : List Code.Wrapper :=
  Code.wrappers p.unit (implNameOf settings p.unit) p.codeBase p.resolved

/-- Prints the code of a plan. -/
def generate (settings : Settings) (p : Plan) : GeneratedUnit where
  unit := p.unit.name
  implName := implNameOf settings p.unit
  shape := Code.shape p.codeBase
  implementation := (p.implementation settings).print
  wrappers := if p.unit.wrappers then some (Code.printWrappers (p.wrappers settings)) else none
  dependencies := p.dependencies
  diagnostics := p.diagnostics

end Plan

/-! ## The pass -/

namespace Generator

/-- The code of one unit, or what stands between. -/
def generateUnit (g : Generator) (unit : MappingUnit) : Except Obstacle GeneratedUnit :=
  (planUnit g.settings g.registry unit).map (·.generate g.settings)

/-- The generated and the rejected ones of some units, unless one of them misses a type. -/
def generateEach (g : Generator) :
    List MappingUnit → Except Failure (List GeneratedUnit × List RejectedUnit)
  | [] => .ok ([], [])
  | unit :: rest =>
    match g.generateUnit unit with
    | .error (.missingType function type) => .error (.missingType unit.name function type)
    | .error (.rejection reason) =>
      (g.generateEach rest).map fun r => (r.1, ⟨unit.name, reason⟩ :: r.2)
    | .ok generated => (g.generateEach rest).map fun r => (generated :: r.1, r.2)

/-- The pass over all units. -/
def run (g : Generator) : Except Failure Report :=
  (g.generateEach g.units.values).map fun r =>
    ⟨renderHeader g.settings.header, r.1, g.rejectedUnits ++ r.2⟩

/-- The code of all units as one source text. -/
def source (g : Generator) : Except Failure String := g.run.map (·.toSource)

/-- What a writer holds after the code of all units was written to it; one with a limit fails if
the code has more bytes. -/
def writeTo (g : Generator) (limit : Option Nat) : Except Failure String :=
  match g.source with
  | .error e => .error e
  | .ok text =>
    match limit with
    | some n => if text.utf8ByteSize ≤ n then .ok text else .error .write
    | none => .ok text

end Generator

end Mapwright
