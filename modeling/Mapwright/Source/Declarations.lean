import Mapwright.Declaration
import Mapwright.Source.Arguments
import Mapwright.Source.Scope

/-!
# From items to declarations

The items of a file, and of the modules inside it, are read in order, each in
its scope.  A type that has no spelling leaves a gap in a struct, drops a method
of an impl, and rejects a unit.
-/

namespace Mapwright.Source

/-! ## Types -/

/-- The type below an outer reference, and how the reference passes it. -/
def TypeExpr.passed : TypeExpr → TypeExpr × Passing
  | .reference _ true target => (target, .exclusive)
  | .reference _ false target => (target, .shared)
  | t => (t, .owned)

/-- A type as a declaration mentions it. -/
def TypeExpr.ref (scope : Scope) (t : TypeExpr) : Except SignatureFault TypeRef := do
  let (target, passing) := t.passed
  let source ← target.spell
  return match target with
    | .path p => ⟨scope.typeName p.names, source, passing⟩
    | _ => ⟨source, source, passing⟩

/-- What stands for a type that has no spelling. -/
def unknownType : TypeRef := .named "_"

/-! ## Signatures -/

namespace Signature

/-- The `self` parameter, which must not have its type written out. -/
def receiverOf (s : Signature) : Except SignatureFault (Option Receiver) :=
  match s.receiver with
  | none => .ok none
  | some self =>
    if self.typed then .error .typedReceiver
    else if !self.reference then .ok (some .value)
    else .ok (some (if self.mutable then .refMut else .ref))

/-- A parameter, which must be a plain identifier. -/
def paramOf (scope : Scope) (p : FnParam) : Except SignatureFault Param :=
  match p.name with
  | none => .error .parameterPattern
  | some name => return ⟨name, ← p.type.ref scope⟩

def paramsOf (scope : Scope) (s : Signature) : Except SignatureFault (List Param) :=
  s.params.mapM (paramOf scope)

def returnsOf (scope : Scope) (s : Signature) : Except SignatureFault (Option TypeRef) :=
  match s.output with
  | none => .ok none
  | some t => (t.ref scope).map some

/-- A method, if it has a `self` parameter and all of its types have spellings. -/
def method? (scope : Scope) (s : Signature) : Option (String × MethodSig) :=
  match s.receiverOf, s.paramsOf scope, s.returnsOf scope with
  | .ok (some _), .ok params, .ok returns => some (s.name, ⟨params, returns⟩)
  | _, _, _ => none

/-- Parameters of which only the number is known. -/
def unknownParams (s : Signature) : List Param :=
  (List.range s.params.length).map fun i => ⟨"_" ++ i.repr, unknownType⟩

/-- A function of a unit that has a body.  What has no spelling is left open. -/
def provided (scope : Scope) (s : Signature) : MappingFunction where
  name := s.name
  receiver := s.receiverOf.toOption.join
  params := (s.paramsOf scope).toOption.getD s.unknownParams
  returns := (s.returnsOf scope).toOption.join
  kind := .provided

/-- A function of a unit that is to be implemented. -/
def required (scope : Scope) (s : Signature) : Except SignatureFault MappingFunction := do
  if s.generic then .error .genericFunction
  let receiver ← s.receiverOf
  let params ← s.paramsOf scope
  let returns ← s.returnsOf scope
  return ⟨s.name, receiver, params, returns, .required⟩

end Signature

def TraitFn.function (scope : Scope) (f : TraitFn) : Except Rejection MappingFunction :=
  if f.hasBody then .ok (f.signature.provided scope)
  else (f.signature.required scope).mapError (.unsupportedSignature f.signature.name)

/-! ## Units -/

/-- The paths of the attribute that marks a mapping. -/
def markerPaths : List (List String) := [["mapper_derive", "mapper"], ["mapper_codegen", "mapper"]]

/-- Whether an attribute marks a mapping: a single name must be bound to the marker, and a longer
path must end in its name. -/
def Attribute.marks (scope : Scope) (a : Attribute) : Bool :=
  match a.path.names with
  | [name] => (scope.find? name).any markerPaths.contains
  | names => names.getLast? == some "mapper"

def Visibility.render : Visibility → String
  | .inherited => ""
  | .everywhere => "pub"
  | .within explicit path => "pub(" ++ (if explicit then "in " else "") ++ path.render ++ ")"

/-- The base as a declaration mentions it. -/
def baseRef (scope : Scope) (p : Path) : Except SignatureFault TypeRef := do
  return ⟨scope.typeName p.names, ← p.spell, .owned⟩

namespace TraitItem

/-- The unit that a marked trait declares. -/
def unit (scope : Scope) (module : ModuleId) (t : TraitItem) (marker : Attribute) :
    Except Rejection MappingUnit := do
  let settings ← marker.settings.mapError .invalidArguments
  if t.generic then .error (.unsupportedSignature t.name .genericTrait)
  let base ← (settings.base.mapM (baseRef scope)).mapError (.unsupportedSignature t.name)
  let functions ← t.functions.mapM (·.function scope)
  return {
    name := t.name
    module
    visibility := t.visibility.render
    wrappers := settings.wrappers
    base
    implName := settings.implName
    functions }

/-- What a trait declares: a unit if it is marked. -/
def declaration? (scope : Scope) (module : ModuleId) (t : TraitItem) : Option Declaration :=
  (t.attributes.find? (·.marks scope)).map fun marker =>
    match t.unit scope module marker with
    | .ok unit => .unit unit
    | .error reason => .rejected t.name reason

end TraitItem

/-! ## Items -/

/-- A field of a struct.  A type without a spelling leaves a gap. -/
def fieldParam (scope : Scope) (field : String × TypeExpr) : Param :=
  ⟨field.1, (field.2.ref scope).toOption.getD unknownType⟩

/-- The fields of the struct literal, if there are no positional ones. -/
def Fields.constructor (scope : Scope) : Fields → Option (List Param)
  | .named fields => some (fields.map (fieldParam scope))
  | .positional => none
  | .unit => some []

/-- The methods that an impl adds to a type: that of no trait does, for a type that is a path. -/
def implDeclaration? (scope : Scope) (module : ModuleId) (ofTrait : Bool) (self : TypeExpr)
    (methods : List Signature) : Option Declaration :=
  match ofTrait, self with
  | false, .path p =>
    some (.methods (scope.typeName p.names) module (methods.filterMap (·.method? scope)))
  | _, _ => none

mutual

/-- What an item declares. -/
def Item.declarations (scope : Scope) (module : ModuleId) : Item → List Declaration
  | .struct name fields => [.struct name module (fields.constructor scope)]
  | .enumeration name => [.enumeration name module]
  | .implementation ofTrait self methods =>
    (implDeclaration? scope module ofTrait self methods).toList
  | .trait t => (t.declaration? scope module).toList
  | .module none => []
  | .module (some items) => declarations (scope.within items) module items
  | .use _ => []
  | .alias _ _ => []
  | .other => []

/-- What some items declare. -/
def declarations (scope : Scope) (module : ModuleId) : List Item → List Declaration
  | [] => []
  | item :: items => item.declarations scope module ++ declarations scope module items

end

/-- What the text of a file declares, if it is well formed. -/
def declarations? (module : ModuleId) (text : String) : Option (List Declaration) :=
  (items? text).map fun items => declarations (Scope.ofItems items) module items

end Mapwright.Source

namespace Mapwright.Generator

/-- Takes in what a text declares.  A text that is not well formed declares nothing. -/
def addSource (g : Generator) (module : ModuleId) (text : String) : Except Failure Generator :=
  match Source.declarations? module text with
  | some ds => .ok (g.declareAll ds)
  | none => .error (.parse module)

end Mapwright.Generator
