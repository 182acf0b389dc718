import Mapwright.Unit

/-!
# Resolution: where the value of a target field comes from

A field is matched by name against the parameters of the function, its
siblings, the accessors of the source and the properties of the source.  The
first of these tables that has the name gives the binding.
-/

namespace Mapwright

/-- Where the value of a target field comes from. -/
inductive Binding
  /-- A parameter of the function itself. -/
  | parameter (name : String)
  /-- Another function, and how it takes the source if it takes anything. -/
  | sibling (function : String) (passSource : Option Passing)
  /-- A method of the source. -/
  | accessor (method : String)
  /-- A field of the source. -/
  | property (field : String)
  /-- Nowhere: the field takes its default. -/
  | unresolved
deriving DecidableEq, Repr

def Binding.isResolved (b : Binding) : Bool := b != .unresolved

/-- How a function with these parameters takes the source, its first argument. -/
def firstPassing (params : List Param) : Option Passing := params.head?.map (·.type.passing)

/-- The first function of the unit, other than `current`, that can be called as `name`. -/
def MappingUnit.sibling? (unit : MappingUnit) (current : MappingFunction) (name : String) :
    Option MappingFunction :=
  unit.functions.find? fun f => f.name == name && f.name != current.name && f.receiver.isSome

/-- The way the sibling called `name` takes the source: a function of the unit, or else a method
of the base. -/
def siblingPassing (unit : MappingUnit) (base : Option TypeDescriptor) (current : MappingFunction)
    (name : String) : Option (Option Passing) :=
  match unit.sibling? current name with
  | some f => some (firstPassing f.params)
  | none => (base.bind (·.method? name)).map fun sig => firstPassing sig.params

/-- The binding of the target field called `name`. -/
def Binding.resolve (unit : MappingUnit) (base : Option TypeDescriptor) (current : MappingFunction)
    (source : TypeDescriptor) (name : String) : Binding :=
  if current.params.any (·.name == name) then .parameter name
  else match siblingPassing unit base current name with
    | some passSource => .sibling name passSource
    | none =>
      if (source.accessor? name).isSome then .accessor name
      else if (source.property? name).isSome then .property name
      else .unresolved

/-- A target field and the origin of its value. -/
structure ResolvedField where
  param : Param
  binding : Binding
deriving DecidableEq, Repr

/-- A function to be implemented, with each field of its target bound, in order. -/
structure ResolvedFunction where
  function : MappingFunction
  source : Param
  target : TypeRef
  fields : List ResolvedField
deriving DecidableEq, Repr

namespace ResolvedFunction

/-- Binds every field of the target. -/
def resolve (unit : MappingUnit) (base : Option TypeDescriptor) (function : MappingFunction)
    (source : Param) (sourceType : TypeDescriptor) (target : TypeRef) (fields : List Param) :
    ResolvedFunction where
  function := function
  source := source
  target := target
  fields := fields.map fun p => ⟨p, Binding.resolve unit base function sourceType p.name⟩

/-- The fields that take their default. -/
def unresolved (r : ResolvedFunction) : List ResolvedField :=
  r.fields.filter (!·.binding.isResolved)

/-- The sibling, if any, that wants to write to a source that is lent for reading only. -/
def conflictingSibling? (r : ResolvedFunction) : Option String :=
  if r.source.type.passing = .shared then
    r.fields.findSome? fun f => match f.binding with
      | .sibling function (some .exclusive) => some function
      | _ => none
  else none

end ResolvedFunction

end Mapwright
