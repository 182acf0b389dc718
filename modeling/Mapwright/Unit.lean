import Mapwright.Descriptor

/-!
# Mapping units

A mapping unit is a trait whose required methods map a source value to a target
struct.  Required methods are implemented by the generator; provided ones are
there to be called.
-/

namespace Mapwright

/-- Whether a function is to be implemented or has a body already. -/
inductive FunctionKind
  | required
  | provided
deriving DecidableEq, Repr

/-- A function of a mapping unit.  Its first parameter is the source, the others are extra
inputs. -/
structure MappingFunction where
  name : String
  receiver : Option Receiver
  params : List Param
  returns : Option TypeRef
  kind : FunctionKind
deriving DecidableEq, Repr

namespace MappingFunction

def isRequired (f : MappingFunction) : Bool := f.kind == .required

/-- The source parameter. -/
def source? (f : MappingFunction) : Option Param := f.params.head?

/-- The parameters after the source. -/
def extraParams (f : MappingFunction) : List Param := f.params.tail

end MappingFunction

/-- A declared mapping. -/
structure MappingUnit where
  name : String
  module : ModuleId
  /-- The visibility of the trait, which the generated items share. -/
  visibility : String
  /-- Whether extension traits on the sources are wanted. -/
  wrappers : Bool
  /-- The struct that the implementation holds and hands its fields to. -/
  base : Option TypeRef
  /-- The name of the implementation, if it is not made from that of the unit. -/
  implName : Option String
  functions : List MappingFunction
deriving DecidableEq, Repr

namespace MappingUnit

/-- The functions to be implemented, in order. -/
def requiredFunctions (u : MappingUnit) : List MappingFunction :=
  u.functions.filter (·.isRequired)

/-- The first function of the given name. -/
def function? (u : MappingUnit) (name : String) : Option MappingFunction :=
  u.functions.find? (·.name == name)

end MappingUnit

end Mapwright
