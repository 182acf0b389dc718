/-!
# Type references

A type as a declaration mentions it: the name it is looked up by, its spelling
below the outer reference, and how a value of it is passed.
-/

namespace Mapwright

/-- How a value is passed: given away, lent for reading, or lent for writing. -/
inductive Passing
  | owned
  | shared
  | exclusive
deriving DecidableEq, Repr

/-- The `self` parameter of a method. -/
inductive Receiver
  | value
  | ref
  | refMut
deriving DecidableEq, Repr

/-- The `self` parameter as it is written in a signature. -/
def Receiver.render : Receiver → String
  | .value => "self"
  | .ref => "&self"
  | .refMut => "&mut self"

/-- The receiver of a method whose `self` is passed in the given way. -/
def Passing.receiver : Passing → Receiver
  | .owned => .value
  | .shared => .ref
  | .exclusive => .refMut

/-- What is written before a type or a value that is passed in the given way. -/
def Passing.sigil : Passing → String
  | .owned => ""
  | .shared => "&"
  | .exclusive => "&mut "

/-- A mention of a type. -/
structure TypeRef where
  /-- The name under which the type is described. -/
  name : String
  /-- The spelling of the type, without the outer reference. -/
  source : String
  passing : Passing
deriving DecidableEq, Repr

namespace TypeRef

/-- An owned type that is spelled as it is named. -/
def named (name : String) : TypeRef := ⟨name, name, .owned⟩

def isBorrowed (t : TypeRef) : Bool := t.passing != .owned

/-- The type as it is written in a signature. -/
def render (t : TypeRef) : String := t.passing.sigil ++ t.source

/-- The receiver of a method of this type that takes `self` as the type is passed. -/
def receiver (t : TypeRef) : Receiver := t.passing.receiver

end TypeRef

/-- A parameter or a field: a name and a type. -/
structure Param where
  name : String
  type : TypeRef
deriving DecidableEq, Repr

/-- A parameter as it is written in a signature. -/
def Param.render (p : Param) : String := p.name ++ ": " ++ p.type.render

end Mapwright
