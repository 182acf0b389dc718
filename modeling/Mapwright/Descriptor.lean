import Mapwright.NameMap
import Mapwright.TypeRef

/-!
# Type descriptors

What is known of a type: where it is declared, the named fields it is built
from, and the properties and methods that can be read from a value of it.
-/

namespace Mapwright

/-- The module that declares something, which for a file is its path. -/
abbrev ModuleId := String

/-- The module of text that comes from no file. -/
def ModuleId.inline : ModuleId := "<inline>"

/-- The signature of a method without its receiver. -/
structure MethodSig where
  params : List Param
  returns : Option TypeRef
deriving DecidableEq

/-- What is known of a type. -/
structure TypeDescriptor where
  name : String
  module : ModuleId
  /-- The fields of the struct literal, in order, if the type has one. -/
  constructor : Option (List Param)
  properties : NameMap TypeRef
  methods : NameMap MethodSig
deriving DecidableEq

/-- The properties that a list of fields gives rise to; the last field of a name counts. -/
def propertiesOf (fields : List Param) : NameMap TypeRef :=
  NameMap.ofList (fields.map fun p => (p.name, p.type))

namespace TypeDescriptor

/-- A type of which only the name and the module are known. -/
def bare (name : String) (module : ModuleId) : TypeDescriptor := ⟨name, module, none, .empty, .empty⟩

/-- A struct with named fields, each of which is also a property. -/
def record (name : String) (module : ModuleId) (fields : List Param) : TypeDescriptor :=
  ⟨name, module, some fields, propertiesOf fields, .empty⟩

def withProperty (d : TypeDescriptor) (p : Param) : TypeDescriptor :=
  { d with properties := d.properties.insert p.name p.type }

def withMethod (d : TypeDescriptor) (name : String) (sig : MethodSig) : TypeDescriptor :=
  { d with methods := d.methods.insert name sig }

def property? (d : TypeDescriptor) (name : String) : Option TypeRef := d.properties.find? name

def method? (d : TypeDescriptor) (name : String) : Option MethodSig := d.methods.find? name

/-- What a method that takes nothing but `self` returns: an accessor. -/
def accessor? (d : TypeDescriptor) (name : String) : Option TypeRef :=
  match d.method? name with
  | some ⟨[], returns⟩ => returns
  | _ => none

end TypeDescriptor

/-- Whether an implementation holds a value or is a unit struct. -/
inductive Shape
  | instanced
  | singleton
deriving DecidableEq, Repr

/-- An implementation holds a value if there is something to build the value from. -/
def Shape.ofConstructor : List Param → Shape
  | [] => .singleton
  | _ :: _ => .instanced

end Mapwright
