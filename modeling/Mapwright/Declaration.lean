import Mapwright.Generator

/-!
# Declarations

What a source declares, in the terms of the generator: each declaration revises
the descriptor of one type, or settles one unit.

    g.declareAll (ds ++ es) = (g.declareAll ds).declareAll es     (`declareAll_append`)
-/

namespace Mapwright

/-- A declaration. -/
inductive Declaration
  /-- A struct, with its named fields if it has no positional ones. -/
  | struct (name : String) (module : ModuleId) (constructor : Option (List Param))
  | enumeration (name : String) (module : ModuleId)
  /-- Methods of a type, which may be declared elsewhere. -/
  | methods (type : String) (module : ModuleId) (methods : List (String × MethodSig))
  | unit (unit : MappingUnit)
  /-- A unit that cannot be read. -/
  | rejected (unit : String) (reason : Rejection)
deriving DecidableEq

namespace TypeDescriptor

/-- The descriptor after a struct of that name was declared. -/
def declareStruct (module : ModuleId) (constructor : Option (List Param)) (d : TypeDescriptor) :
    TypeDescriptor :=
  { d with module, constructor, properties := propertiesOf (constructor.getD []) }

/-- The descriptor after an enum of that name was declared. -/
def declareEnum (module : ModuleId) (d : TypeDescriptor) : TypeDescriptor := { d with module }

/-- The descriptor after methods were declared. -/
def declareMethods (methods : List (String × MethodSig)) (d : TypeDescriptor) : TypeDescriptor :=
  { d with methods := d.methods.insertAll methods }

end TypeDescriptor

namespace Generator

/-- Revises the descriptor of a type. -/
def reviseType (g : Generator) (name : String) (module : ModuleId)
    (f : TypeDescriptor → TypeDescriptor) : Generator :=
  { g with registry := g.registry.revise name module f }

/-- Takes a declaration in. -/
def declare (g : Generator) : Declaration → Generator
  | .struct name module constructor => g.reviseType name module (·.declareStruct module constructor)
  | .enumeration name module => g.reviseType name module (·.declareEnum module)
  | .methods type module methods => g.reviseType type module (·.declareMethods methods)
  | .unit unit => g.addUnit unit
  | .rejected unit reason => g.reject unit reason

/-- Takes declarations in, one after the other. -/
def declareAll (g : Generator) (ds : List Declaration) : Generator := ds.foldl declare g

theorem declareAll_append (g : Generator) (ds es : List Declaration) :
    g.declareAll (ds ++ es) = (g.declareAll ds).declareAll es :=
  List.foldl_append

end Generator

end Mapwright
