import Mapwright.Registry
import Mapwright.Fault

/-!
# The generator

The types and units gathered so far, and the settings of a pass over them.  A
name is that of a unit or that of a rejected one: what was said last counts.
-/

namespace Mapwright

/-- How the code of a pass is to look, and which units it is to refuse. -/
structure Settings where
  /-- The comment at the head of the code, if it is not the usual one. -/
  header : Option String
  /-- What is added to the name of a unit to name its implementation. -/
  implSuffix : String
  /-- Whether units with unresolved fields are rejected. -/
  denyUnresolved : Bool
deriving DecidableEq

def Settings.standard : Settings := ⟨none, "Impl", false⟩

/-- The types and units gathered so far. -/
structure Generator where
  settings : Settings
  registry : Registry
  units : NameMap MappingUnit
  /-- The units that were rejected while they were read. -/
  rejected : NameMap Rejection
deriving DecidableEq

namespace Generator

def new : Generator := ⟨.standard, .empty, .empty, .empty⟩

instance : Inhabited Generator := ⟨new⟩

def setHeader (g : Generator) (text : String) : Generator :=
  { g with settings := { g.settings with header := some text } }

def setImplSuffix (g : Generator) (suffix : String) : Generator :=
  { g with settings := { g.settings with implSuffix := suffix } }

def setDenyUnresolved (g : Generator) (deny : Bool) : Generator :=
  { g with settings := { g.settings with denyUnresolved := deny } }

def registerType (g : Generator) (d : TypeDescriptor) : Generator :=
  { g with registry := g.registry.register d }

def unregisterType (g : Generator) (name : String) : Generator :=
  { g with registry := g.registry.unregister name }

/-- Takes a unit in, in exchange for one of the same name, rejected or not. -/
def addUnit (g : Generator) (u : MappingUnit) : Generator :=
  { g with units := g.units.insert u.name u, rejected := g.rejected.erase u.name }

/-- Notes that the unit called `name` could not be read. -/
def reject (g : Generator) (name : String) (reason : Rejection) : Generator :=
  { g with units := g.units.erase name, rejected := g.rejected.insert name reason }

/-- The rejected units, in the order of their names. -/
def rejectedUnits (g : Generator) : List RejectedUnit :=
  g.rejected.entries.map fun e => ⟨e.1, e.2⟩

end Generator

end Mapwright
