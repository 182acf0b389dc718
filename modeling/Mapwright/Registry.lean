import Mapwright.Descriptor

/-!
# The registry of type descriptors

Descriptors under their types' names.  A declaration that adds to a type
revises its descriptor, which begins as a bare one.
-/

namespace Mapwright

/-- The known types. -/
structure Registry where
  types : NameMap TypeDescriptor
deriving DecidableEq

namespace Registry

def empty : Registry := ⟨.empty⟩

instance : Inhabited Registry := ⟨empty⟩

/-- Takes a descriptor in, in exchange for one of the same name. -/
def register (r : Registry) (d : TypeDescriptor) : Registry := ⟨r.types.insert d.name d⟩

def unregister (r : Registry) (name : String) : Registry := ⟨r.types.erase name⟩

def describe? (r : Registry) (name : String) : Option TypeDescriptor := r.types.find? name

/-- The descriptor of a type, or a bare one for a type that is not known yet. -/
def entry (r : Registry) (name : String) (module : ModuleId) : TypeDescriptor :=
  (r.describe? name).getD (.bare name module)

/-- Revises the descriptor of a type, a bare one to begin with. -/
def revise (r : Registry) (name : String) (module : ModuleId)
    (f : TypeDescriptor → TypeDescriptor) : Registry :=
  ⟨r.types.insert name (f (r.entry name module))⟩

/-- The descriptors, in the order of their names. -/
def toList (r : Registry) : List TypeDescriptor := r.types.values

def size (r : Registry) : Nat := r.types.size

end Registry

end Mapwright
