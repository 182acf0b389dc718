import Mapwright.Code.Basic
import Mapwright.Resolution
import Mapwright.Text.Blank
import Mapwright.Text.Casing

/-!
# Emission: from resolved functions to code

A field of an owned source is moved into the target.  Where that happens, the
other readings of the source are made beforehand and kept in locals.  A lent
source is read by cloning its fields.
-/

namespace Mapwright.Code

/-! ## Bodies -/

/-- The source as an argument for a sibling that takes it in the given way. -/
def sourceArgument (source : Param) (passing : Passing) : Expr :=
  match source.type.passing, passing with
  | _, .owned => .clone (.named source.name)
  | .owned, .shared => .borrow false (.named source.name)
  | .owned, .exclusive => .borrow true (.named source.name)
  | _, _ => .named source.name

/-- The expression for a binding, if it has an origin. -/
def bindingExpr? (source : Param) : Binding → Option Expr
  | .parameter name => some (.named name)
  | .sibling function (some passing) =>
    some (.callWith (.named "self") function (sourceArgument source passing))
  | .sibling function none => some (.call (.named "self") function)
  | .accessor method => some (.call (.named source.name) method)
  | .property field =>
    if source.type.isBorrowed then some (.clone (.field (.named source.name) field))
    else some (.field (.named source.name) field)
  | .unresolved => none

/-- Whether a binding reads the source as a whole. -/
def readsSource : Binding → Bool
  | .accessor _ => true
  | .sibling _ (some _) => true
  | _ => false

/-- Whether fields are moved out of the source. -/
def movesFields (r : ResolvedFunction) : Bool :=
  r.source.type.passing == .owned && r.fields.any fun f => match f.binding with
    | .property _ => true
    | _ => false

/-- Whether an owned source is lent to a sibling for writing. -/
def lendsForWriting (r : ResolvedFunction) : Bool :=
  r.source.type.passing == .owned && r.fields.any fun f => match f.binding with
    | .sibling _ (some .exclusive) => true
    | _ => false

/-- Whether the value of a field is kept in a local. -/
def isHoisted (r : ResolvedFunction) (f : ResolvedField) : Bool := movesFields r && readsSource f.binding

/-- The path of a struct literal: the spelling of a type up to its generic arguments. -/
def literalPath (source : String) : String :=
  String.ofList (Text.dropFinalBlanks (source.toList.takeWhile (· != '<')))

/-- The locals, in the order of the fields. -/
def bodyLocals (r : ResolvedFunction) : List Binder :=
  r.fields.filterMap fun f =>
    if isHoisted r f then (bindingExpr? r.source f.binding).map (⟨f.param.name, ·⟩) else none

/-- The fields of the literal; a hoisted one takes the value of its local. -/
def bodyFields (r : ResolvedFunction) : List Binder :=
  r.fields.filterMap fun f =>
    (bindingExpr? r.source f.binding).map fun value =>
      ⟨f.param.name, if isHoisted r f then .named f.param.name else value⟩

def body (r : ResolvedFunction) : Body where
  locals := bodyLocals r
  result := ⟨literalPath r.target.source, bodyFields r, !r.unresolved.isEmpty⟩

/-! ## Implementations -/

/-- The receiver of a function; one that states none is called by reference. -/
def receiverOf (f : MappingFunction) : Receiver := f.receiver.getD .ref

/-- The parameters of a function, the first one with `mut` if it is lent for writing. -/
def slots (r : ResolvedFunction) : List Slot :=
  match r.function.params with
  | [] => []
  | first :: rest => ⟨lendsForWriting r, first⟩ :: rest.map (⟨false, ·⟩)

def method (r : ResolvedFunction) : Method where
  header := ⟨r.function.name, receiverOf r.function, slots r, r.target⟩
  body := body r

/-- The base of a unit with the fields it is constructed from. -/
abbrev Base := TypeRef × List Param

/-- The base that a unit names, with the fields of its descriptor. -/
def baseOf (unit : MappingUnit) (descriptor : Option TypeDescriptor) : Option Base :=
  match unit.base, descriptor.bind (·.constructor) with
  | some base, some fields => some (base, fields)
  | _, _ => none

/-- The shape of the implementation on a base. -/
def shape (base : Option Base) : Shape :=
  match base with
  | some (_, fields) => Shape.ofConstructor fields
  | none => .singleton

/-- What the implementation of a unit on a base is made of. -/
def storage (unit : MappingUnit) (base : Option Base) : Storage :=
  match base with
  | none => .bare
  | some (base, []) => .emptyBase base.source (literalPath base.source)
  | some (base, fields) =>
    .heldBase base.source unit.wrappers ⟨fields, literalPath base.source, fields.map (·.name)⟩

def implementation (unit : MappingUnit) (implName : String) (base : Option Base)
    (functions : List ResolvedFunction) : Implementation where
  visibility := unit.visibility
  name := implName
  storage := storage unit base
  unit := unit.name
  methods := functions.map method

/-! ## Wrappers -/

/-- The name of the extension trait for a function of a unit. -/
def wrapperName (unit : String) (function : String) : String :=
  unit ++ Text.camelCase function ++ "Ext"

def wrapper (unit : MappingUnit) (implName : String) (base : Option Base) (r : ResolvedFunction) :
    Wrapper where
  visibility := unit.visibility
  name := wrapperName unit.name r.function.name
  header := ⟨r.function.name, r.source.type.receiver, r.function.extraParams.map (⟨false, ·⟩), r.target⟩
  source := r.source.type.source
  delegation :=
    ⟨unit.name, r.function.name, ⟨implName, shape base == .instanced, receiverOf r.function⟩,
      r.function.extraParams.map (·.name)⟩

/-- One extension trait for each function. -/
def wrappers (unit : MappingUnit) (implName : String) (base : Option Base)
    (functions : List ResolvedFunction) : List Wrapper :=
  functions.map (wrapper unit implName base)

end Mapwright.Code
