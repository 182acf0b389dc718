import Mapwright.Descriptor

/-!
# Generated code

The items that the generator produces, as data: an implementation struct with
its constructor, its access to the base and its trait impl, and extension
traits that delegate to it.  `Mapwright.Code.Printer` spells them out.
-/

namespace Mapwright.Code

/-- An expression of a generated body. -/
inductive Expr
  | named (x : String)
  /-- A reference to a value, for writing or for reading only. -/
  | borrow (mutable : Bool) (value : Expr)
  | clone (value : Expr)
  | field (owner : Expr) (name : String)
  /-- A method call without arguments. -/
  | call (owner : Expr) (method : String)
  /-- A method call with one argument. -/
  | callWith (owner : Expr) (method : String) (argument : Expr)
deriving DecidableEq, Repr

/-- A value under a name: a `let` local, or a field of a struct literal. -/
structure Binder where
  name : String
  value : Expr
deriving DecidableEq, Repr

/-- A struct literal. -/
structure Literal where
  path : String
  fields : List Binder
  /-- Whether the fields not listed are taken from the default of the type. -/
  restFromDefault : Bool
deriving DecidableEq, Repr

/-- The body of a mapping function: locals in order, then the literal that is returned. -/
structure Body where
  locals : List Binder
  result : Literal
deriving DecidableEq, Repr

/-- A parameter with the `mut` before it, if there is one. -/
structure Slot where
  mutable : Bool
  param : Param
deriving DecidableEq, Repr

/-- The head of a method. -/
structure Header where
  name : String
  receiver : Receiver
  params : List Slot
  returns : TypeRef
deriving DecidableEq, Repr

structure Method where
  header : Header
  body : Body
deriving DecidableEq, Repr

/-- The constructor function of an implementation: its parameters, and the fields of the base
literal, each filled by the parameter of its name. -/
structure Constructor where
  params : List Param
  path : String
  fields : List String
deriving DecidableEq, Repr

/-- What an implementation struct is made of. -/
inductive Storage
  /-- Nothing, and there is no base either. -/
  | bare
  /-- Nothing, since the base has no fields; the base, spelled as given, is built on access. -/
  | emptyBase (base : String) (path : String)
  /-- A value of the base, spelled as given, that `new` builds. -/
  | heldBase (base : String) (derivesDefault : Bool) (new : Constructor)
deriving DecidableEq, Repr

/-- An implementation struct and the impls for it. -/
structure Implementation where
  visibility : String
  name : String
  storage : Storage
  /-- The name of the implemented trait. -/
  unit : String
  methods : List Method
deriving DecidableEq, Repr

/-- The implementation value as the receiver of a call. -/
structure ImplValue where
  implName : String
  /-- Whether it has to be built by `default()`. -/
  fromDefault : Bool
  receiver : Receiver
deriving DecidableEq, Repr

/-- A call of a unit's function by its full name. -/
structure Delegation where
  unit : String
  function : String
  value : ImplValue
  args : List String
deriving DecidableEq, Repr

/-- An extension trait with one method, and its impl for a source type. -/
structure Wrapper where
  visibility : String
  name : String
  header : Header
  source : String
  delegation : Delegation
deriving DecidableEq, Repr

end Mapwright.Code
