import Mapwright.Source.Token
import Mapwright.Source.TypeExpr

/-!
# Items

The declarations of a source, as far as they bear on mappings.  Bodies, field
attributes and the like are read and left out.
-/

namespace Mapwright.Source

/-- What follows the path of an attribute. -/
inductive AttributeInput
  | none
  /-- Tokens in brackets of any kind. -/
  | list (tokens : List Token)
  | value
deriving DecidableEq, Repr

structure Attribute where
  /-- Whether the attribute stands inside what it belongs to. -/
  inner : Bool
  path : NamePath
  input : AttributeInput
deriving DecidableEq, Repr

/-- The visibility of an item. -/
inductive Visibility
  | inherited
  | everywhere
  /-- Visible below a path, which the keyword `in` may precede. -/
  | within (explicit : Bool) (path : NamePath)
deriving DecidableEq, Repr

/-- The `self` parameter of a function. -/
structure SelfParam where
  reference : Bool
  /-- The lifetime of the reference, if it is written. -/
  lifetime : Option String
  mutable : Bool
  /-- Whether its type is written out. -/
  typed : Bool
deriving DecidableEq, Repr

/-- A parameter: its name, if its pattern is a plain identifier, and its type. -/
structure FnParam where
  name : Option String
  type : TypeExpr

/-- The words before `fn`. -/
structure Qualifiers where
  isConst : Bool
  isAsync : Bool
  unsafety : Bool
  /-- Whether a calling convention is named. -/
  foreign : Bool
deriving DecidableEq, Repr

structure Signature where
  qualifiers : Qualifiers
  name : String
  /-- Whether it has generic parameters. -/
  generic : Bool
  receiver : Option SelfParam
  params : List FnParam
  output : Option TypeExpr

/-- A function of a trait. -/
structure TraitFn where
  signature : Signature
  hasBody : Bool

structure TraitItem where
  attributes : List Attribute
  visibility : Visibility
  name : String
  generic : Bool
  functions : List TraitFn

/-- The fields of a struct. -/
inductive Fields
  | named (fields : List (String × TypeExpr))
  | positional
  | unit

/-- What a `use` item names. -/
inductive UseTree
  | path (name : String) (rest : UseTree)
  | name (name : String)
  | rename (name : String) (as_ : String)
  | glob
  | group (trees : List UseTree)

/-- An item. -/
inductive Item
  | struct (name : String) (fields : Fields)
  | enumeration (name : String)
  /-- The methods of an impl, and whether it is that of a trait. -/
  | implementation (ofTrait : Bool) (self : TypeExpr) (methods : List Signature)
  | trait (item : TraitItem)
  /-- A module with its items, if they stand here. -/
  | module (items : Option (List Item))
  | use (tree : UseTree)
  | alias (name : String) (type : TypeExpr)
  /-- An item that declares nothing of interest. -/
  | other

instance : Inhabited Item := ⟨.other⟩

end Mapwright.Source
