import Mapwright.Fault

/-!
# Type expressions

Types, paths and bounds as they stand in a source, and the text that spells
them in generated code.  A type that generated code cannot repeat has no
spelling, and `spell` says why.
-/

namespace Mapwright.Source

mutual

/-- A type. -/
inductive TypeExpr
  | path (path : Path)
  /-- A path that begins with a type in angle brackets, of which it does not hold that type. -/
  | qualified (path : Path)
  | reference (lifetime : Option String) (mutable : Bool) (target : TypeExpr)
  | tuple (elems : List TypeExpr)
  | array (elem : TypeExpr) (length : ConstExpr)
  | slice (elem : TypeExpr)
  | paren (inner : TypeExpr)
  | pointer (mutable : Bool) (target : TypeExpr)
  | never
  | traitObject (bounds : List Bound)
  | implTrait (bounds : List Bound)
  /-- A function pointer; a plain one has no qualifiers and no lifetimes of its own. -/
  | function (plain : Bool) (inputs : List TypeExpr) (output : Option TypeExpr)
  | inferred
  /-- A form that has no place in generated code, such as a type made by expansion. -/
  | unspelled

/-- A path; an absolute one begins with a separator. -/
structure Path where
  absolute : Bool
  segments : List Segment

structure Segment where
  name : String
  args : SegmentArgs

/-- The arguments of a path segment. -/
inductive SegmentArgs
  | none
  | angled (args : List GenericArg)
  | called (inputs : List TypeExpr) (output : Option TypeExpr)

/-- An argument in angle brackets. -/
inductive GenericArg
  | lifetime (name : String)
  | type (type : TypeExpr)
  | const (value : ConstExpr)
  | assocType (name : String) (type : TypeExpr)
  | assocConst (name : String) (value : ConstExpr)
  | constraint (name : String) (bounds : List Bound)

inductive Bound
  /-- A trait, with a question mark before it or not. -/
  | trait (relaxed : Bool) (path : Path)
  | lifetime (name : String)
  /-- A list of what the type captures. -/
  | captures
  | unspelled

/-- A constant in a type, as far as it matters there. -/
inductive ConstExpr
  | int (text : String)
  | bool (value : Bool)
  | otherLiteral
  | path (path : Path)
  | computed

end

instance : Inhabited TypeExpr := ⟨.inferred⟩

/-! ## Spelling -/

/-- Texts with a separator between them. -/
def joined (separator : String) (ts : List String) : String := separator.intercalate ts

/-- The elements of a tuple in parentheses; a single one keeps its comma. -/
def tupleText : List String → String
  | [t] => "(" ++ t ++ ",)"
  | ts => "(" ++ joined ", " ts ++ ")"

mutual

/-- The spelling of a type. -/
def TypeExpr.spell : TypeExpr → Except SignatureFault String
  | .path p => p.spell
  | .qualified _ => .error .qualifiedPath
  | .reference lifetime mutable target => do
    let target ← target.spell
    return "&" ++ (match lifetime with
      | some l => l ++ " "
      | none => "") ++ (if mutable then "mut " else "") ++ target
  | .tuple elems => do return tupleText (← spellTypes elems)
  | .array elem length => do
    let elem ← elem.spell
    let length ← length.spell
    return "[" ++ elem ++ "; " ++ length ++ "]"
  | .slice elem => do return "[" ++ (← elem.spell) ++ "]"
  | .paren inner => do return "(" ++ (← inner.spell) ++ ")"
  | .pointer mutable target => do
    return (if mutable then "*mut " else "*const ") ++ (← target.spell)
  | .never => .ok "!"
  | .traitObject bounds => do return "dyn " ++ joined " + " (← spellBounds bounds)
  | .implTrait bounds => do return "impl " ++ joined " + " (← spellBounds bounds)
  | .function false _ _ => .error .functionPointer
  | .function true inputs none => do return "fn(" ++ joined ", " (← spellTypes inputs) ++ ")"
  | .function true inputs (some output) => do
    let inputs ← spellTypes inputs
    return "fn(" ++ joined ", " inputs ++ ") -> " ++ (← output.spell)
  | .inferred => .error .inferredType
  | .unspelled => .error .unspelledType
termination_by structural t => t

/-- The spelling of a path, without separators before generic arguments. -/
def Path.spell : Path → Except SignatureFault String
  | ⟨absolute, segments⟩ => do
    return (if absolute then "::" else "") ++ joined "::" (← spellSegments segments)

def Segment.spell : Segment → Except SignatureFault String
  | ⟨name, args⟩ => do return name ++ (← args.spell)

def SegmentArgs.spell : SegmentArgs → Except SignatureFault String
  | .none => .ok ""
  | .angled args => do return "<" ++ joined ", " (← spellArgs args) ++ ">"
  | .called inputs none => do return "(" ++ joined ", " (← spellTypes inputs) ++ ")"
  | .called inputs (some output) => do
    let inputs ← spellTypes inputs
    return "(" ++ joined ", " inputs ++ ") -> " ++ (← output.spell)

def GenericArg.spell : GenericArg → Except SignatureFault String
  | .lifetime name => .ok name
  | .type type => type.spell
  | .const value => value.spell
  | .assocType name type => do return name ++ " = " ++ (← type.spell)
  | .assocConst name value => do return name ++ " = " ++ (← value.spell)
  | .constraint name bounds => do return name ++ ": " ++ joined " + " (← spellBounds bounds)

def Bound.spell : Bound → Except SignatureFault String
  | .trait relaxed path => do return (if relaxed then "?" else "") ++ (← path.spell)
  | .lifetime name => .ok name
  | .captures => .error .unspelledBound
  | .unspelled => .error .unspelledBound

/-- The spelling of a constant: a number, a truth value or a path. -/
def ConstExpr.spell : ConstExpr → Except SignatureFault String
  | .int text => .ok text
  | .bool value => .ok (if value then "true" else "false")
  | .otherLiteral => .error .otherConstant
  | .path p => p.spell
  | .computed => .error .computedConstant

def spellTypes : List TypeExpr → Except SignatureFault (List String)
  | [] => .ok []
  | t :: ts => do return (← t.spell) :: (← spellTypes ts)

def spellSegments : List Segment → Except SignatureFault (List String)
  | [] => .ok []
  | s :: ss => do return (← s.spell) :: (← spellSegments ss)

def spellArgs : List GenericArg → Except SignatureFault (List String)
  | [] => .ok []
  | a :: as => do return (← a.spell) :: (← spellArgs as)

def spellBounds : List Bound → Except SignatureFault (List String)
  | [] => .ok []
  | b :: bs => do return (← b.spell) :: (← spellBounds bs)

end

/-! ## Paths of names -/

/-- A path whose segments take no arguments. -/
structure NamePath where
  absolute : Bool
  names : List String
deriving DecidableEq, Repr

def NamePath.toPath (p : NamePath) : Path := ⟨p.absolute, p.names.map (⟨·, .none⟩)⟩

/-- The names of a path with separators between them. -/
def NamePath.render (p : NamePath) : String := (if p.absolute then "::" else "") ++ joined "::" p.names

/-- The names of a path's segments, without arguments. -/
def Path.names (p : Path) : List String := p.segments.map (·.name)

/-- Whether no segment of a path takes arguments. -/
def Path.isPlain (p : Path) : Bool :=
  p.segments.all fun s => match s.args with
    | .none => true
    | _ => false

end Mapwright.Source
