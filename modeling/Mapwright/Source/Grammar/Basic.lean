import Mapwright.Source.Item
import Mapwright.Source.Parse

/-!
# The rules of the grammar

The rules refer to each other: a type holds constants, a constant may be a
block, a block holds items, and items hold types.  So each rule is written over
a `Grammar`, which has the rules for what is nested in it.  A rule turns to
these only after it took a token, hence as many levels of nesting as there are
tokens are enough.

Types and items are read as far as declarations need them.  Of an expression or
a pattern only its form is kept.
-/

namespace Mapwright.Source

/-- What the surroundings of an expression have to know of it. -/
inductive ExprForm
  /-- A literal or a path. -/
  | constant (value : ConstExpr)
  | range
  | comparison
  /-- A block, a loop or a branch, which can be followed by a statement without a semicolon. -/
  | block
  /-- A macro call, and whether what it is given stands in braces. -/
  | expansion (braced : Bool)
  | other

namespace ExprForm

/-- The expression as a constant in a type. -/
def toConst : ExprForm → ConstExpr
  | .constant value => value
  | _ => .computed

def isRange : ExprForm → Bool
  | .range => true
  | _ => false

def isComparison : ExprForm → Bool
  | .comparison => true
  | _ => false

/-- Whether something has to stand between the expression and what follows it in a match. -/
def needsComma : ExprForm → Bool
  | .block => false
  | _ => true

/-- Whether something has to stand between the expression and what follows it in a block. -/
def needsSemicolon : ExprForm → Bool
  | .block => false
  | .expansion braced => !braced
  | _ => true

end ExprForm

/-- What the surroundings of a pattern have to know of it. -/
inductive PatternForm
  /-- An identifier to be bound. -/
  | name (name : String)
  /-- A range without a beginning or without an end. -/
  | openRange
  | other

/-- The rules for what is nested. -/
structure Grammar where
  /-- A type, and the bound that it stands for if it is a bare trait.  A sum of bounds counts as a
  type only where `plus` allows it. -/
  type : (plus : Bool) → Parse (TypeExpr × Option Bound)
  /-- A bound.  It may be a list of captures or a `const` bound where that is allowed. -/
  bound : (captures consts : Bool) → Parse Bound
  /-- An expression.  A path and braces after it make a struct only where `braces` allows it. -/
  expr : (braces : Bool) → Parse ExprForm
  /-- An operand: prefix operators and what they apply to. -/
  operand : (braces : Bool) → Parse ExprForm
  /-- The calls, fields and indices that follow an expression. -/
  trailers : ExprForm → Parse ExprForm
  /-- The operators that follow an operand and bind at least as strongly as `least`. -/
  operators : (braces : Bool) → (least : Nat) → (left : ExprForm) → Parse ExprForm
  /-- An expression at the beginning of a statement or a match arm, where a block ends it. -/
  leading : Parse ExprForm
  /-- A pattern without alternatives. -/
  pattern : Parse PatternForm
  /-- The statements up to the end of a block. -/
  statements : Parse Unit
  /-- The items up to the end of a module. -/
  items : Parse (List Item)

/-- The rules when nothing may be nested. -/
def Grammar.flat : Grammar where
  type _ := failure
  bound _ _ := failure
  expr _ := failure
  operand _ := failure
  trailers _ := failure
  operators _ _ _ := failure
  leading := failure
  pattern := failure
  statements := failure
  items := failure

namespace Grammar

open Token Parse

/-! ## Small rules -/

/-- Whether a single colon is next. -/
def startsColon (ts : List Token) : Bool := startsWith [':'] ts && !startsWith [':', ':'] ts

/-- Whether an exclamation mark is next that is not part of an operator. -/
def startsBang (ts : List Token) : Bool := startsWith ['!'] ts && !startsWith ['!', '='] ts

/-- Words that begin a path though they are no names. -/
def rootWords : List String := ["super", "self", "Self", "crate"]

/-- Whether a word that begins a path is next. -/
def startsPathWord (ts : List Token) : Bool := startsName ts || startsAnyOf rootWords ts

/-- A path without arguments. -/
def namePath : Parse NamePath := do
  let absolute ← symbol? [':', ':']
  let names ← chained (fun _ => false) [':', ':'] (nameOr rootWords)
  return ⟨absolute, names⟩

/-- A truth value, or a literal with a minus before it or not. -/
def literal : Parse ConstExpr := do
  demand startsLiteral
  match ← token with
  | .literal .int text => return .int text
  | .ident w => return .bool (w == "true")
  | .punct _ _ =>
    match ← token with
    | .literal .int text => return .int ("-" ++ text)
    | _ => return .otherLiteral
  | _ => return .otherLiteral

/-- The name of a calling convention, after its keyword. -/
def convention? : Parse Bool := do
  if ← keyword? "extern" then
    if ← next startsText then discard token
    return true
  else return false

end Grammar

end Mapwright.Source
