import Mapwright.Source.Grammar.Statements
import Mapwright.Source.Lexer

/-!
# Reading a file

The rules over one another give a grammar for any depth of nesting; a text of
`n` tokens nests no deeper than `n`.

    items? text = some items     the text is well formed, and declares `items`
-/

namespace Mapwright.Source

namespace Grammar

/-- The rules over those for what is nested. -/
def deepen (g : Grammar) : Grammar where
  type := typeRule g
  bound := boundRule g
  expr := exprRule g
  operand := operandRule g
  trailers := trailersRule g
  operators := operatorsRule g
  leading := leadingRule g
  pattern := patternRule g
  statements := statementsRule g
  items := itemsRule g

/-- The rules for what nests at most `depth` deep. -/
def upTo : (depth : Nat) → Grammar
  | 0 => flat
  | depth + 1 => deepen (upTo depth)

/-- The rules for what is nested in the given tokens. -/
def ofTokens (ts : List Token) : Grammar := upTo (ts.length + 1)

/-- A whole file. -/
def file (g : Grammar) : Parse (List Item) := do
  discard (innerAttributes g)
  itemsRule g

end Grammar

/-- The items that some tokens make up. -/
def itemsOfTokens? (ts : List Token) : Option (List Item) :=
  Parse.run? (Grammar.file (Grammar.ofTokens ts)) ts

/-- The type that a text spells, with nothing after it. -/
def type? (text : String) : Option TypeExpr :=
  (tokens? text.toList).bind fun ts => Parse.run? (Grammar.wholeType (Grammar.ofTokens ts)) ts

/-- The items of a file, if its text is well formed. -/
def items? (text : String) : Option (List Item) := (fileTokens? text).bind itemsOfTokens?

end Mapwright.Source
