import Mapwright.Source.Grammar.Basic

/-!
# Attributes and bodies

An attribute has a path and, after it, nothing, tokens in brackets, or a value.
A body is a block that may begin with attributes of its own.
-/

namespace Mapwright.Source.Grammar

open Token Parse

/-- The path of an attribute, which may also be a keyword. -/
def attributePath : Parse NamePath := do
  if ← keyword? "unsafe" then return ⟨false, ["unsafe"]⟩ else namePath

/-- The value of an attribute: a literal alone, or an expression. -/
def attributeValue (g : Grammar) : Parse Unit := do
  let ts ← get
  match StateT.run literal ts with
  | some (_, rest) =>
    if atEnd rest then set rest else discard (g.expr true)
  | none =>
    demand fun ts => !(startsWith ['#'] ts && opens .bracket (afterTree ts))
    discard (g.expr true)

def attributeInput (g : Grammar) : Parse AttributeInput := do
  if ← next opensAny then return .list (← anyGroup).2
  else if ← next (fun ts => startsWith ['='] ts && !startsWith ['=', '='] ts && !startsWith ['=', '>'] ts)
  then
    symbol ['=']
    attributeValue g
    return .value
  else return .none

/-- What stands between the brackets of an attribute. -/
def attributeBody (g : Grammar) (inner : Bool) : Parse Attribute :=
  group .bracket do
    let path ← attributePath
    let input ← attributeInput g
    return ⟨inner, path, input⟩

def outerAttribute (g : Grammar) : Parse Attribute := do
  symbol ['#']
  attributeBody g false

def innerAttribute (g : Grammar) : Parse Attribute := do
  symbol ['#']
  symbol ['!']
  attributeBody g true

/-- The attributes before something. -/
def outerAttributes (g : Grammar) : Parse (List Attribute) :=
  many (fun ts => !startsWith ['#'] ts) (outerAttribute g)

/-- The attributes at the beginning of something, which belong to all of it. -/
def innerAttributes (g : Grammar) : Parse (List Attribute) :=
  many (fun ts => !(startsWith ['#'] ts && startsWith ['!'] (afterTree ts))) (innerAttribute g)

/-- Statements in braces. -/
def block (g : Grammar) : Parse Unit := group .brace g.statements

/-- Statements in braces, with attributes before them. -/
def body (g : Grammar) : Parse Unit :=
  group .brace do
    discard (innerAttributes g)
    g.statements

end Mapwright.Source.Grammar
