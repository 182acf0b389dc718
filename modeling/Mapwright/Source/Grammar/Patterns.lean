import Mapwright.Source.Grammar.Types
import Mapwright.Source.Literal

/-!
# Patterns

A single pattern has no alternatives; where alternatives are allowed, a bar may
also come before the first one.
-/

namespace Mapwright.Source.Grammar

open Token Parse

/-- The limits of a range, and whether they need an upper bound. -/
def rangeLimits : Parse Bool := do
  if ← symbol? ['.', '.', '='] then return true
  else if ← symbol? ['.', '.', '.'] then return true
  else
    symbol ['.', '.']
    return false

/-- Whether a bar between alternatives is next. -/
def startsAlternative (ts : List Token) : Bool :=
  startsWith ['|'] ts && !startsWith ['|', '|'] ts && !startsWith ['|', '='] ts

/-- Alternatives, perhaps with a bar before the first one. -/
def alternatives (g : Grammar) : Parse PatternForm := do
  let led ← symbol? ['|']
  let first ← g.pattern
  let rest ← many (fun ts => !startsAlternative ts) do
    symbol ['|']
    g.pattern
  return if led || !rest.isEmpty then .other else first

/-- Whether nothing is next that could bound a range from above. -/
def endsRange (ts : List Token) : Bool :=
  atEnd ts || startsWith ['|'] ts || startsWith ['='] ts || startsColon ts ||
    startsWith [','] ts || startsWith [';'] ts || startsKeyword "if" ts

/-- A bound of a range: a literal, a path or a constant block.  It may be missing. -/
def rangeBound? (g : Grammar) : Parse Bool := do
  if ← next endsRange then return false
  else if ← next startsLiteral then
    discard literal
    return true
  else if ← keyword? "const" then
    body g
    return true
  else
    demand startsPath
    discard (anyPath g true)
    return true

/-- The limits of a range and its upper bound; says whether there is one. -/
def rangeRest (g : Grammar) : Parse Bool := do
  let closed ← rangeLimits
  let bounded ← rangeBound? g
  demand fun _ => bounded || !closed
  return bounded

def rangeForm (bounded : Bool) : PatternForm := if bounded then .other else .openRange

/-- The number or the name of a field; says whether it is a name. -/
def member : Parse Bool := do
  match ← token with
  | .ident w => if isKeyword w then failure else return true
  | .literal .int text => if isIndex text then return false else failure
  | _ => failure

/-- A field of a struct pattern: a name to be bound, or a member and a pattern for it. -/
def fieldPattern (g : Grammar) : Parse Unit := do
  let boxed ← keyword? "box"
  let byRef ← keyword? "ref"
  let mutable ← keyword? "mut"
  let marked := boxed || byRef || mutable
  let named ← if marked then do discard name; pure true else member
  if ← next (fun ts => !named || (!marked && startsWith [':'] ts)) then
    symbol [':']
    discard (alternatives g)

/-- What stands between the braces of a struct pattern, at most `fuel` fields; nothing comes after
two dots. -/
def fieldPatternsUpTo (g : Grammar) : (fuel : Nat) → Parse Unit
  | 0 => failure
  | fuel + 1 => do
    if ← next atEnd then return ()
    else
      discard (outerAttributes g)
      if ← symbol? ['.', '.'] then return ()
      else
        fieldPattern g
        if ← next atEnd then return ()
        else
          symbol [',']
          fieldPatternsUpTo g fuel

/-- What stands between the braces of a struct pattern. -/
def fieldPatterns (g : Grammar) : Parse Unit := do
  fieldPatternsUpTo g ((← get).length + 1)

/-- A path, and a macro call, struct, tuple or range that it may begin. -/
def pathPattern (g : Grammar) : Parse PatternForm := do
  let (isQualified, p) ← anyPath g true
  if ← next (fun ts => !isQualified && p.isPlain && startsBang ts) then
    symbol ['!']
    discard anyGroup
    return .other
  else if ← next (opens .brace) then
    group .brace (fieldPatterns g)
    return .other
  else if ← next (opens .paren) then
    discard (group .paren (commaList (alternatives g)))
    return .other
  else if ← next (startsWith ['.', '.']) then return rangeForm (← rangeRest g)
  else return .other

/-- A constant, or a range that begins with one. -/
def constPattern (g : Grammar) : Parse PatternForm := do
  discard (rangeBound? g)
  if ← next (startsWith ['.', '.']) then return rangeForm (← rangeRest g) else return .other

/-- An identifier, which a pattern for its value may follow. -/
def namePattern (g : Grammar) : Parse PatternForm := do
  discard (keyword? "ref")
  discard (keyword? "mut")
  let x ← nameOr ["self"]
  if ← symbol? ['@'] then discard g.pattern
  return .name x

/-- Elements in brackets, none of which is a range that is open at an end. -/
def slicePattern (g : Grammar) : Parse PatternForm := do
  let elems ← group .bracket (commaList (alternatives g))
  demand fun _ => elems.all fun e => match e with
    | .openRange => false
    | _ => true
  return .other

/-- Two dots, or a range without a beginning. -/
def dotsPattern (g : Grammar) : Parse PatternForm := do
  demand fun ts => !startsWith ['.', '.', '.'] ts
  if ← rangeRest g then return .openRange else return .other

/-- Whether a pattern that begins with a path of more than a name is next. -/
def startsPathPattern (ts : List Token) : Bool :=
  let after := afterTree ts
  (startsName ts && (startsWith [':', ':'] after || startsWith ['!'] after || opens .brace after ||
      opens .paren after || startsWith ['.', '.'] after)) ||
    (startsKeyword "self" ts && startsWith [':', ':'] after) ||
    startsWith [':', ':'] ts || startsWith ['<'] ts || startsAnyOf ["Self", "super", "crate"] ts

def patternRule (g : Grammar) : Parse PatternForm := do
  if ← next startsPathPattern then pathPattern g
  else if ← keyword? "_" then return .other
  else if ← keyword? "box" then
    discard g.pattern
    return .other
  else if ← next (fun ts => startsWith ['-'] ts || startsLiteral ts || startsKeyword "const" ts) then
    constPattern g
  else if ← next (fun ts => startsName ts || startsAnyOf ["ref", "mut", "self"] ts) then
    namePattern g
  else if ← symbol? ['&'] then
    discard (keyword? "mut")
    discard g.pattern
    return .other
  else if ← next (opens .paren) then
    discard (group .paren (commaList (alternatives g)))
    return .other
  else if ← next (opens .bracket) then slicePattern g
  else dotsPattern g

end Mapwright.Source.Grammar
