import Mapwright.Source.Grammar.Patterns

/-!
# Expressions

An expression is an operand, with prefix operators before it and calls, fields
and indices after it, and the infix operators between operands.

Operators bind by precedence.  Those of one precedence associate to the left,
but assignments to the right; comparisons do not associate, and a range is
never the left operand of another operator.
-/

namespace Mapwright.Source.Grammar

open Token Parse

/-! ## Precedence -/

namespace Precedence

def lowest : Nat := 0
def assign : Nat := 1
def range : Nat := 2
def or : Nat := 3
def and : Nat := 4
def compare : Nat := 6
def bitOr : Nat := 7
def bitXor : Nat := 8
def bitAnd : Nat := 9
def shift : Nat := 10
def sum : Nat := 11
def product : Nat := 12
def cast : Nat := 13

end Precedence

/-- The infix operators other than ranges, casts and plain assignment, longer ones before their
beginnings. -/
def infixOperators : List (List Char × Nat) :=
  [(['+', '='], Precedence.assign), (['-', '='], Precedence.assign),
    (['*', '='], Precedence.assign), (['/', '='], Precedence.assign),
    (['%', '='], Precedence.assign), (['^', '='], Precedence.assign),
    (['&', '='], Precedence.assign), (['|', '='], Precedence.assign),
    (['<', '<', '='], Precedence.assign), (['>', '>', '='], Precedence.assign),
    (['&', '&'], Precedence.and), (['|', '|'], Precedence.or),
    (['<', '<'], Precedence.shift), (['>', '>'], Precedence.shift),
    (['=', '='], Precedence.compare), (['<', '='], Precedence.compare),
    (['!', '='], Precedence.compare), (['>', '='], Precedence.compare),
    (['+'], Precedence.sum), (['-'], Precedence.sum), (['*'], Precedence.product),
    (['/'], Precedence.product), (['%'], Precedence.product), (['^'], Precedence.bitXor),
    (['&'], Precedence.bitAnd), (['|'], Precedence.bitOr), (['<'], Precedence.compare),
    (['>'], Precedence.compare)]

/-- The infix operator that is next, with its precedence. -/
def operator? (ts : List Token) : Option (List Char × Nat) :=
  infixOperators.find? fun op => startsWith op.1 ts

/-- Whether an assignment is next. -/
def startsAssign (ts : List Token) : Bool := startsWith ['='] ts && !startsWith ['=', '>'] ts

/-- Whether a single point is next. -/
def startsPoint (ts : List Token) : Bool := startsWith ['.'] ts && !startsWith ['.', '.'] ts

/-- The right operand of an operator: what binds more strongly, or for an assignment as strongly. -/
def rightOperand (g : Grammar) (braces : Bool) (precedence : Nat) : Parse ExprForm := do
  let e ← g.operand braces
  g.operators braces
    (if precedence = Precedence.assign then precedence else precedence + 1) e

/-! ## Ranges and casts -/

/-- What may follow a range that has no end. -/
def rangeFollowers : List (List Char) :=
  [[','], [';'], ['?'], ['=', '>'], ['='], ['+'], ['/'], ['%'], ['^'], ['>'], ['<', '='],
    ['!', '='], ['-', '='], ['*', '='], ['&', '='], ['|', '='], ['<', '<', '=']]

/-- Whether a range ends without an upper bound. -/
def endsOpenRange (braces : Bool) (ts : List Token) : Bool :=
  atEnd ts || rangeFollowers.any (startsWith · ts) || startsPoint ts ||
    (!braces && opens .brace ts) || startsKeyword "as" ts

/-- A range from its dots on. -/
def rangeExpr (g : Grammar) (braces : Bool) : Parse ExprForm := do
  demand fun ts => !startsWith ['.', '.', '.'] ts
  let closed ← rangeLimits
  if ← next (fun ts => !closed && endsOpenRange braces ts) then return .range
  else
    discard (rightOperand g braces Precedence.range)
    return .range

/-- Whether what is next would apply to the cast before it, which needs parentheses. -/
def startsTrailer (ts : List Token) : Bool :=
  startsPoint ts || startsWith ['?'] ts || opens .bracket ts || opens .paren ts

def operatorsRule (g : Grammar) (braces : Bool) (least : Nat) (left : ExprForm) :
    Parse ExprForm := do
  if left.isRange then return left
  else
    match operator? (← get) with
    | some (sym, precedence) =>
      if precedence < least then return left
      else
        let compares := precedence == Precedence.compare
        demand fun _ => !(compares && left.isComparison)
        symbol sym
        discard (rightOperand g braces precedence)
        g.operators braces least (if compares then .comparison else .other)
    | none =>
      if ← next (fun ts => least ≤ Precedence.assign && startsAssign ts) then
        symbol ['=']
        discard (rightOperand g braces Precedence.assign)
        g.operators braces least .other
      else if ← next (fun ts => least ≤ Precedence.range && startsWith ['.', '.'] ts) then
        rangeExpr g braces
      else if ← next (fun ts => least ≤ Precedence.cast && startsKeyword "as" ts) then
        keyword "as"
        discard (plainType g)
        demand fun ts => !startsTrailer ts
        g.operators braces least .other
      else return left

/-! ## Calls, fields and indices -/

/-- Arguments in parentheses. -/
def callArgs (g : Grammar) : Parse Unit := discard (group .paren (commaList (g.expr true)))

/-- The field numbers that a number with a point in it stands for; says whether a point is still
open after them. -/
def fieldNumbers : Parse Bool := do
  match ← token with
  | .literal .float text =>
    match indexPath? text with
    | some openPoint => return openPoint
    | none => failure
  | _ => failure

/-- Whether a number with a point or an exponent is next. -/
def startsFloat : List Token → Bool
  | .literal .float _ :: _ => true
  | _ => false

/-- What follows a point: a field, a method call or `await`. -/
def memberExpr (g : Grammar) : Parse Unit := do
  if ← keyword? "await" then return ()
  else
    let named ← member
    let typed ← next fun ts => named && startsWith [':', ':'] ts
    if typed then discard (angledArgs g)
    if ← next (fun ts => typed || (named && opens .paren ts)) then callArgs g

def trailersRule (g : Grammar) (e : ExprForm) : Parse ExprForm := do
  if ← next (opens .paren) then
    callArgs g
    g.trailers .other
  else if ← next (fun ts => startsPoint ts && !e.isRange) then
    symbol ['.']
    let complete ← if ← next startsFloat then pure !(← fieldNumbers) else pure false
    if !complete then memberExpr g
    g.trailers .other
  else if ← next (opens .bracket) then
    discard (group .bracket (g.expr true))
    g.trailers .other
  else if ← next (fun ts => startsWith ['?'] ts && !e.isRange) then
    symbol ['?']
    g.trailers .other
  else return e

/-! ## Blocks, loops and branches -/

/-- Whether the lifetimes that a closure binds are next. -/
def startsBinder (ts : List Token) : Bool :=
  let second := afterTree ts
  startsKeyword "for" ts && startsWith ['<'] second &&
    (startsLifetime (afterTree second) || startsWith ['>'] (afterTree second))

/-- Whether a block, a loop, a branch or a match without a label is next. -/
def startsBlock (ts : List Token) : Bool :=
  startsAnyOf ["if", "while", "loop", "match", "unsafe"] ts || opens .brace ts ||
    (startsKeyword "for" ts && !startsBinder ts) ||
    (startsAnyOf ["try", "const"] ts && opens .brace (afterTree ts))

/-- A branch with the branches after `else`, at most `fuel` of them. -/
def branchesUpTo (g : Grammar) : (fuel : Nat) → Parse Unit
  | 0 => failure
  | fuel + 1 => do
    keyword "if"
    discard (g.expr false)
    block g
    if ← keyword? "else" then
      if ← next (startsKeyword "if") then branchesUpTo g fuel else block g

/-- An arm of a match, with the comma after it, which only a block or the last arm can do
without. -/
def matchArm (g : Grammar) : Parse Unit := do
  discard (outerAttributes g)
  discard (alternatives g)
  if ← keyword? "if" then discard (g.expr true)
  symbol ['=', '>']
  let e ← g.leading
  if ← next (fun ts => e.needsComma && !atEnd ts) then symbol [','] else discard (symbol? [','])

/-- A block, a loop, a branch or a match without a label. -/
def blockExpr (g : Grammar) : Parse Unit := do
  if ← next (startsKeyword "if") then branchesUpTo g ((← get).length + 1)
  else if ← keyword? "while" then
    discard (g.expr false)
    body g
  else if ← keyword? "for" then
    discard (alternatives g)
    keyword "in"
    discard (g.expr false)
    body g
  else if ← keyword? "match" then
    discard (g.expr false)
    group .brace do
      discard (innerAttributes g)
      discard (many atEnd (matchArm g))
  else if ← keyword? "try" then block g
  else
    if ← next (startsAnyOf ["loop", "unsafe", "const"]) then discard word
    body g

/-- A label and the loop or block that it names. -/
def labelled (g : Grammar) : Parse Unit := do
  discard lifetime
  symbol [':']
  demand fun ts => startsAnyOf ["while", "for", "loop"] ts || opens .brace ts
  blockExpr g

/-! ## Closures -/

/-- Whether a closure is next. -/
def startsClosure (ts : List Token) : Bool :=
  let second := afterTree ts
  startsWith ['|'] ts || startsAnyOf ["move", "static"] ts || startsBinder ts ||
    (startsKeyword "const" ts && !opens .brace second) ||
    (startsKeyword "async" ts && (startsWith ['|'] second || startsKeyword "move" second))

def closureParam (g : Grammar) : Parse Unit := do
  discard (outerAttributes g)
  discard g.pattern
  if ← symbol? [':'] then discard (wholeType g)

def closure (g : Grammar) (braces : Bool) : Parse Unit := do
  discard (binder? g)
  for w in ["const", "static", "async", "move"] do
    discard (keyword? w)
  symbol ['|']
  discard (separated (startsWith ['|']) [','] (closureParam g))
  symbol ['|']
  if ← symbol? ['-', '>'] then
    discard (wholeType g)
    block g
  else discard (g.expr braces)

/-! ## Operands -/

/-- Whether an expression may be next. -/
def startsExpr (ts : List Token) : Bool :=
  (startsWord ts && !startsKeyword "as" ts) || opensAny ts || startsLiteral ts ||
    (startsWith ['!'] ts && !startsWith ['!', '='] ts) ||
    (startsWith ['-'] ts && !startsWith ['-', '='] ts && !startsWith ['-', '>'] ts) ||
    (startsWith ['*'] ts && !startsWith ['*', '='] ts) ||
    (startsWith ['|'] ts && !startsWith ['|', '='] ts) ||
    (startsWith ['&'] ts && !startsWith ['&', '='] ts) || startsWith ['.', '.'] ts ||
    (startsWith ['<'] ts && !startsWith ['<', '='] ts && !startsWith ['<', '<', '='] ts) ||
    startsWith [':', ':'] ts || startsLifetime ts || startsWith ['#'] ts

/-- The fields of a struct, at most `fuel` of them; two dots and a value for the others come
last. -/
def structFieldsUpTo (g : Grammar) : (fuel : Nat) → Parse Unit
  | 0 => failure
  | fuel + 1 => do
    if ← next atEnd then return ()
    else if ← symbol? ['.', '.'] then
      if !(← next atEnd) then discard (g.expr true)
    else
      discard (outerAttributes g)
      let named ← member
      if ← next (fun ts => !named || startsWith [':'] ts) then
        symbol [':']
        discard (g.expr true)
      if !(← next atEnd) then
        symbol [',']
        structFieldsUpTo g fuel

/-- A path, a macro call or a struct. -/
def pathExpr (g : Grammar) (braces : Bool) : Parse ExprForm := do
  let (isQualified, p) ← anyPath g true
  if ← next (fun ts => !isQualified && p.isPlain && startsBang ts) then
    symbol ['!']
    return .expansion ((← anyGroup).1 == .brace)
  else if ← next (fun ts => braces && opens .brace ts) then
    group .brace do structFieldsUpTo g ((← get).length + 1)
    return .other
  else return if isQualified then .other else .constant (.path p)

/-- Whether a path as an expression is next. -/
def startsPathExpr (ts : List Token) : Bool :=
  startsPath ts || (startsKeyword "try" ts &&
    (startsWith ['!'] (afterTree ts) || startsWith [':', ':'] (afterTree ts)))

/-- Elements in brackets with commas between them, or one element and a count. -/
def bracketExpr (g : Grammar) : Parse Unit :=
  group .bracket do
    if !(← next atEnd) then
      discard (g.expr true)
      if ← symbol? [';'] then discard (g.expr true)
      else if ← symbol? [','] then discard (commaList (g.expr true))

/-- A condition that binds: its value is a comparison at most. -/
def letExpr (g : Grammar) (braces : Bool) : Parse Unit := do
  keyword "let"
  discard (alternatives g)
  symbol ['=']
  let e ← g.operand braces
  discard (g.operators braces Precedence.compare e)

/-- A jump out of a loop or block, with the label and the value that it has.  A labelled loop as
the value needs parentheses. -/
def breakExpr (g : Grammar) (braces : Bool) : Parse Unit := do
  keyword "break"
  let l ← lifetime?
  demand fun ts => !(l.isSome && startsWith [':'] ts)
  if ← next (fun ts => startsExpr ts && (braces || !opens .brace ts)) then discard (g.expr true)

/-- An expression without operators before it or anything after it. -/
def atom (g : Grammar) (braces : Bool) : Parse ExprForm := do
  if ← next startsLiteral then return .constant (← literal)
  else if ← next startsBlock then
    blockExpr g
    return .block
  else if ← next (fun ts => startsKeyword "async" ts && (opens .brace (afterTree ts) ||
      (startsKeyword "move" (afterTree ts) && opens .brace (afterTree (afterTree ts))))) then
    keyword "async"
    discard (keyword? "move")
    block g
    return .other
  else if ← next startsClosure then
    closure g braces
    return .other
  else if ← next (fun ts => startsKeyword "builtin" ts && startsWith ['#'] (afterTree ts)) then
    keyword "builtin"
    symbol ['#']
    discard name
    demand (opens .paren)
    discard anyGroup
    return .other
  else if ← next startsPathExpr then pathExpr g braces
  else if ← next (opens .paren) then
    callArgs g
    return .other
  else if ← next (startsKeyword "break") then
    breakExpr g braces
    return .other
  else if ← keyword? "continue" then
    discard lifetime?
    return .other
  else if ← next (startsAnyOf ["return", "yield"]) then
    discard word
    if ← next startsExpr then discard (g.expr true)
    return .other
  else if ← keyword? "become" then
    discard (g.expr true)
    return .other
  else if ← next (opens .bracket) then
    bracketExpr g
    return .other
  else if ← next (startsKeyword "let") then
    letExpr g braces
    return .other
  else if ← next (startsWith ['.', '.']) then rangeExpr g braces
  else if ← keyword? "_" then return .other
  else
    labelled g
    return .block

/-- The prefix operator of a reference, which may be raw. -/
def referenceMark : Parse Unit := do
  symbol ['&']
  if ← next (fun ts => startsKeyword "raw" ts && startsAnyOf ["mut", "const"] (afterTree ts)) then
    keyword "raw"
    discard word
  else discard (keyword? "mut")

def operandRule (g : Grammar) (braces : Bool) : Parse ExprForm := do
  let attributes ← outerAttributes g
  if ← next (startsWith ['&']) then
    referenceMark
    discard (g.operand braces)
    return .other
  else if ← next (fun ts => startsWith ['*'] ts || startsWith ['!'] ts || startsWith ['-'] ts) then
    discard token
    discard (g.operand braces)
    return .other
  else
    let e ← trailersRule g (← atom g braces)
    demand fun _ => attributes.isEmpty || !e.isRange
    return e

def exprRule (g : Grammar) (braces : Bool) : Parse ExprForm := do
  operatorsRule g braces Precedence.lowest (← operandRule g braces)

def leadingRule (g : Grammar) : Parse ExprForm := do
  discard (outerAttributes g)
  let isBlock ← next fun ts => startsBlock ts || startsLifetime ts
  if isBlock then
    if ← next startsLifetime then labelled g else blockExpr g
    if ← next (fun ts => startsPoint ts || startsWith ['?'] ts) then
      operatorsRule g true Precedence.lowest (← trailersRule g .block)
    else return .block
  else operatorsRule g true Precedence.lowest (← operandRule g true)

end Mapwright.Source.Grammar
