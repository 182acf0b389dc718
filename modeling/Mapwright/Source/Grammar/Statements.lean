import Mapwright.Source.Grammar.Items

/-!
# Statements

A block is a row of statements: bindings, items, macro calls and expressions.
An expression that is no block has a semicolon after it unless it is the last
one.
-/

namespace Mapwright.Source.Grammar

open Token Parse

/-! ## Telling statements apart -/

/-- Whether a test holds of what follows a path and an exclamation mark. -/
def startsCall (test : List Token → Bool) (ts : List Token) : Bool :=
  match StateT.run namePath ts with
  | some (_, rest) => startsWith ['!'] rest && test (afterTree rest)
  | none => false

/-- Whether a macro call with braces is next that is a statement by itself. -/
def startsMacroStatement : List Token → Bool :=
  startsCall fun ts => opens .brace ts &&
    !(startsPoint (afterTree ts) || startsWith ['?'] (afterTree ts))

/-- Whether a macro call that names something is next. -/
def startsNamedMacro : List Token → Bool :=
  startsCall fun ts => startsName ts || startsKeyword "try" ts

/-- Words that always begin an item. -/
def itemWords : List String :=
  ["pub", "extern", "use", "fn", "mod", "type", "struct", "enum", "trait", "impl", "macro"]

/-- Whether an item is next. -/
def startsItem (ts : List Token) : Bool :=
  let second := afterTree ts
  let third := afterTree second
  startsAnyOf itemWords ts ||
    (startsKeyword "crate" ts && !startsWith [':', ':'] second) ||
    (startsKeyword "static" ts && (startsKeyword "mut" second || startsName second)) ||
    (startsKeyword "const" ts && !(opens .brace second || startsAnyOf ["static", "move"] second ||
      startsWith ['|'] second ||
      (startsKeyword "async" second && !startsAnyOf ["unsafe", "extern", "fn"] third))) ||
    (startsKeyword "unsafe" ts && !opens .brace second) ||
    (startsKeyword "async" ts && startsAnyOf ["unsafe", "extern", "fn"] second) ||
    (startsKeyword "union" ts && startsName second) ||
    (startsKeyword "auto" ts && startsKeyword "trait" second) ||
    (startsKeyword "default" ts && startsAnyOf ["unsafe", "impl"] second) ||
    startsNamedMacro ts

/-! ## Statements -/

/-- Whether the tokens up to a rest of them end in a brace. -/
def endsInBrace (ts rest : List Token) : Bool :=
  (ts.take (ts.length - rest.length)).getLast? == some (.closing .brace)

/-- A binding.  A block for the case that the pattern does not match cannot follow a value that ends
in a brace. -/
def letStatement (g : Grammar) : Parse Unit := do
  keyword "let"
  discard g.pattern
  if ← symbol? [':'] then discard (wholeType g)
  if ← symbol? ['='] then
    let ts ← get
    discard (g.expr true)
    if ← next (fun rest => !endsInBrace ts rest && startsKeyword "else" rest) then
      keyword "else"
      block g
  symbol [';']

/-- A statement; says whether it needs a semicolon before another one. -/
def statement (g : Grammar) : Parse Bool := do
  let outer ← outerAttributes g
  if ← next startsMacroStatement then
    discard namePath
    symbol ['!']
    discard anyGroup
    discard (symbol? [';'])
    return false
  else if ← next (startsKeyword "let") then
    letStatement g
    return false
  else if ← next startsItem then
    discard (itemRest g outer)
    return false
  else
    let e ← leadingRule g
    return !(← symbol? [';']) && e.needsSemicolon

/-- At most `fuel` statements and empty statements, up to the end of a block. -/
def statementsUpTo (g : Grammar) : (fuel : Nat) → Parse Unit
  | 0 => failure
  | fuel + 1 => do
    if ← next atEnd then return ()
    else if ← symbol? [';'] then statementsUpTo g fuel
    else
      let needsSemicolon ← statement g
      demand fun ts => !needsSemicolon || atEnd ts
      statementsUpTo g fuel

def statementsRule (g : Grammar) : Parse Unit := do
  statementsUpTo g ((← get).length + 1)

end Mapwright.Source.Grammar
