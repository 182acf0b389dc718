import Mapwright.Source.Grammar.Attributes

/-!
# Types, paths and bounds

The rules for types and what belongs to them: paths and their arguments, bounds,
generic parameters and `where` clauses.
-/

namespace Mapwright.Source

/-- Whether there are no arguments, or none in the brackets. -/
def SegmentArgs.isEmpty : SegmentArgs → Bool
  | .none => true
  | .angled [] => true
  | _ => false

namespace Path

def segmentsOpen : List Segment → Bool
  | [] => false
  | [s] => s.args.isEmpty
  | _ :: ss => segmentsOpen ss

/-- Whether the last segment can still take arguments. -/
def isOpen (p : Path) : Bool := segmentsOpen p.segments

def closeSegments (args : SegmentArgs) : List Segment → List Segment
  | [] => []
  | [s] => [⟨s.name, args⟩]
  | s :: ss => s :: closeSegments args ss

/-- The path with arguments for its last segment. -/
def close (p : Path) (args : SegmentArgs) : Path := ⟨p.absolute, closeSegments args p.segments⟩

def append (p : Path) (ss : List Segment) : Path := ⟨p.absolute, p.segments ++ ss⟩

end Path

namespace Grammar

open Token Parse

/-- A type, wherever it may be a sum of bounds. -/
def wholeType (g : Grammar) : Parse TypeExpr := return (← g.type true).1

/-- A type after a prefix. -/
def plainType (g : Grammar) : Parse TypeExpr := return (← g.type false).1

/-- The type that a function returns, if it is written. -/
def output? (g : Grammar) (plus : Bool) : Parse (Option TypeExpr) := do
  if ← symbol? ['-', '>'] then return some (← g.type plus).1 else return none

/-! ## Arguments -/

/-- The name that an argument of the given type binds if a type, a value or bounds follow it. -/
def boundName? : TypeExpr → Option String
  | .path ⟨false, [⟨name, .none⟩]⟩ => some name
  | .path ⟨false, [⟨name, .angled _⟩]⟩ => some name
  | _ => none

/-- Whether a constant argument is next. -/
def startsConst (ts : List Token) : Bool := startsLiteral ts || opens .brace ts

/-- A constant as an argument: a literal or a block. -/
def constArg (g : Grammar) : Parse ConstExpr := do
  if ← next startsLiteral then literal
  else
    body g
    return .computed

/-- An argument in angle brackets. -/
def genericArg (g : Grammar) : Parse GenericArg := do
  if ← next (fun ts => startsLifetime ts && !startsWith ['+'] (afterTree ts)) then
    return .lifetime (← lifetime)
  else if ← next startsConst then return .const (← constArg g)
  else
    let type ← wholeType g
    match boundName? type with
    | none => return .type type
    | some name =>
      if ← symbol? ['='] then
        if ← next startsConst then return .assocConst name (← constArg g)
        else return .assocType name (← wholeType g)
      else if ← symbol? [':'] then
        let bounds ← chained (fun ts => startsWith [','] ts || startsWith ['>'] ts) ['+']
          (g.bound false true)
        return .constraint name bounds
      else return .type type

/-- Arguments in angle brackets, perhaps with a separator before them. -/
def angledArgs (g : Grammar) : Parse SegmentArgs := do
  discard (symbol? [':', ':'])
  symbol ['<']
  let args ← separated (startsWith ['>']) [','] (genericArg g)
  symbol ['>']
  return .angled args

/-- Arguments in parentheses and the type that they lead to. -/
def calledArgs (g : Grammar) : Parse SegmentArgs := do
  let inputs ← group .paren (commaList (wholeType g))
  let output ← output? g false
  return .called inputs output

/-- Whether arguments in parentheses are next, perhaps with a separator before them. -/
def startsCalled (ts : List Token) : Bool :=
  opens .paren ts || (startsWith [':', ':'] ts && opens .paren (afterTree (afterTree ts)))

/-! ## Paths -/

/-- Whether arguments in angle brackets are next.  In an expression they need a separator. -/
def startsAngled (inExpr : Bool) (ts : List Token) : Bool :=
  (!inExpr && startsWith ['<'] ts && !startsWith ['<', '='] ts && !startsWith ['<', '<', '='] ts) ||
    (startsWith [':', ':'] ts && startsWith ['<'] (afterTree (afterTree ts)))

def segment (g : Grammar) (inExpr : Bool) : Parse Segment := do
  if ← next (startsAnyOf ["super", "self", "crate", "try"]) then return ⟨← word, .none⟩
  else
    let name ← nameOr ["Self"]
    if ← next (startsAngled inExpr) then return ⟨name, ← angledArgs g⟩
    else return ⟨name, .none⟩

/-- The segments that follow, as far as no parenthesis comes after a separator. -/
def moreSegments (g : Grammar) (inExpr : Bool) : Parse (List Segment) :=
  many (fun ts => !startsWith [':', ':'] ts || opens .paren (afterTree (afterTree ts))) do
    symbol [':', ':']
    segment g inExpr

def path (g : Grammar) (inExpr : Bool) : Parse Path := do
  let absolute ← symbol? [':', ':']
  let first ← segment g inExpr
  let rest ← moreSegments g inExpr
  return ⟨absolute, first :: rest⟩

/-- A path that may begin with a type in angle brackets, perhaps one as a trait, and whether it
does.  Of the brackets the path keeps the trait. -/
def anyPath (g : Grammar) (inExpr : Bool) : Parse (Bool × Path) := do
  if ← symbol? ['<'] then
    discard (wholeType g)
    let root ← if ← keyword? "as" then path g false else pure ⟨true, []⟩
    symbol ['>']
    symbol [':', ':']
    let segments ← chained (fun _ => false) [':', ':'] (segment g inExpr)
    return (true, root.append segments)
  else return (false, ← path g inExpr)

/-- Whether segments may follow arguments in parentheses: not if an open type comes last. -/
def SegmentArgs.isClosed : SegmentArgs → Bool
  | .called _ none => true
  | .called _ (some (.paren _)) => true
  | _ => false

/-- A path with the arguments in parentheses that follow it; takes at most `fuel` of them. -/
def calledPathUpTo (g : Grammar) : (fuel : Nat) → Path → Parse Path
  | 0, p => return p
  | fuel + 1, p => do
    if ← next (fun ts => p.isOpen && startsCalled ts) then
      discard (symbol? [':', ':'])
      let args ← calledArgs g
      let rest ← if SegmentArgs.isClosed args then moreSegments g false else pure []
      calledPathUpTo g fuel ((p.close args).append rest)
    else return p

/-- A path with the arguments in parentheses that follow it. -/
def calledPath (g : Grammar) (p : Path) : Parse Path := do
  calledPathUpTo g (← get).length p

/-! ## Generic parameters -/

/-- A parameter in angle brackets.  Where `unnamed` allows it, an underscore is one too. -/
def genericParam (g : Grammar) (unnamed : Bool) : Parse Unit := do
  discard (outerAttributes g)
  if ← next startsLifetime then
    discard lifetime
    if ← symbol? [':'] then
      discard (chained (fun ts => startsWith [','] ts || startsWith ['>'] ts) ['+'] lifetime)
  else if ← next startsName then
    discard name
    if ← symbol? [':'] then
      discard (chained
        (fun ts => startsWith [','] ts || startsWith ['>'] ts || startsWith ['='] ts) ['+']
        (g.bound false true))
    if ← symbol? ['='] then discard (wholeType g)
  else if ← keyword? "const" then
    discard name
    symbol [':']
    discard (wholeType g)
    if ← symbol? ['='] then
      if ← next startsName then discard name else discard (constArg g)
  else
    demand fun _ => unnamed
    keyword "_"

/-- Parameters in angle brackets. -/
def angledParams (g : Grammar) (unnamed : Bool) : Parse (List Unit) := do
  symbol ['<']
  let params ← separated (startsWith ['>']) [','] (genericParam g unnamed)
  symbol ['>']
  return params

/-- The generic parameters of an item, which may be missing; says whether there are any. -/
def generics (g : Grammar) : Parse Bool := do
  if ← next (startsWith ['<']) then return !(← angledParams g true).isEmpty else return false

/-- The lifetimes that a bound or a function pointer binds itself, if there are such. -/
def binder? (g : Grammar) : Parse Bool := do
  if ← keyword? "for" then
    discard (angledParams g false)
    return true
  else return false

/-! ## Bounds -/

/-- The bound on a trait: `const`, a question mark and a path, of which the path alone is
necessary. -/
def traitBound (g : Grammar) (consts : Bool) : Parse Bound := do
  let early ← binder? g
  let isConst ← if ← next (opens .bracket) then
      group .bracket (keyword "const")
      pure true
    else keyword? "const"
  demand fun _ => consts || !isConst
  let relaxed ← symbol? ['?']
  let late ← if relaxed && !early then binder? g else pure false
  let p ← path g false
  let p ← if ← next (fun ts => p.isOpen && startsCalled ts) then
      discard (symbol? [':', ':'])
      pure (p.close (← calledArgs g))
    else pure p
  demand fun _ => !(relaxed && (early || late))
  return if isConst then .unspelled else .trait relaxed p

/-- What a type captures, after the keyword. -/
def captureList : Parse Unit := do
  symbol ['<']
  discard (separated (startsWith ['>']) [','] (do
    if ← next startsLifetime then discard lifetime else discard (nameOr ["Self"])))
  symbol ['>']

def boundRule (g : Grammar) (captures consts : Bool) : Parse Bound := do
  if ← next startsLifetime then return .lifetime (← lifetime)
  else if ← keyword? "use" then
    captureList
    demand fun _ => captures
    return .captures
  else if ← next (opens .paren) then group .paren (traitBound g consts)
  else traitBound g consts

/-- Whether a bound may be next. -/
def startsBound (consts : Bool) (ts : List Token) : Bool :=
  startsWord ts || startsWith [':', ':'] ts || startsWith ['?'] ts || startsLifetime ts ||
    opens .paren ts || (consts && opens .bracket ts)

/-- The bounds after a plus sign, the last of which may have another one after it. -/
def moreBounds (g : Grammar) (captures consts : Bool) : Parse (List Bound) := do
  if ← symbol? ['+'] then
    chained (fun ts => !startsBound consts ts) ['+'] (boundRule g captures consts)
  else return []

/-- Bounds with plus signs between them, or a single one where there may be no plus sign. -/
def bounds (g : Grammar) (plus captures consts : Bool) : Parse (List Bound) := do
  let first ← boundRule g captures consts
  if plus then return first :: (← moreBounds g captures consts) else return [first]

/-- Whether a bound is on a trait, `const` or not. -/
def boundsTrait : Bound → Bool
  | .trait _ _ => true
  | .unspelled => true
  | _ => false

/-- Bounds, one of them on a trait. -/
def traitBounds (g : Grammar) (plus captures consts : Bool) : Parse (List Bound) := do
  let bs ← bounds g plus captures consts
  demand fun _ => bs.any boundsTrait
  return bs

/-- Bounds, each after a plus sign. -/
def addedBounds (g : Grammar) : Parse (List Bound) :=
  many (fun ts => !startsWith ['+'] ts) do
    symbol ['+']
    boundRule g false false

/-! ## Types -/

/-- Whether dots follow, in place of more parameters, after a name and a colon or at once. -/
def startsVariadic (ts : List Token) : Bool :=
  startsWith ['.', '.', '.'] ts ||
    ((startsName ts || startsKeyword "_" ts) && startsWith [':'] (afterTree ts) &&
      startsWith ['.', '.', '.'] (afterTree (afterTree ts)))

/-- A parameter of a function pointer, unless dots stand in its place.  The first may be `self`,
which no generated code can repeat. -/
def pointerParam (g : Grammar) (first : Bool) : Parse (Option TypeExpr) := do
  discard (outerAttributes g)
  if ← next startsVariadic then
    if ← next startsWord then
      discard word
      symbol [':']
    symbol ['.', '.', '.']
    return none
  else
    let mutSelf (ts : List Token) : Bool :=
      first && startsKeyword "mut" ts && startsKeyword "self" (afterTree ts)
    let mutable ← next mutSelf
    if mutable then keyword "mut"
    let named ← next fun ts =>
      (startsName ts || startsKeyword "_" ts || (first && startsKeyword "self" ts)) &&
        startsColon (afterTree ts)
    let isSelf ← next fun ts => named && startsKeyword "self" ts
    if named then
      discard word
      symbol [':']
    if ← next (fun ts => !isSelf && mutSelf ts) then
      keyword "mut"
      keyword "self"
      return some .unspelled
    else if mutable && !named then
      keyword "self"
      return some .unspelled
    else
      let type ← wholeType g
      return some (if mutable then .unspelled else type)

/-- The parameters of a function pointer; dots come last. -/
def pointerParams (g : Grammar) : Parse (List TypeExpr) := do
  if ← next atEnd then return []
  else
    let first ← pointerParam g true
    let rest ← if ← symbol? [','] then commaList (pointerParam g false) else pure []
    demand fun _ => (first :: rest).dropLast.all (·.isSome)
    return (first :: rest).filterMap id

/-- A function pointer, which may have had a binder before it. -/
def functionPointer (g : Grammar) (binder : Bool) : Parse TypeExpr := do
  let unsafety ← keyword? "unsafe"
  let foreign ← convention?
  keyword "fn"
  let inputs ← group .paren (pointerParams g)
  let output ← output? g false
  return .function (!binder && !unsafety && !foreign) inputs output

/-- A path as a type, or a bare trait if there was a binder before it or bounds follow. -/
def pathType (g : Grammar) (plus binder : Bool) : Parse (TypeExpr × Option Bound) := do
  let (isQualified, p) ← anyPath g false
  let p ← calledPath g p
  if isQualified then return (.qualified p, none)
  else if ← next (fun ts => p.isPlain && startsBang ts) then
    symbol ['!']
    discard anyGroup
    return (.unspelled, none)
  else
    let b : Bound := .trait false p
    if ← next (fun ts => plus && startsWith ['+'] ts) then
      return (.traitObject (b :: (← moreBounds g false false)), none)
    else if binder then return (.traitObject [b], some b)
    else return (.path p, some b)

/-- What stands in parentheses as a type. -/
inductive Enclosed
  | tuple (elems : List TypeExpr)
  | type (type : TypeExpr) (bound : Option Bound)
  /-- A bound that is no type by itself. -/
  | bound (bound : Bound)

def enclosed (g : Grammar) : Parse Enclosed := do
  if ← next atEnd then return .tuple []
  else if ← next startsLifetime then
    return .type (.traitObject (← traitBounds g true false false)) none
  else if ← next (startsWith ['?']) then return .bound (← traitBound g false)
  else
    let (first, b) ← g.type true
    if ← symbol? [','] then return .tuple (first :: (← commaList (wholeType g)))
    else return .type first b

/-- A type in parentheses, a tuple, or a sum of bounds that begins with one in parentheses. -/
def parenType (g : Grammar) (plus : Bool) : Parse (TypeExpr × Option Bound) := do
  match ← group .paren (enclosed g) with
  | .tuple elems => return (.tuple elems, none)
  | .bound b =>
    match ← addedBounds g with
    | [] => return (.traitObject [b], some b)
    | more => return (.traitObject (b :: more), none)
  | .type type (some b) =>
    if ← next (fun ts => plus && startsWith ['+'] ts) then
      return (.traitObject (b :: (← addedBounds g)), none)
    else return (.paren type, none)
  | .type type none => return (.paren type, none)

/-- An array with its length, or a slice. -/
def bracketType (g : Grammar) : Parse TypeExpr :=
  group .bracket do
    let elem ← wholeType g
    if ← symbol? [';'] then return .array elem (← g.expr true).toConst
    else return .slice elem

def pointerType (g : Grammar) : Parse TypeExpr := do
  symbol ['*']
  let mutable ← keyword? "mut"
  if !mutable then keyword "const"
  return .pointer mutable (← plainType g)

def referenceType (g : Grammar) : Parse TypeExpr := do
  symbol ['&']
  let l ← lifetime?
  let mutable ← keyword? "mut"
  return .reference l mutable (← plainType g)

def dynType (g : Grammar) (plus : Bool) : Parse TypeExpr := do
  keyword "dyn"
  let star ← symbol? ['*']
  let bs ← traitBounds g plus false false
  return if star then .unspelled else .traitObject bs

def implType (g : Grammar) (plus : Bool) : Parse TypeExpr := do
  keyword "impl"
  return .implTrait (← traitBounds g plus true true)

/-- Whether a path as a type is next. -/
def startsPath (ts : List Token) : Bool :=
  startsPathWord ts || startsWith [':', ':'] ts || startsWith ['<'] ts

def typeRule (g : Grammar) (plus : Bool) : Parse (TypeExpr × Option Bound) := do
  let binder ← binder? g
  demand fun ts => !binder || startsPathWord ts || startsAnyOf ["fn", "unsafe", "extern"] ts
  if ← next (opens .paren) then parenType g plus
  else if ← next (startsAnyOf ["fn", "unsafe", "extern"]) then
    return (← functionPointer g binder, none)
  else if ← next startsPath then pathType g plus binder
  else if ← next (startsKeyword "dyn") then return (← dynType g plus, none)
  else if ← next (opens .bracket) then return (← bracketType g, none)
  else if ← next (startsWith ['*']) then return (← pointerType g, none)
  else if ← next (startsWith ['&']) then return (← referenceType g, none)
  else if ← symbol? ['!'] then return (.never, none)
  else if ← next (startsKeyword "impl") then return (← implType g plus, none)
  else if ← keyword? "_" then return (.inferred, none)
  else
    demand startsLifetime
    return (.traitObject (← traitBounds g true false false), none)

/-! ## Where clauses -/

/-- Whether the angle bracket that is next begins generic parameters, and not a path. -/
def choosesGenerics (ts : List Token) : Bool :=
  let second := afterTree ts
  let third := afterTree second
  startsWith ['<'] ts &&
    (startsWith ['>'] second || startsWith ['#'] second ||
      ((startsLifetime second || startsName second) &&
        (startsWith ['>'] third || startsWith [','] third || startsColon third ||
          startsWith ['='] third)) ||
      startsKeyword "const" second)

/-- Whether a `where` clause, or the bounds of one of its parts, end here. -/
def endsWhere (ts : List Token) : Bool :=
  atEnd ts || opens .brace ts || startsWith [','] ts || startsWith [';'] ts || startsColon ts ||
    startsWith ['='] ts

def wherePredicate (g : Grammar) : Parse Unit := do
  if ← next (fun ts => startsLifetime ts && startsWith [':'] (afterTree ts)) then
    discard lifetime
    symbol [':']
    discard (chained endsWhere ['+'] lifetime)
  else
    discard (binder? g)
    discard (wholeType g)
    symbol [':']
    discard (chained endsWhere ['+'] (g.bound false true))

/-- A `where` clause, which may be missing; says whether it is there. -/
def whereClause? (g : Grammar) : Parse Bool := do
  if ← keyword? "where" then
    demand fun ts => !choosesGenerics ts
    discard (chained endsWhere [','] (wherePredicate g))
    return true
  else return false

end Grammar

end Mapwright.Source
