import Mapwright.Source.Grammar.Expressions

/-!
# Items

Structs, enums, impls, traits, modules, imports and aliases are read for what
they declare.  All other items only have to be well formed.
-/

namespace Mapwright.Source.Grammar

open Token Parse

/-! ## Visibility -/

/-- A visibility, which may be missing.  Parentheses that name no place belong to what follows. -/
def visibility : Parse Visibility := do
  if ← keyword? "pub" then
    match ← get with
    | .opening .paren :: .ident w :: rest =>
      if w == "in" then
        group .paren do
          keyword "in"
          return .within true (← namePath)
      else if ["crate", "self", "super"].contains w && atEnd rest then
        group .paren do return .within false ⟨false, [← word]⟩
      else return .everywhere
    | _ => return .everywhere
  else return .inherited

def isInherited : Visibility → Bool
  | .inherited => true
  | _ => false

/-! ## Functions -/

/-- A parameter, in whatever form it comes. -/
inductive AnyParam
  | self (self : SelfParam)
  | typed (param : FnParam)
  /-- Dots, which stand for more arguments. -/
  | variadic

namespace AnyParam

def self? : AnyParam → Option SelfParam
  | .self s => some s
  | _ => none

def typed? : AnyParam → Option FnParam
  | .typed p => some p
  | _ => none

def isVariadic : AnyParam → Bool
  | .variadic => true
  | _ => false

end AnyParam

def selfParam (g : Grammar) : Parse SelfParam := do
  let reference ← symbol? ['&']
  let lifetime ← if reference then lifetime? else pure none
  let mutable ← keyword? "mut"
  keyword "self"
  if reference then return ⟨true, lifetime, mutable, false⟩
  else if ← symbol? [':'] then
    discard (wholeType g)
    return ⟨false, none, mutable, true⟩
  else return ⟨false, none, mutable, false⟩

def PatternForm.name? : PatternForm → Option String
  | .name x => some x
  | _ => none

/-- A parameter.  A name with arguments in angle brackets is a type that has no pattern. -/
def anyParam (g : Grammar) : Parse AnyParam := do
  discard (outerAttributes g)
  if ← symbol? ['.', '.', '.'] then return .variadic
  else
    match StateT.run (selfParam g) (← get) with
    | some (s, rest) =>
      set rest
      return .self s
    | none =>
      if ← next (fun ts => startsName ts && startsWith ['<'] (afterTree ts)) then
        return .typed ⟨none, ← wholeType g⟩
      else
        let pattern ← g.pattern
        symbol [':']
        if ← symbol? ['.', '.', '.'] then return .variadic
        else return .typed ⟨PatternForm.name? pattern, ← wholeType g⟩

/-- Parameters in parentheses: only the first may be `self`, and dots come last. -/
def params (g : Grammar) : Parse (List AnyParam) :=
  group .paren do
    let ps ← commaList (anyParam g)
    demand fun _ => ps.tail.all (·.self?.isNone) && ps.dropLast.all (!·.isVariadic)
    return ps

/-- Whether a function is next.  Where `safe` allows it, that word may stand for `unsafe`. -/
def startsSignature (safe : Bool) (ts : List Token) : Bool :=
  let skip (words : List String) (ts : List Token) := if startsAnyOf words ts then ts.drop 1 else ts
  let ts := skip (if safe then ["safe", "unsafe"] else ["unsafe"]) (skip ["async"] (skip ["const"] ts))
  let ts := if startsKeyword "extern" ts then
      if startsText (ts.drop 1) then ts.drop 2 else ts.drop 1
    else ts
  startsKeyword "fn" ts

def signature (g : Grammar) (safe : Bool) : Parse Signature := do
  let isConst ← keyword? "const"
  let isAsync ← keyword? "async"
  let unsafety ← keyword? "unsafe"
  if !unsafety && safe then discard (keyword? "safe")
  let foreign ← convention?
  keyword "fn"
  let name ← name
  let generic ← generics g
  let ps ← params g
  let output ← output? g true
  discard (whereClause? g)
  return {
    qualifiers := ⟨isConst, isAsync, unsafety, foreign⟩
    name, generic, output
    receiver := ps.head?.bind (·.self?)
    params := ps.filterMap (·.typed?) }

/-- A body, or the semicolon in its place; says whether it is a body. -/
def body? (g : Grammar) : Parse Bool := do
  if ← symbol? [';'] then return false
  else
    body g
    return true

/-! ## Structs and enums -/

/-- A named field.  One without a name may be a struct without a name, nested at most `fuel`
deep. -/
def namedFieldUpTo (g : Grammar) : (fuel : Nat) → Parse (String × TypeExpr)
  | 0 => failure
  | fuel + 1 => do
    discard (outerAttributes g)
    discard visibility
    let name ← nameOr ["_"]
    symbol [':']
    if ← next (fun ts => name == "_" && (startsKeyword "struct" ts ||
        (startsKeyword "union" ts && opens .brace (afterTree ts)))) then
      discard word
      discard (group .brace (commaList (namedFieldUpTo g fuel)))
      return (name, .unspelled)
    else return (name, ← wholeType g)

def namedFields (g : Grammar) : Parse (List (String × TypeExpr)) := do
  let fuel := (← get).length
  group .brace (commaList (namedFieldUpTo g fuel))

def positionalField (g : Grammar) : Parse Unit := do
  discard (outerAttributes g)
  discard visibility
  discard (wholeType g)

def positionalFields (g : Grammar) : Parse Unit :=
  discard (group .paren (commaList (positionalField g)))

def structItem (g : Grammar) : Parse Item := do
  keyword "struct"
  let name ← name
  discard (generics g)
  let constrained ← whereClause? g
  if ← next (fun ts => !constrained && opens .paren ts) then
    positionalFields g
    discard (whereClause? g)
    symbol [';']
    return .struct name .positional
  else if ← next (opens .brace) then return .struct name (.named (← namedFields g))
  else
    symbol [';']
    return .struct name .unit

def variant (g : Grammar) : Parse Unit := do
  discard (outerAttributes g)
  discard visibility
  discard name
  if ← next (opens .brace) then discard (namedFields g)
  else if ← next (opens .paren) then positionalFields g
  if ← symbol? ['='] then discard (g.expr true)

def enumItem (g : Grammar) : Parse Item := do
  keyword "enum"
  let name ← name
  discard (generics g)
  discard (whereClause? g)
  discard (group .brace (commaList (variant g)))
  return .enumeration name

def unionItem (g : Grammar) : Parse Unit := do
  keyword "union"
  discard name
  discard (generics g)
  discard (whereClause? g)
  discard (namedFields g)

/-! ## Constants, types and macros -/

/-- The type and the value of a constant.  The type may be missing only if `untyped` allows it and
there is a value. -/
def constRest (g : Grammar) (untyped : Bool) : Parse Unit := do
  if !(← next (fun ts => untyped && startsWith ['='] ts)) then
    symbol [':']
    discard (wholeType g)
  if ← symbol? ['='] then discard (g.expr true)

def constItem (g : Grammar) (untyped : Bool) : Parse Unit := do
  keyword "const"
  discard (nameOr ["_"])
  discard (generics g)
  constRest g untyped
  discard (whereClause? g)
  symbol [';']

def staticItem (g : Grammar) (untyped : Bool) : Parse Unit := do
  keyword "static"
  discard (keyword? "mut")
  discard name
  constRest g untyped
  symbol [';']

/-- Bounds with plus signs between them and perhaps after them, until the tokens that are left pass
a test. -/
def boundsUntil (g : Grammar) (stop : List Token → Bool) : Parse (List Bound) :=
  separated stop ['+'] (boundRule g false true)

/-- A type with a name.  Its `where` clause stands before or after its definition; without bounds
the definition counts. -/
def typeItem (g : Grammar) (early late : Bool) : Parse (String × Option TypeExpr) := do
  keyword "type"
  let name ← name
  discard (generics g)
  let bounded ← symbol? [':']
  if bounded then
    discard (boundsUntil g fun ts =>
      startsKeyword "where" ts || startsWith ['='] ts || startsWith [';'] ts)
  let constrained ← if early then whereClause? g else pure false
  let type ← if ← symbol? ['='] then do pure (some (← wholeType g)) else pure none
  if late && !constrained then discard (whereClause? g)
  symbol [';']
  return (name, if bounded then none else type)

/-- Whether a macro call may be next. -/
def startsMacro (ts : List Token) : Bool :=
  startsName ts || startsAnyOf ["self", "super", "crate"] ts || startsWith [':', ':'] ts

/-- A macro call in the place of an item, which ends in a semicolon or a brace. -/
def macroItem (named : Bool) : Parse Unit := do
  discard namePath
  symbol ['!']
  if ← next (fun ts => named && (startsName ts || startsKeyword "try" ts)) then discard word
  if (← anyGroup).1 != .brace then symbol [';']

/-- A macro that is defined as an item of its own kind. -/
def macroDefinition : Parse Unit := do
  keyword "macro"
  discard name
  if ← next (opens .paren) then discard anyGroup
  demand (opens .brace)
  discard anyGroup

/-! ## Traits and impls -/

/-- A member of a trait, if it is a function without a visibility or `default` before it. -/
def traitMember (g : Grammar) : Parse (Option TraitFn) := do
  discard (outerAttributes g)
  let vis ← visibility
  let default ← keyword? "default"
  let plain := isInherited vis && !default
  if ← next (startsSignature false) then
    let signature ← signature g false
    let hasBody ← body? g
    return if plain then some ⟨signature, hasBody⟩ else none
  else if ← next (startsKeyword "const") then
    constItem g false
    return none
  else if ← next (startsKeyword "type") then
    discard (typeItem g false true)
    return none
  else
    demand fun ts => plain && startsMacro ts
    macroItem false
    return none

/-- A trait with the attributes before it, or, if it may be, a name for bounds. -/
def traitItem (g : Grammar) (outer : List Attribute) (vis : Visibility) : Parse Item := do
  let unsafety ← keyword? "unsafe"
  let auto ← keyword? "auto"
  keyword "trait"
  let name ← name
  let generic ← generics g
  if ← next (fun ts => !unsafety && !auto && startsWith ['='] ts) then
    symbol ['=']
    discard (boundsUntil g fun ts => startsKeyword "where" ts || startsWith [';'] ts)
    discard (whereClause? g)
    symbol [';']
    return .other
  else
    if ← symbol? [':'] then
      discard (boundsUntil g fun ts => startsKeyword "where" ts || opens .brace ts)
    discard (whereClause? g)
    group .brace do
      let inner ← innerAttributes g
      let members ← many atEnd (traitMember g)
      return .trait ⟨outer ++ inner, vis, name, generic, members.filterMap id⟩

/-- A member of an impl, if it is a function with a body. -/
def implMember (g : Grammar) : Parse (Option Signature) := do
  discard (outerAttributes g)
  let vis ← visibility
  let default ← next fun ts => startsKeyword "default" ts && !startsWith ['!'] (afterTree ts)
  if default then keyword "default"
  if ← next (startsSignature false) then
    let signature ← signature g false
    return if ← body? g then some signature else none
  else if ← next (startsKeyword "const") then
    constItem g false
    return none
  else if ← next (startsKeyword "type") then
    discard (typeItem g false true)
    return none
  else
    demand fun ts => isInherited vis && !default && startsMacro ts
    macroItem false
    return none

/-- The members of an impl. -/
def implBody (g : Grammar) : Parse (List Signature) := do
  discard (whereClause? g)
  group .brace do
    discard (innerAttributes g)
    return (← many atEnd (implMember g)).filterMap id

def isPath : TypeExpr → Bool
  | .path _ => true
  | _ => false

/-- An impl.  One with a visibility, a `const` one, and one of a trait that is no path declare
nothing. -/
def implItem (g : Grammar) (vis : Visibility) : Parse Item := do
  discard (keyword? "default")
  discard (keyword? "unsafe")
  keyword "impl"
  if ← next choosesGenerics then discard (generics g)
  let isConst ← next fun ts => startsKeyword "const" ts ||
    (startsWith ['?'] ts && startsKeyword "const" (afterTree ts))
  if isConst then
    discard (symbol? ['?'])
    keyword "const"
  let negative ← next fun ts => startsWith ['!'] ts && !opens .brace (afterTree ts)
  if negative then symbol ['!']
  let first ← wholeType g
  let plain := isInherited vis && !isConst
  if ← keyword? "for" then
    let self ← wholeType g
    let methods ← implBody g
    return if plain && isPath first then .implementation true self methods else .other
  else
    demand fun _ => !negative
    let methods ← implBody g
    return if plain then .implementation false first methods else .other

/-! ## Imports and modules -/

/-- A tree of imports, nested at most `fuel` deep.  Where `rooted` allows it, one in a group may
begin with a separator; then the item declares nothing. -/
def useTreeUpTo : (fuel : Nat) → (rooted : Bool) → Parse (Option UseTree)
  | 0, _ => failure
  | fuel + 1, rooted => do
    if ← next (fun ts => startsName ts || startsAnyOf ["self", "super", "crate", "try"] ts) then
      let w ← word
      if ← symbol? [':', ':'] then return (← useTreeUpTo fuel false).map (.path w)
      else if ← keyword? "as" then return some (.rename w (← nameOr ["_"]))
      else return some (.name w)
    else if ← symbol? ['*'] then return some .glob
    else
      let trees ← group .brace (commaList do
        let absolute ← if rooted then symbol? [':', ':'] else pure false
        let tree ← useTreeUpTo fuel (rooted && !absolute)
        return if absolute then none else tree)
      return (trees.mapM id).map .group

def useItem : Parse Item := do
  keyword "use"
  let absolute ← symbol? [':', ':']
  let tree ← useTreeUpTo ((← get).length + 1) !absolute
  symbol [';']
  return match tree with
    | some tree => .use tree
    | none => .other

def externCrate : Parse Unit := do
  keyword "extern"
  keyword "crate"
  discard (nameOr ["self"])
  if ← keyword? "as" then discard (nameOr ["_"])
  symbol [';']

/-- A member of a block of foreign declarations. -/
def foreignMember (g : Grammar) : Parse Unit := do
  discard (outerAttributes g)
  let vis ← visibility
  if ← next (startsSignature true) then
    discard (signature g true)
    discard (body? g)
  else if ← next (fun ts => startsKeyword "static" ts ||
      (startsAnyOf ["unsafe", "safe"] ts && startsKeyword "static" (afterTree ts))) then
    if ← next (startsAnyOf ["unsafe", "safe"]) then discard word
    staticItem g false
  else if ← next (startsKeyword "type") then discard (typeItem g true true)
  else
    demand fun ts => isInherited vis && startsMacro ts
    macroItem false

def foreignModule (g : Grammar) : Parse Unit := do
  discard (keyword? "unsafe")
  demand (startsKeyword "extern")
  discard convention?
  group .brace do
    discard (innerAttributes g)
    discard (many atEnd (foreignMember g))

def moduleItem (g : Grammar) : Parse Item := do
  discard (keyword? "unsafe")
  keyword "mod"
  discard (nameOr ["try"])
  if ← symbol? [';'] then return .module none
  else
    group .brace do
      discard (innerAttributes g)
      return .module (some (← g.items))

/-! ## All items -/

/-- Whether a block of foreign declarations is next. -/
def startsForeign (ts : List Token) : Bool :=
  startsKeyword "extern" ts || (startsKeyword "unsafe" ts && startsKeyword "extern" (afterTree ts))

/-- Whether a trait is next. -/
def startsTrait (ts : List Token) : Bool :=
  let ts := if startsKeyword "unsafe" ts then afterTree ts else ts
  startsKeyword "trait" ts || (startsKeyword "auto" ts && startsKeyword "trait" (afterTree ts))

/-- Whether an impl is next. -/
def startsImpl (ts : List Token) : Bool :=
  startsKeyword "impl" ts || (startsKeyword "unsafe" ts && startsKeyword "impl" (afterTree ts)) ||
    (startsKeyword "default" ts && !startsWith ['!'] (afterTree ts))

/-- Whether a module is next. -/
def startsModule (ts : List Token) : Bool :=
  startsKeyword "mod" ts || (startsKeyword "unsafe" ts && startsKeyword "mod" (afterTree ts))

/-- The item of which the attributes have been read. -/
def itemRest (g : Grammar) (outer : List Attribute) : Parse Item := do
  let vis ← visibility
  if ← next (startsSignature false) then
    discard (signature g false)
    discard (body? g)
    return .other
  else if ← next (fun ts => startsKeyword "extern" ts && startsKeyword "crate" (afterTree ts)) then
    externCrate
    return .other
  else if ← next startsForeign then
    demand fun _ => isInherited vis
    foreignModule g
    return .other
  else if ← next (startsKeyword "use") then useItem
  else if ← next (startsKeyword "static") then
    staticItem g true
    return .other
  else if ← next (startsKeyword "const") then
    constItem g true
    return .other
  else if ← next startsTrait then traitItem g outer vis
  else if ← next startsImpl then implItem g vis
  else if ← next startsModule then moduleItem g
  else if ← next (startsKeyword "type") then
    match ← typeItem g true false with
    | (name, some type) => return .alias name type
    | _ => return .other
  else if ← next (startsKeyword "struct") then structItem g
  else if ← next (startsKeyword "enum") then enumItem g
  else if ← next (fun ts => startsKeyword "union" ts && startsName (afterTree ts)) then
    unionItem g
    return .other
  else if ← next (startsKeyword "macro") then
    macroDefinition
    return .other
  else
    demand fun ts => isInherited vis && startsMacro ts
    macroItem true
    return .other

def item (g : Grammar) : Parse Item := do
  itemRest g (← outerAttributes g)

/-- The items up to the end of a module. -/
def itemsRule (g : Grammar) : Parse (List Item) := many atEnd (item g)

end Mapwright.Source.Grammar
