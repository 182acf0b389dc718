import Mapwright.Source.Grammar

/-!
# Marker arguments

What may be said of a mapping in its attribute: whether wrappers are wanted, the
base, and the name of the implementation.  Arguments are read in order up to the
first fault; of arguments of one name the last counts.
-/

namespace Mapwright.Source

open Token

/-- An argument of the marker. -/
inductive Argument
  | wrappers (wanted : Bool)
  | base (path : Path)
  | implName (name : String)

/-- What the arguments of a marker say together. -/
structure MarkerSettings where
  wrappers : Bool
  base : Option Path
  implName : Option String

namespace MarkerSettings

def unset : MarkerSettings := ⟨false, none, none⟩

def update (s : MarkerSettings) : Argument → MarkerSettings
  | .wrappers wanted => { s with wrappers := wanted }
  | .base path => { s with base := some path }
  | .implName name => { s with implName := some name }

def ofArguments (arguments : List Argument) : MarkerSettings := arguments.foldl update unset

end MarkerSettings

/-- What is read from the head of some tokens, and the tokens after it. -/
abbrev Reading (α : Type) := Except ArgumentFault (α × List Token)

/-! ## Names of arguments -/

/-- The tokens after the further segments of an argument's name. -/
def skipSegments : List Token → Except ArgumentFault (List Token)
  | .punct ':' true :: .punct ':' _ :: .ident _ :: ts => skipSegments ts
  | .punct ':' true :: .punct ':' _ :: ts => .error (.expectedIdent ts.isEmpty)
  | ts => .ok ts

/-- The name of an argument, if it is a single word.  Every word may begin one. -/
def argumentName (ts : List Token) : Reading (Option String) :=
  let absolute := startsWith [':', ':'] ts
  match if absolute then ts.drop 2 else ts with
  | .ident w :: rest =>
    match skipSegments rest with
    | .ok after =>
      .ok (if absolute || after.length < rest.length then none else some w, after)
    | .error e => .error e
  | [] => .error .expectedArgument
  | ts => .error (if startsLiteral ts then .literalArgument else .tokenArgument)

/-! ## Values -/

/-- The tokens after an equals sign. -/
def dropEquals : List Token → Except ArgumentFault (List Token)
  | .punct '=' _ :: ts => .ok ts
  | _ => .error .expectedEquals

/-- What is wrong if no name is next. -/
def nameFault : List Token → ArgumentFault
  | .ident w :: _ => .foundKeyword w
  | ts => .expectedIdentifier ts.isEmpty

/-- What is wrong if no path is next.  It is told of the names of the path only: what is wrong inside
the arguments of a segment counts as a missing name after them. -/
def pathFault : List Token → ArgumentFault
  | .ident w :: .punct ':' true :: .punct ':' _ :: ts =>
    if startsPathSegment w then pathFault ts else .foundKeyword w
  | .ident w :: ts => if startsPathSegment w then .expectedIdentifier ts.isEmpty else .foundKeyword w
  | ts => .expectedIdentifier ts.isEmpty
where
  startsPathSegment (w : String) : Bool :=
    !isKeyword w || ["super", "self", "Self", "crate", "try"].contains w

def boolValue : List Token → Reading Bool
  | .ident "true" :: ts => .ok (true, ts)
  | .ident "false" :: ts => .ok (false, ts)
  | ts => .error (.expectedBoolean ts.isEmpty)

def nameValue (ts : List Token) : Reading String :=
  match StateT.run Parse.name ts with
  | some found => .ok found
  | none => .error (nameFault ts)

def pathValue (ts : List Token) : Reading Path :=
  match StateT.run (Grammar.path (Grammar.ofTokens ts) false) ts with
  | some found => .ok found
  | none => .error (pathFault (if startsWith [':', ':'] ts then ts.drop 2 else ts))

/-! ## Arguments -/

/-- The argument at the head of some tokens.  Wrappers are wanted if nothing else is said. -/
def argument (ts : List Token) : Except ArgumentFault (Argument × List Token) := do
  let (name, ts) ← argumentName ts
  match name with
  | some "generate_wrapper" =>
    if startsWith ['='] ts then
      let (wanted, ts) ← boolValue (ts.drop 1)
      return (.wrappers wanted, ts)
    else return (.wrappers true, ts)
  | some "base" =>
    let (path, ts) ← pathValue (← dropEquals ts)
    return (.base path, ts)
  | some "impl_name" =>
    let (name, ts) ← nameValue (← dropEquals ts)
    return (.implName name, ts)
  | _ => .error .unknownArgument

/-- Arguments with commas between them and perhaps after them; at most `fuel` of them. -/
def argumentsUpTo : (fuel : Nat) → List Token → Except ArgumentFault (List Argument)
  | 0, _ => .ok []
  | _ + 1, [] => .ok []
  | fuel + 1, ts => do
    let (a, rest) ← argument ts
    match rest with
    | [] => return [a]
    | .punct ',' _ :: rest => return a :: (← argumentsUpTo fuel rest)
    | _ => .error .expectedComma

/-- The arguments that some tokens make up. -/
def arguments (ts : List Token) : Except ArgumentFault (List Argument) :=
  argumentsUpTo (ts.length + 1) ts

/-- The start of an attribute, with nothing for its arguments. -/
def Attribute.outline (a : Attribute) : String :=
  (if a.inner then "#!" else "#") ++ "[" ++ a.path.render ++ "(...)]"

/-- What the attribute of a mapping says. -/
def Attribute.settings (a : Attribute) : Except ArgumentFault MarkerSettings :=
  match a.input with
  | .none => .ok .unset
  | .list tokens => (arguments tokens).map .ofArguments
  | .value => .error (.noParentheses a.outline)

end Mapwright.Source
