import Mapwright.Source.Token

/-!
# Parsing tokens

A parser takes tokens off the head of a list and gives a value, or gives up.
The tokens of a group end at a closing delimiter, so a parser of what is inside
never reads past it, and a group counts only if all of its tokens were read.

Repetition is bounded by the number of tokens that are left, which is more than
any number of steps that each take one.
-/

namespace Mapwright.Source

/-- A parser of values of type `α`. -/
abbrev Parse (α : Type) := StateT (List Token) Option α

/-! ## Looking ahead -/

namespace Token

/-- Whether punctuation spelled `sym` is next. -/
def startsWith : (sym : List Char) → List Token → Bool
  | [], _ => true
  | [c], .punct d _ :: _ => c == d
  | c :: sym, .punct d true :: ts => c == d && startsWith sym ts
  | _, _ => false

/-- Whether a word that can be a name is next. -/
def startsName : List Token → Bool
  | .ident w :: _ => !isKeyword w
  | _ => false

/-- Whether any word is next. -/
def startsWord : List Token → Bool
  | .ident _ :: _ => true
  | _ => false

/-- Whether the given word is next. -/
def startsKeyword (word : String) : List Token → Bool
  | .ident w :: _ => w == word
  | _ => false

/-- Whether one of the given words is next. -/
def startsAnyOf (words : List String) : List Token → Bool
  | .ident w :: _ => words.contains w
  | _ => false

def startsLifetime : List Token → Bool
  | .lifetime _ :: _ => true
  | _ => false

/-- Whether a group in the given delimiters is next. -/
def opens (d : Delimiter) : List Token → Bool
  | .opening d' :: _ => d == d'
  | _ => false

/-- Whether a text literal is next. -/
def startsText : List Token → Bool
  | .literal .string _ :: _ => true
  | _ => false

/-- Whether a literal is next: a truth value, or a number with a minus before it, is one too. -/
def startsLiteral : List Token → Bool
  | .literal _ _ :: _ => true
  | .ident w :: _ => w == "true" || w == "false"
  | .punct '-' _ :: .literal kind _ :: _ => kind == .int || kind == .float
  | _ => false

/-- Whether no token is left, or none of the present group. -/
def atEnd : List Token → Bool
  | [] => true
  | .closing _ :: _ => true
  | _ => false

/-- The tokens up to the delimiter that closes `depth` groups, and those after it. -/
def splitGroup : (depth : Nat) → List Token → Option (List Token × List Token)
  | _, [] => none
  | depth, .opening d :: ts =>
    (splitGroup (depth + 1) ts).map fun (body, rest) => (.opening d :: body, rest)
  | 0, .closing _ :: ts => some ([], ts)
  | depth + 1, .closing d :: ts =>
    (splitGroup depth ts).map fun (body, rest) => (.closing d :: body, rest)
  | depth, t :: ts => (splitGroup depth ts).map fun (body, rest) => (t :: body, rest)

/-- The tokens after the next one, where a group counts as one. -/
def afterTree : List Token → List Token
  | [] => []
  | .opening _ :: ts => ((splitGroup 0 ts).map (·.2)).getD []
  | .closing d :: ts => .closing d :: ts
  | _ :: ts => ts

end Token

namespace Parse

open Token

/-! ## Single tokens -/

/-- Whether the tokens that are left pass a test. -/
def next (test : List Token → Bool) : Parse Bool := return test (← get)

/-- Goes on only if the tokens that are left pass a test. -/
def demand (test : List Token → Bool) : Parse Unit := do
  if test (← get) then pure () else failure

/-- Takes the next token. -/
def token : Parse Token := do
  match ← get with
  | [] => failure
  | t :: ts => set ts; return t

/-- Takes punctuation. -/
def symbol (sym : List Char) : Parse Unit := do
  demand (startsWith sym)
  modify (·.drop sym.length)

/-- Takes punctuation if it is next, and says whether it was. -/
def symbol? (sym : List Char) : Parse Bool := do
  if startsWith sym (← get) then symbol sym; return true
  else return false

/-- Takes the given word. -/
def keyword (word : String) : Parse Unit := do
  demand (startsKeyword word)
  modify (·.drop 1)

/-- Takes the given word if it is next, and says whether it was. -/
def keyword? (word : String) : Parse Bool := do
  if startsKeyword word (← get) then keyword word; return true
  else return false

/-- Takes any word. -/
def word : Parse String := do
  match ← token with
  | .ident w => return w
  | _ => failure

/-- Takes a word that can be a name. -/
def name : Parse String := do
  demand startsName
  word

/-- Takes a name or one of the given keywords. -/
def nameOr (words : List String) : Parse String := do
  if startsAnyOf words (← get) then word else name

def lifetime : Parse String := do
  match ← token with
  | .lifetime l => return l
  | _ => failure

/-- Takes a lifetime if one is next. -/
def lifetime? : Parse (Option String) := do
  if startsLifetime (← get) then return some (← lifetime) else return none

/-! ## Groups -/

/-- Takes a group in the given delimiters, all of whose tokens `inside` takes. -/
def group {α : Type} (d : Delimiter) (inside : Parse α) : Parse α := do
  demand (opens d)
  modify (·.drop 1)
  let a ← inside
  match ← token with
  | .closing _ => return a
  | _ => failure

/-- Takes a group in any delimiters and gives these and the tokens inside. -/
def anyGroup : Parse (Delimiter × List Token) := do
  match ← token with
  | .opening d =>
    match splitGroup 0 (← get) with
    | some (body, rest) => set rest; return (d, body)
    | none => failure
  | _ => failure

/-- Whether a group in any delimiters is next. -/
def opensAny (ts : List Token) : Bool := opens .paren ts || opens .bracket ts || opens .brace ts

/-! ## Repetition -/

variable {α : Type}

def manyUpTo (stop : List Token → Bool) (p : Parse α) : (fuel : Nat) → Parse (List α)
  | 0 => failure
  | fuel + 1 => do
    if stop (← get) then return []
    else
      let a ← p
      return a :: (← manyUpTo stop p fuel)

/-- Values one after the other, until the tokens that are left pass a test. -/
def many (stop : List Token → Bool) (p : Parse α) : Parse (List α) := do
  manyUpTo stop p ((← get).length + 1)

def separatedUpTo (stop : List Token → Bool) (separator : List Char) (p : Parse α) :
    (fuel : Nat) → Parse (List α)
  | 0 => failure
  | fuel + 1 => do
    if stop (← get) then return []
    else
      let a ← p
      if stop (← get) then return [a]
      else
        symbol separator
        return a :: (← separatedUpTo stop separator p fuel)

/-- Values with a separator between them and perhaps after them, until the tokens that are left
pass a test. -/
def separated (stop : List Token → Bool) (separator : List Char) (p : Parse α) : Parse (List α) := do
  separatedUpTo stop separator p ((← get).length + 1)

def chainedUpTo (stop : List Token → Bool) (separator : List Char) (p : Parse α) :
    (fuel : Nat) → Parse (List α)
  | 0 => failure
  | fuel + 1 => do
    if stop (← get) then return []
    else
      let a ← p
      if ← symbol? separator then return a :: (← chainedUpTo stop separator p fuel)
      else return [a]

/-- Values with a separator between them and perhaps after them, as far as separators go or until
the tokens that are left pass a test. -/
def chained (stop : List Token → Bool) (separator : List Char) (p : Parse α) : Parse (List α) := do
  chainedUpTo stop separator p ((← get).length + 1)

/-- Values with commas between them and perhaps after them, up to the end of the group. -/
def commaList (p : Parse α) : Parse (List α) := separated atEnd [','] p

/-! ## Whole lists -/

/-- What a parser makes of a list of tokens that it takes to the end. -/
def run? (p : Parse α) (ts : List Token) : Option α :=
  match StateT.run p ts with
  | some (a, []) => some a
  | _ => none

end Parse

end Mapwright.Source
