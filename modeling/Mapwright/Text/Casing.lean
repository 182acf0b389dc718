import Mapwright.Text.Letter

/-!
# Identifier casing

`snakeCase` turns the casing of type names into that of file names and
`camelCase` turns the casing of function names into that of type names.
-/

namespace Mapwright.Text

/-! ## Snake case -/

/-- Whether a word begins at the capital `c`: after a lower-case letter or a digit, or after
another capital if a lower-case letter follows. -/
def beginsWord (previous : Option Char) (next : Option Char) : Bool :=
  match previous with
  | none => false
  | some p =>
    isLowerCase p || p.isDigit || (isUpperCase p && (match next with
      | some n => isLowerCase n
      | none => false))

/-- The rest of a name in snake case, after the character `previous`.  No underscore is put next
to one that is there. -/
def snakeAfter (previous : Option Char) : List Char → List Char
  | [] => []
  | c :: cs =>
    if isUpperCase c then
      if beginsWord previous cs.head? then '_' :: lowerCase c ++ snakeAfter (some c) cs
      else lowerCase c ++ snakeAfter (some c) cs
    else c :: snakeAfter (some c) cs

/-- A name in snake case: `HTTPMapper` becomes `http_mapper`. -/
def snakeCase (name : String) : String := String.ofList (snakeAfter none name.toList)

/-! ## Camel case -/

/-- A name without its underscores, each part between them with a capital. -/
def camelAfter (partBegins : Bool) : List Char → List Char
  | [] => []
  | c :: cs =>
    if c = '_' then camelAfter true cs
    else if partBegins then upperCase c ++ camelAfter false cs
    else c :: camelAfter false cs

/-- A name in camel case: `to_dto` becomes `ToDto`. -/
def camelCase (name : String) : String := String.ofList (camelAfter true name.toList)

end Mapwright.Text
