/-!
# Tokens

What a source text consists of once blanks and comments are gone.  Delimiters
are tokens of their own.  An identifier written raw keeps the `r#` before it,
which sets it apart from keywords and from the plain identifier.
-/

namespace Mapwright.Source

/-- The brackets that come in pairs. -/
inductive Delimiter
  | paren
  | bracket
  | brace
deriving DecidableEq, Repr

/-- The kinds of literals. -/
inductive LiteralKind
  | string
  | byteString
  | cString
  | byte
  | char
  | int
  | float
  /-- What stands for an expression that could not be expanded. -/
  | placeholder
deriving DecidableEq, Repr

/-- A token. -/
inductive Token
  | ident (text : String)
  /-- A lifetime or label, with its apostrophe. -/
  | lifetime (text : String)
  /-- A punctuation character, and whether another one follows at once. -/
  | punct (c : Char) (joint : Bool)
  | literal (kind : LiteralKind) (text : String)
  | opening (d : Delimiter)
  | closing (d : Delimiter)
deriving DecidableEq, Repr

/-- The words that are no names. -/
def keywords : List String :=
  ["_", "abstract", "as", "async", "await", "become", "box", "break", "const", "continue", "crate",
    "do", "dyn", "else", "enum", "extern", "false", "final", "fn", "for", "if", "impl", "in", "let",
    "loop", "macro", "match", "mod", "move", "mut", "override", "priv", "pub", "ref", "return",
    "Self", "self", "static", "struct", "super", "trait", "true", "try", "type", "typeof", "unsafe",
    "unsized", "use", "virtual", "where", "while", "yield"]

def isKeyword (word : String) : Bool := keywords.contains word

end Mapwright.Source
