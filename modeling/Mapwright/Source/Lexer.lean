import Mapwright.Source.Literal
import Mapwright.Text.Blank

/-!
# Lexing

A source text is split into tokens, with every bracket closed by its partner.
Blanks and comments go, but a documentation comment stays, as the attribute
that it stands for.

    ////  /***  /**/   comments       ///  //!  /**  /*!   documentation
-/

namespace Mapwright.Source

open Mapwright.Text

/-! ## Blanks and comments -/

/-- A blank between tokens; the marks of text direction count as blanks. -/
def isSpace (c : Char) : Bool := isBlank c || c.toNat == 0x200e || c.toNat == 0x200f

/-- What follows a block comment of which `depth` openings are to be closed. -/
def blockRest? : (depth : Nat) → List Char → Option (List Char)
  | _, [] => none
  | depth, '/' :: '*' :: cs => blockRest? (depth + 1) cs
  | depth, '*' :: '/' :: cs => if depth ≤ 1 then some cs else blockRest? (depth - 1) cs
  | depth, _ :: cs => blockRest? depth cs

/-- What follows the line, from its line feed on. -/
def lineRest (cs : List Char) : List Char := cs.dropWhile (· != '\n')

/-- Whether a text that begins with two slashes is a line of documentation. -/
def isLineDoc : List Char → Bool
  | '/' :: '/' :: '!' :: _ => true
  | '/' :: '/' :: '/' :: cs => cs.head? != some '/'
  | _ => false

/-- Whether a text that opens a block comment opens documentation. -/
def isBlockDoc : List Char → Bool
  | '/' :: '*' :: '!' :: _ => true
  | '/' :: '*' :: '*' :: '/' :: _ => false
  | '/' :: '*' :: '*' :: cs => cs.head? != some '*'
  | _ => false

/-- What follows the blanks and the comments at the head of a text; skips at most `fuel` of them. -/
def skipSpaceUpTo : (fuel : Nat) → List Char → List Char
  | 0, cs => cs
  | _ + 1, [] => []
  | fuel + 1, c :: cs =>
    if isSpace c then skipSpaceUpTo fuel cs
    else if c = '/' && cs.head? == some '/' && !isLineDoc (c :: cs) then
      skipSpaceUpTo fuel (lineRest cs)
    else if c = '/' && cs.head? == some '*' && !isBlockDoc (c :: cs) then
      match blockRest? 0 (c :: cs) with
      | some rest => skipSpaceUpTo fuel rest
      | none => c :: cs
    else c :: cs

/-- What follows the blanks and the comments at the head of a text. -/
def skipSpace (cs : List Char) : List Char := skipSpaceUpTo (cs.length + 1) cs

/-! ## Documentation -/

/-- Whether every carriage return has a line feed after it. -/
def returnsPaired : List Char → Bool
  | [] => true
  | '\r' :: '\n' :: cs => returnsPaired cs
  | '\r' :: _ => false
  | _ :: cs => returnsPaired cs

/-- A line without the carriage return at its end, which is there only before a line feed. -/
def docLine (cs : List Char) : List Char :=
  let l := cs.takeWhile (· != '\n')
  if l.length < cs.length && l.getLast? == some '\r' then l.dropLast else l

/-- The attribute that a documentation comment stands for. -/
def docTokens (inner : Bool) (text : List Char) : List Token :=
  .punct '#' false :: (if inner then [.punct '!' false] else []) ++
    [.opening .bracket, .ident "doc", .punct '=' false, .literal .string (String.ofList text),
      .closing .bracket]

/-- The documentation at the head of a text: whether it belongs to what is around it, its words,
and what follows it. -/
def documentation? (cs : List Char) : Option (Bool × List Char × List Char) :=
  if isLineDoc cs then some (cs.take 3 == ['/', '/', '!'], docLine (cs.drop 3), lineRest cs)
  else if isBlockDoc cs then
    (blockRest? 0 cs).map fun rest =>
      (cs.take 3 == ['/', '*', '!'], (cs.take (cs.length - rest.length - 2)).drop 3, rest)
  else none

/-! ## Single tokens -/

/-- The characters of punctuation other than the apostrophe. -/
def punctuation : List Char :=
  ['~', '!', '@', '#', '$', '%', '^', '&', '*', '-', '=', '+', '|', ';', ':', ',', '<', '.', '>',
    '/', '?']

/-- Whether punctuation, and no comment, begins here. -/
def beginsPunct : List Char → Bool
  | '/' :: '/' :: _ => false
  | '/' :: '*' :: _ => false
  | c :: _ => punctuation.contains c || c == '\x27'
  | [] => false

/-- The identifier at the head of a text and what follows it. -/
def identifier? (cs : List Char) : Option (List Char × List Char) :=
  let raw := cs.take 2 == ['r', '#']
  let body := if raw then cs.drop 2 else cs
  match wordRest? body with
  | none => none
  | some rest =>
    let word := body.take (body.length - rest.length)
    if raw && ["_", "super", "self", "Self", "crate"].contains (String.ofList word) then none
    else some (if raw then 'r' :: '#' :: word else word, rest)

/-- Beginnings of quoted literals, which are no identifiers even if the literal is malformed. -/
def quotedBeginnings : List (List Char) :=
  [['r', '\x22'], ['r', '#', '\x22'], ['r', '#', '#'], ['b', '\x22'], ['b', '\x27'],
    ['b', 'r', '\x22'], ['b', 'r', '#'], ['c', '\x22'], ['c', 'r', '\x22'], ['c', 'r', '#']]

/-- The text that stands for an expression that could not be expanded. -/
def placeholderText : List Char :=
  ['(', '/', '*', 'E', 'R', 'R', 'O', 'R', '*', '/', ')']

/-- The token after an apostrophe that begins no character: a lifetime.  A word that is the
beginning of a literal leaves the apostrophe alone. -/
def apostrophe? (cs : List Char) : Option (Token × List Char) :=
  match identifier? cs with
  | none => none
  | some (word, rest) =>
    if rest.head? == some '\x27' || (rest.head? == some '#' && cs.take 2 != ['r', '#']) then none
    else if (literal? cs).isSome then some (.punct '\x27' true, cs)
    else some (.lifetime (String.ofList ('\x27' :: word)), rest)

/-- The token, other than a bracket, at the head of a text and what follows it. -/
def leaf? (cs : List Char) : Option (Token × List Char) :=
  match literal? cs with
  | some (kind, rest) =>
    some (.literal kind (String.ofList (cs.take (cs.length - rest.length))), rest)
  | none =>
    match cs with
    | [] => none
    | c :: after =>
      if c = '\x27' then apostrophe? after
      else if beginsPunct cs then some (.punct c (beginsPunct after), after)
      else if quotedBeginnings.any (fun b => cs.take b.length == b) then none
      else (identifier? cs).map fun (word, rest) => (.ident (String.ofList word), rest)

/-- The delimiter that a character opens. -/
def opened? : Char → Option Delimiter
  | '(' => some .paren
  | '[' => some .bracket
  | '\x7b' => some .brace
  | _ => none

/-- The delimiter that a character closes. -/
def closed? : Char → Option Delimiter
  | ')' => some .paren
  | ']' => some .bracket
  | '\x7d' => some .brace
  | _ => none

/-! ## Whole texts -/

/-- The tokens of a text, inside the given open delimiters; reads at most `fuel` of them. -/
def tokensUpTo : (fuel : Nat) → List Delimiter → List Char → Option (List Token)
  | 0, _, _ => none
  | fuel + 1, openings, cs =>
    let cs := skipSpace cs
    match documentation? cs with
    | some (inner, words, rest) =>
      if returnsPaired words then (tokensUpTo fuel openings rest).map (docTokens inner words ++ ·)
      else none
    | none =>
      match cs with
      | [] => if openings.isEmpty then some [] else none
      | c :: after =>
        if cs.take placeholderText.length == placeholderText then
          (tokensUpTo fuel openings (cs.drop placeholderText.length)).map
            (.literal .placeholder (String.ofList placeholderText) :: ·)
        else match opened? c with
        | some d => (tokensUpTo fuel (d :: openings) after).map (.opening d :: ·)
        | none =>
          match closed? c with
          | some d =>
            match openings with
            | [] => none
            | d' :: outer =>
              if d = d' then (tokensUpTo fuel outer after).map (.closing d :: ·) else none
          | none =>
            match leaf? cs with
            | some (t, rest) => (tokensUpTo fuel openings rest).map (t :: ·)
            | none => none

/-- The tokens of a text, if it has a token at every place and its brackets match. -/
def tokens? (cs : List Char) : Option (List Token) := tokensUpTo (cs.length + 1) [] cs

/-- The byte order mark. -/
def byteOrderMark : Char := Char.ofNat 0xfeff

def dropByteOrderMark : List Char → List Char
  | [] => []
  | c :: cs => if c = byteOrderMark then cs else c :: cs

/-- A text without the line that names an interpreter.  `#!` and a bracket after it begin an
attribute instead. -/
def dropInterpreterLine (cs : List Char) : List Char :=
  match cs with
  | '#' :: '!' :: rest => if (skipSpace rest).head? == some '[' then cs else lineRest cs
  | _ => cs

/-- The tokens of a file, without a byte order mark and an interpreter line. -/
def fileTokens? (text : String) : Option (List Token) :=
  tokens? (dropByteOrderMark (dropInterpreterLine (dropByteOrderMark text.toList)))

end Mapwright.Source
