import Mapwright.Source.Token
import Mapwright.Text.Identifier

/-!
# Literals

Where a literal at the head of a text ends.  Each scanner gives what is left
after the literal, or nothing if the text does not begin with one of its kind.
-/

namespace Mapwright.Source

open Mapwright.Text

/-! ## Words -/

/-- What follows the word at the head of the text. -/
def wordRest? : List Char → Option (List Char)
  | [] => none
  | c :: cs => if isIdentifierStart c then some (cs.dropWhile isIdentifierContinue) else none

/-- What follows the suffix at the head of the text, which may be missing. -/
def suffixRest (cs : List Char) : List Char := (wordRest? cs).getD cs

/-! ## Escapes -/

/-- What a kind of quoted literal admits. -/
structure QuoteRules where
  /-- The characters that stand for one after a backslash. -/
  simple : List Char
  /-- The two digits that may follow `\x`. -/
  hex : Char → Char → Bool
  /-- The code points that `\u` may name. -/
  unicode : Nat → Bool
  /-- The characters that may stand for themselves. -/
  plain : Char → Bool

def isHexDigit (c : Char) : Bool :=
  c.isDigit || ('a' ≤ c && c ≤ 'f') || ('A' ≤ c && c ≤ 'F')

def hexValue (c : Char) : Nat :=
  if c.isDigit then c.toNat - '0'.toNat
  else if 'a' ≤ c then c.toNat - 'a'.toNat + 10
  else c.toNat - 'A'.toNat + 10

def isAscii (c : Char) : Bool := c.toNat < 0x80

/-- Rules for texts and characters. -/
def textRules : QuoteRules where
  simple := ['n', 'r', 't', '\x5c', '\x27', '\x22', '0']
  hex a b := '0' ≤ a && a ≤ '7' && isHexDigit b
  unicode _ := true
  plain _ := true

/-- Rules for bytes. -/
def byteRules : QuoteRules where
  simple := ['n', 'r', 't', '\x5c', '\x27', '\x22', '0']
  hex a b := isHexDigit a && isHexDigit b
  unicode _ := false
  plain := isAscii

/-- Rules for texts that end in a null, which may not stand inside them. -/
def nullEndedRules : QuoteRules where
  simple := ['n', 'r', 't', '\x5c', '\x27', '\x22']
  hex a b := isHexDigit a && isHexDigit b && !(a == '0' && b == '0')
  unicode n := n != 0
  plain c := c.toNat != 0

/-- A code point in braces, after the opening one: up to six hexadecimal digits, with underscores
after the first, that name a character. -/
def bracedCodePoint? (value count : Nat) : List Char → Option (Nat × List Char)
  | [] => none
  | c :: cs =>
    if isHexDigit c then
      if count < 6 then bracedCodePoint? (value * 16 + hexValue c) (count + 1) cs else none
    else if c = '_' && 0 < count then bracedCodePoint? value count cs
    else if c = '\x7d' && 0 < count && value.isValidChar then some (value, cs)
    else none

/-- What follows an escape, after its backslash. -/
def escapeRest? (rules : QuoteRules) : List Char → Option (List Char)
  | 'x' :: a :: b :: cs => if rules.hex a b then some cs else none
  | 'u' :: '\x7b' :: cs =>
    match bracedCodePoint? 0 0 cs with
    | some (value, rest) => if rules.unicode value then some rest else none
    | none => none
  | c :: cs => if rules.simple.contains c then some cs else none
  | [] => none

/-- What follows the blanks after a backslash at the end of a line.  A carriage return among them
has a line feed after it. -/
def continuedRest? : List Char → Option (List Char)
  | [] => none
  | '\r' :: '\n' :: cs => continuedRest? cs
  | '\r' :: _ => none
  | c :: cs => if c = ' ' || c = '\t' || c = '\n' then continuedRest? cs else some (c :: cs)

/-! ## Quoted literals -/

/-- What follows a quoted text, after its opening quote; reads at most `fuel` parts. -/
def quotedRestUpTo (rules : QuoteRules) : (fuel : Nat) → List Char → Option (List Char)
  | 0, _ => none
  | _ + 1, [] => none
  | fuel + 1, c :: cs =>
    if c = '\x22' then some (suffixRest cs)
    else if c = '\r' then
      match cs with
      | '\n' :: cs => quotedRestUpTo rules fuel cs
      | _ => none
    else if c = '\x5c' then
      match cs with
      | [] => none
      | e :: _ =>
        if e = '\n' || e = '\r' then (continuedRest? cs).bind (quotedRestUpTo rules fuel)
        else (escapeRest? rules cs).bind (quotedRestUpTo rules fuel)
    else if rules.plain c then quotedRestUpTo rules fuel cs
    else none

/-- What follows a quoted text, after its opening quote. -/
def quotedRest? (rules : QuoteRules) (cs : List Char) : Option (List Char) :=
  quotedRestUpTo rules (cs.length + 1) cs

/-- What follows a text between quotes with hashes, after the opening quote. -/
def hashedRest? (plain : Char → Bool) (hashes : Nat) : List Char → Option (List Char)
  | [] => none
  | '\r' :: '\n' :: cs => hashedRest? plain hashes cs
  | c :: cs =>
    if c = '\r' then none
    else if c = '\x22' && cs.take hashes == List.replicate hashes '#' then
      some (suffixRest (cs.drop hashes))
    else if plain c then hashedRest? plain hashes cs
    else none

/-- What follows a raw text, after the `r`: hashes, a quote, the text, a quote and as many hashes. -/
def rawRest? (plain : Char → Bool) (cs : List Char) : Option (List Char) :=
  let hashes := (cs.takeWhile (· == '#')).length
  match cs.drop hashes with
  | '\x22' :: rest => if hashes ≤ 255 then hashedRest? plain hashes rest else none
  | _ => none

/-- What follows a character, after its opening quote. -/
def characterRest? (rules : QuoteRules) (cs : List Char) : Option (List Char) :=
  let after := match cs with
    | '\x5c' :: rest => escapeRest? rules rest
    | c :: rest => if rules.plain c then some rest else none
    | [] => none
  match after with
  | some ('\x27' :: rest) => some (suffixRest rest)
  | _ => none

/-! ## Numbers -/

/-- What follows a number if it ends here: nothing that continues a word. -/
def numberEnd? (cs : List Char) : Option (List Char) :=
  match suffixRest cs with
  | [] => some []
  | c :: rest => if isIdentifierContinue c then none else some (c :: rest)

/-- What follows an exponent, after its letter: an optional sign, underscores and digits, among
them at least one digit. -/
def exponentRest? (signed valued : Bool) : List Char → Option (List Char)
  | [] => if valued then some [] else none
  | c :: cs =>
    if c = '+' || c = '-' then
      if valued then some (c :: cs)
      else if signed then none
      else exponentRest? true valued cs
    else if c.isDigit then exponentRest? signed true cs
    else if c = '_' then exponentRest? signed valued cs
    else if valued then some (c :: cs)
    else none

/-- What follows the digits of a number with a point or an exponent.  A point counts only if
neither another point nor a word follows. -/
def floatDigitsRest? (pointed : Bool) : List Char → Option (List Char)
  | [] => if pointed then some [] else none
  | c :: cs =>
    if c.isDigit || c = '_' then floatDigitsRest? pointed cs
    else if c = '.' && !pointed then
      match cs with
      | [] => some []
      | d :: _ => if d = '.' || isIdentifierStart d then none else floatDigitsRest? true cs
    else if c = 'e' || c = 'E' then
      match exponentRest? false false cs with
      | some rest => some rest
      | none => if pointed then some (c :: cs) else none
    else if pointed then some (c :: cs)
    else none

def floatRest? : List Char → Option (List Char)
  | [] => none
  | c :: cs => if c.isDigit then (floatDigitsRest? false cs).bind numberEnd? else none

/-- What follows the digits of an integer; a digit the base does not have spoils it. -/
def intDigitsRest? (base : Nat) (found : Bool) : List Char → Option (List Char)
  | [] => if found then some [] else none
  | c :: cs =>
    if c.isDigit then
      if hexValue c < base then intDigitsRest? base true cs else none
    else if isHexDigit c && hexValue c < base then intDigitsRest? base true cs
    else if c = '_' then
      if !found && base == 10 then none else intDigitsRest? base found cs
    else if found then some (c :: cs)
    else none

/-- The base of an integer and its digits, after the letter that names the base. -/
def splitBase : List Char → Nat × List Char
  | '0' :: 'x' :: cs => (16, cs)
  | '0' :: 'o' :: cs => (8, cs)
  | '0' :: 'b' :: cs => (2, cs)
  | cs => (10, cs)

def intRest? (cs : List Char) : Option (List Char) :=
  let (base, digits) := splitBase cs
  (intDigitsRest? base false digits).bind numberEnd?

/-! ## All literals -/

/-- The kind of a literal other than a number and what follows it. -/
def quotedLiteral? : List Char → Option (LiteralKind × List Char)
  | '\x22' :: cs => (quotedRest? textRules cs).map (.string, ·)
  | 'r' :: cs => (rawRest? textRules.plain cs).map (.string, ·)
  | 'b' :: '\x22' :: cs => (quotedRest? byteRules cs).map (.byteString, ·)
  | 'b' :: 'r' :: cs => (rawRest? byteRules.plain cs).map (.byteString, ·)
  | 'c' :: '\x22' :: cs => (quotedRest? nullEndedRules cs).map (.cString, ·)
  | 'c' :: 'r' :: cs => (rawRest? nullEndedRules.plain cs).map (.cString, ·)
  | 'b' :: '\x27' :: cs => (characterRest? byteRules cs).map (.byte, ·)
  | '\x27' :: cs => (characterRest? textRules cs).map (.char, ·)
  | _ => none

/-- The kind of the literal at the head of a text and what follows it. -/
def literal? (cs : List Char) : Option (LiteralKind × List Char) :=
  match quotedLiteral? cs with
  | some found => some found
  | none =>
    match floatRest? cs with
    | some rest => some (.float, rest)
    | none => (intRest? cs).map (.int, ·)

/-! ## Indices -/

/-- The value of the digits at the head of a text, and what follows them. -/
def digitsValue (base value : Nat) : List Char → Nat × List Char
  | [] => (value, [])
  | c :: cs =>
    if c = '_' then digitsValue base value cs
    else if isHexDigit c && hexValue c < base then digitsValue base (value * base + hexValue c) cs
    else (value, c :: cs)

/-- Whether an integer can number a field of a tuple: it has no suffix and fits 32 bits. -/
def isIndex (text : String) : Bool :=
  let (base, digits) := splitBase text.toList
  let (value, suffix) := digitsValue base 0 digits
  suffix.isEmpty && value < UInt32.size

/-- The parts of a text between points. -/
def pointParts (text : List Char) : List (List Char) :=
  text.foldr (fun c parts => match parts with
    | part :: rest => if c = '.' then [] :: part :: rest else (c :: part) :: rest
    | [] => [[c]]) [[]]

/-- Whether a number with a point or an exponent is in truth one or two field numbers, and if so
whether a point is still open after them. -/
def indexPath? (text : String) : Option Bool :=
  let cs := text.toList
  let trailing := cs.getLast? == some '.'
  let parts := pointParts (if trailing then cs.dropLast else cs)
  if parts.all fun p => (p.head?.any (·.isDigit)) && p.all (fun c => c.isDigit || c == '_') &&
      isIndex (String.ofList p) then some trailing
  else none

end Mapwright.Source
