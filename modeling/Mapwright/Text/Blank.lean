/-!
# Blanks and lines

Blanks are the characters of the Unicode property White_Space.  A line ends at
a line feed, which takes a carriage return before it along; text after the last
line feed is a line too, unless it is empty.
-/

namespace Mapwright.Text

/-- A character of the property White_Space. -/
def isBlank (c : Char) : Bool :=
  let n := c.toNat
  (0x09 ≤ n && n ≤ 0x0d) || n == 0x20 || n == 0x85 || n == 0xa0 || n == 0x1680 ||
    (0x2000 ≤ n && n ≤ 0x200a) || n == 0x2028 || n == 0x2029 || n == 0x202f ||
    n == 0x205f || n == 0x3000

/-- A list without the blanks at its end. -/
def dropFinalBlanks : List Char → List Char
  | [] => []
  | c :: cs =>
    match dropFinalBlanks cs with
    | [] => if isBlank c then [] else [c]
    | d :: ds => c :: d :: ds

/-- A text without the blanks at its end. -/
def trimEnd (s : String) : String := String.ofList (dropFinalBlanks s.toList)

/-- The lines of the characters still to come, after those of the present line, held in reverse. -/
def linesAfter (present : List Char) : List Char → List (List Char)
  | [] => if present.isEmpty then [] else [present.reverse]
  | c :: cs =>
    if c = '\n' then
      (match present with
        | [] => []
        | d :: ds => if d = '\r' then ds.reverse else (d :: ds).reverse) :: linesAfter [] cs
    else linesAfter (c :: present) cs

/-- The lines of a text, without what ends them. -/
def lines (s : String) : List String := (linesAfter [] s.toList).map String.ofList

end Mapwright.Text
