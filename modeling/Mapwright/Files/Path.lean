import Mapwright.Files.Node

/-!
# Paths

A path is written as steps between slashes, each of which stays, goes up, or
goes down to a name.  It starts at the root of the tree if it begins with a
slash, and in the working directory otherwise, wherever in the tree that is;
functions that follow a path take the place of this directory last, and the root
is taken if it is left out.  Above the root there is nothing, and a step up from
there stays.

Each step has to start in a directory, so a path to a file has no slash after
it.
-/

namespace Mapwright.Files

/-! ## Steps -/

/-- A step of a path. -/
inductive Step
  | stay
  | up
  | down (name : String)
deriving DecidableEq

def Step.ofText (text : String) : Step :=
  if text = "" || text = "." then .stay else if text = ".." then .up else .down text

/-- The parts of a text between slashes. -/
def slashParts : List Char → List (List Char)
  | [] => [[]]
  | c :: cs =>
    match slashParts cs with
    | [] => [[c]]
    | part :: parts => if c = '/' then [] :: part :: parts else (c :: part) :: parts

/-- The longest path, in bytes. -/
def maxPathSize : Nat := 4095

/-- The longest name, in bytes. -/
def maxNameSize : Nat := 255

/-- The steps of a path, if it is one. -/
def steps? (path : String) : Option (List Step) :=
  let cs := path.toList
  if cs.isEmpty || cs.contains '\x00' || maxPathSize < path.utf8ByteSize then none
  else some ((slashParts cs).map fun part => .ofText (String.ofList part))

/-- The place where a path starts, for a working directory. -/
def start (path : String) (here : List String) : List String :=
  if path.toList.head? == some '/' then [] else here

/-- The path to an entry of a directory. -/
def joinPath (directory name : String) : String :=
  if name.toList.head? == some '/' || directory = "" then name
  else if directory.toList.getLast? == some '/' then directory ++ name
  else directory ++ "/" ++ name

/-- The last name of a path. -/
def lastName (path : String) : String :=
  String.ofList ((slashParts path.toList).getLast?.getD [])

namespace Node

/-! ## Following a path -/

/-- The place that steps lead to from a place in a tree, if something stands there. -/
def follow? (root : Node) (names : List String) : List Step → Option (List String)
  | [] => some names
  | step :: steps =>
    if (root.at? names).any (·.isDirectory) then
      match step with
      | .stay => root.follow? names steps
      | .up => root.follow? names.dropLast steps
      | .down name =>
        if (root.at? (names ++ [name])).isSome then root.follow? (names ++ [name]) steps else none
    else none

/-- What a path leads to. -/
def find? (root : Node) (path : String) (here : List String := []) : Option Node := do
  root.at? (← root.follow? (start path here) (← steps? path))

/-- The text of the file that a path leads to. -/
def readText? (root : Node) (path : String) (here : List String := []) : Option String :=
  match root.find? path here with
  | some (.file text) => text
  | _ => none

/-! ## Making directories and files -/

/-- The tree with the directories on the way of some steps made, as far as they can be, and whether
all of them are there. -/
def makeSteps (root : Node) (names : List String) : List Step → Node × Bool
  | [] => (root, (root.at? names).any (·.isDirectory))
  | step :: steps =>
    if (root.at? names).any (·.isDirectory) then
      match step with
      | .stay => root.makeSteps names steps
      | .up => root.makeSteps names.dropLast steps
      | .down name =>
        if (root.at? (names ++ [name])).isSome then root.makeSteps (names ++ [name]) steps
        else if name.utf8ByteSize ≤ maxNameSize then
          (put emptyDirectory (names ++ [name]) root).makeSteps (names ++ [name]) steps
        else (root, false)
    else (root, false)

/-- The tree with the directories of a path made, and whether the path leads to a directory then.
The empty path needs none. -/
def makeDirectory (root : Node) (path : String) (here : List String := []) : Node × Bool :=
  if path = "" then (root, true)
  else match steps? path with
  | some steps => root.makeSteps (start path here) steps
  | none => (root, false)

/-- The tree with a file at a path, which must lead to a directory and end in a name that is not
that of another directory. -/
def writeFile? (root : Node) (path : String) (text : Option String)
    (here : List String := []) : Option Node := do
  let steps ← steps? path
  match steps.getLast? with
  | some (.down name) =>
    let names ← root.follow? (start path here) steps.dropLast
    let place := names ++ [name]
    if (root.at? names).any (·.isDirectory) && name.utf8ByteSize ≤ maxNameSize &&
        !(root.at? place).any (·.isDirectory) then
      some (put (.file text) place root)
    else none
  | _ => none

end Node

end Mapwright.Files
