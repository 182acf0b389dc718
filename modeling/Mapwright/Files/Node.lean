import Mapwright.NameMap

/-!
# Files and directories

A tree of files, with the entries of each directory in the order of their names.
Places in the tree are lists of names from its root.
-/

namespace Mapwright.Files

/-- A file with its text, if its bytes spell one, or a directory with its entries. -/
inductive Node
  | file (text : Option String)
  | directory (entries : List (String × Node))

namespace Node

def emptyDirectory : Node := .directory []

instance : Inhabited Node := ⟨emptyDirectory⟩

def isDirectory : Node → Bool
  | .file _ => false
  | .directory _ => true

/-- What stands at a place below a node. -/
def at? (n : Node) : (names : List String) → Option Node
  | [] => some n
  | name :: names =>
    match n with
    | .file _ => none
    | .directory entries =>
      match NameMap.lookup name entries with
      | none => none
      | some child => child.at? names

/-- The tree with something new at a place, to which directories lead. -/
def put (new : Node) : (names : List String) → Node → Node
  | [], _ => new
  | _ :: _, .file text => .file text
  | name :: names, .directory entries =>
    let child := (NameMap.lookup name entries).getD emptyDirectory
    .directory (NameMap.place name (put new names child) entries)

mutual

/-- The files at and below a node with their places, each directory read to the bottom before what
comes after it. -/
def leaves : Node → List (List String × Option String)
  | .file text => [([], text)]
  | .directory entries => entryLeaves entries

def entryLeaves : List (String × Node) → List (List String × Option String)
  | [] => []
  | (name, n) :: entries => n.leaves.map (fun l => (name :: l.1, l.2)) ++ entryLeaves entries

end

end Node

end Mapwright.Files
