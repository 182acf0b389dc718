import Mapwright.Files.Path
import Mapwright.Source.Declarations

/-!
# Reading source files

A source file is read as the module that its path names.  A scan of a directory
reads the source files below it one after the other and ends at the first one
that cannot be read.
-/

namespace Mapwright

open Files

/-- Whether a file is a source, by its name. -/
def isSourceName (name : String) : Bool :=
  let ending := ['.', 'r', 's']
  ending.isSuffixOf name.toList && name.toList != ending

/-- The paths of the source files at and below a path, if something is there. -/
def sourcePaths? (root : Node) (path : String) (here : List String := []) : Option (List String) :=
  (root.find? path here).map fun n =>
    (n.leaves.map fun l => l.1.foldl joinPath path).filter fun p => isSourceName (lastName p)

namespace Generator

/-- Reads a source file. -/
def addFile (g : Generator) (root : Node) (path : String) (here : List String := []) :
    Except Failure Generator :=
  match root.readText? path here with
  | some text => g.addSource path text
  | none => .error (.io path)

/-- Reads source files up to the first one that cannot be read, and says what is wrong with it. -/
def addFiles (root : Node) (here : List String) (g : Generator) :
    List String → Generator × Option Failure
  | [] => (g, none)
  | path :: paths =>
    match g.addFile root path here with
    | .ok g' => addFiles root here g' paths
    | .error e => (g, some e)

/-- Reads the source files of a directory. -/
def addDirectory (g : Generator) (root : Node) (path : String) (here : List String := []) :
    Generator × Option Failure :=
  match sourcePaths? root path here with
  | some paths => g.addFiles root here paths
  | none => (g, some (.io path))

end Generator

end Mapwright
