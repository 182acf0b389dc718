import Mapwright.Files.Path
import Mapwright.Pass

/-!
# Writing generated code

The code of a pass goes into one file, or into one file for each unit.  What was
written before a failure stays.
-/

namespace Mapwright

open Files

/-- Writes files below a directory up to the first one that cannot be written, and says what is
wrong with it. -/
def writeFiles (directory : String) (here : List String) (root : Node) :
    List (String × String) → Node × Option Failure
  | [] => (root, none)
  | (name, text) :: files =>
    let path := joinPath directory name
    match root.writeFile? path (some text) here with
    | some root' => writeFiles directory here root' files
    | none => (root, some (.io path))

/-- Writes one file for each unit of a report, into a directory that is made if it is not there. -/
def Report.writeToDirectory (r : Report) (root : Node) (directory : String)
    (here : List String := []) : Node × Option Failure :=
  match root.makeDirectory directory here with
  | (root', true) => writeFiles directory here root' r.files
  | (root', false) => (root', some (.io directory))

/-- Writes the code of all units into one file. -/
def Generator.writeToFile (g : Generator) (root : Node) (path : String)
    (here : List String := []) : Except Failure Node :=
  match g.source with
  | .error e => .error e
  | .ok text =>
    match root.writeFile? path (some text) here with
    | some root' => .ok root'
    | none => .error (.io path)

end Mapwright
