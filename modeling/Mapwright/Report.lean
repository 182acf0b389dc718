import Mapwright.Fault
import Mapwright.Text.Blank
import Mapwright.Text.Casing

/-!
# Reports

The result of a pass: the code of each generated unit, the units that were
refused, and the header that stands before all code.
-/

namespace Mapwright

/-! ## The header -/

/-- A line of a header as a comment. -/
def commentLine (l : String) : String := if l = "" then "//\n" else "// " ++ l ++ "\n"

/-- The comment at the head of the code, and an empty line. -/
def renderHeader (header : Option String) : String :=
  (match header with
    | some text => String.join ((Text.lines text).map commentLine)
    | none => commentLine "Auto-generated by mapper-codegen" ++ commentLine "DO NOT EDIT MANUALLY") ++
    "\n"

/-! ## Generated units -/

/-- The code generated for a unit. -/
structure GeneratedUnit where
  unit : String
  implName : String
  shape : Shape
  implementation : String
  /-- The extension traits, if the unit asks for them. -/
  wrappers : Option String
  /-- The modules that the unit was derived from. -/
  dependencies : NameSet
  diagnostics : List Diagnostic
deriving DecidableEq

namespace GeneratedUnit

/-- The name of the file that holds the code of the unit. -/
def fileName (u : GeneratedUnit) : String := Text.snakeCase u.unit ++ ".rs"

/-- The implementation and the extension traits after it. -/
def code (u : GeneratedUnit) : String :=
  match u.wrappers with
  | some wrappers => u.implementation ++ "\n" ++ wrappers
  | none => u.implementation

end GeneratedUnit

/-- The result of a pass. -/
structure Report where
  header : String
  /-- The generated units, in the order of their names. -/
  units : List GeneratedUnit
  rejected : List RejectedUnit
deriving DecidableEq

namespace Report

/-- The code of all units as one source text, which ends in one line feed. -/
def toSource (r : Report) : String :=
  Text.trimEnd (r.header ++ String.join (r.units.map fun u => u.code ++ "\n")) ++ "\n"

/-- The files of a report: for each unit its name and its content, in order. -/
def files (r : Report) : List (String × String) := r.units.map fun u => (u.fileName, r.header ++ u.code)

def diagnostics (r : Report) : List Diagnostic := r.units.flatMap (·.diagnostics)

/-- The modules that any generated unit was derived from. -/
def dependencies (r : Report) : NameSet :=
  NameSet.ofNames (r.units.flatMap fun u => u.dependencies.names)

/-- The generated unit of the given name. -/
def unit? (r : Report) (name : String) : Option GeneratedUnit := r.units.find? (·.unit == name)

end Report

end Mapwright
