import Mapwright.Code.Evaluation
import Mapwright.Pass

/-!
# Students: two mappings at work

A student is mapped to transfer objects, cards, summaries and labels.  The types
and units are declared, the generator plans their code, and the evaluator runs
it.  Only what the units leave to be written by hand is written here.
-/

namespace Mapwright.Students

/-! ## Values -/

inductive Value
  | text (s : String)
  | number (n : Nat)
  | absent
  | record (type : String) (fields : List (String × Value))

instance : Inhabited Value := ⟨.absent⟩

namespace Value

def field : Value → String → Value
  | .record _ fields, name => (fields.lookup name).getD .absent
  | _, _ => .absent

/-- The text of a value, which is empty for all but texts. -/
def words : Value → String
  | .text s => s
  | _ => ""

end Value

structure Student where
  firstName : String
  lastName : String
  matNr : String
  semester : Nat
deriving DecidableEq, Repr

def Student.toValue (s : Student) : Value :=
  .record "StudentEntity" [("first_name", .text s.firstName), ("last_name", .text s.lastName),
    ("mat_nr", .text s.matNr), ("semester", .number s.semester)]

/-! ## Functions written by hand -/

/-- The first and the last name. -/
def displayName (student : Value) : String :=
  (student.field "first_name").words ++ " " ++ (student.field "last_name").words

/-- The first letters of the first and the last name, as far as there are any. -/
def initials (student : Value) : String :=
  String.ofList ((student.field "first_name").words.toList.take 1 ++
    (student.field "last_name").words.toList.take 1)

/-- The year that is printed on cards. -/
def year : Nat := 2024

/-- The number and the name of a student, with the separator of the base between them. -/
def label (base student : Value) : String :=
  (student.field "mat_nr").words ++ ((base.field "formatter").field "separator").words ++
    displayName student

/-- The separator of a formatter that is not given another one. -/
def defaultSeparator : String := " / "

def model : Code.Model Value where
  field := Value.field
  call owner method args :=
    match method, args with
    | "display_name", [] => .text (displayName owner)
    | "year", [] => .number year
    | "initials", [student] => .text (initials student)
    | "label", [student] => .text (label (owner.field "base") student)
    | _, _ => .absent

/-- The fields of the default value of a type. -/
def defaults : String → List (String × Value)
  | "StudentLabel" => [("label", .text ""), ("semester", .number 0), ("note", .absent)]
  | _ => []

/-! ## Declarations -/

def home : ModuleId := "students"

def textType : TypeRef := .named "String"

def numberType : TypeRef := .named "u32"

def fields (texts : List String) : List Param := texts.map (⟨·, textType⟩)

def studentRef (passing : Passing) : Param := ⟨"entity", "StudentEntity", "StudentEntity", passing⟩

def types : List TypeDescriptor :=
  [(TypeDescriptor.record "StudentEntity" home
      (fields ["first_name", "last_name", "mat_nr"] ++ [⟨"semester", numberType⟩])).withMethod
      "display_name" ⟨[], some textType⟩,
    .record "StudentDto" home (fields ["first_name", "last_name", "mat_nr", "display_name"]),
    .record "StudentCard" home
      (fields ["display_name", "mat_nr", "issuer"] ++ [⟨"year", numberType⟩]),
    .record "StudentSummary" home
      (fields ["mat_nr", "display_name"] ++ [⟨"semester", numberType⟩] ++ fields ["initials"]),
    .record "StudentLabel" home
      [⟨"label", textType⟩, ⟨"semester", numberType⟩, ⟨"note", "Option", "Option<String>", .owned⟩],
    .record "Formatter" home (fields ["separator"]),
    (TypeDescriptor.record "LabelMapperDeps" home [⟨"formatter", .named "Formatter"⟩]).withMethod
      "label" ⟨[studentRef .shared], some textType⟩]

def function (name : String) (params : List Param) (returns : TypeRef) (kind : FunctionKind) :
    MappingFunction := ⟨name, some .ref, params, some returns, kind⟩

def studentMapper : MappingUnit where
  name := "StudentMapper"
  module := home
  visibility := "pub"
  wrappers := true
  base := none
  implName := none
  functions :=
    [function "to_dto" [studentRef .shared] (.named "StudentDto") .required,
      function "to_card" [studentRef .shared, ⟨"issuer", textType⟩] (.named "StudentCard") .required,
      function "into_summary" [studentRef .owned] (.named "StudentSummary") .required,
      function "year" [] numberType .provided,
      function "initials" [studentRef .shared] textType .provided]

def labelMapper : MappingUnit where
  name := "LabelMapper"
  module := home
  visibility := "pub"
  wrappers := true
  base := some (.named "LabelMapperDeps")
  implName := none
  functions :=
    [function "to_label" [studentRef .shared] (.named "StudentLabel") .required,
      function "into_label" [studentRef .owned] (.named "StudentLabel") .required]

def registry : Registry := types.foldl Registry.register .empty

/-! ## Calls -/

/-- A call of a generated function. -/
inductive Call
  | toDto
  | toCard (issuer : String)
  | intoSummary
  | toLabel
  | intoLabel
deriving DecidableEq, Repr

namespace Call

def unit : Call → MappingUnit
  | .toDto | .toCard _ | .intoSummary => studentMapper
  | .toLabel | .intoLabel => labelMapper

def name : Call → String
  | .toDto => "to_dto"
  | .toCard _ => "to_card"
  | .intoSummary => "into_summary"
  | .toLabel => "to_label"
  | .intoLabel => "into_label"

/-- The arguments after the source. -/
def args : Call → List Value
  | .toCard issuer => [.text issuer]
  | _ => []

end Call

/-- The implementation of a unit on a base with the given separator. -/
def implValue (unit : MappingUnit) (separator : String) : Value :=
  let base : Value := .record "LabelMapperDeps"
    [("formatter", .record "Formatter" [("separator", .text separator)])]
  .record (unit.name ++ "Impl") (if unit.base.isSome then [("base", base)] else [])

/-- The struct that a body returns: the fields it lists, and the others from the default. -/
def complete (result : Code.Literal) (listed : List (String × Value)) : Value :=
  let others := (defaults result.path).filter fun d => !listed.any (·.1 == d.1)
  .record result.path (listed ++ if result.restFromDefault then others else [])

/-- What a call gives for a student, by way of the method of the implementation. -/
def Call.run? (c : Call) (s : Student) (separator : String) : Option Value := do
  let plan ← (planUnit .standard registry c.unit).toOption
  let f ← (plan.implementation .standard).method? c.name
  let listed ← f.call? model (implValue c.unit separator) (s.toValue :: c.args)
  return complete f.body.result listed

/-- What a call gives for a student, by way of the extension method, on a default implementation. -/
def Call.runExtension? (c : Call) (s : Student) : Option Value := do
  let plan ← (planUnit .standard registry c.unit).toOption
  let i := plan.implementation .standard
  let w ← (plan.wrappers .standard).find? (·.header.name == c.name)
  let listed ← w.call? model i (implValue c.unit defaultSeparator) s.toValue c.args
  return complete (← i.method? c.name).body.result listed

end Mapwright.Students
