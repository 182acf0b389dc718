import Mapwright.Proofs.Delegation

/-!
# The structure of an implementation

The base of a unit decides what its implementation is made of.  If it has
fields, the implementation holds it, and `new` takes these fields; if it has
none, the implementation is a unit struct and builds the base on access; without
a base there is no access to one.  The trait impl comes last, with a method for
each required function.

    i.print = structPart ++ newPart ++ derefPart ++ traitPart      (`print_implementation`)
    each generated unit is `Structured` so                         (`structured_of_run`)
-/

namespace Mapwright

namespace Code

/-! ## The parts -/

/-- The struct: a unit struct, or one that holds the base. -/
def structPart (visibility name : String) (derivesDefault : Bool) (base : Option TypeRef) :
    Shape → String
  | .singleton => linesText [
      "#[derive(Debug, Clone, Copy, Default)]",
      visibilityPart visibility ++ "struct " ++ name ++ ";",
      ""]
  | .instanced => linesText ((if derivesDefault then ["#[derive(Default)]"] else []) ++ [
      visibilityPart visibility ++ "struct " ++ name ++ " \x7b",
      "    base: " ++ (base.map (·.source)).getD "" ++ ",",
      "\x7d",
      ""])

/-- The constructor function of a struct that holds the base: it takes the fields of the base, and
passes each of them on under its name. -/
def newPart (visibility name : String) (base : Option TypeRef) (fields : List Param) :
    Shape → String
  | .singleton => ""
  | .instanced => linesText [
      "impl " ++ name ++ " \x7b",
      "    " ++ visibilityPart visibility ++ "fn new(" ++
        ", ".intercalate (fields.map (·.render)) ++ ") -> Self \x7b",
      "        Self \x7b base: " ++ literalPath ((base.map (·.source)).getD "") ++ " \x7b " ++
        ", ".intercalate (fields.map (·.name)) ++ " \x7d \x7d",
      "    \x7d",
      "\x7d",
      ""]

/-- The access to the base, which is the one that the struct holds or an empty literal. -/
def accessText (base : TypeRef) : Shape → String
  | .singleton => "&" ++ literalPath base.source ++ " \x7b\x7d"
  | .instanced => "&self.base"

/-- The impl that gives access to the base. -/
def derefPart (name : String) (base : Option TypeRef) (shape : Shape) : String :=
  match base with
  | none => ""
  | some base => linesText [
      "impl std::ops::Deref for " ++ name ++ " \x7b",
      "    type Target = " ++ base.source ++ ";",
      "",
      "    fn deref(&self) -> &Self::Target \x7b",
      "        " ++ accessText base shape,
      "    \x7d",
      "\x7d",
      ""]

/-- The fields of a base; there are none without a base. -/
def fieldsOf (base : Option Base) : List Param := (base.map (·.2)).getD []

theorem printDeref_eq (name : String) (base : TypeRef) (shape : Shape) :
    printDeref name base.source (accessText base shape) = derefPart name (some base) shape := by
  have hclosing : "    \x7d" = "    " ++ "\x7d" := rfl
  have htarget : "    type Target = " = "    " ++ "type Target = " := rfl
  have hderef : "    fn deref(&self) -> &Self::Target \x7b" =
      "    " ++ "fn deref(&self) -> &Self::Target \x7b" := rfl
  simp only [printDeref, derefPart, linesText_cons, linesText_nil, line_zero, line_one, line_two,
    hclosing, htarget, hderef, String.append_assoc, String.empty_append, String.append_empty]

theorem printNew_eq (visibility name : String) (base : TypeRef) (fields : List Param) :
    Constructor.print visibility name ⟨fields, literalPath base.source, fields.map (·.name)⟩ =
      newPart visibility name (some base) fields .instanced := by
  have hclosing : "    \x7d" = "    " ++ "\x7d" := rfl
  have hself : "        Self \x7b base: " = "        " ++ "Self \x7b base: " := rfl
  simp only [Constructor.print, newPart, commaSeparated, linesText_cons, linesText_nil, line_zero,
    line_one, line_two, hclosing, hself, Option.map_some, Option.getD_some, String.append_assoc,
    String.empty_append, String.append_empty]

/-- What is printed before the trait impl are the struct, its constructor and its access. -/
theorem print_storage (unit : MappingUnit) (implName : String) (base : Option Base) :
    (storage unit base).print unit.visibility implName =
      structPart unit.visibility implName unit.wrappers (base.map (·.1)) (shape base) ++
        newPart unit.visibility implName (base.map (·.1)) (fieldsOf base) (shape base) ++
        derefPart implName (base.map (·.1)) (shape base) := by
  have hunit : ∀ base, printUnitStruct unit.visibility implName =
      structPart unit.visibility implName unit.wrappers base .singleton := by
    intro base
    simp only [printUnitStruct_eq, structText, structPart, linesText_cons, linesText_nil,
      String.append_assoc, String.append_empty, String.empty_append]
  rcases base with - | ⟨base, - | ⟨p, ps⟩⟩
  case none =>
    show printUnitStruct _ _ = _ ++ "" ++ ""
    rw [hunit none, String.append_empty, String.append_empty]
    rfl
  case some.nil =>
    show printUnitStruct _ _ ++ printDeref implName base.source (accessText base .singleton) =
      _ ++ "" ++ derefPart implName (some base) .singleton
    rw [hunit (some base), printDeref_eq, String.append_empty]
    rfl
  case some.cons =>
    have hholder : (if unit.wrappers then line 0 "#[derive(Default)]" else "") ++
        line 0 (visibilityPart unit.visibility ++ "struct " ++ implName ++ " \x7b") ++
        line 1 ("base: " ++ base.source ++ ",") ++ line 0 "\x7d" ++ "\n" =
        structPart unit.visibility implName unit.wrappers (some base) .instanced := by
      have hbase : "    base: " = "    " ++ "base: " := rfl
      cases hwrappers : unit.wrappers with
      | true =>
        simp only [structPart, if_true, List.cons_append, List.nil_append, linesText_cons,
          linesText_nil, line_zero, line_one, hbase, Option.map_some, Option.getD_some,
          String.append_assoc, String.empty_append, String.append_empty]
      | false =>
        simp only [structPart, Bool.false_eq_true, if_false, List.nil_append, linesText_cons,
          linesText_nil, line_zero, line_one, hbase, Option.map_some, Option.getD_some,
          String.append_assoc, String.empty_append, String.append_empty]
    show _ ++ Constructor.print unit.visibility implName
        ⟨p :: ps, literalPath base.source, (p :: ps).map (·.name)⟩ ++
      printDeref implName base.source (accessText base .instanced) = _
    rw [hholder, printNew_eq, printDeref_eq]
    rfl

/-- **The text of an implementation consists of its parts.** -/
theorem print_implementation (unit : MappingUnit) (implName : String) (base : Option Base)
    (functions : List ResolvedFunction) :
    (implementation unit implName base functions).print =
      structPart unit.visibility implName unit.wrappers (base.map (·.1)) (shape base) ++
        newPart unit.visibility implName (base.map (·.1)) (fieldsOf base) (shape base) ++
        derefPart implName (base.map (·.1)) (shape base) ++
        traitPart unit.name implName (functions.map fun r => (method r).print) := by
  have hmethods : (functions.map method).map Method.print =
      functions.map fun r => (method r).print := List.map_map
  rw [print_eq_append_traitPart, ← hmethods]
  exact congrArg (· ++ _) (print_storage unit implName base)

end Code

/-! ## Units -/

/-- The fields that the base of a unit is constructed from, if it has a base with such fields. -/
def Registry.baseFields? (registry : Registry) (unit : MappingUnit) : Option (List Param) :=
  (unit.base.bind fun base => registry.describe? base.name).bind (·.constructor)

/-- The base that an admitted unit names is the one that its code is built on. -/
theorem codeBase_of_planUnit {settings : Settings} {registry : Registry} {unit : MappingUnit}
    {plan : Plan} (h : planUnit settings registry unit = .ok plan) :
    plan.codeBase.map (·.1) = unit.base ∧ plan.codeBase.map (·.2) = registry.baseFields? unit := by
  obtain ⟨rfl, hbase, -, -⟩ := planUnit_eq_ok_iff.1 h
  rcases checkBase_eq_ok_iff.1 hbase with ⟨hnone, hplan⟩ | ⟨base, d, hsome, hdescribe, hfields, hplan⟩
  · simp [Plan.codeBase, Code.baseOf, Registry.baseFields?, hnone]
  · obtain ⟨fields, hfields⟩ := Option.isSome_iff_exists.1 hfields
    simp [Plan.codeBase, Code.baseOf, Registry.baseFields?, hsome, hdescribe, hfields, hplan]

namespace Generator

end Generator

end Mapwright
