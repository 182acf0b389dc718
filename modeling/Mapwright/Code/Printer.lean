import Mapwright.Code.Basic

/-!
# Printing generated code

Every line is indented by four blanks a level and ends in a line feed, so each
printed item ends in one.  A field whose value is spelled like its name is
written in the short form.
-/

namespace Mapwright.Code

/-! ## Parts of a line -/

/-- Texts with a comma and a blank between them. -/
def commaSeparated (ts : List String) : String := ", ".intercalate ts

/-- A visibility and the blank after it. -/
def visibilityPart (visibility : String) : String :=
  if visibility = "" then "" else visibility ++ " "

/-- A line at the given level of indentation. -/
def line (level : Nat) (text : String) : String :=
  String.join (List.replicate level "    ") ++ text ++ "\n"

def Expr.render : Expr → String
  | .named x => x
  | .borrow mutable value => (if mutable then "&mut " else "&") ++ value.render
  | .clone value => value.render ++ ".clone()"
  | .field owner name => owner.render ++ "." ++ name
  | .call owner method => owner.render ++ "." ++ method ++ "()"
  | .callWith owner method argument => owner.render ++ "." ++ method ++ "(" ++ argument.render ++ ")"

/-- A field of a struct literal. -/
def Binder.renderField (b : Binder) : String :=
  let value := b.value.render
  if value = b.name then value else b.name ++ ": " ++ value

/-- A `let` local. -/
def Binder.renderLocal (b : Binder) : String := "let " ++ b.name ++ " = " ++ b.value.render ++ ";"

def Slot.render (s : Slot) : String := (if s.mutable then "mut " else "") ++ s.param.render

def Header.render (h : Header) : String :=
  "fn " ++ h.name ++ "(" ++ commaSeparated (h.receiver.render :: h.params.map Slot.render) ++ ") -> " ++
    h.returns.render

/-! ## Items -/

def Literal.print (l : Literal) : String :=
  if l.fields.isEmpty && !l.restFromDefault then line 2 (l.path ++ " \x7b\x7d")
  else
    line 2 (l.path ++ " \x7b") ++ String.join (l.fields.map fun f => line 3 (f.renderField ++ ",")) ++
      (if l.restFromDefault then line 3 "..Default::default()" else "") ++ line 2 "\x7d"

def Body.print (b : Body) : String :=
  String.join (b.locals.map fun l => line 2 l.renderLocal) ++ b.result.print

def Method.print (m : Method) : String :=
  line 1 (m.header.render ++ " \x7b") ++ m.body.print ++ line 1 "\x7d"

/-- The access to the base that an implementation gives. -/
def printDeref (name : String) (base : String) (access : String) : String :=
  line 0 ("impl std::ops::Deref for " ++ name ++ " \x7b") ++
    line 1 ("type Target = " ++ base ++ ";") ++ "\n" ++
    line 1 "fn deref(&self) -> &Self::Target \x7b" ++ line 2 access ++ line 1 "\x7d" ++
    line 0 "\x7d" ++ "\n"

def Constructor.print (visibility : String) (name : String) (c : Constructor) : String :=
  line 0 ("impl " ++ name ++ " \x7b") ++
    line 1 (visibilityPart visibility ++ "fn new(" ++ commaSeparated (c.params.map Param.render) ++
      ") -> Self \x7b") ++
    line 2 ("Self \x7b base: " ++ c.path ++ " \x7b " ++ commaSeparated c.fields ++ " \x7d \x7d") ++
    line 1 "\x7d" ++ line 0 "\x7d" ++ "\n"

/-- A struct without fields. -/
def printUnitStruct (visibility : String) (name : String) : String :=
  line 0 "#[derive(Debug, Clone, Copy, Default)]" ++
    line 0 (visibilityPart visibility ++ "struct " ++ name ++ ";") ++ "\n"

/-- The struct of an implementation, its constructor and its access to the base. -/
def Storage.print (visibility : String) (name : String) : Storage → String
  | .bare => printUnitStruct visibility name
  | .emptyBase base path =>
    printUnitStruct visibility name ++ printDeref name base ("&" ++ path ++ " \x7b\x7d")
  | .heldBase base derivesDefault new =>
    (if derivesDefault then line 0 "#[derive(Default)]" else "") ++
      line 0 (visibilityPart visibility ++ "struct " ++ name ++ " \x7b") ++
      line 1 ("base: " ++ base ++ ",") ++ line 0 "\x7d" ++ "\n" ++
      new.print visibility name ++ printDeref name base "&self.base"

def Implementation.print (i : Implementation) : String :=
  i.storage.print i.visibility i.name ++
    line 0 ("impl " ++ i.unit ++ " for " ++ i.name ++ " \x7b") ++
    "\n".intercalate (i.methods.map Method.print) ++ line 0 "\x7d"

def ImplValue.render (i : ImplValue) : String :=
  (match i.receiver with
    | .value => ""
    | .ref => "&"
    | .refMut => "&mut ") ++ i.implName ++ (if i.fromDefault then "::default()" else "")

def Delegation.render (d : Delegation) : String :=
  d.unit ++ "::" ++ d.function ++ "(" ++ commaSeparated (d.value.render :: "self" :: d.args) ++ ")"

def Wrapper.print (w : Wrapper) : String :=
  line 0 (visibilityPart w.visibility ++ "trait " ++ w.name ++ " \x7b") ++
    line 1 (w.header.render ++ ";") ++ line 0 "\x7d" ++ "\n" ++
    line 0 ("impl " ++ w.name ++ " for " ++ w.source ++ " \x7b") ++
    line 1 (w.header.render ++ " \x7b") ++ line 2 w.delegation.render ++ line 1 "\x7d" ++
    line 0 "\x7d"

/-- Wrappers with an empty line between them. -/
def printWrappers (ws : List Wrapper) : String := "\n".intercalate (ws.map Wrapper.print)

end Mapwright.Code
