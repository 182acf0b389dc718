import Mathlib.Data.List.Forall2
import Mapwright.Code.Emission
import Mapwright.Code.Printer

/-!
# How methods are written

A method is written as its heading, a line for each local, and a struct literal
with a line for each field.  The relations here say so of the text alone: which
text an expression has, which lines a body has, and where in the text of an
implementation its methods stand.

    e is made for a binding → ExprText e e.render                  (`exprText_bindingExpr?`)
    BodyText (body r) (body r).print                               (`bodyText_body`)
    (method r).print = methodText (its heading) (body r).print     (`print_method`)
    an implementation ends in `traitPart` with its methods         (`exists_print_implementation`)
-/

namespace Mapwright.Code

/-! ## Lines -/

/-- Lines one after the other. -/
def linesText (ls : List String) : String := String.join (ls.map (· ++ "\n"))

theorem line_zero (t : String) : line 0 t = t ++ "\n" := by
  show "" ++ t ++ "\n" = _
  rw [String.empty_append]

theorem line_one (t : String) : line 1 t = "    " ++ t ++ "\n" := rfl

theorem line_two (t : String) : line 2 t = "        " ++ t ++ "\n" := rfl

theorem line_three (t : String) : line 3 t = "            " ++ t ++ "\n" := rfl

theorem linesText_cons (l : String) (ls : List String) :
    linesText (l :: ls) = l ++ "\n" ++ linesText ls := String.join_cons

theorem linesText_nil : linesText [] = "" := rfl

/-! ## Expressions -/

def Expr.isBorrow : Expr → Bool
  | .borrow _ _ => true
  | _ => false

/-- How an expression is written.  What stands before a dot is no reference, which would reach over
the dot. -/
inductive ExprText : Expr → String → Prop
  | named (x : String) : ExprText (.named x) x
  | borrow {e : Expr} {t : String} (h : ExprText e t) : ExprText (.borrow false e) ("&" ++ t)
  | borrowMut {e : Expr} {t : String} (h : ExprText e t) :
    ExprText (.borrow true e) ("&mut " ++ t)
  | clone {e : Expr} {t : String} (h : ExprText e t) (he : e.isBorrow = false) :
    ExprText (.clone e) (t ++ ".clone()")
  | field {e : Expr} {t : String} (h : ExprText e t) (he : e.isBorrow = false) (name : String) :
    ExprText (.field e name) (t ++ "." ++ name)
  | call {e : Expr} {t : String} (h : ExprText e t) (he : e.isBorrow = false) (method : String) :
    ExprText (.call e method) (t ++ "." ++ method ++ "()")
  | callWith {e a : Expr} {t u : String} (h : ExprText e t) (he : e.isBorrow = false)
    (method : String) (ha : ExprText a u) :
    ExprText (.callWith e method a) (t ++ "." ++ method ++ "(" ++ u ++ ")")

/-- An expression is written in one way only. -/
theorem ExprText.eq_render {e : Expr} {t : String} (h : ExprText e t) : t = e.render := by
  induction h with
  | named x => rfl
  | callWith h he method ha ihe iha =>
    rw [ihe, iha]
    rfl
  | _ =>
    rename_i ih
    rw [ih]
    rfl

theorem exprText_sourceArgument (source : Param) (passing : Passing) :
    ExprText (sourceArgument source passing) (sourceArgument source passing).render := by
  unfold sourceArgument
  split
  · exact .clone (.named _) rfl
  · exact .borrow (.named _)
  · exact .borrowMut (.named _)
  · exact .named _

theorem exprText_bindingExpr? {source : Param} {b : Binding} {e : Expr}
    (he : bindingExpr? source b = some e) : ExprText e e.render := by
  cases b with
  | parameter x =>
    cases he
    exact .named _
  | sibling g pass =>
    cases pass with
    | none =>
      cases he
      exact .call (.named _) rfl _
    | some passing =>
      cases he
      exact .callWith (.named _) rfl _ (exprText_sourceArgument source passing)
  | accessor x =>
    cases he
    exact .call (.named _) rfl _
  | property x =>
    simp only [bindingExpr?] at he
    split at he <;> cases he
    · exact .clone (.field (.named _) rfl _) rfl
    · exact .field (.named _) rfl _
  | unresolved => cases he

/-! ## Locals and fields -/

/-- How a `let` local is written. -/
def LocalText (b : Binder) (text : String) : Prop :=
  ∃ value, ExprText b.value value ∧ text = "        let " ++ b.name ++ " = " ++ value ++ ";\n"

/-- How a field of a struct literal is written: in the short form, which gives it the value of its
own name, or with a value after the name. -/
inductive FieldText (b : Binder) : String → Prop
  | short (h : ExprText b.value b.name) : FieldText b b.name
  | long {value : String} (h : ExprText b.value value) : FieldText b (b.name ++ ": " ++ value)

theorem localText_renderLocal {b : Binder} (h : ExprText b.value b.value.render) :
    LocalText b (line 2 b.renderLocal) := by
  have hlet : "        let " = "        " ++ "let " := rfl
  have hend : ";\n" = ";" ++ "\n" := rfl
  refine ⟨_, h, ?_⟩
  rw [line_two, Binder.renderLocal, hlet, hend]
  simp only [String.append_assoc]

theorem fieldText_renderField {b : Binder} (h : ExprText b.value b.value.render) :
    FieldText b b.renderField := by
  unfold Binder.renderField
  by_cases hname : b.value.render = b.name
  · rw [if_pos hname, hname]
    exact .short (hname ▸ h)
  · rw [if_neg hname]
    exact .long h

/-! ## Literals -/

/-- The end of a struct literal that takes its other fields from the default of its type. -/
def defaultEnd : String := "            ..Default::default()\n        \x7d\n"

/-- The text of a struct literal in a body: the path of its type, the fields that it lists, each of
them written as `field` says, and whether it takes the others from the default of its type. -/
inductive LiteralText {α : Type} (field : α → String → Prop) (path : String) :
    List α → Bool → String → Prop
  | empty : LiteralText field path [] false ("        " ++ path ++ " \x7b\x7d\n")
  | listed {as : List α} {texts : List String} : List.Forall₂ field as texts → as ≠ [] →
    LiteralText field path as false ("        " ++ path ++ " \x7b\n" ++
      String.join (texts.map fun t => "            " ++ t ++ ",\n") ++ "        \x7d\n")
  | completed {as : List α} {texts : List String} : List.Forall₂ field as texts →
    LiteralText field path as true ("        " ++ path ++ " \x7b\n" ++
      String.join (texts.map fun t => "            " ++ t ++ ",\n") ++ defaultEnd)

theorem LiteralText.map {α β : Type} {field : α → String → Prop} {field' : β → String → Prop}
    {f : α → β} (hfield : ∀ a t, field a t → field' (f a) t) {path : String} {as : List α}
    {rest : Bool} {text : String} (h : LiteralText field path as rest text) :
    LiteralText field' path (as.map f) rest text := by
  have hall : ∀ {texts}, List.Forall₂ field as texts → List.Forall₂ field' (as.map f) texts :=
    fun h => List.forall₂_map_left_iff.2 (h.imp hfield)
  cases h with
  | empty => exact .empty
  | listed htexts hne => exact .listed (hall htexts) fun hnil => hne (List.map_eq_nil_iff.1 hnil)
  | completed htexts => exact .completed (hall htexts)

theorem map_line_renderField (fields : List Binder) :
    (fields.map fun f => line 3 (f.renderField ++ ",")) =
      (fields.map Binder.renderField).map fun t => "            " ++ t ++ ",\n" := by
  rw [List.map_map]
  refine List.map_congr_left fun b _ => ?_
  rw [line_three, Function.comp_apply]
  simp only [String.append_assoc]
  rfl

/-- **A literal is printed with all of its fields.** -/
theorem literalText_print {l : Literal} (h : ∀ b ∈ l.fields, ExprText b.value b.value.render) :
    LiteralText FieldText l.path l.fields l.restFromDefault l.print := by
  obtain ⟨path, fields, rest⟩ := l
  have hfields : List.Forall₂ FieldText fields (fields.map Binder.renderField) := by
    rw [List.forall₂_map_right_iff, List.forall₂_same]
    exact fun b hb => fieldText_renderField (h b hb)
  have hopening : ∀ t, line 2 (path ++ t) = "        " ++ path ++ (t ++ "\n") := by
    intro t
    rw [line_two]
    simp only [String.append_assoc]
  unfold Literal.print
  rw [hopening, hopening, map_line_renderField]
  cases rest with
  | true =>
    rw [Bool.not_true, Bool.and_false, if_neg Bool.false_ne_true, if_pos rfl, String.append_assoc]
    exact .completed hfields
  | false =>
    cases fields with
    | nil => exact .empty
    | cons b fields =>
      rw [List.isEmpty_cons, Bool.false_and, if_neg Bool.false_ne_true, if_neg Bool.false_ne_true,
        String.append_empty]
      exact .listed hfields (List.cons_ne_nil _ _)

/-! ## Bodies -/

/-- How a body is written: a line for each local, and the literal. -/
def BodyText (b : Body) (text : String) : Prop :=
  ∃ locals literal, List.Forall₂ LocalText b.locals locals ∧
    LiteralText FieldText b.result.path b.result.fields b.result.restFromDefault literal ∧
    text = String.join locals ++ literal

/-- A value in a body is an expression for a binding, or names the local that holds it. -/
theorem exprText_of_mem_body (r : ResolvedFunction) {b : Binder}
    (hb : b ∈ bodyLocals r ++ bodyFields r) : ExprText b.value b.value.render := by
  rcases List.mem_append.1 hb with hb | hb
  · obtain ⟨field, -, hlocal⟩ := List.mem_filterMap.1 hb
    split at hlocal
    · obtain ⟨e, he, rfl⟩ := Option.map_eq_some_iff.1 hlocal
      exact exprText_bindingExpr? he
    · cases hlocal
  · obtain ⟨field, -, hfield⟩ := List.mem_filterMap.1 hb
    obtain ⟨e, he, rfl⟩ := Option.map_eq_some_iff.1 hfield
    show ExprText (if isHoisted r field then Expr.named field.param.name else e) _
    split
    · exact .named _
    · exact exprText_bindingExpr? he

/-- **A body is printed as it is.** -/
theorem bodyText_body (r : ResolvedFunction) : BodyText (body r) (body r).print := by
  refine ⟨(body r).locals.map fun l => line 2 l.renderLocal, (body r).result.print, ?_, ?_,
    by rw [Body.print]⟩
  · rw [List.forall₂_map_right_iff, List.forall₂_same]
    exact fun b hb => localText_renderLocal (exprText_of_mem_body r (List.mem_append_left _ hb))
  · have hfields : ∀ b ∈ bodyFields r, ExprText b.value b.value.render :=
      fun b hb => exprText_of_mem_body r (List.mem_append_right _ hb)
    exact literalText_print (l := (body r).result) hfields

/-! ## Methods -/

/-- The heading of a method: its name, `self`, the other parameters as they are written, and what it
returns. -/
def headingText (name : String) (receiver : Receiver) (params : List String) (returns : TypeRef) :
    String :=
  "fn " ++ name ++ "(" ++ ", ".intercalate (receiver.render :: params) ++ ") -> " ++ returns.render

/-- The text of a method. -/
def methodText (heading body : String) : String :=
  "    " ++ heading ++ " \x7b\n" ++ body ++ "    \x7d\n"

theorem print_method (m : Method) : m.print = methodText m.header.render m.body.print := by
  have hclosing : "    \x7d\n" = "    " ++ "\x7d" ++ "\n" := rfl
  have hopening : " \x7b\n" = " \x7b" ++ "\n" := rfl
  rw [Method.print, methodText, line_one, line_one, hclosing, hopening]
  simp only [String.append_assoc]

theorem map_render_slot (ps : List Param) :
    (ps.map (Slot.mk false)).map (·.render) = ps.map (·.render) := by
  rw [List.map_map]
  exact List.map_congr_left fun p _ => String.empty_append

/-- The first slot of a method is its source, which is `mut` if it is lent for writing. -/
theorem params_method {r : ResolvedFunction} {rest : List Param}
    (h : r.function.params = r.source :: rest) :
    (method r).header.params = ⟨lendsForWriting r, r.source⟩ :: rest.map (⟨false, ·⟩) := by
  show slots r = _
  rw [slots, h]

/-- A method has the signature of its function; its source is `mut` if it is lent for writing. -/
theorem header_method {r : ResolvedFunction} {receiver : Receiver} {extras : List Param}
    (hreceiver : r.function.receiver = some receiver)
    (hparams : r.function.params = r.source :: extras) :
    (method r).header.render = headingText r.function.name receiver
      (((if lendsForWriting r then "mut " else "") ++ r.source.render) :: extras.map (·.render))
      r.target := by
  rw [Header.render, params_method hparams, List.map_cons, map_render_slot]
  show "fn " ++ r.function.name ++ "(" ++
    commaSeparated ((receiverOf r.function).render :: _) ++ _ ++ _ = _
  rw [receiverOf, hreceiver, Option.getD_some]
  rfl

/-! ## Implementations -/

/-- The impl of the trait, with an empty line between its methods. -/
def traitPart (unit name : String) (methods : List String) : String :=
  "impl " ++ unit ++ " for " ++ name ++ " \x7b\n" ++ "\n".intercalate methods ++ "\x7d\n"

/-- The text of an implementation ends in the impl of the trait. -/
theorem print_eq_append_traitPart (i : Implementation) :
    i.print = i.storage.print i.visibility i.name ++
      traitPart i.unit i.name (i.methods.map Method.print) := by
  have hopening : " \x7b\n" = " \x7b" ++ "\n" := rfl
  rw [Implementation.print, line_zero, line_zero, traitPart, hopening]
  simp only [String.append_assoc]
  rfl

end Mapwright.Code
