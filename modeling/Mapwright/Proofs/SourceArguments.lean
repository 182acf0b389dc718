import Mapwright.Proofs.Access
import Mapwright.Proofs.Meaning
import Mapwright.Proofs.UnitTexts

/-!
# How the source is handed to siblings

A sibling declares how it takes the source, and the argument is written to fit:
a clone where the source is to be owned, and otherwise a reference, which is
made of an owned source and handed on of a lent one.  There is no argument for a
sibling that wants to write to a source that is lent for reading; a unit that
has one is not generated.

The first parameter of a method is `mut` exactly if a reference for writing is
made of it somewhere in the body.

    sourceArgument … is written as ArgumentText says, unless it is lent for
      reading and wanted for writing                              (`argumentText_sourceArgument`)
    an argument of a body is made for a sibling                   (`mem_arguments_body_iff`)
    all of it for each unit of a report                           (`arguments_of_run`)
-/

namespace Mapwright

/-! ## Declared parameters -/

/-- How the sibling called `name` declares that it takes the source, if it takes anything: a function
of the unit, or else a method of the base. -/
inductive Declares (unit : MappingUnit) (base : Option TypeDescriptor) (current : MappingFunction)
    (name : String) : Option Passing → Prop
  | function {f : MappingFunction} (h : unit.sibling? current name = some f) :
    Declares unit base current name (firstPassing f.params)
  | method {d : TypeDescriptor} {sig : MethodSig} (h : unit.sibling? current name = none)
    (hbase : base = some d) (hmethod : d.method? name = some sig) :
    Declares unit base current name (firstPassing sig.params)

theorem declares_of_siblingPassing {unit : MappingUnit} {base : Option TypeDescriptor}
    {current : MappingFunction} {name : String} {pass : Option Passing}
    (h : siblingPassing unit base current name = some pass) :
    Declares unit base current name pass := by
  unfold siblingPassing at h
  split at h
  · next f hf =>
    cases h
    exact .function hf
  · next hf =>
    obtain ⟨sig, hsig, rfl⟩ := Option.map_eq_some_iff.1 h
    obtain ⟨d, hd, hmethod⟩ := Option.bind_eq_some_iff.1 hsig
    exact .method hf hd hmethod

namespace Code

/-! ## Arguments -/

/-- The text of an argument, by how the source is passed to the caller, how the sibling takes it, and
its name. -/
inductive ArgumentText (name : String) : (given wanted : Passing) → String → Prop
  | clone (given : Passing) : ArgumentText name given .owned (name ++ ".clone()")
  | borrow : ArgumentText name .owned .shared ("&" ++ name)
  | borrowMut : ArgumentText name .owned .exclusive ("&mut " ++ name)
  | lend {given : Passing} (h : given ≠ .owned) : ArgumentText name given .shared name
  | lendMut : ArgumentText name .exclusive .exclusive name

theorem argumentText_sourceArgument (source : Param) (wanted : Passing)
    (h : source.type.passing = .shared → wanted ≠ .exclusive) :
    ArgumentText source.name source.type.passing wanted (sourceArgument source wanted).render := by
  unfold sourceArgument
  cases wanted with
  | owned => exact .clone _
  | shared =>
    cases hgiven : source.type.passing with
    | owned => exact .borrow
    | shared => exact .lend (by decide)
    | exclusive => exact .lend (by decide)
  | exclusive =>
    cases hgiven : source.type.passing with
    | owned => exact .borrowMut
    | shared => exact absurd rfl (h hgiven)
    | exclusive => exact .lendMut

/-- A reference for writing is made of the source exactly if that is owned and wanted for writing. -/
theorem render_sourceArgument_eq_iff (source : Param) (wanted : Passing) :
    (sourceArgument source wanted).render = "&mut " ++ source.name ↔
      source.type.passing = .owned ∧ wanted = .exclusive := by
  have hne : ∀ before after : String, before.length + after.length ≠ 5 →
      before ++ source.name ++ after ≠ "&mut " ++ source.name := by
    intro before after hlength heq
    have hcount := congrArg String.length heq
    have hfive : ("&mut " : String).length = 5 := rfl
    simp only [String.length_append, hfive] at hcount
    omega
  have hclone : source.name ++ ".clone()" ≠ "&mut " ++ source.name := by
    have h := hne "" ".clone()" (by decide)
    rwa [String.empty_append] at h
  have hborrow : "&" ++ source.name ≠ "&mut " ++ source.name := by
    have h := hne "&" "" (by decide)
    rwa [String.append_empty] at h
  have hlend : source.name ≠ "&mut " ++ source.name := by
    have h := hne "" "" (by decide)
    rwa [String.empty_append, String.append_empty] at h
  unfold sourceArgument
  cases hgiven : source.type.passing <;> cases wanted <;>
    simp [Expr.render, hclone, hborrow, hlend]

/-- The arguments of the calls in an expression. -/
def Expr.arguments : Expr → List Expr
  | .named _ => []
  | .borrow _ value => value.arguments
  | .clone value => value.arguments
  | .field owner _ => owner.arguments
  | .call owner _ => owner.arguments
  | .callWith owner _ argument => argument :: (owner.arguments ++ argument.arguments)

/-- The arguments of the calls in a body. -/
def Body.arguments (b : Body) : List Expr := b.evaluated.flatMap Expr.arguments

/-- The locals of a body and the fields of its literal. -/
def Body.binders (b : Body) : List Binder := b.locals ++ b.result.fields

theorem arguments_sourceArgument (source : Param) (wanted : Passing) :
    (sourceArgument source wanted).arguments = [] := by
  unfold sourceArgument
  split <;> rfl

/-- Only siblings that take the source have an argument. -/
theorem arguments_bindingExpr? {source : Param} {b : Binding} {e : Expr}
    (he : bindingExpr? source b = some e) (a : Expr) :
    a ∈ e.arguments ↔ ∃ name wanted, b = .sibling name (some wanted) ∧
      a = sourceArgument source wanted := by
  cases b with
  | sibling name pass =>
    cases pass with
    | none =>
      cases he
      simp [Expr.arguments]
    | some wanted =>
      cases he
      simp [Expr.arguments, arguments_sourceArgument]
  | property x =>
    rw [bindingExpr?] at he
    split at he <;> cases he <;> simp [Expr.arguments]
  | unresolved => cases he
  | _ =>
    cases he
    simp [Expr.arguments]

/-- The value of a field stands in its local, or else in the literal. -/
theorem mem_binders_body {r : ResolvedFunction} {field : ResolvedField} (hfield : field ∈ r.fields)
    {e : Expr} (he : bindingExpr? r.source field.binding = some e) :
    ⟨field.param.name, e⟩ ∈ (body r).binders := by
  refine List.mem_append.2 ?_
  cases hh : isHoisted r field with
  | true => exact Or.inl ((mem_bodyLocals r _).2 ⟨field, hfield, hh, rfl, he⟩)
  | false =>
    refine Or.inr (List.mem_filterMap.2 ⟨field, hfield, ?_⟩)
    rw [he, hh]
    rfl

/-- The arguments in a body are those that its fields have. -/
theorem mem_arguments_body_iff (r : ResolvedFunction) (a : Expr) :
    a ∈ (body r).arguments ↔ ∃ field ∈ r.fields, ∃ name wanted,
      field.binding = .sibling name (some wanted) ∧ a = sourceArgument r.source wanted := by
  rw [Body.arguments, List.mem_flatMap]
  show (∃ e ∈ (bodyLocals r).map (·.value) ++ (bodyFields r).map (·.value), _) ↔ _
  rw [values_bodyFields]
  constructor
  · rintro ⟨e, he, ha⟩
    rcases List.mem_append.1 he with he | he
    · obtain ⟨l, hl, rfl⟩ := List.mem_map.1 he
      obtain ⟨field, hfield, -, -, hexpr⟩ := (mem_bodyLocals r l).1 hl
      exact ⟨field, hfield, (arguments_bindingExpr? hexpr a).1 ha⟩
    · obtain ⟨field, hfield, hvalue⟩ := List.mem_filterMap.1 he
      obtain ⟨e', hexpr, rfl⟩ := Option.map_eq_some_iff.1 hvalue
      -- a hoisted field only names its local
      split at ha
      · cases ha
      · exact ⟨field, hfield, (arguments_bindingExpr? hexpr a).1 ha⟩
  · rintro ⟨field, hfield, name, wanted, hb, rfl⟩
    have hexpr : bindingExpr? r.source field.binding =
        some (.callWith (.named "self") name (sourceArgument r.source wanted)) := by
      rw [hb]
      rfl
    refine ⟨_, List.mem_append.2 ?_,
      (arguments_bindingExpr? hexpr _).2 ⟨name, wanted, hb, rfl⟩⟩
    cases hh : isHoisted r field with
    | true =>
      exact Or.inl (List.mem_map.2
        ⟨⟨field.param.name, _⟩, (mem_bodyLocals r _).2 ⟨field, hfield, hh, rfl, hexpr⟩, rfl⟩)
    | false =>
      refine Or.inr (List.mem_filterMap.2 ⟨field, hfield, ?_⟩)
      rw [fieldValue?, hexpr, Option.map_some, hh]
      rfl

/-- A source is lent for writing exactly if a reference for writing is an argument in the body. -/
theorem lendsForWriting_iff (r : ResolvedFunction) :
    lendsForWriting r = true ↔
      ∃ a ∈ (body r).arguments, a.render = "&mut " ++ r.source.name := by
  simp only [lendsForWriting, Bool.and_eq_true, beq_iff_eq, List.any_eq_true]
  constructor
  · rintro ⟨howned, field, hfield, hlends⟩
    split at hlends
    · next name hb =>
      exact ⟨_, (mem_arguments_body_iff r _).2 ⟨field, hfield, name, _, hb, rfl⟩,
        (render_sourceArgument_eq_iff ..).2 ⟨howned, rfl⟩⟩
    · cases hlends
  · rintro ⟨a, ha, hrender⟩
    obtain ⟨field, hfield, name, wanted, hb, rfl⟩ := (mem_arguments_body_iff r a).1 ha
    obtain ⟨howned, rfl⟩ := (render_sourceArgument_eq_iff ..).1 hrender
    refine ⟨howned, field, hfield, ?_⟩
    rw [hb]

/-- Whether a reference for writing is made of the source somewhere in a body. -/
def Body.LendsForWriting (b : Body) (source : Param) : Prop :=
  ∃ a ∈ b.arguments, ExprText a ("&mut " ++ source.name)

/-- An argument in a body is written in one way. -/
theorem exprText_of_mem_arguments {r : ResolvedFunction} {a : Expr} (ha : a ∈ (body r).arguments) :
    ExprText a a.render := by
  obtain ⟨field, -, name, wanted, -, rfl⟩ := (mem_arguments_body_iff r a).1 ha
  exact exprText_sourceArgument r.source wanted

theorem lendsForWriting_body_iff (r : ResolvedFunction) :
    (body r).LendsForWriting r.source ↔ lendsForWriting r = true := by
  rw [lendsForWriting_iff]
  refine exists_congr fun a => and_congr_right fun ha => ⟨fun h => h.eq_render.symm, fun h => ?_⟩
  exact h ▸ exprText_of_mem_arguments ha

end Code

/-! ## Functions and units -/

/-- How a body hands the source of its function to siblings.  The fields are those of the target,
each of which is bound as it is resolved. -/
structure HandsOver (unit : MappingUnit) (base : Option TypeDescriptor) (f : MappingFunction)
    (source : Param) (sourceType : TypeDescriptor) (fields : List Param) (b : Code.Body) : Prop where
  /-- A sibling that takes the source gets an argument as it declares. -/
  handed : ∀ p ∈ fields, ∀ name wanted,
    Binding.resolve unit base f sourceType p.name = .sibling name (some wanted) →
      Declares unit base f name (some wanted) ∧ ∃ argument text,
        ⟨p.name, .callWith (.named "self") name argument⟩ ∈ b.binders ∧
          Code.ExprText argument text ∧
          Code.ArgumentText source.name source.type.passing wanted text
  /-- A sibling without parameters gets none. -/
  unhanded : ∀ p ∈ fields, ∀ name,
    Binding.resolve unit base f sourceType p.name = .sibling name none →
      Declares unit base f name none ∧ ⟨p.name, .call (.named "self") name⟩ ∈ b.binders
  /-- There are no other arguments. -/
  only : ∀ a ∈ b.arguments, ∃ p ∈ fields, ∃ name wanted text,
    Binding.resolve unit base f sourceType p.name = .sibling name (some wanted) ∧
      Code.ExprText a text ∧ Code.ArgumentText source.name source.type.passing wanted text
  /-- A source that is lent for reading is not lent for writing. -/
  lent : ∀ p ∈ fields, ∀ name,
    Binding.resolve unit base f sourceType p.name = .sibling name (some .exclusive) →
      source.type.passing ≠ .shared

/-- Whether the text of a method hands the source of its function to siblings as they declare.  The
source is the first parameter; it is `mut` exactly if a reference for writing is made of it in the
body, and no other parameter is. -/
def MethodHandsOver (registry : Registry) (unit : MappingUnit) (base : Option TypeDescriptor)
    (f : MappingFunction) (text : String) : Prop :=
  ∃ receiver source extras sourceType target fields,
    f.Maps registry receiver source extras sourceType target fields ∧
    ∃ mutability b body,
      text = Code.methodText (Code.headingText f.name receiver
        ((mutability ++ source.render) :: extras.map (·.render)) target) body ∧
      Code.BodyText b body ∧
      ((mutability = "mut " ∧ b.LendsForWriting source) ∨
        (mutability = "" ∧ ¬b.LendsForWriting source)) ∧
      HandsOver unit base f source sourceType fields b

section

variable {registry : Registry} {unit : MappingUnit} {base : Option TypeDescriptor}
  {f : MappingFunction} {source : Param} {sourceType : TypeDescriptor} {target : TypeRef}
  {fields : List Param}

theorem declares_of_resolve {field name : String} {pass : Option Passing}
    (h : Binding.resolve unit base f sourceType field = .sibling name pass) :
    Declares unit base f name pass := by
  obtain ⟨rfl, -, hpass⟩ := (Binding.resolve_eq_sibling_iff ..).1 h
  exact declares_of_siblingPassing hpass

/-- The body of a function without a conflict hands the source over as the siblings declare. -/
theorem handsOver_body {r : ResolvedFunction}
    (hr : r = .resolve unit base f source sourceType target fields)
    (hconflict : r.conflictingSibling? = none) :
    HandsOver unit base f source sourceType fields (Code.body r) := by
  have hfield : ∀ p ∈ fields, ⟨p, Binding.resolve unit base f sourceType p.name⟩ ∈ r.fields := by
    intro p hp
    rw [hr]
    exact List.mem_map_of_mem hp
  have hsource : r.source = source := by
    rw [hr]
    rfl
  have hlent : ∀ p ∈ fields, ∀ name,
      Binding.resolve unit base f sourceType p.name = .sibling name (some .exclusive) →
        source.type.passing ≠ .shared := by
    intro p hp name hb hshared
    rw [← hsource] at hshared
    exact ResolvedFunction.ne_sibling_of_conflictingSibling? hconflict hshared _ (hfield p hp) name hb
  have htext : ∀ p ∈ fields, ∀ name wanted,
      Binding.resolve unit base f sourceType p.name = .sibling name (some wanted) →
        Code.ArgumentText source.name source.type.passing wanted
          (Code.sourceArgument source wanted).render := by
    intro p hp name wanted hb
    refine Code.argumentText_sourceArgument _ _ ?_
    rintro hshared rfl
    exact hlent p hp name hb hshared
  constructor
  case handed =>
    intro p hp name wanted hb
    refine ⟨declares_of_resolve hb, Code.sourceArgument source wanted, _,
      Code.mem_binders_body (hfield p hp) ?_, Code.exprText_sourceArgument source wanted,
      htext p hp name wanted hb⟩
    rw [hb, hsource]
    rfl
  case unhanded =>
    intro p hp name hb
    refine ⟨declares_of_resolve hb, Code.mem_binders_body (hfield p hp) ?_⟩
    rw [hb]
    rfl
  case only =>
    intro a ha
    obtain ⟨field, hmem, name, wanted, hb, rfl⟩ := (Code.mem_arguments_body_iff _ a).1 ha
    obtain ⟨hp, hbinding⟩ := (ResolvedFunction.mem_fields_resolve ..).1 (hr ▸ hmem)
    rw [hbinding] at hb
    rw [hsource]
    exact ⟨field.param, hp, name, wanted, _, hb, Code.exprText_sourceArgument source wanted,
      htext field.param hp name wanted hb⟩
  case lent => exact hlent

theorem methodHandsOver_planFunction {m : Mapping} {p : PlannedFunction}
    (hm : readMapping f = .ok m) (hp : planFunction registry unit base m = .ok p) :
    MethodHandsOver registry unit base f (Code.method p.resolved).print := by
  obtain ⟨receiver, source, extras, sourceType, target, fields, hmaps, hr, hprint⟩ :=
    print_planFunction hm hp
  obtain ⟨-, -, -, -, -, -, hconflict, -⟩ := planFunction_eq_ok_iff.1 hp
  have hlends := Code.lendsForWriting_body_iff p.resolved
  rw [show p.resolved.source = source by rw [hr]; rfl] at hlends
  refine ⟨receiver, source, extras, sourceType, target, fields, hmaps, _, Code.body p.resolved, _,
    hprint, Code.bodyText_body _, ?_, handsOver_body hr hconflict⟩
  cases hwrites : Code.lendsForWriting p.resolved with
  | true => exact Or.inl ⟨rfl, hlends.2 hwrites⟩
  | false => exact Or.inr ⟨rfl, fun h => Bool.false_ne_true (hwrites.symm.trans (hlends.1 h))⟩

end

/-- The base that an admitted unit is planned on is described under the name that the unit gives. -/
theorem bind_describe?_of_checkBase {registry : Registry} {unit : MappingUnit}
    {base : Option TypeDescriptor} (h : checkBase registry unit = .ok base) :
    (unit.base.bind fun b => registry.describe? b.name) = base := by
  rcases checkBase_eq_ok_iff.1 h with ⟨hnone, rfl⟩ | ⟨b, d, hb, hd, -, rfl⟩
  · rw [hnone]
    rfl
  · rw [hb]
    exact hd

namespace Generator

/-- Whether all methods of a generated unit hand their sources over as the siblings declare.  Its
text ends in a method for each required function. -/
def HandsOver (g : Generator) (u : GeneratedUnit) : Prop :=
  ∃ unit ∈ g.units.values, unit.name = u.unit ∧
    ∃ (start : String) (methods : List String),
      u.implementation = start ++ Code.traitPart unit.name u.implName methods ∧
      List.Forall₂ (MethodHandsOver g.registry unit
        (unit.base.bind fun b => g.registry.describe? b.name)) unit.requiredFunctions methods

/-- **Arguments fit what siblings take.**  In the report of a pass, each method of each unit hands
its source over as the siblings declare, and writes `mut` where it lends the source for writing. -/
theorem arguments_of_run (g : Generator) (report : Report) (hrun : g.run = .ok report) :
    ∀ u ∈ report.units, g.HandsOver u := by
  intro u hu
  obtain ⟨unit, hunit, plan, hplan, rfl⟩ := (mem_units_run_iff hrun).1 hu
  obtain ⟨rfl, hbase, -, -⟩ := planUnit_eq_ok_iff.1 hplan
  obtain ⟨start, hstart⟩ := plan.exists_implementation g.settings
  refine ⟨plan.unit, hunit, rfl, start, _, hstart, ?_⟩
  rw [bind_describe?_of_checkBase hbase, List.forall₂_map_right_iff]
  refine (forall₂_functions hplan).imp ?_
  rintro f p ⟨m, hm, hp⟩
  exact methodHandsOver_planFunction hm hp

/-! ## A ticket that is stamped -/

/-- A ticket that is owned is stamped, given away and looked at before its row is taken out of it, and
one that is lent for writing is stamped and looked at. -/
def ticketUnit : MappingUnit :=
  ⟨"Tickets", .inline, "", false, none, none,
    [⟨"enter", some .ref, [⟨"ticket", .named "Ticket"⟩, ⟨"gate", .named "u32"⟩],
        some (.named "Entry"), .required⟩,
      ⟨"renew", some .ref, [⟨"ticket", "Ticket", "Ticket", .exclusive⟩],
        some (.named "Entry"), .required⟩,
      ⟨"stamp", some .ref, [⟨"ticket", "Ticket", "Ticket", .exclusive⟩], some (.named "u32"),
        .provided⟩,
      ⟨"seat", some .ref, [⟨"ticket", "Ticket", "Ticket", .shared⟩], some (.named "u32"),
        .provided⟩,
      ⟨"stub", some .ref, [⟨"ticket", .named "Ticket"⟩], some (.named "u32"), .provided⟩,
      ⟨"today", some .ref, [], some (.named "u32"), .provided⟩]⟩

def ticketGenerator : Generator :=
  ((Generator.new.registerType (.record "Ticket" .inline [⟨"row", .named "String"⟩])).registerType
    (.record "Entry" .inline [⟨"row", .named "String"⟩, ⟨"stamp", .named "u32"⟩,
      ⟨"seat", .named "u32"⟩, ⟨"stub", .named "u32"⟩, ⟨"today", .named "u32"⟩,
      ⟨"gate", .named "u32"⟩])).addUnit ticketUnit

/-- The ticket that is owned is made writable, and the other one is not. -/
theorem arguments_of_run_tickets :
    ∃ report, ticketGenerator.run = .ok report ∧ report.units.map (·.unit) = ["Tickets"] ∧
      ∀ u ∈ report.units, ticketGenerator.HandsOver u := by
  have hrun : ticketGenerator.run =
      .ok (ticketGenerator.run.toOption.getD ⟨"", [], []⟩) := by decide +kernel
  exact ⟨_, hrun, by decide +kernel, arguments_of_run ticketGenerator _ hrun⟩

end Generator

end Mapwright
