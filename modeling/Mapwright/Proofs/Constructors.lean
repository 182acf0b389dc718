import Mapwright.Proofs.Keeping
import Mapwright.Proofs.Structure
import Mathlib.Data.List.Infix

/-!
# The constructor of an implementation

An implementation that holds a value of its base is built by `new`, which has a
parameter for each field of the base as it was declared last, and hands each to
the field of its name.  It keeps the type that the text declares for the field,
but for the lifetime of an outer reference and what is not plainly written; for
a type that cannot be written again it has a gap.

    the constructor of a type = that of the last struct that was read      (`constructor_addSources`)
    a unit on a struct is generated → `new` mirrors the struct             (`new_of_planUnit`)
    `new` has not always the types of the fields                           (`not_forall_spell`)
-/

namespace Mapwright

open Source

/-! ## Structs as they are read -/

namespace Source

/-- The fields of an item, if it is a struct of the given name. -/
def Item.structs (type : String) : Item → List Fields
  | .struct name fields => if name = type then [fields] else []
  | _ => []

/-- The structs of one name in a text, each with the scope it is read in. -/
def structs (type : String) (text : String) : List (Scope × Fields) :=
  ((items? text).map fun items => (read (Scope.ofItems items) items).flatMap fun e =>
    (e.2.structs type).map (e.1, ·)).getD []

/-- What is declared of the structs of one name. -/
theorem Item.constructors_declarations (scope : Scope) (module : ModuleId) (type : String)
    (item : Item) (h : ∀ inner, item ≠ .module inner) :
    ((item.declarations scope module).filter (·.builds type)).map (·.constructor?) =
      (item.structs type).map (·.constructor scope) := by
  cases item with
  | struct name fields =>
    by_cases hname : name = type
    · simp [Item.declarations, Item.structs, Declaration.builds, Declaration.constructor?, hname]
    · simp [Item.declarations, Item.structs, Declaration.builds, hname]
  | enumeration name => simp [Item.declarations, Item.structs, Declaration.builds]
  | implementation ofTrait owner methods =>
    cases hd : implDeclaration? scope module ofTrait owner methods with
    | none => simp [Item.declarations, Item.structs, hd]
    | some d =>
      obtain ⟨p, -, -, rfl⟩ := eq_of_implDeclaration? hd
      simp [Item.declarations, Item.structs, Declaration.builds, hd]
  | trait t =>
    cases hd : t.declaration? scope module with
    | none => simp [Item.declarations, Item.structs, hd]
    | some d =>
      have hbuilds : d.builds type = false := by
        obtain ⟨marker, -, rfl⟩ := Option.map_eq_some_iff.1 hd
        split <;> rfl
      simp [Item.declarations, Item.structs, hd, hbuilds]
  | module inner => exact absurd rfl (h inner)
  | _ => rfl

theorem constructors_declarations? (module : ModuleId) (type text : String) :
    (((declarations? module text).getD []).filter (·.builds type)).map (·.constructor?) =
      (structs type text).map fun e => e.2.constructor e.1 := by
  unfold declarations? structs
  cases items? text with
  | none => rfl
  | some items =>
    simp only [Option.map_some, Option.getD_some, declarations_eq_flatMap, List.filter_flatMap,
      List.map_flatMap, List.map_map]
    exact List.flatMap_congr fun e he =>
      Item.constructors_declarations e.1 module type e.2 (ne_module_of_mem_read _ items e he)

end Source

/-- The structs of one name over all sources. -/
def structsOf (sources : List (ModuleId × String)) (type : String) : List (Scope × Fields) :=
  sources.flatMap fun s => structs type s.2

/-- A type is built as the last struct of its name says. -/
theorem Generator.constructor_addSources (settings : Settings) (sources : List (ModuleId × String))
    (type : String) :
    (((fresh settings).addSources sources).registry.describe? type).bind (·.constructor) =
      (structsOf sources type).getLast?.bind fun e => e.2.constructor e.1 := by
  have hstructs : ((sources.flatMap fun s => (declarations? s.1 s.2).getD []).filter
      (·.builds type)).map (·.constructor?) =
      (structsOf sources type).map fun e => e.2.constructor e.1 := by
    rw [structsOf, List.filter_flatMap, List.map_flatMap, List.map_flatMap]
    exact List.flatMap_congr fun s _ => constructors_declarations? s.1 type s.2
  rw [addSources_eq_declareAll, constructor_declareAll, findRev?_eq_getLast?_filter,
    ← List.getLast?_map, hstructs, List.getLast?_map]
  cases (structsOf sources type).getLast? <;> rfl

/-! ## Parameters of `new` -/

/-- The impl with `new`: it has parameters of the given names and types, and hands each of them to the
field of its name in a literal of the base. -/
def Code.newText (visibility name literal : String) (params : List (String × String)) : String :=
  linesText [
    "impl " ++ name ++ " \x7b",
    "    " ++ visibilityPart visibility ++ "fn new(" ++
      ", ".intercalate (params.map fun p => p.1 ++ ": " ++ p.2) ++ ") -> Self \x7b",
    "        Self \x7b base: " ++ literal ++ " \x7b " ++ ", ".intercalate (params.map (·.1)) ++
      " \x7d \x7d",
    "    \x7d",
    "\x7d",
    ""]

theorem Code.newPart_instanced (visibility name : String) (base : TypeRef) (fields : List Param) :
    newPart visibility name (some base) fields .instanced = newText visibility name
      (literalPath base.source) (fields.map fun p => (p.name, p.type.render)) := by
  have htexts : (fields.map fun p => (p.name, p.type.render)).map (fun p => p.1 ++ ": " ++ p.2) =
      fields.map (·.render) := List.map_map
  have hnames : (fields.map fun p => (p.name, p.type.render)).map (·.1) = fields.map (·.name) :=
    List.map_map
  rw [newText, htexts, hnames]
  rfl

namespace Source

/-- What is written of the type that a text declares for a field of the base. -/
structure Mirrors (text : String) (t : TypeExpr) (written : String) : Prop where
  kept : t.pieces?.isSome = true → Keeps text t written
  gap : t.pieces? = none → written = "_"

theorem mirrors_fieldParam {text : String} (scope : Scope) {field : String × TypeExpr}
    (h : IsDeclaredIn text field.2) :
    Mirrors text field.2 (fieldParam scope field).type.render := by
  have href : (∃ r, field.2.ref scope = .ok r) ↔ field.2.pieces?.isSome = true := by
    rw [field.2.exists_ref_iff scope, TypeExpr.exists_spell_iff]
  cases hr : field.2.ref scope with
  | ok r =>
    have hpieces := href.1 ⟨r, hr⟩
    have hrender : (fieldParam scope field).type = r := by
      rw [fieldParam, hr]
      rfl
    rw [hrender]
    refine ⟨fun _ => keeps_of_spell (h hpieces) (TypeExpr.spell_withoutLifetime hr), fun hnone => ?_⟩
    rw [hnone] at hpieces
    cases hpieces
  | error fault =>
    have hgap : (fieldParam scope field).type.render = "_" := by
      rw [fieldParam, hr]
      rfl
    refine ⟨fun hpieces => ?_, fun _ => hgap⟩
    obtain ⟨r, hok⟩ := href.2 hpieces
    cases hr.symm.trans hok

/-- The types of the fields of a struct in a text are declared in the text, if they can be written
again. -/
theorem declares_of_mem_structs {type text : String} {e : Scope × Fields}
    (he : e ∈ structs type text) : e.2.Declares (IsDeclaredIn text) := by
  obtain ⟨items, hitems, he⟩ := mem_getD_map_iff.1 he
  obtain ⟨⟨scope, item⟩, hmem, he⟩ := List.mem_flatMap.1 he
  obtain ⟨fields, hfields, rfl⟩ := List.mem_map.1 he
  have hdeclares := declaredIn_of_mem_read hitems _ hmem
  cases hdeclares with
  | struct h =>
    simp only [Item.structs] at hfields
    split at hfields
    · obtain rfl := List.mem_singleton.1 hfields
      exact h
    · cases hfields
  | _ => cases hfields

end Source

section

variable {settings : Settings} {sources : List (ModuleId × String)} {unit : MappingUnit} {plan : Plan}
  {base : TypeRef} {scope : Scope} {fields : List (String × TypeExpr)}

/-- The code of a unit is built on the struct that was read last under the name of its base. -/
theorem codeBase_of_struct
    (hplan : planUnit settings ((Generator.fresh settings).addSources sources).registry unit =
      .ok plan)
    (hbase : unit.base = some base)
    (hstruct : (structsOf sources base.name).getLast? = some (scope, .named fields)) :
    plan.codeBase = some (base, fields.map (fieldParam scope)) := by
  obtain ⟨hname, hfields⟩ := codeBase_of_planUnit hplan
  rw [Registry.baseFields?, hbase, Option.bind_some, Generator.constructor_addSources, hstruct] at hfields
  obtain ⟨⟨base', fields'⟩, hcode, rfl⟩ := Option.map_eq_some_iff.1 (hname.trans hbase)
  rw [hcode] at hfields ⊢
  cases hfields
  rfl

/-- The text of a unit that holds a value of its base: the impl with `new` stands after the struct. -/
theorem exists_implementation_of_codeBase {params : List Param}
    (hcode : plan.codeBase = some (base, params))
    (hshape : (plan.generate settings).shape = .instanced) :
    ∃ before after, (plan.generate settings).implementation =
      before ++ Code.newText plan.unit.visibility (plan.generate settings).implName
        (Code.literalPath base.source) (params.map fun p => (p.name, p.type.render)) ++ after := by
  have hshape : Code.shape plan.codeBase = .instanced := hshape
  have htext : (plan.generate settings).implementation = _ :=
    Code.print_implementation plan.unit (implNameOf settings plan.unit) plan.codeBase plan.resolved
  rw [hshape, hcode, String.append_assoc] at htext
  refine ⟨Code.structPart plan.unit.visibility (implNameOf settings plan.unit) plan.unit.wrappers
    (some base) .instanced, Code.derefPart (implNameOf settings plan.unit) (some base) .instanced ++
      Code.traitPart plan.unit.name (implNameOf settings plan.unit)
        (plan.resolved.map fun r => (Code.method r).print), ?_⟩
  rw [htext, ← Code.newPart_instanced]
  rfl

end

/-- **How an implementation is built.**  If a unit on a base with named fields is generated with a
value inside, the text has an impl with `new`, which mirrors the fields of the base as a text declares
them, in their order, and hands each of its parameters to the field of that name. -/
theorem new_of_planUnit (settings : Settings) (sources : List (ModuleId × String))
    (unit : MappingUnit) (plan : Plan) (base : TypeRef) (scope : Scope)
    (fields : List (String × TypeExpr))
    (hplan : planUnit settings ((Generator.fresh settings).addSources sources).registry unit =
      .ok plan)
    (hbase : unit.base = some base)
    (hstruct : (structsOf sources base.name).getLast? = some (scope, .named fields))
    (hshape : (plan.generate settings).shape = .instanced) :
    ∃ before params after, (plan.generate settings).implementation =
        before ++ Code.newText unit.visibility (plan.generate settings).implName
          (Code.literalPath base.source) params ++ after ∧
      ∀ s ∈ sources, (scope, .named fields) ∈ structs base.name s.2 →
        List.Forall₂ (fun field p => p.1 = field.1 ∧ Mirrors s.2 field.2 p.2) fields params := by
  obtain ⟨hunit, -⟩ := planUnit_eq_ok_iff.1 hplan
  obtain ⟨before, after, htext⟩ :=
    exists_implementation_of_codeBase (codeBase_of_struct hplan hbase hstruct) hshape
  rw [hunit] at htext
  refine ⟨before, _, after, htext, fun s _ hs => ?_⟩
  rw [List.map_map, List.forall₂_map_right_iff, List.forall₂_same]
  exact fun field hfield =>
    ⟨rfl, mirrors_fieldParam scope (declares_of_mem_structs hs field hfield)⟩

/-! ## A type that is not kept -/

/-- A press keeps its typeface for good. -/
def pressText : List String :=
  ["struct Press", inBraces "typeface: &\x27static str", "struct Draft", inBraces "title: String",
    "struct Print", inBraces "title: String", "#[mapper_derive::mapper", "(base = Press)] ",
    "trait Printer \x7b", "fn print(&self, ", "draft: &Draft", ") -> Print; \x7d"]

def pressSources : List (ModuleId × String) := [("press.rs", String.join pressText)]

def pressParams : List Param := [⟨"typeface", "str", "str", .shared⟩]

def pressFunction : MappingFunction :=
  ⟨"print", some .ref, [⟨"draft", "Draft", "Draft", .shared⟩], some (.named "Print"), .required⟩

def press : MappingUnit :=
  ⟨"Printer", "press.rs", "", false, some (.named "Press"), none, [pressFunction]⟩

def pressDeclared : List Declaration :=
  [.struct "Press" "press.rs" (some pressParams),
    .struct "Draft" "press.rs" (some [⟨"title", .named "String"⟩]),
    .struct "Print" "press.rs" (some [⟨"title", .named "String"⟩]), .unit press]

def pressPlan : Plan :=
  ⟨press, some (.record "Press" "press.rs" pressParams),
    [⟨⟨pressFunction, ⟨"draft", "Draft", "Draft", .shared⟩, .named "Print",
      [⟨⟨"title", .named "String"⟩, .property "title"⟩]⟩, "press.rs", "press.rs"⟩]⟩

/-- The named fields of a struct: the lifetimes of outer references, and the types without them. -/
def Source.Fields.split? :
    Fields → Option (List (String × Option String × Except SignatureFault String))
  | .named fields =>
    some (fields.map fun field => (field.1, field.2.lifetime?, field.2.withoutLifetime.spell))
  | _ => none

/-- What is read of the sources: their declarations, and the fields of the press. -/
theorem read_pressSources :
    (pressSources.flatMap fun s => (declarations? s.1 s.2).getD []) = pressDeclared ∧
    (structsOf pressSources "Press").getLast?.bind (·.2.split?) =
      some [("typeface", some "\x27static", .ok "&str")] := by
  simp only [pressSources, structsOf, structs, List.flatMap_cons, List.flatMap_nil, declarations?,
    items?_join]
  decide +kernel

theorem planUnit_press :
    planUnit .standard ((Generator.fresh .standard).addSources pressSources).registry press =
      .ok pressPlan := by
  rw [Generator.addSources_eq_declareAll, read_pressSources.1]
  rfl

theorem exists_press : ∃ scope, ∃ type : TypeExpr,
    (structsOf pressSources "Press").getLast? = some (scope, .named [("typeface", type)]) ∧
      type.lifetime? = some "\x27static" ∧ type.withoutLifetime.spell = .ok "&str" := by
  obtain ⟨⟨scope, fields⟩, hlast, hfields⟩ := Option.bind_eq_some_iff.1 read_pressSources.2
  cases fields with
  | named fields =>
    obtain ⟨⟨name, type⟩, rfl, hfield⟩ := List.map_eq_singleton_iff.1 (Option.some.inj hfields)
    simp only [Prod.mk.injEq] at hfield
    obtain ⟨rfl, hlifetime, hspell⟩ := hfield
    exact ⟨scope, type, hlast, hlifetime, hspell⟩
  | _ => cases hfields

/-- The implementation that prints is built from what a press is built from. -/
theorem new_of_planUnit_press : ∃ scope fields,
    planUnit .standard ((Generator.fresh .standard).addSources pressSources).registry press =
      .ok pressPlan ∧
    (structsOf pressSources "Press").getLast? = some (scope, .named fields) ∧
    (pressPlan.generate .standard).shape = .instanced ∧
    ∃ before params after, (pressPlan.generate .standard).implementation =
        before ++ Code.newText press.visibility (pressPlan.generate .standard).implName
          (Code.literalPath "Press") params ++ after ∧
      ∀ s ∈ pressSources, (scope, .named fields) ∈ structs "Press" s.2 →
        List.Forall₂ (fun field p => p.1 = field.1 ∧ Mirrors s.2 field.2 p.2) fields params := by
  obtain ⟨scope, type, hlast, -⟩ := exists_press
  have hshape : (pressPlan.generate .standard).shape = .instanced := rfl
  exact ⟨scope, _, planUnit_press, hlast, hshape, new_of_planUnit .standard pressSources press
    pressPlan (.named "Press") scope _ planUnit_press rfl hlast hshape⟩

/-- The type of a single parameter stands between its name and the end of the heading. -/
theorem Code.newText_singleton (visibility name literal : String) (p : String × String) :
    ∃ before after, newText visibility name literal [p] =
      before ++ ("fn new(" ++ p.1 ++ ": " ++ (p.2 ++ (") -> Self \x7b" ++ after))) := by
  refine ⟨"impl " ++ name ++ " \x7b\n    " ++ visibilityPart visibility, "\n" ++ linesText [
    "        Self \x7b base: " ++ literal ++ " \x7b " ++ p.1 ++ " \x7d \x7d", "    \x7d", "\x7d", ""], ?_⟩
  have hopening : " \x7b\n    " = " \x7b" ++ ("\n" ++ "    ") := rfl
  rw [newText, linesText_cons, linesText_cons, List.map_singleton, List.map_singleton,
    String.intercalate_singleton, String.intercalate_singleton, hopening]
  simp only [String.append_assoc]

/-- What stands between two texts is known if each of them stands in one place. -/
theorem eq_take_of_between {α : Type} {before x t y after whole : List α} {i j : Nat}
    (h : whole = before ++ (x ++ (t ++ (y ++ after))))
    (hx : ∀ part ∈ whole.tails, x <+: part → part.length = i)
    (hy : ∀ part ∈ whole.tails, y <+: part → part.length = j) :
    t = (whole.drop (whole.length - i + x.length)).take (i - x.length - j) := by
  have hi := hx (x ++ (t ++ (y ++ after))) ((List.mem_tails _ _).2 (h ▸ List.suffix_append _ _))
    (List.prefix_append _ _)
  have hpart : y ++ after <:+ whole := by
    rw [h, ← List.append_assoc, ← List.append_assoc]
    exact List.suffix_append _ _
  have hj := hy (y ++ after) ((List.mem_tails _ _).2 hpart) (List.prefix_append _ _)
  simp only [List.length_append] at hi hj
  have hbefore : whole.length - i = before.length := by
    rw [h]
    simp only [List.length_append]
    omega
  have hlength : i - x.length - j = t.length := by omega
  rw [hbefore, hlength, h, ← List.append_assoc, ← List.length_append, List.drop_left, List.take_left]

/-- What is generated, line by line. -/
def pressLines : List String :=
  ["struct PrinterImpl \x7b", "    base: Press,", "\x7d", "", "impl PrinterImpl \x7b",
    "    fn new(typeface: &str) -> Self \x7b", "        Self \x7b base: Press \x7b typeface \x7d \x7d",
    "    \x7d", "\x7d", "", "impl std::ops::Deref for PrinterImpl \x7b", "    type Target = Press;", "",
    "    fn deref(&self) -> &Self::Target \x7b", "        &self.base", "    \x7d", "\x7d", "",
    "impl Printer for PrinterImpl \x7b", "    fn print(&self, draft: &Draft) -> Print \x7b",
    "        Print \x7b", "            title: draft.title.clone(),", "        \x7d", "    \x7d", "\x7d"]

theorem implementation_press :
    (pressPlan.generate .standard).implementation = Code.linesText pressLines := by
  decide +kernel

/-- The type that the implementation takes for the typeface. -/
theorem typeface_press {before after written : String}
    (h : (pressPlan.generate .standard).implementation = before ++ Code.newText press.visibility
      (pressPlan.generate .standard).implName (Code.literalPath "Press") [("typeface", written)] ++
        after) : written = "&str" := by
  obtain ⟨start, rest, hnew⟩ := Code.newText_singleton press.visibility
    (pressPlan.generate .standard).implName (Code.literalPath "Press") ("typeface", written)
  have htext : pressLines.flatMap (fun l => l.toList ++ ['\n']) =
      (before ++ start).toList ++ ("fn new(typeface: ".toList ++
        (written.toList ++ (") -> Self \x7b".toList ++ (rest ++ after).toList))) := by
    have hlines : (Code.linesText pressLines).toList =
        pressLines.flatMap fun l => l.toList ++ ['\n'] := by
      simp only [Code.linesText, toList_join, List.flatMap_map, String.toList_append]
      rfl
    rw [← hlines, ← implementation_press, h, hnew,
      show "fn new(typeface: " = "fn new(" ++ "typeface" ++ ": " from rfl]
    simp only [String.toList_append, List.append_assoc]
  refine String.toList_inj.1 ((eq_take_of_between (i := 367) (j := 346) htext ?_ ?_).trans ?_)
  · decide +kernel
  · decide +kernel
  · decide +kernel

/-- **`new` has not always the types of the fields.**  The implementation that prints takes a
typeface that may not stay. -/
theorem not_forall_spell :
    ¬∀ (settings : Settings) (sources : List (ModuleId × String)) (unit : MappingUnit) (plan : Plan)
      (base : TypeRef) (scope : Scope) (fields : List (String × TypeExpr)),
      planUnit settings ((Generator.fresh settings).addSources sources).registry unit = .ok plan →
      unit.base = some base →
      (structsOf sources base.name).getLast? = some (scope, .named fields) →
      (plan.generate settings).shape = .instanced →
      ∃ before params after, (plan.generate settings).implementation =
          before ++ Code.newText unit.visibility (plan.generate settings).implName
            (Code.literalPath base.source) params ++ after ∧
        ∀ s ∈ sources, (scope, .named fields) ∈ structs base.name s.2 →
          List.Forall₂ (fun field p => p.1 = field.1 ∧
            ∀ ws, DeclaredBy s.2 field.2 ws → HasTokens p.2 ws) fields params := by
  intro h
  obtain ⟨scope, type, hlast, hlifetime, hspell⟩ := exists_press
  obtain ⟨before, params, after, htext, hparams⟩ := h .standard pressSources press pressPlan
    (.named "Press") scope _ planUnit_press rfl hlast rfl
  obtain ⟨s, hs, hstruct⟩ := List.mem_flatMap.1 (List.mem_of_getLast? hlast)
  cases hparams s hs hstruct with
  | @cons _ p _ _ hp hnil =>
    cases hnil
    obtain ⟨name, written⟩ := p
    obtain ⟨rfl, htokens⟩ := hp
    have hpieces : type.pieces?.isSome = true := by
      rw [← type.pieces?_withoutLifetime_isSome, ← TypeExpr.exists_spell_iff]
      exact ⟨_, hspell⟩
    obtain ⟨ws, hws⟩ := declares_of_mem_structs hstruct _ (List.mem_singleton_self _) hpieces
    obtain rfl := typeface_press htext
    have hkeeps := keeps_of_spell ⟨ws, hws⟩ hspell
    obtain ⟨-, hnone⟩ := (hkeeps.full ws hws).1 (htokens ws hws)
    cases hlifetime.symm.trans hnone

end Mapwright
