import Mathlib.Data.List.Nodup
import Mapwright.Proofs.CamelCase
import Mapwright.Proofs.Delegation
import Mapwright.Proofs.UnitNames

/-!
# The names of extension traits

An extension trait is named after the unit and its function, the function in
camel case.  That is a name unless the function is written raw, for the mark of
a raw name stays inside.  Two functions of one unit share a trait's name if they
share their camel case, and functions of two units do if the one unit's name
takes over the beginning of the other's function.

    wrapperName unit f is a name ↔ f is not written raw                       (`isName_wrapperName_iff`)
    wrapperName u f = wrapperName v h ↔ one name takes over from the other    (`wrapperName_eq_iff`)
    in the report on units that were read, the traits have exactly such names (`extensionNames_of_run`)
-/

namespace Mapwright

open Code (IsName wrapperName)
open Source (IsIdentifier IsWord Continues isKeyword isName_iff)
open Text (camelCase IsPlainSnake)

/-! ## Names -/

/-- A name that is written raw. -/
def IsRaw (x : String) : Prop := ['r', '#'] <+: x.toList

instance (x : String) : Decidable (IsRaw x) := inferInstanceAs (Decidable (_ <+: _))

theorem hash_not_mem_of_continues {cs : List Char} (h : Continues cs) : '#' ∉ cs :=
  fun hmem => absurd (h '#' hmem) (by decide)

/-- The text of an extension trait's name. -/
theorem toList_wrapperName (unit function : String) : (wrapperName unit function).toList =
    unit.toList ++ (Text.camelAfter true function.toList ++ ['E', 'x', 't']) := by
  simp [wrapperName, camelCase, String.toList_append]

/-- No keyword ends like the name of an extension trait. -/
theorem isKeyword_wrapperName (unit function : String) :
    isKeyword (wrapperName unit function) = false := by
  have hends : ∀ k ∈ Source.keywords, ¬ ['E', 'x', 't'] <:+ k.toList := by decide
  refine Bool.eq_false_iff.2 fun h => hends _ (List.contains_iff_mem.1 h) ?_
  rw [toList_wrapperName, ← List.append_assoc]
  exact List.suffix_append _ _

/-- After a raw name nothing makes a name of what is before it. -/
theorem not_isIdentifier_of_isRaw {u w rest : List Char} (hu : IsIdentifier u) :
    ¬ IsIdentifier (u ++ (Text.camelAfter true ('r' :: '#' :: w) ++ rest)) := by
  have hcamel : Text.camelAfter true ('r' :: '#' :: w) =
      'R' :: '#' :: Text.camelAfter false w := by
    have hupper : Text.upperCase 'r' = ['R'] := by decide
    simp [Text.camelAfter, hupper]
  rw [hcamel]
  intro h
  generalize hx : u ++ ('R' :: '#' :: Text.camelAfter false w ++ rest) = x at h
  cases h with
  | plain h =>
    refine hash_not_mem_of_continues h.continues ?_
    simp [← hx]
  | @raw v h _ =>
    -- a raw unit has its own mark before the word, and it is not that of the function
    rcases u with _ | ⟨c, _ | ⟨d, u⟩⟩
    · cases hu with
      | plain h => cases h
    · cases hx
    · cases hx
      refine hash_not_mem_of_continues h.continues ?_
      simp

/-- **The name of an extension trait is one unless its function is written raw.** -/
theorem isName_wrapperName_iff {unit function : String} (hunit : IsName unit)
    (hfunction : IsName function) :
    IsName (wrapperName unit function) ↔ ¬ IsRaw function := by
  obtain ⟨hunit, -⟩ := isName_iff.1 hunit
  obtain ⟨hfunction, -⟩ := isName_iff.1 hfunction
  rw [isName_iff, toList_wrapperName]
  constructor
  · rintro ⟨hname, -⟩ ⟨w, hraw⟩
    rw [← hraw] at hname
    exact not_isIdentifier_of_isRaw hunit hname
  · intro hraw
    refine ⟨?_, isKeyword_wrapperName unit function⟩
    have hword : IsWord function.toList := by
      generalize hf : function.toList = f at hfunction
      cases hfunction with
      | plain h => exact h
      | @raw v h _ => exact absurd ⟨v, hf.symm⟩ hraw
    have hext : Continues ['E', 'x', 't'] := List.all_eq_true.1 (by decide)
    have htail : Continues (Text.camelAfter true function.toList ++ ['E', 'x', 't']) :=
      List.forall_mem_append.2 ⟨Text.continues_camelAfter hword.continues true, hext⟩
    generalize unit.toList = u at hunit
    cases hunit with
    | plain h => exact .plain (h.append htail)
    | @raw v h _ =>
      refine .raw (h.append htail) fun hnever => ?_
      have hends : ∀ k ∈ Source.neverRaw, ¬ ['E', 'x', 't'] <:+ k.toList := by decide
      refine hends _ hnever ?_
      rw [String.toList_ofList]
      exact (List.suffix_append _ _).trans (List.suffix_append _ _)

theorem not_isRaw_of_isPlainSnake {x : String} (h : IsPlainSnake x) : ¬ IsRaw x := by
  rintro ⟨w, hw⟩
  have hletter : 'r' ≠ '_' ∧ '#' ≠ '_' ∧ '#'.isLower = false ∧ '#'.isDigit = false := by decide
  rw [IsPlainSnake, ← hw] at h
  simp [Text.plainAfter, hletter] at h

/-! ## Shared names -/

/-- **Two extension traits share a name** exactly if one of the units' names goes on, in the other
unit, with the beginning of the function's camel case. -/
theorem wrapperName_eq_iff {u v f h : String} :
    wrapperName u f = wrapperName v h ↔
      (∃ s, v = u ++ s ∧ camelCase f = s ++ camelCase h) ∨
        ∃ s, u = v ++ s ∧ camelCase h = s ++ camelCase f := by
  have hchars : wrapperName u f = wrapperName v h ↔
      u.toList ++ (camelCase f).toList = v.toList ++ (camelCase h).toList := by
    rw [wrapperName, wrapperName, ← String.toList_inj]
    simp only [String.toList_append]
    exact List.append_left_inj _
  rw [hchars, List.append_eq_append_iff]
  have hback : ∀ {x y : String} {s : List Char},
      x.toList = y.toList ++ s → x = y ++ String.ofList s := by
    intro x y s hx
    rw [← String.toList_inj, hx, String.toList_append, String.toList_ofList]
  have hfront : ∀ {x y : String} {s : List Char},
      x.toList = s ++ y.toList → x = String.ofList s ++ y := by
    intro x y s hx
    rw [← String.toList_inj, hx, String.toList_append, String.toList_ofList]
  constructor
  · rintro (⟨s, hv, hf⟩ | ⟨s, hu, hh⟩)
    · exact Or.inl ⟨String.ofList s, hback hv, hfront hf⟩
    · exact Or.inr ⟨String.ofList s, hback hu, hfront hh⟩
  · rintro (⟨s, rfl, hf⟩ | ⟨s, rfl, hh⟩)
    · exact Or.inl ⟨s.toList, by simp, by rw [hf, String.toList_append]⟩
    · exact Or.inr ⟨s.toList, by simp, by rw [hh, String.toList_append]⟩

example : wrapperName "Student" "mapper_to_dto" = wrapperName "StudentMapper" "to_dto" ∧
    wrapperName "Student" "to_dto" = wrapperName "Student" "toDto" := by decide +kernel

/-! ## The traits of a report -/

namespace MappingUnit

/-- The names of the extension traits of a unit, in the order of its functions. -/
def extensionNames (u : MappingUnit) : List String :=
  if u.wrappers then u.requiredFunctions.map fun f => wrapperName u.name f.name else []

/-- Whether the name of `v` takes over from that of `u` the beginning of a function's camel case,
and a function of `v` goes on with the rest. -/
def TakesOver (u v : MappingUnit) : Prop :=
  ∃ s, v.name = u.name ++ s ∧ ∃ f ∈ u.requiredFunctions, ∃ h ∈ v.requiredFunctions,
    camelCase f.name = s ++ camelCase h.name

theorem mem_extensionNames {u : MappingUnit} {name : String} :
    name ∈ u.extensionNames ↔
      u.wrappers = true ∧ ∃ f ∈ u.requiredFunctions, wrapperName u.name f.name = name := by
  unfold extensionNames
  cases u.wrappers <;> simp

/-- In one unit, functions share a trait's name if they share their camel case. -/
theorem nodup_extensionNames_iff (u : MappingUnit) :
    u.extensionNames.Nodup ↔
      (u.wrappers = true → (u.requiredFunctions.map fun f => camelCase f.name).Nodup) := by
  unfold extensionNames
  cases u.wrappers with
  | false => simp
  | true =>
    have hname : ∀ x : String, u.name ++ x ++ "Ext" = u.name ++ (x ++ "Ext") := fun x =>
      String.append_assoc
    have hinj : Function.Injective fun x : String => u.name ++ x ++ "Ext" := by
      intro x y hxy
      have hchars := congrArg String.toList hxy
      simp only [String.toList_append] at hchars
      exact String.toList_inj.1 (List.append_cancel_left (List.append_cancel_right hchars))
    have hmap : (u.requiredFunctions.map fun f => wrapperName u.name f.name) =
        (u.requiredFunctions.map fun f => camelCase f.name).map
          fun x => u.name ++ x ++ "Ext" := by
      rw [List.map_map]
      rfl
    rw [if_pos rfl, hmap, List.nodup_map_iff hinj]
    simp

theorem disjoint_extensionNames_iff (u v : MappingUnit) :
    u.extensionNames.Disjoint v.extensionNames ↔
      (u.wrappers = true → v.wrappers = true → ¬ u.TakesOver v ∧ ¬ v.TakesOver u) := by
  constructor
  · intro hdisjoint hu hv
    have hshared : ∀ f ∈ u.requiredFunctions, ∀ h ∈ v.requiredFunctions,
        wrapperName u.name f.name ≠ wrapperName v.name h.name := by
      intro f hf h hh heq
      exact hdisjoint (mem_extensionNames.2 ⟨hu, f, hf, rfl⟩)
        (mem_extensionNames.2 ⟨hv, h, hh, heq.symm⟩)
    refine ⟨?_, ?_⟩
    · rintro ⟨s, hname, f, hf, h, hh, hcamel⟩
      exact hshared f hf h hh (wrapperName_eq_iff.2 (Or.inl ⟨s, hname, hcamel⟩))
    · rintro ⟨s, hname, h, hh, f, hf, hcamel⟩
      exact hshared f hf h hh (wrapperName_eq_iff.2 (Or.inr ⟨s, hname, hcamel⟩))
  · intro happart name hname hname'
    obtain ⟨hu, f, hf, hfname⟩ := mem_extensionNames.1 hname
    obtain ⟨hv, h, hh, hhname⟩ := mem_extensionNames.1 hname'
    obtain ⟨huv, hvu⟩ := happart hu hv
    rcases wrapperName_eq_iff.1 (hfname.trans hhname.symm) with ⟨s, hname, hcamel⟩ | ⟨s, hname, hcamel⟩
    · exact huv ⟨s, hname, f, hf, h, hh, hcamel⟩
    · exact hvu ⟨s, hname, h, hh, f, hf, hcamel⟩

/-- The functions have different names in plain snake case. -/
def IsPlain (u : MappingUnit) : Prop :=
  (u.requiredFunctions.map (·.name)).Nodup ∧ ∀ f ∈ u.requiredFunctions, IsPlainSnake f.name

instance (u : MappingUnit) : Decidable u.IsPlain := inferInstanceAs (Decidable (_ ∧ _))

theorem IsPlain.nodup {u : MappingUnit} (h : u.IsPlain) :
    (u.requiredFunctions.map fun f => camelCase f.name).Nodup := by
  obtain ⟨hnodup, hplain⟩ := h
  have hmap : (u.requiredFunctions.map fun f => camelCase f.name) =
      (u.requiredFunctions.map (·.name)).map camelCase := by
    rw [List.map_map]
    rfl
  rw [hmap]
  refine List.Nodup.map_on ?_ hnodup
  intro x hx y hy heq
  obtain ⟨f, hf, rfl⟩ := List.mem_map.1 hx
  obtain ⟨h, hh, rfl⟩ := List.mem_map.1 hy
  exact Text.camelCase_inj (hplain f hf) (hplain h hh) heq

end MappingUnit

/-- How a generated unit and its unit stand to each other: the code has an extension trait for each
function if the unit asks for that, named after the unit and the function. -/
structure NamedAfter (unit : MappingUnit) (u : GeneratedUnit) : Prop where
  same : u.unit = unit.name
  asked : u.wrappers.isSome = unit.wrappers
  traits : ∀ text ∈ u.wrappers, ∃ texts, text = "\n".intercalate texts ∧
    List.Forall₂ (fun f text => ∃ source heading call, text = Code.extensionText unit.visibility
      (wrapperName unit.name f.name) source heading call) unit.requiredFunctions texts

theorem NamedAfter.names {units : List MappingUnit} {us : List GeneratedUnit}
    (h : List.Forall₂ NamedAfter units us) : units.map (·.name) = us.map (·.unit) := by
  induction h with
  | nil => rfl
  | cons hu _ ih => rw [List.map_cons, List.map_cons, ih, hu.same]

theorem namedAfter_generate {settings : Settings} {registry : Registry} {unit : MappingUnit}
    {plan : Plan} (hplan : planUnit settings registry unit = .ok plan) :
    NamedAfter unit (plan.generate settings) := by
  obtain ⟨rfl, -, -, -⟩ := planUnit_eq_ok_iff.1 hplan
  refine ⟨rfl, ?_, fun text htext => ?_⟩
  · show (if plan.unit.wrappers then some _ else none).isSome = _
    cases plan.unit.wrappers <;> rfl
  · have hwrappers : (if plan.unit.wrappers then
        some (Code.printWrappers (plan.wrappers settings)) else none) = some text := htext
    split at hwrappers
    · cases hwrappers
      refine ⟨(plan.wrappers settings).map (·.print), rfl, ?_⟩
      rw [← function_resolved hplan, List.forall₂_map_left_iff, List.forall₂_map_right_iff,
        Plan.wrappers, Code.wrappers, List.forall₂_map_right_iff, List.forall₂_same]
      intro r _
      exact ⟨_, _, _, Code.print_eq_extensionText _⟩
    · cases hwrappers

namespace Generator

/-- **The names of extension traits.**  In the report of a generator that only read sources, the
extension traits of each unit are named after the unit and its functions, all of which have names
that can be written.  The name of a trait is one exactly if its function is not written raw.  No two
traits share a name exactly if no two functions of a unit share their camel case, and no unit takes
over a name from another one; so it is if the functions of a unit have different names in plain
snake case, and no unit's name is the beginning of another's. -/
theorem extensionNames_of_run (actions : List Action) (report : Report)
    (hreading : ∀ a ∈ actions, a.handsIn = false) (hrun : (after actions).run = .ok report) :
    ∃ units : List MappingUnit, List.Forall₂ NamedAfter units report.units ∧
      (∀ u ∈ units, u ∈ (after actions).units.values ∧ IsName u.name ∧
        ∀ f ∈ u.requiredFunctions, IsName f.name ∧
          (IsName (wrapperName u.name f.name) ↔ ¬ IsRaw f.name)) ∧
      ((units.flatMap (·.extensionNames)).Nodup ↔
        (∀ u ∈ units, u.wrappers = true →
          (u.requiredFunctions.map fun f => camelCase f.name).Nodup) ∧
        units.Pairwise fun u v => u.wrappers = true → v.wrappers = true →
          ¬ u.TakesOver v ∧ ¬ v.TakesOver u) ∧
      ((∀ u ∈ units, u.wrappers = true → u.IsPlain) →
        units.Pairwise (fun u v => u.wrappers = true → v.wrappers = true →
          ¬ u.name.toList <+: v.name.toList ∧ ¬ v.name.toList <+: u.name.toList) →
        (units.flatMap (·.extensionNames)).Nodup) := by
  have hexists : ∀ u ∈ report.units, ∃ unit,
      unit ∈ (after actions).units.values ∧ NamedAfter unit u := by
    intro u hu
    obtain ⟨unit, hunit, plan, hplan, rfl⟩ := (mem_units_run_iff hrun).1 hu
    exact ⟨unit, hunit, namedAfter_generate hplan⟩
  obtain ⟨units, hunits⟩ := exists_forall₂_iff.2 hexists
  have hmem : ∀ u ∈ units, u ∈ (after actions).units.values := by
    intro u hu
    obtain ⟨_, -, hu, -⟩ := exists_of_forall₂_right hunits u hu
    exact hu
  have hiff : (units.flatMap (·.extensionNames)).Nodup ↔
      (∀ u ∈ units, u.wrappers = true →
        (u.requiredFunctions.map fun f => camelCase f.name).Nodup) ∧
      units.Pairwise fun u v => u.wrappers = true → v.wrappers = true →
        ¬ u.TakesOver v ∧ ¬ v.TakesOver u := by
    rw [List.nodup_flatMap]
    exact and_congr (forall₂_congr fun u _ => u.nodup_extensionNames_iff)
      (List.Pairwise.iff MappingUnit.disjoint_extensionNames_iff)
  refine ⟨units, (hunits.imp fun _ _ h => h.2).flip, fun u hu => ?_, hiff, fun hplain hapart => ?_⟩
  · obtain ⟨hname, hfunctions⟩ := named_of_units_after hreading u (hmem u hu)
    refine ⟨hmem u hu, hname, fun f hf => ?_⟩
    have hf := hfunctions f (List.mem_of_mem_filter hf)
    exact ⟨hf, isName_wrapperName_iff hname hf⟩
  · refine hiff.2 ⟨fun u hu hwrappers => (hplain u hu hwrappers).nodup, hapart.imp ?_⟩
    intro u v happart hu hv
    obtain ⟨huv, hvu⟩ := happart hu hv
    refine ⟨?_, ?_⟩
    · rintro ⟨s, hname, -⟩
      exact huv ⟨s.toList, by rw [hname, String.toList_append]⟩
    · rintro ⟨s, hname, -⟩
      exact hvu ⟨s.toList, by rw [hname, String.toList_append]⟩

/-- A text with two mappings that ask for extension traits.  One of their functions has the given
name. -/
def noteTexts (function : String) : List String :=
  ["struct Note", Source.inBraces "kind: String", "struct Tag", Source.inBraces "kind: String",
    "#[mapper_derive::mapper(generate_wrapper)] trait Notes", Source.inBraces ("fn " ++ function ++
      "(&self, note: &Note) -> Tag; fn v2_tag(&self, note: &Note) -> Tag;"),
    "#[mapper_derive::mapper(generate_wrapper)] trait Tags",
    Source.inBraces "fn to_note(&self, tag: &Tag) -> Note;"]

def noteActions (function : String) : List Action :=
  [.addSource "notes.rs" (String.join (noteTexts function))]

def noteDeclared (function : String) : List Declaration :=
  let mapping (name source param target : String) : MappingFunction :=
    ⟨name, some .ref, [⟨param, source, source, .shared⟩], some (.named target), .required⟩
  [.struct "Note" "notes.rs" (some [⟨"kind", .named "String"⟩]),
    .struct "Tag" "notes.rs" (some [⟨"kind", .named "String"⟩]),
    .unit ⟨"Notes", "notes.rs", "", true, none, none,
      [mapping function "Note" "note" "Tag", mapping "v2_tag" "Note" "note" "Tag"]⟩,
    .unit ⟨"Tags", "notes.rs", "", true, none, none, [mapping "to_note" "Tag" "tag" "Note"]⟩]

theorem after_addSource {module : ModuleId} {text : String} {ds : List Declaration}
    (h : Source.declarations? module text = some ds) :
    after [.addSource module text] = new.declareAll ds := by
  show (addSource new module text).toOption.getD new = _
  rw [addSource_eq, h]
  rfl

theorem declarations?_noteTexts : Source.declarations? "notes.rs" (String.join (noteTexts "to_tag")) =
    some (noteDeclared "to_tag") := by
  rw [Source.declarations?, Source.items?_join]
  decide +kernel

theorem declarations?_noteTexts_raw :
    Source.declarations? "notes.rs" (String.join (noteTexts "r#type")) =
      some (noteDeclared "r#type") := by
  rw [Source.declarations?, Source.items?_join]
  decide +kernel

/-- Two mappings with names in plain snake case have extension traits of different names. -/
theorem extensionNames_of_run_notes :
    (∀ a ∈ noteActions "to_tag", a.handsIn = false) ∧
      ∃ report, (after (noteActions "to_tag")).run = .ok report ∧
        ∃ units : List MappingUnit, List.Forall₂ NamedAfter units report.units ∧
          units.map (·.name) = ["Notes", "Tags"] ∧
          (∀ u ∈ units, ∀ f ∈ u.requiredFunctions, IsName (wrapperName u.name f.name)) ∧
          (units.flatMap (·.extensionNames)).Nodup := by
  have hafter : after (noteActions "to_tag") = _ := after_addSource declarations?_noteTexts
  have hreading : ∀ a ∈ noteActions "to_tag", a.handsIn = false := by
    intro a ha
    rw [List.mem_singleton.1 ha]
    rfl
  have hrun : (after (noteActions "to_tag")).run = .ok
      ((new.declareAll (noteDeclared "to_tag")).run.toOption.getD ⟨"", [], []⟩) := by
    rw [hafter]
    decide +kernel
  have hplain : ∀ u ∈ (after (noteActions "to_tag")).units.values, u.IsPlain := by
    rw [hafter]
    decide +kernel
  obtain ⟨units, hunits, hnames, -, hnodup⟩ := extensionNames_of_run _ _ hreading hrun
  have hname : units.map (·.name) = ["Notes", "Tags"] := by
    rw [NamedAfter.names hunits]
    decide +kernel
  refine ⟨hreading, _, hrun, units, hunits, hname, fun u hu f hf => ?_, ?_⟩
  · obtain ⟨hvalues, -, hfunctions⟩ := hnames u hu
    exact (hfunctions f hf).2.2 (not_isRaw_of_isPlainSnake ((hplain u hvalues).2 f hf))
  · refine hnodup (fun u hu _ => hplain u (hnames u hu).1) ?_
    have hapart : (units.map (·.name)).Pairwise fun x y =>
        ¬ x.toList <+: y.toList ∧ ¬ y.toList <+: x.toList := by
      rw [hname]
      decide
    exact (List.pairwise_map.1 hapart).imp fun h _ _ => h

/-- The trait for a function that is written raw has a name that is none, such as `NotesR#typeExt`,
though units and functions have names of their own. -/
theorem not_forall_isName_wrapperName :
    ¬ ∀ (actions : List Action) (report : Report), (∀ a ∈ actions, a.handsIn = false) →
      (after actions).run = .ok report → (report.units.map (·.implName)).Nodup →
      (∀ unit ∈ (after actions).units.values, (unit.functions.map (·.name)).Nodup) →
      ∀ u ∈ report.units, ∀ unit ∈ (after actions).units.values, unit.name = u.unit →
        ∀ name ∈ unit.extensionNames, IsName name := by
  intro h
  have hafter : after (noteActions "r#type") = _ := after_addSource declarations?_noteTexts_raw
  have hrun : (after (noteActions "r#type")).run = .ok
      ((new.declareAll (noteDeclared "r#type")).run.toOption.getD ⟨"", [], []⟩) := by
    rw [hafter]
    decide +kernel
  have hreading : ∀ a ∈ noteActions "r#type", a.handsIn = false := by
    intro a ha
    rw [List.mem_singleton.1 ha]
    rfl
  have hnames := h _ _ hreading hrun (by decide +kernel) (by rw [hafter]; decide +kernel)
  rw [hafter] at hnames
  revert hnames
  decide +kernel

end Generator

end Mapwright
