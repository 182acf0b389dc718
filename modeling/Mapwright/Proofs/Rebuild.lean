import Mapwright.Files.Sources
import Mapwright.Proofs.Items
import Mapwright.Proofs.Pass
import Mapwright.Proofs.Resolution

/-!
# Which files the code of a unit comes from

The dependencies of a unit name the files that declare the unit itself, its
base, and the sources and targets of its functions.  Without a file that is not
among them the code of the unit stays as it is, unless the file adds to a type
that another file declares: it may be the last to say what a method is that a
field is looked up as.

    file ∉ dependencies of u, and file adds nothing that is looked up
      → u is generated without the file as well                        (`mem_units_without`)
    an impl in a file of its own changes the code                      (`not_forall_mem_units_without`)
-/

namespace Mapwright

open Files Source

/-! ## Reading files -/

namespace Generator

/-- Reads source files one after the other.  One that cannot be read leaves everything as it is. -/
def readFiles (root : Node) (here : List String) (g : Generator) (paths : List String) :
    Generator :=
  paths.foldl (fun g path => (g.addFile root path here).toOption.getD g) g

end Generator

/-- The texts of the files at some paths, as far as there are any. -/
def textsAt (root : Node) (here : List String) (paths : List String) :
    List (ModuleId × String) :=
  paths.flatMap fun path => ((root.readText? path here).map (path, ·)).toList

theorem Generator.readFiles_eq_addSources (root : Node) (here : List String)
    (paths : List String) (g : Generator) :
    g.readFiles root here paths = g.addSources (textsAt root here paths) := by
  induction paths generalizing g with
  | nil => rfl
  | cons path paths ih =>
    show readFiles root here ((g.addFile root path here).toOption.getD g) paths = _
    rw [ih, textsAt, textsAt, List.flatMap_cons, addFile.eq_def]
    cases root.readText? path here <;> rfl

/-! ## The last one to declare something -/

/-- What some texts declare, each declaration under the module of its text. -/
def declaredBy (sources : List (ModuleId × String)) : List (ModuleId × Declaration) :=
  sources.flatMap fun s => ((declarations? s.1 s.2).getD []).map (s.1, ·)

/-- The last module with a declaration of some kind. -/
def lastModule? (sources : List (ModuleId × String)) (p : Declaration → Bool) : Option ModuleId :=
  ((declaredBy sources).findRev? (p ·.2)).map (·.1)

/-- Entries that are listed under a name go with the name. -/
theorem flatMap_filter_of_named {α β : Type} (name : α → String) (f : α → List (String × β))
    (hname : ∀ a, ∀ e ∈ f a, e.1 = name a) (keep : String → Bool) (as : List α) :
    (as.filter (keep <| name ·)).flatMap f = (as.flatMap f).filter (keep ·.1) := by
  induction as with
  | nil => rfl
  | cons a as ih =>
    rw [List.flatMap_cons, List.filter_append, ← ih, List.filter_cons]
    cases hk : keep (name a) with
    | true =>
      have hall : (f a).filter (keep ·.1) = f a :=
        List.filter_eq_self.2 fun e he => by rw [hname a e he, hk]
      rw [if_pos rfl, List.flatMap_cons, hall]
    | false =>
      have hnone : (f a).filter (keep ·.1) = [] :=
        List.filter_eq_nil_iff.2 fun e he => by rw [hname a e he, hk]; exact Bool.false_ne_true
      rw [if_neg Bool.false_ne_true, hnone, List.nil_append]

theorem textsAt_filter (root : Node) (here : List String) (keep : String → Bool)
    (paths : List String) :
    textsAt root here (paths.filter keep) = (textsAt root here paths).filter (keep ·.1) := by
  refine flatMap_filter_of_named id _ (fun path s hs => ?_) keep paths
  obtain ⟨text, -, rfl⟩ := Option.map_eq_some_iff.1 (Option.mem_toList.1 hs)
  rfl

theorem declaredBy_filter (keep : ModuleId → Bool) (sources : List (ModuleId × String)) :
    declaredBy (sources.filter (keep ·.1)) = (declaredBy sources).filter (keep ·.1) := by
  refine flatMap_filter_of_named (·.1) _ (fun s e he => ?_) keep sources
  obtain ⟨d, -, rfl⟩ := List.mem_map.1 he
  rfl

theorem map_snd_declaredBy (sources : List (ModuleId × String)) :
    (declaredBy sources).map (·.2) =
      sources.flatMap fun s => (declarations? s.1 s.2).getD [] := by
  simp only [declaredBy, List.map_flatMap, List.map_map]
  congr 1
  funext s
  exact List.map_id _

theorem module_of_mem_declaredBy {sources : List (ModuleId × String)}
    {e : ModuleId × Declaration} (he : e ∈ declaredBy sources) {m : ModuleId}
    (hm : e.2.module? = some m) : m = e.1 := by
  obtain ⟨s, -, he⟩ := List.mem_flatMap.1 he
  obtain ⟨d, hd, rfl⟩ := List.mem_map.1 he
  exact module_of_mem_declarations? hd hm

/-- What concerns a type stands in the module it is listed under. -/
theorem module?_of_mem_declaredBy {sources : List (ModuleId × String)}
    {e : ModuleId × Declaration} (he : e ∈ declaredBy sources) {type : String}
    (hc : e.2.concerns type = true) : e.2.module? = some e.1 := by
  obtain ⟨m, hm⟩ := Option.isSome_iff_exists.1 (Declaration.isSome_module?_of_concerns hc)
  rw [hm, module_of_mem_declaredBy he hm]

theorem Generator.addSources_fresh (settings : Settings) (sources : List (ModuleId × String)) :
    (Generator.fresh settings).addSources sources =
      (Generator.fresh settings).declareAll ((declaredBy sources).map (·.2)) := by
  rw [addSources_eq_declareAll, map_snd_declaredBy]

/-- A type is placed in the last module that declares it, or else in the first with methods. -/
theorem module_addSources (settings : Settings) (sources : List (ModuleId × String))
    (type : String) :
    (((Generator.fresh settings).addSources sources).registry.describe? type).map (·.module) =
      (lastModule? sources (·.places type)).or
        (((declaredBy sources).find? (·.2.concerns type)).map (·.1)) := by
  have hread : ∀ o : Option (ModuleId × Declaration),
      (∀ e, o = some e → e ∈ declaredBy sources ∧ e.2.concerns type = true) →
      (o.map (·.2)).bind (·.module?) = o.map (·.1) := by
    intro o ho
    cases o with
    | none => rfl
    | some e => exact module?_of_mem_declaredBy (ho e rfl).1 (ho e rfl).2
  rw [Generator.addSources_fresh, Generator.module_declareAll, findRev?_map, List.find?_map,
    hread, hread]
  · show (Option.or _ none).or _ = _
    rw [Option.or_none]
    rfl
  · intro e he
    have hp := List.find?_some he
    exact ⟨List.mem_of_find?_eq_some he, hp⟩
  · intro e he
    have hp := prop_of_findRev? he
    exact ⟨mem_of_findRev? he, Declaration.concerns_of_places hp⟩

/-! ## Without a file -/

/-- The texts of all other modules. -/
def without (file : ModuleId) (sources : List (ModuleId × String)) : List (ModuleId × String) :=
  sources.filter (·.1 != file)

section

variable {settings : Settings} {sources : List (ModuleId × String)} {file : ModuleId}

/-- The last declaration of some kind is still there if it stands in another file. -/
theorem findRev?_without {p : Declaration → Bool} (h : lastModule? sources p ≠ some file) :
    (declaredBy (without file sources)).findRev? (p ·.2) =
      (declaredBy sources).findRev? (p ·.2) := by
  rw [without, declaredBy_filter (· != file)]
  refine findRev?_filter_of_keep fun e he => bne_iff_ne.2 ?_
  rintro rfl
  exact h (by rw [lastModule?, he, Option.map_some])

theorem findRev?_map_snd_without {p : Declaration → Bool}
    (h : lastModule? sources p ≠ some file) :
    ((declaredBy (without file sources)).map (·.2)).findRev? p =
      ((declaredBy sources).map (·.2)).findRev? p := by
  rw [findRev?_map, findRev?_map]
  exact congrArg _ (findRev?_without h)

/-- A type that is placed in another file stays there. -/
theorem module_without {type : String} {m : ModuleId}
    (h : (((Generator.fresh settings).addSources sources).registry.describe? type).map (·.module) =
      some m) (hm : m ≠ file) :
    (((Generator.fresh settings).addSources (without file sources)).registry.describe? type).map
      (·.module) = some m := by
  rw [module_addSources] at h ⊢
  have hplaces : lastModule? sources (·.places type) ≠ some file := by
    intro hp
    rw [hp] at h
    exact hm (Option.some.inj h).symm
  rw [show lastModule? (without file sources) (·.places type) =
    lastModule? sources (·.places type) from congrArg _ (findRev?_without hplaces)]
  cases hp : lastModule? sources (·.places type) with
  | some m' =>
    rw [hp] at h
    exact h
  | none =>
    rw [hp, Option.none_or] at h
    rw [Option.none_or, ← h, without, declaredBy_filter (· != file)]
    refine congrArg _ (find?_filter_of_keep fun e he => bne_iff_ne.2 ?_)
    rintro rfl
    rw [he] at h
    exact hm (Option.some.inj h).symm

/-- A type of another file is still described, and what is known of it is the same, as far as the
file was not the last to say it. -/
theorem exists_describe?_without {type : String} {d : TypeDescriptor}
    (hd : ((Generator.fresh settings).addSources sources).registry.describe? type = some d)
    (hmodule : d.module ≠ file) (hbuilds : lastModule? sources (·.builds type) ≠ some file) :
    ∃ d', ((Generator.fresh settings).addSources (without file sources)).registry.describe? type =
        some d' ∧
      d'.module = d.module ∧ d'.constructor = d.constructor ∧
      (∀ x, d'.property? x = d.property? x) ∧
      ∀ m, lastModule? sources (·.adds type m) ≠ some file → d'.method? m = d.method? m := by
  obtain ⟨d', hd', hmodule'⟩ := Option.map_eq_some_iff.1
    (module_without (by rw [hd, Option.map_some]) hmodule)
  refine ⟨d', hd', hmodule', ?_, fun x => ?_, fun m hm => ?_⟩
  all_goals rw [Generator.addSources_fresh] at hd hd'
  · have h := Generator.constructor_declareAll (Generator.fresh settings)
      ((declaredBy (without file sources)).map (·.2)) type
    rw [findRev?_map_snd_without hbuilds, ← Generator.constructor_declareAll, hd, hd'] at h
    exact h
  · have h := Generator.property?_declareAll (Generator.fresh settings)
      ((declaredBy (without file sources)).map (·.2)) type x
    rw [findRev?_map_snd_without hbuilds, ← Generator.property?_declareAll, hd, hd'] at h
    exact h
  · have h := Generator.method?_declareAll (Generator.fresh settings)
      ((declaredBy (without file sources)).map (·.2)) type m
    rw [findRev?_map_snd_without hm, ← Generator.method?_declareAll, hd, hd'] at h
    exact h

/-- A unit of another file is still there. -/
theorem find?_units_without {name : String} {unit : MappingUnit}
    (h : ((Generator.fresh settings).addSources sources).units.find? name = some unit)
    (hmodule : unit.module ≠ file) :
    unit.name = name ∧
      ((Generator.fresh settings).addSources (without file sources)).units.find? name =
        some unit := by
  rw [Generator.addSources_fresh, Generator.units_find?_fresh_iff] at h ⊢
  have hsettles := prop_of_findRev? h
  have hlast : lastModule? sources (·.settles name) ≠ some file := by
    intro hfile
    obtain ⟨e, he, hunit⟩ := Option.map_eq_some_iff.1 ((findRev?_map ..).symm.trans h)
    obtain ⟨e', he', rfl⟩ := Option.map_eq_some_iff.1 hfile
    cases he.symm.trans he'
    refine hmodule (module_of_mem_declaredBy (mem_of_findRev? he) ?_)
    rw [hunit]
    rfl
  exact ⟨eq_of_beq hsettles, (findRev?_map_snd_without hlast).trans h⟩

end

/-! ## What a unit looks up -/

/-- The fields of a function's target that no parameter is called like. -/
def MappingFunction.openFields (registry : Registry) (f : MappingFunction) : List String :=
  ((((f.returns.bind fun t => registry.describe? t.name).bind (·.constructor)).getD []).map
    (·.name)).filter fun name => !(f.params.map (·.name)).contains name

/-- The methods that are looked up for a unit, each with its type: under the name of a field, in the
base and in the source. -/
def MappingUnit.methodNames (registry : Registry) (unit : MappingUnit) : List (String × String) :=
  unit.requiredFunctions.flatMap fun f =>
    ((unit.base.map (·.name)).toList ++ (f.source?.map (·.type.name)).toList).flatMap fun type =>
      (f.openFields registry).map (type, ·)

theorem mem_methodNames {registry : Registry} {unit : MappingUnit} {f : MappingFunction}
    (hf : f ∈ unit.requiredFunctions) {name : String} (hname : name ∈ f.openFields registry)
    {type : String} (htype : unit.base.map (·.name) = some type ∨
      f.source?.map (·.type.name) = some type) :
    (type, name) ∈ unit.methodNames registry := by
  refine List.mem_flatMap.2 ⟨f, hf, List.mem_flatMap.2 ⟨type, ?_, List.mem_map_of_mem hname⟩⟩
  rcases htype with h | h
  · exact List.mem_append_left _ (Option.mem_toList.2 h)
  · exact List.mem_append_right _ (Option.mem_toList.2 h)

/-! ## The code of a unit -/

section

variable {settings : Settings} {sources : List (ModuleId × String)} {file : ModuleId}
  {unit : MappingUnit} {base : Option TypeDescriptor}
  (htypes : ∀ type ∈ unit.typeNames, lastModule? sources (·.builds type) ≠ some file)

include htypes

/-- The base comes out the same, but for the methods that the file was the last to declare. -/
theorem exists_checkBase_without
    (hbase : checkBase ((Generator.fresh settings).addSources sources).registry unit = .ok base)
    (hmodule : ∀ m ∈ base.map (·.module), m ≠ file) :
    ∃ base',
      checkBase ((Generator.fresh settings).addSources (without file sources)).registry unit =
        .ok base' ∧
      base'.bind (·.constructor) = base.bind (·.constructor) ∧
      base'.map (·.module) = base.map (·.module) ∧
      ∀ name, (∀ type, unit.base.map (·.name) = some type →
          lastModule? sources (·.adds type name) ≠ some file) →
        base'.bind (·.method? name) = base.bind (·.method? name) := by
  rcases checkBase_eq_ok_iff.1 hbase with ⟨hb, rfl⟩ | ⟨b, d, hb, hd, hconstructor, rfl⟩
  · exact ⟨none, checkBase_eq_ok_iff.2 (Or.inl ⟨hb, rfl⟩), rfl, rfl, fun _ _ => rfl⟩
  · obtain ⟨d', hd', hmodule', hconstructor', -, hmethod⟩ :=
      exists_describe?_without hd (hmodule _ rfl) (htypes _ (MappingUnit.base_mem_typeNames hb))
    refine ⟨some d', checkBase_eq_ok_iff.2 (Or.inr ⟨b, d', hb, hd', ?_, rfl⟩), hconstructor',
      congrArg some hmodule', fun name h => hmethod name (h _ ?_)⟩
    · rw [hconstructor']
      exact hconstructor
    · rw [hb, Option.map_some]

/-- A function comes out the same if the file was the last to declare none of the methods that are
looked up for it. -/
theorem planFunction_without {base' : Option TypeDescriptor} {f : MappingFunction} {m : Mapping}
    {p : PlannedFunction} (hf : f ∈ unit.requiredFunctions) (hm : readMapping f = .ok m)
    (hmethods : ∀ e ∈ unit.methodNames ((Generator.fresh settings).addSources sources).registry,
      lastModule? sources (·.adds e.1 e.2) ≠ some file)
    (hbase : ∀ name, (∀ type, unit.base.map (·.name) = some type →
        lastModule? sources (·.adds type name) ≠ some file) →
      base'.bind (·.method? name) = base.bind (·.method? name))
    (hsourceModule : p.sourceModule ≠ file) (htargetModule : p.targetModule ≠ file)
    (hp : planFunction ((Generator.fresh settings).addSources sources).registry unit base m =
      .ok p) :
    planFunction ((Generator.fresh settings).addSources (without file sources)).registry unit base'
      m = .ok p := by
  obtain ⟨source, target, fields, hsource, htarget, hconstructor, hconflict, rfl⟩ :=
    planFunction_eq_ok_iff.1 hp
  obtain ⟨hsourceName, htargetName⟩ := MappingUnit.mapping_mem_typeNames hf hm
  obtain ⟨-, hfsource, hfreturns, -, rfl⟩ := readMapping_eq_ok_iff.1 hm
  obtain ⟨source', hsource', hsm, -, hproperty, hmethod⟩ := exists_describe?_without hsource
    hsourceModule (htypes _ hsourceName)
  obtain ⟨target', htarget', htm, htc, -, -⟩ := exists_describe?_without htarget htargetModule
    (htypes _ htargetName)
  have hresolve : ResolvedFunction.resolve unit base' m.function m.source source' m.target fields =
      ResolvedFunction.resolve unit base m.function m.source source m.target fields := by
    refine ResolvedFunction.resolve_congr _ _ _ _ _ _ _ fun q hq => ?_
    have hopen : q.name ∉ m.function.params.map (·.name) → q.name ∈ m.function.openFields
        ((Generator.fresh settings).addSources sources).registry := by
      intro h
      rw [MappingFunction.openFields, hfreturns, Option.bind_some, htarget, Option.bind_some,
        hconstructor, Option.getD_some, List.mem_filter]
      refine ⟨List.mem_map_of_mem hq, ?_⟩
      rw [Bool.not_eq_true', ← Bool.not_eq_true, List.contains_iff_mem]
      exact h
    refine Binding.resolve_congr _ _ _ _ _ (fun h => ?_) (fun h => ?_) (hproperty q.name)
    · exact hbase q.name fun type htype =>
        hmethods (type, q.name) (mem_methodNames hf (hopen h) (Or.inl htype))
    · refine hmethod q.name (hmethods (_, q.name) (mem_methodNames hf (hopen h) (Or.inr ?_)))
      rw [hfsource, Option.map_some]
  refine planFunction_eq_ok_iff.2 ⟨source', target', fields, hsource', htarget', htc.trans
    hconstructor, hconflict, ?_⟩
  rw [hresolve, hsm, htm]

/-- The code of a unit stays as it is without a file that is not among its dependencies, as far as
the file was not the last to declare a method that is looked up for the unit. -/
theorem exists_plan_without {plan : Plan}
    (hplan : planUnit settings ((Generator.fresh settings).addSources sources).registry unit =
      .ok plan)
    (hdep : plan.dependencies.contains file = false)
    (hmethods : ∀ e ∈ unit.methodNames ((Generator.fresh settings).addSources sources).registry,
      lastModule? sources (·.adds e.1 e.2) ≠ some file) :
    ∃ plan',
      planUnit settings ((Generator.fresh settings).addSources (without file sources)).registry
        unit = .ok plan' ∧
      plan'.generate settings = plan.generate settings := by
  have hne : ∀ m ∈ plan.unit.module :: (plan.base.map (·.module)).toList ++
      plan.functions.flatMap fun f => [f.sourceModule, f.targetModule], m ≠ file := by
    rintro m hm rfl
    rw [Plan.dependencies, (NameSet.contains_ofNames _ _).2 hm] at hdep
    cases hdep
  obtain ⟨-, hbase, -, -⟩ := planUnit_eq_ok_iff.1 hplan
  obtain ⟨base', hbase', hconstructor, hmodule, hmethod⟩ := exists_checkBase_without htypes hbase
    fun m hm => hne m (List.mem_append_left _ (List.mem_cons_of_mem _ (Option.mem_toList.2 hm)))
  refine generate_of_planUnit hplan hbase' hconstructor hmodule fun f hf m hm p hmem hp => ?_
  have hmodules : ∀ n ∈ [p.sourceModule, p.targetModule], n ≠ file := fun n hn =>
    hne n (List.mem_append_right _ (List.mem_flatMap.2 ⟨p, hmem, hn⟩))
  exact planFunction_without htypes hf hm hmethods hmethod (hmodules _ List.mem_cons_self)
    (hmodules _ (List.mem_cons_of_mem _ List.mem_cons_self)) hp

end

/-- **Which files the code of a unit does not come from.**  A unit is generated without a file just
as with it, if the file is not among the dependencies of the unit and was not the last to declare a
struct that the unit mentions, or a method that is looked up for it. -/
theorem mem_units_without (settings : Settings) (root : Node) (here : List String)
    (paths : List String) (file : String) (report report' : Report) (u : GeneratedUnit)
    (unit : MappingUnit)
    (hrun : ((Generator.fresh settings).readFiles root here paths).run = .ok report)
    (hrun' : ((Generator.fresh settings).readFiles root here (paths.filter (· != file))).run =
      .ok report')
    (hu : u ∈ report.units) (hdep : u.dependencies.contains file = false)
    (hunit : ((Generator.fresh settings).readFiles root here paths).units.find? u.unit = some unit)
    (htypes : ∀ type ∈ unit.typeNames,
      lastModule? (textsAt root here paths) (·.builds type) ≠ some file)
    (hmethods : ∀ e ∈
        unit.methodNames ((Generator.fresh settings).readFiles root here paths).registry,
      lastModule? (textsAt root here paths) (·.adds e.1 e.2) ≠ some file) :
    u ∈ report'.units := by
  have hrest : (Generator.fresh settings).readFiles root here (paths.filter (· != file)) =
      (Generator.fresh settings).addSources (without file (textsAt root here paths)) := by
    rw [Generator.readFiles_eq_addSources, textsAt_filter root here (· != file)]
    rfl
  have hsettings : ∀ sources, ((Generator.fresh settings).addSources sources).settings = settings :=
    fun sources => by rw [Generator.addSources_eq_declareAll, Generator.settings_declareAll]; rfl
  rw [Generator.readFiles_eq_addSources] at hrun hunit hmethods
  rw [hrest] at hrun'
  obtain ⟨unit', hmem, plan, hplan, rfl⟩ := (Generator.mem_units_run_iff hrun).1 hu
  rw [hsettings] at hplan hunit hdep ⊢
  have hplanUnit : plan.unit = unit' := (planUnit_eq_ok_iff.1 hplan).1
  have hmodule : unit'.module ≠ file := by
    rintro rfl
    have hcontains : plan.dependencies.contains unit'.module = true :=
      (NameSet.contains_ofNames _ _).2 (by rw [hplanUnit]; exact List.mem_cons_self)
    rw [show plan.dependencies.contains unit'.module = false from hdep] at hcontains
    cases hcontains
  obtain ⟨name, hfind⟩ := (NameMap.mem_values_iff _ _).1 hmem
  obtain ⟨rfl, hfind'⟩ := find?_units_without hfind hmodule
  have hsame : unit = unit' := by
    rw [show (plan.generate settings).unit = unit'.name by rw [← hplanUnit]; rfl, hfind] at hunit
    exact (Option.some.inj hunit).symm
  subst hsame
  obtain ⟨plan', hplan', hgenerate⟩ := exists_plan_without htypes hplan hdep hmethods
  refine (Generator.mem_units_run_iff hrun').2
    ⟨unit, (NameMap.mem_values_iff _ _).2 ⟨_, hfind'⟩, plan', ?_, ?_⟩
  · rw [hsettings]
    exact hplan'
  · rw [hsettings]
    exact hgenerate

/-! ## A method in a file of its own -/

/-- Books and their loans, and in files of their own two methods of a book, of which only one bears
the name of a field of a loan. -/
def libraryFiles : Node :=
  .directory [
    ("due.rs", .file (some ("impl Book" ++ inBraces ("fn due(&self) -> u32" ++ inBraces "0")))),
    ("library.rs", .file (some ("struct Book; struct Loan" ++ inBraces "due: u32" ++
      "#[mapper_derive::mapper] trait Library" ++ inBraces "fn lend(&self, book: &Book) -> Loan;"))),
    ("shelf.rs", .file (some ("impl Book" ++ inBraces ("fn shelf(&self) -> u32" ++ inBraces "0"))))]

def libraryPaths : List String := ["due.rs", "library.rs", "shelf.rs"]

/-- What the files declare. -/
def libraryDeclared : List (ModuleId × Declaration) :=
  [("due.rs", .methods "Book" "due.rs" [("due", ⟨[], some (.named "u32")⟩)]),
    ("library.rs", .struct "Book" "library.rs" (some [])),
    ("library.rs", .struct "Loan" "library.rs" (some [⟨"due", .named "u32"⟩])),
    ("library.rs", .unit ⟨"Library", "library.rs", "", false, none, none,
      [⟨"lend", some .ref, [⟨"book", "Book", "Book", .shared⟩], some (.named "Loan"), .required⟩]⟩),
    ("shelf.rs", .methods "Book" "shelf.rs" [("shelf", ⟨[], some (.named "u32")⟩)])]

theorem declaredBy_libraryFiles :
    declaredBy (textsAt libraryFiles [] libraryPaths) = libraryDeclared := by
  decide +kernel

/-- The library, from those files whose paths are kept. -/
def library (keep : String → Bool) : Generator :=
  (Generator.fresh .standard).declareAll ((libraryDeclared.filter (keep ·.1)).map (·.2))

theorem readFiles_libraryFiles (keep : String → Bool) :
    (Generator.fresh .standard).readFiles libraryFiles [] (libraryPaths.filter keep) =
      library keep := by
  rw [Generator.readFiles_eq_addSources, textsAt_filter, Generator.addSources_fresh,
    declaredBy_filter, declaredBy_libraryFiles, library]

theorem readFiles_libraryFiles_all :
    (Generator.fresh .standard).readFiles libraryFiles [] libraryPaths = library fun _ => true := by
  rw [← readFiles_libraryFiles, List.filter_true]

def libraryReport (keep : String → Bool) : Report := (library keep).run.toOption.getD ⟨"", [], []⟩

/-- A loan does not come from the file with the other method of books. -/
theorem mem_units_without_shelf :
    (libraryReport fun _ => true).units ≠ [] ∧
    ∀ u ∈ (libraryReport fun _ => true).units, u.dependencies.contains "shelf.rs" = false ∧
      u ∈ (libraryReport (· != "shelf.rs")).units := by
  have hdep : ∀ u ∈ (libraryReport fun _ => true).units,
      u.dependencies.contains "shelf.rs" = false := by decide +kernel
  refine ⟨by decide +kernel, fun u hu => ⟨hdep u hu, ?_⟩⟩
  have hunit : ∀ u ∈ (libraryReport fun _ => true).units,
      ((library fun _ => true).units.find? u.unit).isSome = true := by decide +kernel
  have hlast : ∀ unit ∈ (library fun _ => true).units.values,
      (∀ type ∈ unit.typeNames,
        (libraryDeclared.findRev? (·.2.builds type)).map (·.1) ≠ some "shelf.rs") ∧
      ∀ e ∈ unit.methodNames (library fun _ => true).registry,
        (libraryDeclared.findRev? (·.2.adds e.1 e.2)).map (·.1) ≠ some "shelf.rs" := by
    decide +kernel
  obtain ⟨unit, hfind⟩ := Option.isSome_iff_exists.1 (hunit u hu)
  rw [← declaredBy_libraryFiles] at hlast
  obtain ⟨htypes, hmethods⟩ := hlast unit ((NameMap.mem_values_iff _ _).2 ⟨_, hfind⟩)
  refine mem_units_without .standard libraryFiles [] libraryPaths "shelf.rs"
    (libraryReport fun _ => true) (libraryReport (· != "shelf.rs")) u unit ?_ ?_ hu (hdep u hu) ?_
    htypes ?_
  · rw [readFiles_libraryFiles_all]
    decide +kernel
  · rw [readFiles_libraryFiles]
    decide +kernel
  · rw [readFiles_libraryFiles_all]
    exact hfind
  · rw [readFiles_libraryFiles_all]
    exact hmethods

/-- **The dependencies of a unit do not name all files that its code comes from.**  A loan takes its
field from a method in a file that is not among its dependencies. -/
theorem not_forall_mem_units_without :
    ¬∀ (settings : Settings) (root : Node) (paths : List String) (file : String)
      (report report' : Report) (u : GeneratedUnit), paths.Nodup →
      ((Generator.fresh settings).readFiles root [] paths).run = .ok report →
      ((Generator.fresh settings).readFiles root [] (paths.filter (· != file))).run =
        .ok report' →
      u ∈ report.units → u.dependencies.contains file = false →
      ∃ u' ∈ report'.units, u'.unit = u.unit ∧ u'.implementation = u.implementation ∧
        u'.wrappers = u.wrappers ∧ u'.shape = u.shape ∧ u'.diagnostics = u.diagnostics := by
  intro h
  have hne : (libraryReport fun _ => true).units ≠ [] := by decide +kernel
  obtain ⟨u, hu⟩ := List.exists_mem_of_ne_nil _ hne
  have hwith : ∀ u ∈ (libraryReport fun _ => true).units,
      u.dependencies.contains "due.rs" = false ∧ u.diagnostics = [] := by decide +kernel
  have hwithout : ∀ u ∈ (libraryReport (· != "due.rs")).units, u.diagnostics ≠ [] := by
    decide +kernel
  obtain ⟨u', hu', -, -, -, -, hdiagnostics⟩ := h .standard libraryFiles libraryPaths "due.rs"
    (libraryReport fun _ => true) (libraryReport (· != "due.rs")) u (by decide)
    (by rw [readFiles_libraryFiles_all]; decide +kernel)
    (by rw [readFiles_libraryFiles]; decide +kernel) hu (hwith u hu).1
  exact hwithout u' hu' (hdiagnostics.trans (hwith u hu).2)

end Mapwright
