import Mapwright.Proofs.History
import Mapwright.Proofs.Pass
import Mapwright.Proofs.Resolution
import Mapwright.Proofs.Scan

/-!
# The registry after any steps

Types come into a registry by hand, from sources, and through its entries, which
it lends to be revised.  What holds of a bare descriptor and is kept by every
declaration holds of all descriptors, if it holds of those given by hand and is
kept by the revisions.  So each type is under its own name, and where only
sources say which fields there are, properties are fields.

    P is kept by declarations → g.registry.All P → (g.perform a).registry.All P     (`all_perform`)
    g.registry.All P → (g.takeAll steps).registry.All P                             (`all_takeAll`)
    types stand under their names, each once and in order                           (`registry_takeAll`)
-/

namespace Mapwright

open Files

/-! ## Steps -/

/-- A change made to a descriptor that the registry lends; the type keeps its name. -/
structure Revision where
  apply : TypeDescriptor → TypeDescriptor
  name_apply : ∀ d, (apply d).name = d.name

/-- The revision that leaves fields alone. -/
def Revision.LeavesFields (r : Revision) : Prop :=
  ∀ d, (r.apply d).constructor = d.constructor ∧ (r.apply d).properties = d.properties

/-- What can be done to a registry. -/
inductive Step
  /-- A descriptor is registered by hand. -/
  | register (d : TypeDescriptor)
  | unregister (name : String)
  /-- The entry of a type, a bare one if it is not known yet, is lent and revised. -/
  | entry (name : String) (module : ModuleId) (revision : Revision)
  /-- The generator that holds the registry acts. -/
  | action (a : Action)

/-- Whether a step registers no descriptor by hand, and leaves the fields of an entry alone. -/
def Step.LeavesFields : Step → Prop
  | .register _ => False
  | .unregister _ => True
  | .entry _ _ revision => revision.LeavesFields
  | .action (.registerType _) => False
  | .action _ => True

namespace Generator

/-- Takes a step. -/
def take (g : Generator) : Step → Generator
  | .register d => { g with registry := g.registry.register d }
  | .unregister name => { g with registry := g.registry.unregister name }
  | .entry name module revision => g.reviseType name module revision.apply
  | .action a => g.perform a

/-- Takes steps, one after the other. -/
def takeAll (g : Generator) (steps : List Step) : Generator := steps.foldl take g

end Generator

/-! ## What holds of all descriptors -/

/-- Whether something holds of each descriptor and the name it stands under. -/
def Registry.All (r : Registry) (P : String → TypeDescriptor → Prop) : Prop :=
  ∀ name d, r.describe? name = some d → P name d

/-- Whether something holds of bare descriptors and is kept by what sources declare. -/
structure KeptByDeclarations (P : String → TypeDescriptor → Prop) : Prop where
  bare : ∀ name module, P name (.bare name module)
  struct : ∀ {name d} module constructor, P name d → P name (d.declareStruct module constructor)
  enumeration : ∀ {name d} module, P name d → P name (d.declareEnum module)
  methods : ∀ {name d} methods, P name d → P name (d.declareMethods methods)

/-- Whether what a step brings in by hand is as `P` has it. -/
def Step.Brings (P : String → TypeDescriptor → Prop) : Step → Prop
  | .register d => P d.name d
  | .unregister _ => True
  | .entry _ _ revision => ∀ name d, P name d → P name (revision.apply d)
  | .action (.registerType d) => P d.name d
  | .action _ => True

variable {P : String → TypeDescriptor → Prop}

namespace Registry

variable {r : Registry}

theorem all_empty : empty.All P := fun _ _ h => (by cases h)

theorem all_register (h : r.All P) {d : TypeDescriptor} (hd : P d.name d) : (r.register d).All P := by
  intro name d' hd'
  have hfind : (r.types.insert d.name d).find? name = some d' := hd'
  rw [NameMap.find?_insert] at hfind
  split at hfind
  · next hname =>
    cases hfind
    exact hname ▸ hd
  · exact h name d' hfind

theorem all_unregister (h : r.All P) (name : String) : (r.unregister name).All P := by
  intro name' d hd
  have hfind : (r.types.erase name).find? name' = some d := hd
  rw [NameMap.find?_erase] at hfind
  split at hfind
  · cases hfind
  · exact h name' d hfind

theorem all_revise (h : r.All P) (hbare : ∀ name module, P name (.bare name module))
    {f : TypeDescriptor → TypeDescriptor} (name : String) (module : ModuleId)
    (hf : ∀ d, P name d → P name (f d)) : (r.revise name module f).All P := by
  intro name' d hd
  rw [describe?_revise] at hd
  split at hd
  · next hname =>
    cases hd
    subst hname
    refine hf _ ?_
    unfold entry
    cases hentry : r.describe? name with
    | none => exact hbare name module
    | some d => exact h name d hentry
  · exact h name' d hd

end Registry

namespace Generator

variable {g : Generator}

theorem all_declare (hP : KeptByDeclarations P) (h : g.registry.All P) (d : Declaration) :
    (g.declare d).registry.All P := by
  cases d with
  | struct name module constructor =>
    exact Registry.all_revise h hP.bare name module fun _ => hP.struct module constructor
  | enumeration name module =>
    exact Registry.all_revise h hP.bare name module fun _ => hP.enumeration module
  | methods type module methods =>
    exact Registry.all_revise h hP.bare type module fun _ => hP.methods methods
  | unit u => exact h
  | rejected name reason => exact h

theorem all_declareAll (hP : KeptByDeclarations P) (h : g.registry.All P) (ds : List Declaration) :
    (g.declareAll ds).registry.All P := by
  induction ds generalizing g with
  | nil => exact h
  | cons d ds ih => exact ih (all_declare hP h d)

theorem all_perform (hP : KeptByDeclarations P) (h : g.registry.All P) (a : Action)
    (hgiven : ∀ d, a = .registerType d → P d.name d) : (g.perform a).registry.All P := by
  cases a with
  | registerType d => exact Registry.all_register h (hgiven d rfl)
  | unregisterType name => exact Registry.all_unregister h name
  | addSource module text =>
    rw [perform_eq_declareAll g rfl]
    exact all_declareAll hP h _
  | addFile root path here =>
    rw [perform_eq_declareAll g rfl]
    exact all_declareAll hP h _
  | addDirectory root path here =>
    rw [perform_eq_declareAll g rfl]
    exact all_declareAll hP h _
  | _ => exact h

theorem all_take (hP : KeptByDeclarations P) (h : g.registry.All P) {step : Step}
    (hstep : step.Brings P) : (g.take step).registry.All P := by
  cases step with
  | register d => exact Registry.all_register h hstep
  | unregister name => exact Registry.all_unregister h name
  | entry name module revision => exact Registry.all_revise h hP.bare name module (hstep name)
  | action a =>
    refine all_perform hP h a fun d ha => ?_
    subst ha
    exact hstep

/-- **What sources keep holds after any steps**, if it holds of what they bring in by hand. -/
theorem all_takeAll (hP : KeptByDeclarations P) (h : g.registry.All P) {steps : List Step}
    (hsteps : ∀ step ∈ steps, step.Brings P) : (g.takeAll steps).registry.All P := by
  induction steps generalizing g with
  | nil => exact h
  | cons step steps ih =>
    obtain ⟨hstep, hsteps⟩ := List.forall_mem_cons.1 hsteps
    exact ih (all_take hP h hstep) hsteps

end Generator

/-! ## Names and order -/

/-- Descriptors stand under the names of their types. -/
theorem keptByDeclarations_name : KeptByDeclarations fun name d => d.name = name where
  bare _ _ := rfl
  struct _ _ h := h
  enumeration _ h := h
  methods _ h := h

theorem Step.brings_name (step : Step) : step.Brings fun name d => d.name = name := by
  cases step with
  | register d => rfl
  | unregister name => trivial
  | entry name module revision => exact fun _ d h => (revision.name_apply d).trans h
  | action a => cases a <;> trivial

namespace Registry

variable {r : Registry}

/-- Each type stands under its own name, and the types are listed once each, in the order of the
bytes of their names. -/
structure InOrder (r : Registry) : Prop where
  named : ∀ name d, r.describe? name = some d → d.name = name
  increasing : (r.toList.map fun d => nameBytes d.name).Pairwise (· < ·)
  mem_names_iff : ∀ name, name ∈ r.toList.map (·.name) ↔ (r.describe? name).isSome = true
  size_eq : r.size = (r.toList.map (·.name)).length

/-- The names in a list of descriptors are those that the descriptors stand under. -/
theorem names_toList (h : r.All fun name d => d.name = name) :
    r.toList.map (·.name) = r.types.names := by
  rw [toList, NameMap.values, NameMap.names, List.map_map]
  refine List.map_congr_left fun e he => ?_
  exact h e.1 e.2 ((NameMap.mem_entries_iff r.types e.1 e.2).1 he)

theorem inOrder (h : r.All fun name d => d.name = name) : r.InOrder where
  named := h
  increasing := by
    have hsorted : r.types.names.Pairwise (· < ·) := List.pairwise_map.2 r.types.sorted
    rw [← names_toList h] at hsorted
    have hbytes := hsorted.map nameBytes fun _ _ => nameBytes_lt
    rwa [List.map_map] at hbytes
  mem_names_iff name := by
    rw [names_toList h]
    exact NameMap.mem_names_iff r.types name
  size_eq := by
    rw [names_toList h, NameMap.names, List.length_map]
    rfl

end Registry

/-! ## Properties and fields -/

/-- The property of a name is the last field of that name. -/
theorem find?_propertiesOf (fields : List Param) (name : String) :
    (propertiesOf fields).find? name = (fields.findRev? (·.name == name)).map (·.type) := by
  rw [propertiesOf, NameMap.ofList, NameMap.find?_insertAll, NameMap.find?_empty, Option.or_none,
    findRev?_map, Option.map_map]
  rfl

/-- Sources say which fields a type has, and that these are its properties. -/
theorem keptByDeclarations_fields :
    KeptByDeclarations fun _ d => d.properties = propertiesOf (d.constructor.getD []) where
  bare _ _ := rfl
  struct _ _ _ := rfl
  enumeration _ h := h
  methods _ h := h

theorem Step.brings_fields {step : Step} (h : step.LeavesFields) :
    step.Brings fun _ d => d.properties = propertiesOf (d.constructor.getD []) := by
  cases step with
  | register d => exact h.elim
  | unregister name => trivial
  | entry name module revision =>
    intro _ d hd
    rw [(h d).1, (h d).2, hd]
  | action a =>
    cases a with
    | registerType d => exact h.elim
    | _ => trivial

namespace Registry

/-- The properties of each type are its fields, and so is whatever property of a source a field of a
target is bound to. -/
structure OfFields (r : Registry) : Prop where
  property?_eq : ∀ name d, r.describe? name = some d → ∀ x,
    d.property? x = ((d.constructor.getD []).findRev? (·.name == x)).map (·.type)
  properties_eq : ∀ name d, r.describe? name = some d → d.constructor = none →
    d.properties = .empty
  bound : ∀ settings unit plan, planUnit settings r unit = .ok plan →
    ∀ p ∈ plan.functions, ∀ field ∈ p.resolved.fields, ∀ x, field.binding = .property x →
      ∃ source fields, r.describe? p.resolved.source.type.name = some source ∧
        source.constructor = some fields ∧ x ∈ fields.map (·.name)

theorem ofFields {r : Registry}
    (h : r.All fun _ d => d.properties = propertiesOf (d.constructor.getD [])) : r.OfFields := by
  have hproperty : ∀ name d, r.describe? name = some d → ∀ x,
      d.property? x = ((d.constructor.getD []).findRev? (·.name == x)).map (·.type) := by
    intro name d hd x
    rw [TypeDescriptor.property?, h name d hd, find?_propertiesOf]
  refine ⟨hproperty, fun name d hd hnone => ?_, ?_⟩
  · rw [h name d hd, hnone]
    rfl
  · intro settings unit plan hplan p hp field hfield x hx
    obtain ⟨f, -, m, -, hplanned⟩ := exists_of_mem_functions hplan hp
    obtain ⟨source, target, fields, hsource, -, -, -, rfl⟩ := planFunction_eq_ok_iff.1 hplanned
    obtain ⟨-, hbinding⟩ := (ResolvedFunction.mem_fields_resolve ..).1 hfield
    rw [hx] at hbinding
    obtain ⟨rfl, -, -, -, hsome⟩ := (Binding.resolve_eq_property_iff ..).1 hbinding.symm
    rw [hproperty _ source hsource, Option.isSome_map, Option.isSome_iff_exists] at hsome
    obtain ⟨q, hq⟩ := hsome
    cases hconstructor : source.constructor with
    | none =>
      rw [hconstructor] at hq
      cases hq
    | some sourceFields =>
      rw [hconstructor] at hq
      have hname := prop_of_findRev? hq
      exact ⟨source, sourceFields, hsource, hconstructor,
        List.mem_map.2 ⟨q, mem_of_findRev? hq, eq_of_beq hname⟩⟩

end Registry

/-- **The registry after any steps.** -/
theorem Generator.registry_takeAll (steps : List Step) :
    (new.takeAll steps).registry.InOrder ∧
      ((∀ step ∈ steps, step.LeavesFields) → (new.takeAll steps).registry.OfFields) :=
  ⟨Registry.inOrder (all_takeAll keptByDeclarations_name Registry.all_empty fun step _ =>
      step.brings_name),
    fun h => Registry.ofFields (all_takeAll keptByDeclarations_fields Registry.all_empty
      fun step hstep => Step.brings_fields (h step hstep))⟩

/-- A struct with two fields of one name, a method that comes through its entry, and an enum that is
taken out again. -/
def pointSteps : List Step :=
  [.action (.addSource .inline "struct Point { x: u8, y: u8, x: u16 } enum Line { Thin }"),
    .entry "Point" "src/norm.rs" ⟨(·.withMethod "norm" ⟨[], some (.named "u32")⟩), fun _ => rfl⟩,
    .unregister "Line"]

theorem Generator.registry_takeAll_points :
    (∀ step ∈ pointSteps, step.LeavesFields) ∧ (new.takeAll pointSteps).registry.InOrder ∧
      (new.takeAll pointSteps).registry.OfFields ∧
      (new.takeAll pointSteps).registry.toList.map (fun d => (d.name, d.property? "x")) =
        [("Point", some (.named "u16"))] := by
  have hsteps : ∀ step ∈ pointSteps, step.LeavesFields :=
    List.forall_mem_cons.2 ⟨trivial, List.forall_mem_cons.2 ⟨fun _ => ⟨rfl, rfl⟩,
      List.forall_mem_singleton.2 trivial⟩⟩
  obtain ⟨hinOrder, hofFields⟩ := registry_takeAll pointSteps
  exact ⟨hsteps, hinOrder, hofFields hsteps, by decide +kernel⟩

end Mapwright
