import Mapwright.Files.Sources
import Mapwright.Proofs.Declared

/-!
# What a generator has been told

A generator is made by actions: settings, types and units given by hand, and
sources that are read.  Every action that bears on a unit does so through
declarations, those of an action in their order: a unit, or that it cannot be
read.  The last declaration on a name is what a generator holds under it.

    (g.perform a).held name = what the last declaration of a on name says, or else g.held name   (`held_perform`)
    (after actions).held name = what the last declaration on name says                           (`held_after`)
    no name is that of a unit and of a rejected one, and each unit is held under its own         (`wellFormed_after`)
-/

namespace Mapwright

open Files Source

/-! ## Actions -/

/-- What can be done to a generator.  Files are read from the tree that is there at the time, and from
the working directory. -/
inductive Action
  | setHeader (text : String)
  | setImplSuffix (suffix : String)
  | setDenyUnresolved (deny : Bool)
  | registerType (descriptor : TypeDescriptor)
  | unregisterType (name : String)
  | addUnit (unit : MappingUnit)
  | addSource (module : ModuleId) (text : String)
  | addFile (root : Node) (path : String) (here : List String)
  | addDirectory (root : Node) (path : String) (here : List String)

namespace Generator

/-- The generator after an action, whether the action succeeds or fails. -/
def perform (g : Generator) : Action → Generator
  | .setHeader text => g.setHeader text
  | .setImplSuffix suffix => g.setImplSuffix suffix
  | .setDenyUnresolved deny => g.setDenyUnresolved deny
  | .registerType d => g.registerType d
  | .unregisterType name => g.unregisterType name
  | .addUnit u => g.addUnit u
  | .addSource module text => (g.addSource module text).toOption.getD g
  | .addFile root path here => (g.addFile root path here).toOption.getD g
  | .addDirectory root path here => (g.addDirectory root path here).1

/-- The generator after some actions, one after the other. -/
def performAll (g : Generator) (actions : List Action) : Generator := actions.foldl perform g

/-- A new generator after some actions. -/
def after (actions : List Action) : Generator := new.performAll actions

end Generator

/-! ## What actions declare -/

/-- What the file at a path declares, if it can be read. -/
def fileDeclarations? (root : Node) (here : List String) (path : String) :
    Option (List Declaration) :=
  (root.readText? path here).bind (declarations? path)

/-- What files declare, up to the first one that cannot be read. -/
def filesDeclarations (root : Node) (here : List String) (paths : List String) :
    List Declaration :=
  ((paths.map (fileDeclarations? root here)).takeWhile (·.isSome)).flatMap (·.getD [])

/-- What an action declares. -/
def Action.declarations : Action → List Declaration
  | .addUnit u => [.unit u]
  | .addSource module text => (declarations? module text).getD []
  | .addFile root path here => (fileDeclarations? root here path).getD []
  | .addDirectory root path here =>
    filesDeclarations root here ((sourcePaths? root path here).getD [])
  | _ => []

/-- Whether an action reads sources. -/
def Action.readsSources : Action → Bool
  | .addSource _ _ | .addFile _ _ _ | .addDirectory _ _ _ => true
  | _ => false

/-- What actions declare, one after the other. -/
def history (actions : List Action) : List Declaration := actions.flatMap (·.declarations)

/-- The last declaration on the unit of a name. -/
def lastOn? (actions : List Action) (name : String) : Option Declaration :=
  (history actions).findRev? (·.settles name)

/-! ## What is held under a name -/

namespace Generator

theorem addSource_eq (g : Generator) (module : ModuleId) (text : String) :
    (g.addSource module text).toOption = (declarations? module text).map g.declareAll := by
  unfold addSource
  cases declarations? module text <;> rfl

theorem addFile_eq (g : Generator) (root : Node) (path : String) (here : List String) :
    (g.addFile root path here).toOption = (fileDeclarations? root here path).map g.declareAll := by
  unfold addFile fileDeclarations?
  cases root.readText? path here with
  | none => rfl
  | some text => exact addSource_eq g path text

theorem addFiles_eq (root : Node) (here : List String) (g : Generator) (paths : List String) :
    (g.addFiles root here paths).1 = g.declareAll (filesDeclarations root here paths) := by
  induction paths generalizing g with
  | nil => rfl
  | cons path paths ih =>
    have hfile := addFile_eq g root path here
    unfold addFiles filesDeclarations
    rw [List.map_cons, List.takeWhile_cons]
    cases hd : fileDeclarations? root here path with
    | none =>
      rw [hd] at hfile
      cases hr : g.addFile root path here with
      | ok g' => rw [hr] at hfile; cases hfile
      | error e => rfl
    | some ds =>
      rw [hd] at hfile
      cases hr : g.addFile root path here with
      | error e => rw [hr] at hfile; cases hfile
      | ok g' =>
        rw [hr] at hfile
        have hg' : g' = g.declareAll ds := Option.some.inj hfile
        simp only [Option.isSome_some, if_true, List.flatMap_cons, Option.getD_some,
          declareAll_append]
        rw [ih g', hg']
        rfl

/-- A source that is read is taken in declaration by declaration. -/
theorem perform_eq_declareAll (g : Generator) {a : Action} (h : a.readsSources = true) :
    g.perform a = g.declareAll a.declarations := by
  cases a with
  | addSource module text =>
    simp only [perform, addSource_eq, Action.declarations]
    cases declarations? module text <;> rfl
  | addFile root path here =>
    simp only [perform, addFile_eq, Action.declarations]
    cases fileDeclarations? root here path <;> rfl
  | addDirectory root path here =>
    simp only [perform, addDirectory, Action.declarations]
    cases sourcePaths? root path here with
    | none => rfl
    | some paths => rw [addFiles_eq, Option.getD_some]
  | _ => cases h

/-- **What one action does to a name.** -/
theorem held_perform (g : Generator) (a : Action) (name : String) :
    (g.perform a).held name =
      ((a.declarations.findRev? (·.settles name)).map fun d => (d.unit?, d.rejection?)).getD
        (g.held name) := by
  rw [← held_declareAll]
  cases a with
  | addSource module text => rw [perform_eq_declareAll g rfl]
  | addFile root path here => rw [perform_eq_declareAll g rfl]
  | addDirectory root path here => rw [perform_eq_declareAll g rfl]
  | _ => rfl

theorem held_performAll (g : Generator) (actions : List Action) (name : String) :
    (g.performAll actions).held name =
      ((lastOn? actions name).map fun d => (d.unit?, d.rejection?)).getD (g.held name) := by
  induction actions generalizing g with
  | nil => rfl
  | cons a actions ih =>
    have hlast : lastOn? (a :: actions) name =
        (lastOn? actions name).or (a.declarations.findRev? (·.settles name)) := by
      rw [lastOn?, history, List.flatMap_cons, findRev?_append]
      rfl
    rw [hlast]
    refine (ih (g.perform a)).trans ?_
    rw [held_perform]
    cases lastOn? actions name <;> rfl

/-- **The last declaration on a name is what is held under it.** -/
theorem held_after (actions : List Action) (name : String) :
    (after actions).held name =
      ((lastOn? actions name).map fun d => (d.unit?, d.rejection?)).getD (none, none) :=
  held_performAll new actions name

theorem settles_of_lastOn? {actions : List Action} {name : String} {d : Declaration}
    (h : lastOn? actions name = some d) : d.settles name = true :=
  prop_of_findRev? h

theorem units_after_iff (actions : List Action) (name : String) (u : MappingUnit) :
    (after actions).units.find? name = some u ↔ lastOn? actions name = some (.unit u) := by
  have h : (after actions).units.find? name = _ := congrArg Prod.fst (held_after actions name)
  rw [h]
  cases lastOn? actions name with
  | none => simp
  | some d => cases d <;> simp [Declaration.unit?]

theorem rejected_after_iff (actions : List Action) (name : String) (reason : Rejection) :
    (after actions).rejected.find? name = some reason ↔
      lastOn? actions name = some (.rejected name reason) := by
  have h : (after actions).rejected.find? name = _ := congrArg Prod.snd (held_after actions name)
  rw [h]
  cases hd : lastOn? actions name with
  | none => simp
  | some d =>
    have hsettles := settles_of_lastOn? hd
    cases d with
    | rejected name' reason' =>
      have hname : name' = name := eq_of_beq hsettles
      simp [Declaration.rejection?, hname]
    | _ => simp [Declaration.rejection?]

/-! ## Well-formed generators -/

/-- Units are held under their own names, and no name is also that of a rejected unit. -/
structure WellFormed (g : Generator) : Prop where
  named : ∀ {name u}, g.units.find? name = some u → u.name = name
  apart : ∀ name, g.units.find? name = none ∨ g.rejected.find? name = none

/-- **What actions make is well-formed.** -/
theorem wellFormed_after (actions : List Action) : (after actions).WellFormed where
  named := by
    intro name u h
    have hsettles := settles_of_lastOn? ((units_after_iff actions name u).1 h)
    exact eq_of_beq hsettles
  apart := by
    intro name
    cases hu : (after actions).units.find? name with
    | none => exact Or.inl rfl
    | some u =>
      refine Or.inr ?_
      cases hr : (after actions).rejected.find? name with
      | none => rfl
      | some reason =>
        -- the last declaration would be both
        have h₁ := (units_after_iff actions name u).1 hu
        have h₂ := (rejected_after_iff actions name reason).1 hr
        rw [h₁] at h₂
        cases h₂

end Generator

end Mapwright
