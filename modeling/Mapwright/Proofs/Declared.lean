import Mapwright.Declaration
import Mapwright.Proofs.NameMap

/-!
# What a generator knows after declarations

Of all declarations on a type, the last struct says how it is built and which
properties it has, the last struct or enum where it stands, and the last impl
with a method of some name what that method is.  Of all declarations on a unit
the last one settles it.

    constructor of the type  = that of the last struct               (`constructor_declareAll`)
    a property of it         = that of the last struct               (`property?_declareAll`)
    a method of it           = that of the last impl with it         (`method?_declareAll`)
    module of it             = that of the last struct or enum,
                               or else of the first impl             (`module_declareAll`)
    the unit                 = that of the last declaration on it    (`held_declareAll`)
-/

namespace Mapwright

/-! ## What a declaration is about -/

namespace Declaration

/-- The module that a declaration stands in, if it says so. -/
def module? : Declaration → Option ModuleId
  | .struct _ module _ => some module
  | .enumeration _ module => some module
  | .methods _ module _ => some module
  | .unit u => some u.module
  | .rejected _ _ => none

/-- Whether a declaration is about a type. -/
def concerns (type : String) : Declaration → Bool
  | .struct name _ _ => name == type
  | .enumeration name _ => name == type
  | .methods name _ _ => name == type
  | _ => false

/-- Whether a declaration is that of a type, as a struct or as an enum. -/
def places (type : String) : Declaration → Bool
  | .struct name _ _ => name == type
  | .enumeration name _ => name == type
  | _ => false

/-- Whether a declaration is that of a type as a struct. -/
def builds (type : String) : Declaration → Bool
  | .struct name _ _ => name == type
  | _ => false

/-- Whether a declaration has a method of a type. -/
def adds (type method : String) : Declaration → Bool
  | .methods name _ sigs => name == type && sigs.any (·.1 == method)
  | _ => false

/-- Whether a declaration is about a unit. -/
def settles (unit : String) : Declaration → Bool
  | .unit u => u.name == unit
  | .rejected name _ => name == unit
  | _ => false

/-- The fields of the struct literal of a struct. -/
def constructor? : Declaration → Option (List Param)
  | .struct _ _ constructor => constructor
  | _ => none

/-- The last method of some name in an impl. -/
def method? (method : String) : Declaration → Option MethodSig
  | .methods _ _ sigs => (sigs.findRev? (·.1 == method)).map (·.2)
  | _ => none

def unit? : Declaration → Option MappingUnit
  | .unit u => some u
  | _ => none

/-- Why a unit cannot be read. -/
def rejection? : Declaration → Option Rejection
  | .rejected _ reason => some reason
  | _ => none

theorem concerns_of_places {type : String} {d : Declaration} (h : d.places type = true) :
    d.concerns type = true := by
  cases d with
  | struct name module constructor => exact h
  | enumeration name module => exact h
  | _ => cases h

theorem concerns_of_builds {type : String} {d : Declaration} (h : d.builds type = true) :
    d.concerns type = true := by
  cases d with
  | struct name module constructor => exact h
  | _ => cases h

theorem isSome_module?_of_concerns {type : String} {d : Declaration}
    (h : d.concerns type = true) : d.module?.isSome = true := by
  cases d with
  | unit u => cases h
  | rejected name reason => cases h
  | _ => rfl

theorem eq_of_concerns {type : String} {d : Declaration} (h : d.concerns type = true) :
    (∃ module constructor, d = .struct type module constructor) ∨
    (∃ module, d = .enumeration type module) ∨ ∃ module methods, d = .methods type module methods := by
  cases d with
  | struct name module constructor =>
    cases eq_of_beq h
    exact Or.inl ⟨module, constructor, rfl⟩
  | enumeration name module =>
    cases eq_of_beq h
    exact Or.inr (Or.inl ⟨module, rfl⟩)
  | methods name module methods =>
    cases eq_of_beq h
    exact Or.inr (Or.inr ⟨module, methods, rfl⟩)
  | _ => cases h

theorem eq_methods_of_adds {type method : String} {d : Declaration}
    (h : d.adds type method = true) :
    ∃ module methods sig, d = .methods type module methods ∧ (method, sig) ∈ methods ∧
      d.method? method = some sig := by
  cases d with
  | methods name module methods =>
    rw [adds, Bool.and_eq_true, beq_iff_eq] at h
    obtain ⟨rfl, h⟩ := h
    cases he : methods.findRev? (·.1 == method) with
    | none =>
      rw [findRev?_eq_none_iff] at he
      obtain ⟨e, hmem, h⟩ := List.any_eq_true.1 h
      rw [he e hmem] at h
      cases h
    | some e =>
      have hkey := prop_of_findRev? he
      refine ⟨module, methods, e.2, rfl, ?_, ?_⟩
      · rw [← eq_of_beq hkey]
        exact mem_of_findRev? he
      · rw [method?, he, Option.map_some]
  | _ => cases h

end Declaration

/-! ## Types -/

namespace Registry

theorem describe?_revise (r : Registry) (name : String) (module : ModuleId)
    (f : TypeDescriptor → TypeDescriptor) (type : String) :
    (r.revise name module f).describe? type =
      if name = type then some (f (r.entry name module)) else r.describe? type :=
  NameMap.find?_insert _ _ _ _

end Registry

namespace Generator

variable (g : Generator) (ds : List Declaration) (type : String)

theorem describe?_declare_of_not_concerns {d : Declaration} (h : d.concerns type = false) :
    (g.declare d).registry.describe? type = g.registry.describe? type := by
  cases d with
  | struct name module constructor =>
    exact (Registry.describe?_revise ..).trans (if_neg (ne_of_beq_false h))
  | enumeration name module =>
    exact (Registry.describe?_revise ..).trans (if_neg (ne_of_beq_false h))
  | methods name module methods =>
    exact (Registry.describe?_revise ..).trans (if_neg (ne_of_beq_false h))
  | unit u => rfl
  | rejected name reason => rfl

@[simp] theorem describe?_declare_struct (module : ModuleId) (constructor : Option (List Param)) :
    (g.declare (.struct type module constructor)).registry.describe? type =
      some ((g.registry.entry type module).declareStruct module constructor) :=
  (Registry.describe?_revise ..).trans (if_pos rfl)

@[simp] theorem describe?_declare_enumeration (module : ModuleId) :
    (g.declare (.enumeration type module)).registry.describe? type =
      some ((g.registry.entry type module).declareEnum module) :=
  (Registry.describe?_revise ..).trans (if_pos rfl)

@[simp] theorem describe?_declare_methods (module : ModuleId)
    (methods : List (String × MethodSig)) :
    (g.declare (.methods type module methods)).registry.describe? type =
      some ((g.registry.entry type module).declareMethods methods) :=
  (Registry.describe?_revise ..).trans (if_pos rfl)

/-- What the last hit has left of a descriptor is what is seen of it, if no other declaration on the
type has a bearing on it. -/
theorem view_declareAll {β : Type} (view : Option TypeDescriptor → β) (p : Declaration → Bool)
    (left : Declaration → β)
    (hhit : ∀ g d, p d = true → view ((declare g d).registry.describe? type) = left d)
    (hmiss : ∀ g d, d.concerns type = true → p d = false →
      view ((declare g d).registry.describe? type) = view (g.registry.describe? type)) :
    view ((g.declareAll ds).registry.describe? type) =
      ((ds.findRev? p).map left).getD (view (g.registry.describe? type)) := by
  refine view_foldl (fun g : Generator => view (g.registry.describe? type)) declare p left hhit
    (fun g d hp => ?_) g ds
  cases hc : d.concerns type with
  | true => exact hmiss g d hc hp
  | false => rw [describe?_declare_of_not_concerns g type hc]

theorem entry_view {β : Type} (r : Registry) (module : ModuleId) (view : TypeDescriptor → Option β)
    (hbare : view (.bare type module) = none) :
    view (r.entry type module) = (r.describe? type).bind view := by
  unfold Registry.entry
  cases r.describe? type with
  | none => exact hbare
  | some d => rfl

/-- What structs alone have a bearing on is as the last struct has left it. -/
theorem view_declareAll_of_struct {β : Type} (view : TypeDescriptor → Option β)
    (left : Option (List Param) → Option β) (hbare : ∀ module, view (.bare type module) = none)
    (hstruct : ∀ (d : TypeDescriptor) module c, view (d.declareStruct module c) = left c)
    (henum : ∀ (d : TypeDescriptor) module, view (d.declareEnum module) = view d)
    (hmethods : ∀ (d : TypeDescriptor) methods, view (d.declareMethods methods) = view d) :
    ((g.declareAll ds).registry.describe? type).bind view =
      ((ds.findRev? (·.builds type)).map fun d => left d.constructor?).getD
        ((g.registry.describe? type).bind view) := by
  refine view_declareAll g ds type (·.bind view) _ _ (fun g d hd => ?_) (fun g d hc hp => ?_)
  · rcases Declaration.eq_of_concerns (Declaration.concerns_of_builds hd) with
      ⟨_, _, rfl⟩ | ⟨_, rfl⟩ | ⟨_, _, rfl⟩
    · rw [describe?_declare_struct, Option.bind_some, hstruct]
      rfl
    · cases hd
    · cases hd
  · rcases Declaration.eq_of_concerns hc with ⟨_, _, rfl⟩ | ⟨module, rfl⟩ | ⟨module, _, rfl⟩
    · rw [Declaration.builds, beq_self_eq_true] at hp
      cases hp
    · rw [describe?_declare_enumeration, Option.bind_some, henum]
      exact entry_view type g.registry module view (hbare module)
    · rw [describe?_declare_methods, Option.bind_some, hmethods]
      exact entry_view type g.registry module view (hbare module)

/-- The last struct says how a type is built. -/
theorem constructor_declareAll :
    ((g.declareAll ds).registry.describe? type).bind (·.constructor) =
      ((ds.findRev? (·.builds type)).map (·.constructor?)).getD
        ((g.registry.describe? type).bind (·.constructor)) :=
  view_declareAll_of_struct g ds type (·.constructor) id (fun _ => rfl) (fun _ _ _ => rfl)
    (fun _ _ => rfl) (fun _ _ => rfl)

/-- The last struct says which properties a type has. -/
theorem property?_declareAll (x : String) :
    ((g.declareAll ds).registry.describe? type).bind (·.property? x) =
      ((ds.findRev? (·.builds type)).map fun d =>
          (propertiesOf (d.constructor?.getD [])).find? x).getD
        ((g.registry.describe? type).bind (·.property? x)) :=
  view_declareAll_of_struct g ds type (·.property? x) (fun c => (propertiesOf (c.getD [])).find? x)
    (fun _ => rfl) (fun _ _ _ => rfl) (fun _ _ => rfl) (fun _ _ => rfl)

/-- The last impl that has a method of some name says what the method is. -/
theorem method?_declareAll (m : String) :
    ((g.declareAll ds).registry.describe? type).bind (·.method? m) =
      ((ds.findRev? (·.adds type m)).map (·.method? m)).getD
        ((g.registry.describe? type).bind (·.method? m)) := by
  have hmethods : ∀ (g : Generator) module methods,
      ((g.declare (.methods type module methods)).registry.describe? type).bind (·.method? m) =
        ((methods.findRev? (·.1 == m)).map (·.2)).or
          ((g.registry.describe? type).bind (·.method? m)) := by
    intro g module methods
    rw [describe?_declare_methods, ← entry_view type g.registry module (·.method? m) rfl]
    exact NameMap.find?_insertAll _ methods m
  refine view_declareAll g ds type (·.bind (·.method? m)) _ _ (fun g d hd => ?_)
    (fun g d hc hp => ?_)
  · obtain ⟨module, methods, sig, rfl, -, hsig⟩ := Declaration.eq_methods_of_adds hd
    rw [hmethods, hsig]
    rw [Declaration.method?] at hsig
    rw [hsig, Option.some_or]
  · rcases Declaration.eq_of_concerns hc with ⟨_, _, rfl⟩ | ⟨_, rfl⟩ | ⟨module, methods, rfl⟩
    · rw [describe?_declare_struct]
      exact entry_view type g.registry _ (·.method? m) rfl
    · rw [describe?_declare_enumeration]
      exact entry_view type g.registry _ (·.method? m) rfl
    · rw [Declaration.adds, beq_self_eq_true, Bool.true_and, List.any_eq_false] at hp
      rw [hmethods, findRev?_eq_none_iff.2 fun e he => Bool.eq_false_iff.2 (hp e he)]
      rfl

/-- The last struct or enum says where a type is declared; for a type without one, the first impl
does. -/
theorem module_declareAll :
    ((g.declareAll ds).registry.describe? type).map (·.module) =
      (((ds.findRev? (·.places type)).bind (·.module?)).or
        ((g.registry.describe? type).map (·.module))).or
        ((ds.find? (·.concerns type)).bind (·.module?)) := by
  induction ds using List.reverseRecOn with
  | nil => simp [declareAll]
  | append_singleton ds d ih =>
    -- from the end, since the last declaration is the one that revises what is there
    rw [declareAll_append, findRev?_concat, List.find?_append]
    show ((declare (g.declareAll ds) d).registry.describe? type).map _ = _
    cases hc : d.concerns type with
    | false =>
      have hp : d.places type = false :=
        Bool.eq_false_iff.2 fun h => by rw [Declaration.concerns_of_places h] at hc; cases hc
      rw [describe?_declare_of_not_concerns _ type hc, ih, List.find?_singleton, hc, hp]
      simp
    | true =>
      rcases Declaration.eq_of_concerns hc with ⟨_, _, rfl⟩ | ⟨_, rfl⟩ | ⟨module, methods, rfl⟩
      · rw [describe?_declare_struct]
        simp [Declaration.places, Declaration.module?, TypeDescriptor.declareStruct]
      · rw [describe?_declare_enumeration]
        simp [Declaration.places, Declaration.module?, TypeDescriptor.declareEnum]
      · rw [describe?_declare_methods, Option.map_some]
        have hfirst : (((ds.find? (·.concerns type)).or
            ([Declaration.methods type module methods].find? (·.concerns type))).bind (·.module?)) =
            ((ds.find? (·.concerns type)).bind (·.module?)).or (some module) := by
          cases hf : ds.find? (·.concerns type) with
          | none => rw [Option.none_or, List.find?_singleton, if_pos hc]; rfl
          | some d =>
            obtain ⟨n, hn⟩ := Option.isSome_iff_exists.1
              (Declaration.isSome_module?_of_concerns (List.find?_some hf))
            rw [Option.some_or, Option.bind_some, hn, Option.some_or]
        have hp : (Declaration.methods type module methods).places type = false := rfl
        rw [hfirst, ← Option.or_assoc, hp, if_neg Bool.false_ne_true, ← ih]
        unfold Registry.entry
        cases (g.declareAll ds).registry.describe? type <;> rfl

/-! ## Units -/

/-- The unit of a name, and why there is none if it was rejected. -/
def held (g : Generator) (name : String) : Option MappingUnit × Option Rejection :=
  (g.units.find? name, g.rejected.find? name)

theorem held_addUnit (u : MappingUnit) (name : String) :
    (g.addUnit u).held name = if u.name = name then (some u, none) else g.held name := by
  unfold held addUnit
  rw [NameMap.find?_insert, NameMap.find?_erase]
  split <;> rfl

theorem held_reject (unit : String) (reason : Rejection) (name : String) :
    (g.reject unit reason).held name = if unit = name then (none, some reason) else g.held name := by
  unfold held reject
  rw [NameMap.find?_insert, NameMap.find?_erase]
  split <;> rfl

/-- The last declaration on a unit is what is held under its name. -/
theorem held_declareAll (name : String) :
    (g.declareAll ds).held name =
      ((ds.findRev? (·.settles name)).map fun d => (d.unit?, d.rejection?)).getD (g.held name) := by
  refine view_foldl (fun g : Generator => g.held name) declare (·.settles name)
    (fun d => (d.unit?, d.rejection?)) (fun g d hd => ?_) (fun g d hd => ?_) g ds
  · cases d with
    | unit u => exact (g.held_addUnit u name).trans (if_pos (eq_of_beq hd))
    | rejected name' reason => exact (g.held_reject name' reason name).trans (if_pos (eq_of_beq hd))
    | _ => cases hd
  · cases d with
    | unit u => exact (g.held_addUnit u name).trans (if_neg (ne_of_beq_false hd))
    | rejected name' reason =>
      exact (g.held_reject name' reason name).trans (if_neg (ne_of_beq_false hd))
    | _ => rfl

/-- A generator that knows no type and no unit. -/
def fresh (settings : Settings) : Generator := ⟨settings, .empty, .empty, .empty⟩

theorem units_find?_fresh_iff (settings : Settings) (name : String) (u : MappingUnit) :
    ((fresh settings).declareAll ds).units.find? name = some u ↔
      ds.findRev? (·.settles name) = some (.unit u) := by
  have h : ((fresh settings).declareAll ds).units.find? name = _ :=
    congrArg Prod.fst (held_declareAll (fresh settings) ds name)
  rw [h]
  cases ds.findRev? (·.settles name) with
  | none => simp [fresh, held]
  | some d => cases d <;> simp [Declaration.unit?]

theorem settings_declareAll : (g.declareAll ds).settings = g.settings := by
  induction ds generalizing g with
  | nil => rfl
  | cons d ds ih =>
    refine (ih (g.declare d)).trans ?_
    cases d <;> rfl

end Generator

end Mapwright
