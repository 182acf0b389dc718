import Mapwright.Proofs.Except
import Mapwright.Proofs.History

/-!
# Declarations that come to the same

Of what is declared only so much has a bearing on a generator: the last struct
of a type, the last struct or enum of it, the module of the first thing said of
it, the last method of each name, and the last word on each unit.  Lists of
declarations that agree on these leave every generator alike, whatever it knew
before.

A list said twice agrees with the list, so no action does more when it is done
again.

    Agree ds es → g.declareAll ds = g.declareAll es      (`declareAll_congr`)
    (g.perform a).perform a = g.perform a                (`perform_perform`)
-/

namespace Mapwright

/-! ## Agreement -/

/-- Lists of declarations that agree on all that has a bearing on a generator. -/
structure Agree (ds es : List Declaration) : Prop where
  builds : ∀ type, (ds.findRev? (·.builds type)).map (·.constructor?) =
    (es.findRev? (·.builds type)).map (·.constructor?)
  places : ∀ type, (ds.findRev? (·.places type)).bind (·.module?) =
    (es.findRev? (·.places type)).bind (·.module?)
  begins : ∀ type, (ds.find? (·.concerns type)).bind (·.module?) =
    (es.find? (·.concerns type)).bind (·.module?)
  adds : ∀ type m, (ds.findRev? (·.adds type m)).map (·.method? m) =
    (es.findRev? (·.adds type m)).map (·.method? m)
  settles : ∀ name, (ds.findRev? (·.settles name)).map (fun d => (d.unit?, d.rejection?)) =
    (es.findRev? (·.settles name)).map (fun d => (d.unit?, d.rejection?))

namespace Agree

/-- Saying something again is of no effect. -/
theorem append_self (ds : List Declaration) : Agree (ds ++ ds) ds where
  builds := by
    intro type
    rw [findRev?_append, Option.or_self]
  places := by
    intro type
    rw [findRev?_append, Option.or_self]
  begins := by
    intro type
    rw [List.find?_append, Option.or_self]
  adds := by
    intro type m
    rw [findRev?_append, Option.or_self]
  settles := by
    intro name
    rw [findRev?_append, Option.or_self]

theorem isSome_begins {ds es : List Declaration} (h : Agree ds es) (type : String) :
    (ds.find? (·.concerns type)).isSome = (es.find? (·.concerns type)).isSome := by
  -- whatever concerns a type says in which module it stands
  have hmodule : ∀ l : List Declaration, (l.find? (·.concerns type)).isSome =
      ((l.find? (·.concerns type)).bind (·.module?)).isSome := by
    intro l
    cases hd : l.find? (·.concerns type) with
    | none => rfl
    | some d => exact (Declaration.isSome_module?_of_concerns (List.find?_some hd)).symm
  rw [hmodule, hmodule, h.begins]

end Agree

/-! ## Descriptors and generators, as they are seen -/

/-- Descriptors in which the same is seen are equal. -/
theorem TypeDescriptor.ext_views {o o' : Option TypeDescriptor}
    (hname : o.map (·.name) = o'.map (·.name)) (hmodule : o.map (·.module) = o'.map (·.module))
    (hconstructor : o.bind (·.constructor) = o'.bind (·.constructor))
    (hproperties : ∀ x, o.bind (·.property? x) = o'.bind (·.property? x))
    (hmethods : ∀ m, o.bind (·.method? m) = o'.bind (·.method? m)) : o = o' := by
  cases o with
  | none => cases o' with
    | none => rfl
    | some d' => cases hname
  | some d => cases o' with
    | none => cases hname
    | some d' =>
      obtain ⟨name, module, constructor, properties, methods⟩ := d
      obtain ⟨name', module', constructor', properties', methods'⟩ := d'
      have hproperties' : properties = properties' := NameMap.ext_find? hproperties
      have hmethods' : methods = methods' := NameMap.ext_find? hmethods
      have hconstructor' : constructor = constructor' := hconstructor
      cases hname
      cases hmodule
      rw [hconstructor', hproperties', hmethods']

theorem Registry.ext_describe? {r r' : Registry} (h : ∀ type, r.describe? type = r'.describe? type) :
    r = r' := by
  cases r
  cases r'
  rw [Registry.mk.injEq]
  exact NameMap.ext_find? h

namespace Generator

/-- Generators with the same settings that know the same types and hold the same are equal. -/
theorem ext_held {g g' : Generator} (hsettings : g.settings = g'.settings)
    (htypes : ∀ type, g.registry.describe? type = g'.registry.describe? type)
    (hheld : ∀ name, g.held name = g'.held name) : g = g' := by
  obtain ⟨settings, registry, units, rejected⟩ := g
  obtain ⟨settings', registry', units', rejected'⟩ := g'
  have hregistry : registry = registry' := Registry.ext_describe? htypes
  have hunits : units = units' := NameMap.ext_find? fun name => congrArg Prod.fst (hheld name)
  have hrejected : rejected = rejected' :=
    NameMap.ext_find? fun name => congrArg Prod.snd (hheld name)
  have hsettings' : settings = settings' := hsettings
  rw [hsettings', hregistry, hunits, hrejected]

/-! ## Agreement is enough -/

/-- A type keeps its name, and one that was not known gets it from what is first said of it. -/
theorem name_declareAll (g : Generator) (ds : List Declaration) (type : String) :
    ((g.declareAll ds).registry.describe? type).map (·.name) =
      ((g.registry.describe? type).map (·.name)).or
        ((ds.find? (·.concerns type)).map fun _ => type) := by
  have hentry : ∀ (g : Generator) module, some (g.registry.entry type module).name =
      ((g.registry.describe? type).map (·.name)).or (some type) := by
    intro g module
    unfold Registry.entry
    cases g.registry.describe? type <;> rfl
  induction ds generalizing g with
  | nil => exact (Option.or_none).symm
  | cons d ds ih =>
    refine (ih (g.declare d)).trans ?_
    rw [List.find?_cons]
    cases hc : d.concerns type with
    | false => rw [describe?_declare_of_not_concerns g type hc]
    | true =>
      have hd : ((g.declare d).registry.describe? type).map (·.name) =
          ((g.registry.describe? type).map (·.name)).or (some type) := by
        rcases Declaration.eq_of_concerns hc with ⟨_, _, rfl⟩ | ⟨_, rfl⟩ | ⟨_, _, rfl⟩
        · rw [describe?_declare_struct]
          exact hentry g _
        · rw [describe?_declare_enumeration]
          exact hentry g _
        · rw [describe?_declare_methods]
          exact hentry g _
      rw [hd, Option.or_assoc]
      rfl

/-- **Declarations that agree leave every generator alike.** -/
theorem declareAll_congr {ds es : List Declaration} (h : Agree ds es) (g : Generator) :
    g.declareAll ds = g.declareAll es := by
  refine ext_held ?_ (fun type => TypeDescriptor.ext_views ?_ ?_ ?_ ?_ ?_) ?_
  · rw [settings_declareAll, settings_declareAll]
  · have hbegins := h.isSome_begins type
    rw [name_declareAll, name_declareAll]
    cases hd : ds.find? (·.concerns type) <;> cases he : es.find? (·.concerns type) <;>
      simp [hd, he] at hbegins ⊢
  · rw [module_declareAll, module_declareAll, h.places, h.begins]
  · rw [constructor_declareAll, constructor_declareAll, h.builds]
  · intro x
    have hproperty : (ds.findRev? (·.builds type)).map
          (fun d => (propertiesOf (d.constructor?.getD [])).find? x) =
        (es.findRev? (·.builds type)).map
          (fun d => (propertiesOf (d.constructor?.getD [])).find? x) := by
      have hc := congrArg (Option.map fun c : Option (List Param) =>
        (propertiesOf (c.getD [])).find? x) (h.builds type)
      rw [Option.map_map, Option.map_map] at hc
      exact hc
    rw [property?_declareAll, property?_declareAll, hproperty]
  · intro m
    rw [method?_declareAll, method?_declareAll, h.adds]
  · intro name
    rw [held_declareAll, held_declareAll, h.settles]

/-! ## The same action again -/

theorem declareAll_declareAll (g : Generator) (ds : List Declaration) :
    (g.declareAll ds).declareAll ds = g.declareAll ds := by
  rw [← declareAll_append]
  exact declareAll_congr (Agree.append_self ds) g

/-- **An action that is done again changes nothing**, whether it succeeds or fails. -/
theorem perform_perform (g : Generator) (a : Action) : (g.perform a).perform a = g.perform a := by
  cases a with
  | setHeader text => rfl
  | setImplSuffix suffix => rfl
  | setDenyUnresolved deny => rfl
  | registerType d =>
    refine ext_held rfl (fun type => ?_) (fun _ => rfl)
    simp only [perform, registerType, Registry.register, Registry.describe?, NameMap.find?_insert]
    split <;> rfl
  | unregisterType name =>
    refine ext_held rfl (fun type => ?_) (fun _ => rfl)
    simp only [perform, unregisterType, Registry.unregister, Registry.describe?,
      NameMap.find?_erase]
    split <;> rfl
  | addUnit u => exact declareAll_declareAll g [.unit u]
  | addSource module text =>
    rw [perform_eq_declareAll _ rfl, perform_eq_declareAll _ rfl]
    exact declareAll_declareAll g _
  | addFile root path here =>
    rw [perform_eq_declareAll _ rfl, perform_eq_declareAll _ rfl]
    exact declareAll_declareAll g _
  | addDirectory root path here =>
    rw [perform_eq_declareAll _ rfl, perform_eq_declareAll _ rfl]
    exact declareAll_declareAll g _

/-- Whether a text can be read does not depend on what is known. -/
theorem error?_addSource (g g' : Generator) (module : ModuleId) (text : String) :
    error? (g.addSource module text) = error? (g'.addSource module text) := by
  unfold addSource
  cases Source.declarations? module text <;> rfl

/-- **Reading a source again changes nothing**, and goes as it went the first time. -/
theorem addSource_again (g : Generator) (module : ModuleId) (text : String) :
    (g.perform (.addSource module text)).perform (.addSource module text) =
        g.perform (.addSource module text) ∧
      error? ((g.perform (.addSource module text)).addSource module text) =
        error? (g.addSource module text) :=
  ⟨perform_perform g (.addSource module text), error?_addSource _ g module text⟩

end Generator

end Mapwright
