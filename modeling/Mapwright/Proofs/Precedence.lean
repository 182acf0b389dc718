import Mathlib.Data.List.Nodup
import Mathlib.Data.List.Perm.Basic
import Mapwright.Proofs.Agreement
import Mapwright.Proofs.Resolution
import Mapwright.Students

/-!
# Precedence and locality of bindings

A field is looked up in five tables, each of which says what it binds a name to:
the parameters of the function, the other functions of the unit, the methods of
the base, the accessors of the source and its properties.  The first table that
has the name gives the binding.

It follows that no order counts but that of the tables, and that a new member of
a table has a bearing on the fields of its own name only.

    resolve … name = b ↔ b is what the first table with the name says     (`resolve_eq_iff_firstIn`)
    tables that have the same of a name bind it alike                     (`resolve_eq_of_tables`)
    members can be added in any order                                     (`addAll_of_perm_members`)
    a new member changes only the fields of its name                      (`changesOnly_of_tables`)
    all of these together                                                 (`resolve_first_table`)
-/

namespace Mapwright

/-! ## Tables -/

/-- What a table binds names to. -/
abbrev Table := String → Binding → Prop

/-- Whether a table has a name. -/
def Table.Has (t : Table) (name : String) : Prop := ∃ b, t name b

/-- The binding of a name by the first of some tables that has it. -/
def FirstIn : List Table → String → Binding → Prop
  | [], _, b => b = .unresolved
  | t :: ts, name, b => t name b ∨ (¬t.Has name ∧ FirstIn ts name b)

/-- Tables that bind a name to one thing at most bind it to one thing together. -/
theorem FirstIn.unique {name : String} {b b' : Binding} :
    ∀ {ts : List Table}, (∀ t ∈ ts, ∀ b b', t name b → t name b' → b = b') →
      FirstIn ts name b → FirstIn ts name b' → b = b'
  | [], _, h, h' => h.trans h'.symm
  | t :: ts, hone, h, h' => by
    rcases h with h | ⟨hno, h⟩
    · rcases h' with h' | ⟨hno', -⟩
      · exact hone t List.mem_cons_self b b' h h'
      · exact absurd ⟨b, h⟩ hno'
    · rcases h' with h' | ⟨-, h'⟩
      · exact absurd ⟨b', h'⟩ hno
      · exact FirstIn.unique (fun t ht => hone t (List.mem_cons_of_mem _ ht)) h h'

/-- A name that no table has is unresolved. -/
theorem firstIn_unresolved_iff {name : String} :
    ∀ {ts : List Table}, (∀ t ∈ ts, ¬t name .unresolved) →
      (FirstIn ts name .unresolved ↔ ∀ t ∈ ts, ¬t.Has name)
  | [], _ => iff_of_true rfl fun _ ht => absurd ht List.not_mem_nil
  | t :: ts, hresolved => by
    have ih := firstIn_unresolved_iff fun t ht => hresolved t (List.mem_cons_of_mem _ ht)
    have hhead : ¬t name .unresolved := hresolved t List.mem_cons_self
    rw [FirstIn, ih, List.forall_mem_cons, or_iff_right hhead]

section

variable (unit : MappingUnit) (base : Option TypeDescriptor) (current : MappingFunction)
  (source : TypeDescriptor)

/-- The parameters of a function, its source among them. -/
def parameterTable : Table := fun name b =>
  name ∈ current.params.map (·.name) ∧ b = .parameter name

/-- The functions of a unit that have a receiver, but for the one of the same name as `current`.  Of
several functions of a name the first one counts. -/
def functionTable : Table := fun name b =>
  name ≠ current.name ∧ ∃ before f after, unit.functions = before ++ f :: after ∧ f.name = name ∧
    f.receiver.isSome = true ∧ (∀ g ∈ before, g.name = name → g.receiver = none) ∧
    b = .sibling name (firstPassing f.params)

/-- The methods of the base. -/
def baseTable : Table := fun name b =>
  ∃ d sig, base = some d ∧ (name, sig) ∈ d.methods.entries ∧
    b = .sibling name (firstPassing sig.params)

/-- The methods of the source that have no parameters and return something. -/
def accessorTable : Table := fun name b =>
  ∃ t, (name, ⟨[], some t⟩) ∈ source.methods.entries ∧ b = .accessor name

/-- The properties of the source. -/
def propertyTable : Table := fun name b =>
  ∃ t, (name, t) ∈ source.properties.entries ∧ b = .property name

/-- The tables that a field is looked up in, in their order. -/
def tables : List Table :=
  [parameterTable current, functionTable unit current, baseTable base, accessorTable source,
    propertyTable source]

/-! ## What the tables have -/

/-- The function of the unit that can be called by a name is the first one with a receiver. -/
theorem sibling?_eq_some_iff (name : String) (f : MappingFunction) :
    unit.sibling? current name = some f ↔
      name ≠ current.name ∧ ∃ before after, unit.functions = before ++ f :: after ∧ f.name = name ∧
        f.receiver.isSome = true ∧ ∀ g ∈ before, g.name = name → g.receiver = none := by
  rw [MappingUnit.sibling?, List.find?_eq_some_iff_append]
  constructor
  · rintro ⟨hf, before, after, hfunctions, hbefore⟩
    simp only [Bool.and_eq_true, beq_iff_eq, bne_iff_ne] at hf
    obtain ⟨⟨hname, hcurrent⟩, hreceiver⟩ := hf
    refine ⟨hname ▸ hcurrent, before, after, hfunctions, hname, hreceiver, fun g hg hgname => ?_⟩
    have hmiss := hbefore g hg
    rw [hname] at hcurrent
    simpa [hgname, hcurrent] using hmiss
  · rintro ⟨hcurrent, before, after, hfunctions, hname, hreceiver, hbefore⟩
    refine ⟨by simp [hname, hcurrent, hreceiver], before, after, hfunctions, fun g hg => ?_⟩
    by_cases hgname : g.name = name
    · simp [hbefore g hg hgname]
    · simp [hgname]

theorem functionTable_iff (name : String) (b : Binding) :
    functionTable unit current name b ↔
      ∃ f, unit.sibling? current name = some f ∧ b = .sibling name (firstPassing f.params) := by
  simp only [functionTable, sibling?_eq_some_iff]
  constructor
  · rintro ⟨hcurrent, before, f, after, hfunctions, hname, hreceiver, hbefore, hb⟩
    exact ⟨f, ⟨hcurrent, before, after, hfunctions, hname, hreceiver, hbefore⟩, hb⟩
  · rintro ⟨f, ⟨hcurrent, before, after, hfunctions, hname, hreceiver, hbefore⟩, hb⟩
    exact ⟨hcurrent, before, f, after, hfunctions, hname, hreceiver, hbefore, hb⟩

theorem baseTable_iff (name : String) (b : Binding) :
    baseTable base name b ↔ ∃ pass,
      (base.bind (·.method? name)).map (fun sig => firstPassing sig.params) = some pass ∧
        b = .sibling name pass := by
  simp only [baseTable, NameMap.mem_entries_iff, Option.map_eq_some_iff, Option.bind_eq_some_iff]
  constructor
  · rintro ⟨d, sig, hd, hsig, hb⟩
    exact ⟨_, ⟨sig, ⟨d, hd, hsig⟩, rfl⟩, hb⟩
  · rintro ⟨_, ⟨sig, ⟨d, hd, hsig⟩, rfl⟩, hb⟩
    exact ⟨d, sig, hd, hsig, hb⟩

theorem accessorTable_iff (name : String) (b : Binding) :
    accessorTable source name b ↔ (source.accessor? name).isSome = true ∧ b = .accessor name := by
  simp only [accessorTable, NameMap.mem_entries_iff]
  constructor
  · rintro ⟨t, ht, hb⟩
    have haccessor : source.accessor? name = some t := by
      rw [TypeDescriptor.accessor?, TypeDescriptor.method?, ht]
    exact ⟨by rw [haccessor]; rfl, hb⟩
  · rintro ⟨haccessor, hb⟩
    obtain ⟨t, ht⟩ := Option.isSome_iff_exists.1 haccessor
    rw [TypeDescriptor.accessor?] at ht
    split at ht
    · next returns hmethod => exact ⟨t, ht ▸ hmethod, hb⟩
    · cases ht

theorem propertyTable_iff (name : String) (b : Binding) :
    propertyTable source name b ↔ (source.property? name).isSome = true ∧ b = .property name := by
  simp only [propertyTable, NameMap.mem_entries_iff]
  constructor
  · rintro ⟨t, ht, hb⟩
    exact ⟨Option.isSome_iff_exists.2 ⟨t, ht⟩, hb⟩
  · rintro ⟨hproperty, hb⟩
    obtain ⟨t, ht⟩ := Option.isSome_iff_exists.1 hproperty
    exact ⟨t, ht, hb⟩

/-- A table binds a name to one thing at most, which is its origin. -/
theorem unique_of_mem_tables {t : Table} (ht : t ∈ tables unit base current source) (name : String) :
    (∀ b b', t name b → t name b' → b = b') ∧ ¬t name .unresolved := by
  simp only [tables, List.mem_cons, List.not_mem_nil, or_false] at ht
  rcases ht with rfl | rfl | rfl | rfl | rfl
  · exact ⟨fun b b' hb hb' => hb.2.trans hb'.2.symm, fun h => by cases h.2⟩
  · simp only [functionTable_iff]
    constructor
    · rintro _ _ ⟨f, hf, rfl⟩ ⟨f', hf', rfl⟩
      cases hf.symm.trans hf'
      rfl
    · rintro ⟨f, -, h⟩
      cases h
  · simp only [baseTable_iff]
    constructor
    · rintro _ _ ⟨pass, hpass, rfl⟩ ⟨pass', hpass', rfl⟩
      rw [Option.some.inj (hpass.symm.trans hpass')]
    · rintro ⟨pass, -, h⟩
      cases h
  · simp only [accessorTable_iff]
    exact ⟨fun b b' hb hb' => hb.2.trans hb'.2.symm, fun h => by cases h.2⟩
  · simp only [propertyTable_iff]
    exact ⟨fun b b' hb hb' => hb.2.trans hb'.2.symm, fun h => by cases h.2⟩

/-! ## The first table -/

/-- The functions of the unit come before the methods of the base. -/
theorem firstIn_siblings {name : String} {b : Binding} {ts : List Table} :
    FirstIn (functionTable unit current :: baseTable base :: ts) name b ↔
      match siblingPassing unit base current name with
      | some pass => b = .sibling name pass
      | none => FirstIn ts name b := by
  simp only [FirstIn, Table.Has, functionTable_iff, baseTable_iff, siblingPassing]
  cases hf : unit.sibling? current name with
  | some f => simp
  | none => cases hm : base.bind (·.method? name) <;> simp

/-- **The first table with the name of a field gives its binding.** -/
theorem resolve_eq_iff_firstIn (name : String) (b : Binding) :
    Binding.resolve unit base current source name = b ↔
      FirstIn (tables unit base current source) name b := by
  have hfirst : FirstIn (tables unit base current source) name
      (Binding.resolve unit base current source name) := by
    rw [tables, FirstIn, firstIn_siblings]
    simp only [FirstIn, Table.Has, parameterTable, accessorTable_iff, propertyTable_iff]
    rcases Binding.resolve_cases unit base current source name with
      ⟨hp, hr⟩ | ⟨hp, ⟨pass, hs, hr⟩ | ⟨hs, ⟨ha, hr⟩ | ⟨ha, ⟨hx, hr⟩ | ⟨hx, hr⟩⟩⟩⟩
    · exact Or.inl ⟨hp, hr⟩
    · simp [hp, hs, hr]
    · simp [hp, hs, ha, hr]
    · simp [hp, hs, ha, hx, hr]
    · simp [hp, hs, ha, hx, hr]
  constructor
  · rintro rfl
    exact hfirst
  · exact FirstIn.unique (fun t ht => (unique_of_mem_tables unit base current source ht name).1) hfirst

/-- A field is unresolved exactly if no table has its name. -/
theorem resolve_eq_unresolved_iff (name : String) :
    Binding.resolve unit base current source name = .unresolved ↔
      ∀ t ∈ tables unit base current source, ¬t.Has name := by
  rw [resolve_eq_iff_firstIn]
  exact firstIn_unresolved_iff fun t ht =>
    (unique_of_mem_tables unit base current source ht name).2

end

/-! ## Locality -/

/-- Tables that have the same of a name. -/
def SameAt (name : String) (t t' : Table) : Prop := ∀ b, t name b ↔ t' name b

theorem SameAt.refl (name : String) (t : Table) : SameAt name t t := fun _ => Iff.rfl

theorem FirstIn.congr {name : String} {ts ts' : List Table}
    (h : List.Forall₂ (SameAt name) ts ts') (b : Binding) : FirstIn ts name b ↔ FirstIn ts' name b := by
  induction h with
  | nil => exact Iff.rfl
  | @cons t t' ts ts' ht _ ih =>
    have hhas : t.Has name ↔ t'.Has name := exists_congr ht
    rw [FirstIn, FirstIn, ht b, hhas, ih]

/-- How bindings change when only the name `x` is added to what they are looked up in: a field of
another name keeps its binding, and none becomes unresolved. -/
structure ChangesOnly (x : String) (before after : String → Binding) : Prop where
  same : ∀ name, name ≠ x → after name = before name
  resolved : ∀ name, before name ≠ .unresolved → after name ≠ .unresolved

section

variable {unit unit' : MappingUnit} {base base' : Option TypeDescriptor}
  {current current' : MappingFunction} {source source' : TypeDescriptor}

/-- Tables that have the same of a name bind it alike. -/
theorem resolve_eq_of_tables {name : String}
    (h : List.Forall₂ (SameAt name) (tables unit' base' current' source')
      (tables unit base current source)) :
    Binding.resolve unit' base' current' source' name =
      Binding.resolve unit base current source name := by
  rw [resolve_eq_iff_firstIn, FirstIn.congr h]
  exact (resolve_eq_iff_firstIn ..).1 rfl

/-- Tables that differ in one name, which none of them loses, change the bindings of that name. -/
theorem changesOnly_of_tables {x : String}
    (hother : ∀ name, name ≠ x → List.Forall₂ (SameAt name) (tables unit' base' current' source')
      (tables unit base current source))
    (hx : List.Forall₂ (fun t t' => Table.Has t x → Table.Has t' x) (tables unit base current source)
      (tables unit' base' current' source')) :
    ChangesOnly x (Binding.resolve unit base current source)
      (Binding.resolve unit' base' current' source') where
  same := fun name hname => resolve_eq_of_tables (hother name hname)
  resolved := by
    intro name hresolved hunresolved
    by_cases hname : name = x
    · subst hname
      rw [resolve_eq_unresolved_iff] at hunresolved
      refine hresolved ((resolve_eq_unresolved_iff ..).2 fun t ht hhas => ?_)
      obtain ⟨t', ht', hgrows⟩ := exists_of_forall₂_right hx.flip t ht
      exact hunresolved t' ht' (hgrows hhas)
    · rw [resolve_eq_of_tables (hother name hname)] at hunresolved
      exact hresolved hunresolved

end

/-! ## New members -/

namespace TypeDescriptor

variable (d : TypeDescriptor)

@[simp] theorem property?_withProperty (p : Param) (x : String) :
    (d.withProperty p).property? x = if p.name = x then some p.type else d.property? x :=
  NameMap.find?_insert ..

@[simp] theorem method?_withProperty (p : Param) (m : String) :
    (d.withProperty p).method? m = d.method? m := rfl

@[simp] theorem property?_withMethod (m : String) (sig : MethodSig) (x : String) :
    (d.withMethod m sig).property? x = d.property? x := rfl

@[simp] theorem method?_withMethod (m : String) (sig : MethodSig) (name : String) :
    (d.withMethod m sig).method? name = if m = name then some sig else d.method? name :=
  NameMap.find?_insert ..

@[simp] theorem accessor?_withProperty (p : Param) (m : String) :
    (d.withProperty p).accessor? m = d.accessor? m := rfl

end TypeDescriptor

/-- A unit with one more function, which may stand anywhere. -/
def MappingUnit.Gains (unit : MappingUnit) (g : MappingFunction) (unit' : MappingUnit) : Prop :=
  ∃ before after, unit.functions = before ++ after ∧ unit'.functions = before ++ g :: after

section

variable (unit : MappingUnit) (base : Option TypeDescriptor) (current : MappingFunction)
  (source : TypeDescriptor)

theorem changesOnly_withProperty (p : Param) :
    ChangesOnly p.name (Binding.resolve unit base current source)
      (Binding.resolve unit base current (source.withProperty p)) := by
  refine changesOnly_of_tables (fun name hname => ?_) ?_
  · have hproperty : SameAt name (propertyTable (source.withProperty p)) (propertyTable source) := by
      intro b
      rw [propertyTable_iff, propertyTable_iff, TypeDescriptor.property?_withProperty,
        if_neg (Ne.symm hname)]
    have haccessor : SameAt name (accessorTable (source.withProperty p)) (accessorTable source) := by
      intro b
      rw [accessorTable_iff, accessorTable_iff, TypeDescriptor.accessor?_withProperty]
    exact .cons (.refl _ _) (.cons (.refl _ _) (.cons (.refl _ _)
      (.cons haccessor (.cons hproperty .nil))))
  · have haccessor : (accessorTable source).Has p.name →
        (accessorTable (source.withProperty p)).Has p.name := id
    have hproperty : (propertyTable source).Has p.name →
        (propertyTable (source.withProperty p)).Has p.name := by
      intro _
      exact ⟨_, (propertyTable_iff ..).2 ⟨by simp, rfl⟩⟩
    exact .cons id (.cons id (.cons id (.cons haccessor (.cons hproperty .nil))))

theorem changesOnly_withMethod {m : String} (sig : MethodSig) (hnew : source.method? m = none) :
    ChangesOnly m (Binding.resolve unit base current source)
      (Binding.resolve unit base current (source.withMethod m sig)) := by
  refine changesOnly_of_tables (fun name hname => ?_) ?_
  · have haccessor : SameAt name (accessorTable (source.withMethod m sig)) (accessorTable source) := by
      intro b
      rw [accessorTable_iff, accessorTable_iff, TypeDescriptor.accessor?, TypeDescriptor.accessor?,
        TypeDescriptor.method?_withMethod, if_neg (Ne.symm hname)]
    exact .cons (.refl _ _) (.cons (.refl _ _) (.cons (.refl _ _)
      (.cons haccessor (.cons (.refl _ _) .nil))))
  · have haccessor : (accessorTable source).Has m → (accessorTable (source.withMethod m sig)).Has m := by
      rintro ⟨b, hb⟩
      have hsome := ((accessorTable_iff ..).1 hb).1
      simp [TypeDescriptor.accessor?, hnew] at hsome
    exact .cons id (.cons id (.cons id (.cons haccessor (.cons id .nil))))

theorem changesOnly_withBaseMethod (d : TypeDescriptor) (m : String) (sig : MethodSig) :
    ChangesOnly m (Binding.resolve unit (some d) current source)
      (Binding.resolve unit (some (d.withMethod m sig)) current source) := by
  refine changesOnly_of_tables (fun name hname => ?_) ?_
  · have hbase : SameAt name (baseTable (some (d.withMethod m sig))) (baseTable (some d)) := by
      intro b
      simp [baseTable_iff, Ne.symm hname]
    exact .cons (.refl _ _) (.cons (.refl _ _) (.cons hbase
      (.cons (.refl _ _) (.cons (.refl _ _) .nil))))
  · have hbase : (baseTable (some d)).Has m → (baseTable (some (d.withMethod m sig))).Has m := by
      intro _
      exact ⟨_, (baseTable_iff ..).2 ⟨firstPassing sig.params, by simp, rfl⟩⟩
    exact .cons id (.cons id (.cons hbase (.cons id (.cons id .nil))))

theorem changesOnly_gains {g : MappingFunction} {unit' : MappingUnit} (h : unit.Gains g unit') :
    ChangesOnly g.name (Binding.resolve unit base current source)
      (Binding.resolve unit' base current source) := by
  obtain ⟨before, after, hunit, hunit'⟩ := h
  refine changesOnly_of_tables (fun name hname => ?_) ?_
  · have hfunction : SameAt name (functionTable unit' current) (functionTable unit current) := by
      have hsame : unit'.sibling? current name = unit.sibling? current name := by
        have hg : (g.name == name) = false := beq_false_of_ne (Ne.symm hname)
        simp only [MappingUnit.sibling?, hunit, hunit', List.find?_append, List.find?_cons, hg,
          Bool.false_and]
      intro b
      rw [functionTable_iff, functionTable_iff, hsame]
    exact .cons (.refl _ _) (.cons hfunction (.cons (.refl _ _)
      (.cons (.refl _ _) (.cons (.refl _ _) .nil))))
  · have hfunction : (functionTable unit current).Has g.name →
        (functionTable unit' current).Has g.name := by
      rintro ⟨b, hb⟩
      obtain ⟨f, hf, -⟩ := (functionTable_iff ..).1 hb
      have hsome : (unit'.sibling? current g.name).isSome = true := by
        rw [MappingUnit.sibling?] at hf ⊢
        rw [List.find?_isSome]
        have hmem : f ∈ unit.functions := List.mem_of_find?_eq_some hf
        have hcallable := List.find?_some hf
        refine ⟨f, ?_, hcallable⟩
        rw [hunit] at hmem
        rw [hunit']
        exact (List.perm_middle.mem_iff).2 (List.mem_cons_of_mem g hmem)
      obtain ⟨f', hf'⟩ := Option.isSome_iff_exists.1 hsome
      exact ⟨_, (functionTable_iff ..).2 ⟨f', hf', rfl⟩⟩
    exact .cons id (.cons hfunction (.cons id (.cons id (.cons id .nil))))

end

/-! ## Members in another order -/

/-- A member of a type. -/
inductive Member
  | property (p : Param)
  | method (name : String) (sig : MethodSig)
deriving DecidableEq

namespace Member

/-- The place of a member: whether it is a method, and its name.  Of the members that are added in
one place the last one stays. -/
def place : Member → Bool × String
  | .property p => (false, p.name)
  | .method name _ => (true, name)

def type? : Member → Option TypeRef
  | .property p => some p.type
  | .method _ _ => none

def sig? : Member → Option MethodSig
  | .property _ => none
  | .method _ sig => some sig

end Member

/-- The last of some members in a place. -/
def lastAt (place : Bool × String) (ms : List Member) : Option Member :=
  ms.findRev? (·.place == place)

/-- Of members in different places, each is the last one in its own. -/
theorem lastAt_eq_some_iff {ms : List Member} (hone : ∀ a ∈ ms, ∀ b ∈ ms, a.place = b.place → a = b)
    (place : Bool × String) (m : Member) :
    lastAt place ms = some m ↔ m ∈ ms ∧ m.place = place := by
  constructor
  · intro h
    have hplace := prop_of_findRev? h
    exact ⟨mem_of_findRev? h, eq_of_beq hplace⟩
  · rintro ⟨hm, rfl⟩
    cases hlast : lastAt m.place ms with
    | none =>
      have hmiss := findRev?_eq_none_iff.1 hlast m hm
      simp at hmiss
    | some m' =>
      have hplace := prop_of_findRev? hlast
      rw [hone m' (mem_of_findRev? hlast) m hm (eq_of_beq hplace)]

namespace TypeDescriptor

/-- Adds a member, in exchange for one in its place. -/
def add (d : TypeDescriptor) : Member → TypeDescriptor
  | .property p => d.withProperty p
  | .method name sig => d.withMethod name sig

/-- Adds members, one after the other. -/
def addAll (d : TypeDescriptor) (ms : List Member) : TypeDescriptor := ms.foldl add d

/-- The properties and methods of a type. -/
def members (d : TypeDescriptor) : List Member :=
  d.properties.entries.map (fun e => .property ⟨e.1, e.2⟩) ++
    d.methods.entries.map fun e => .method e.1 e.2

/-- A type without its properties and methods. -/
def withoutMembers (d : TypeDescriptor) : TypeDescriptor :=
  { d with properties := .empty, methods := .empty }

theorem property?_addAll (d : TypeDescriptor) (ms : List Member) (x : String) :
    (d.addAll ms).property? x = ((lastAt (false, x) ms).map (·.type?)).getD (d.property? x) := by
  refine view_foldl (·.property? x) add (·.place == (false, x)) (·.type?) ?_ ?_ d ms
  · intro d m hm
    cases m with
    | property p =>
      have hp : p.name = x := congrArg Prod.snd (eq_of_beq hm)
      simp [add, hp, Member.type?]
    | method name sig => cases congrArg Prod.fst (eq_of_beq hm)
  · intro d m hm
    cases m with
    | property p =>
      have hp : p.name ≠ x := fun hp => ne_of_beq_false hm (congrArg (Prod.mk false) hp)
      simp [add, hp]
    | method name sig => rfl

theorem method?_addAll (d : TypeDescriptor) (ms : List Member) (name : String) :
    (d.addAll ms).method? name = ((lastAt (true, name) ms).map (·.sig?)).getD (d.method? name) := by
  refine view_foldl (·.method? name) add (·.place == (true, name)) (·.sig?) ?_ ?_ d ms
  · intro d m hm
    cases m with
    | property p => cases congrArg Prod.fst (eq_of_beq hm)
    | method n sig =>
      have hn : n = name := congrArg Prod.snd (eq_of_beq hm)
      simp [add, hn, Member.sig?]
  · intro d m hm
    cases m with
    | property p => rfl
    | method n sig =>
      have hn : n ≠ name := fun hn => ne_of_beq_false hm (congrArg (Prod.mk true) hn)
      simp [add, hn]

/-- Members have no bearing on the rest of a type. -/
theorem rest_addAll (d : TypeDescriptor) (ms : List Member) :
    (d.addAll ms).name = d.name ∧ (d.addAll ms).module = d.module ∧
      (d.addAll ms).constructor = d.constructor := by
  induction ms generalizing d with
  | nil => exact ⟨rfl, rfl, rfl⟩
  | cons m ms ih =>
    obtain ⟨hname, hmodule, hconstructor⟩ := ih (d.add m)
    cases m <;> exact ⟨hname, hmodule, hconstructor⟩

/-- Members of which the same are the last ones in each place make the same type. -/
theorem addAll_congr (d : TypeDescriptor) {ms ms' : List Member}
    (h : ∀ place, lastAt place ms = lastAt place ms') : d.addAll ms = d.addAll ms' := by
  obtain ⟨hname, hmodule, hconstructor⟩ := d.rest_addAll ms
  obtain ⟨hname', hmodule', hconstructor'⟩ := d.rest_addAll ms'
  refine Option.some.inj (@ext_views (some _) (some _) ?_ ?_ ?_ ?_ ?_)
  · simp [hname, hname']
  · simp [hmodule, hmodule']
  · simp [hconstructor, hconstructor']
  · intro x
    simp only [Option.bind_some, property?_addAll, h]
  · intro m
    simp only [Option.bind_some, method?_addAll, h]

theorem property_mem_members (d : TypeDescriptor) (p : Param) :
    Member.property p ∈ d.members ↔ d.property? p.name = some p.type := by
  simp only [members, List.mem_append, List.mem_map, Prod.exists, NameMap.mem_entries_iff]
  constructor
  · rintro (⟨x, t, ht, h⟩ | ⟨m, sig, -, h⟩)
    · cases h
      exact ht
    · cases h
  · exact fun h => Or.inl ⟨p.name, p.type, h, rfl⟩

theorem method_mem_members (d : TypeDescriptor) (name : String) (sig : MethodSig) :
    Member.method name sig ∈ d.members ↔ d.method? name = some sig := by
  simp only [members, List.mem_append, List.mem_map, Prod.exists, NameMap.mem_entries_iff]
  constructor
  · rintro (⟨x, t, -, h⟩ | ⟨m, sig', hsig, h⟩)
    · cases h
    · cases h
      exact hsig
  · exact fun h => Or.inr ⟨name, sig, h, rfl⟩

/-- The members of a type are in different places. -/
theorem eq_of_place_eq (d : TypeDescriptor) :
    ∀ a ∈ d.members, ∀ b ∈ d.members, a.place = b.place → a = b := by
  intro a ha b hb hplace
  cases a with
  | property p =>
    cases b with
    | property q =>
      have hname : p.name = q.name := congrArg Prod.snd hplace
      rw [property_mem_members, hname, (d.property_mem_members q).1 hb] at ha
      obtain ⟨x, t⟩ := p
      cases hname
      cases ha
      rfl
    | method n sig => cases congrArg Prod.fst hplace
  | method m sig =>
    cases b with
    | property q => cases congrArg Prod.fst hplace
    | method n sig' =>
      obtain rfl : m = n := congrArg Prod.snd hplace
      rw [method_mem_members, (d.method_mem_members m sig').1 hb] at ha
      cases ha
      rfl

section

variable (d : TypeDescriptor) {ms : List Member} (h : ms.Perm d.members)

include h

theorem lastAt_perm_members (place : Bool × String) (m : Member) :
    lastAt place ms = some m ↔ m ∈ d.members ∧ m.place = place := by
  have hone : ∀ a ∈ ms, ∀ b ∈ ms, a.place = b.place → a = b := fun a ha b hb =>
    d.eq_of_place_eq a (h.mem_iff.1 ha) b (h.mem_iff.1 hb)
  rw [lastAt_eq_some_iff hone, h.mem_iff]

theorem lastAt_property (x : String) :
    lastAt (false, x) ms = (d.property? x).map fun t => .property ⟨x, t⟩ := by
  refine Option.ext fun m => ?_
  rw [lastAt_perm_members d h, Option.map_eq_some_iff]
  constructor
  · rintro ⟨hm, hplace⟩
    cases m with
    | property p =>
      obtain rfl : p.name = x := congrArg Prod.snd hplace
      exact ⟨p.type, (d.property_mem_members p).1 hm, rfl⟩
    | method name sig => cases congrArg Prod.fst hplace
  · rintro ⟨t, ht, rfl⟩
    exact ⟨(d.property_mem_members ⟨x, t⟩).2 ht, rfl⟩

theorem lastAt_method (name : String) :
    lastAt (true, name) ms = (d.method? name).map (.method name) := by
  refine Option.ext fun m => ?_
  rw [lastAt_perm_members d h, Option.map_eq_some_iff]
  constructor
  · rintro ⟨hm, hplace⟩
    cases m with
    | property p => cases congrArg Prod.fst hplace
    | method n sig =>
      obtain rfl : n = name := congrArg Prod.snd hplace
      exact ⟨sig, (d.method_mem_members n sig).1 hm, rfl⟩
  · rintro ⟨sig, hsig, rfl⟩
    exact ⟨(d.method_mem_members name sig).2 hsig, rfl⟩

/-- **A type is made by its members in any order.** -/
theorem addAll_of_perm_members : d.withoutMembers.addAll ms = d := by
  obtain ⟨hname, hmodule, hconstructor⟩ := d.withoutMembers.rest_addAll ms
  refine Option.some.inj (@ext_views (some _) (some _) ?_ ?_ ?_ ?_ ?_)
  · exact congrArg some hname
  · exact congrArg some hmodule
  · exact hconstructor
  · intro x
    rw [Option.bind_some, Option.bind_some, property?_addAll, lastAt_property d h]
    cases d.property? x <;> rfl
  · intro name
    rw [Option.bind_some, Option.bind_some, method?_addAll, lastAt_method d h]
    cases d.method? name <;> rfl

end

end TypeDescriptor

/-! ## Functions and parameters in another order -/

/-- Whether parameters are the same, but for the order of those after the first one. -/
structure SameFirst (ps qs : List Param) : Prop where
  head : ps.head? = qs.head?
  tail : ps.tail.Perm qs.tail

theorem SameFirst.firstPassing {ps qs : List Param} (h : SameFirst ps qs) :
    Mapwright.firstPassing ps = Mapwright.firstPassing qs := by
  rw [Mapwright.firstPassing, Mapwright.firstPassing, h.head]

theorem SameFirst.perm {ps qs : List Param} (h : SameFirst ps qs) : ps.Perm qs := by
  obtain ⟨hhead, htail⟩ := h
  cases ps with
  | nil =>
    cases qs with
    | nil => exact .nil
    | cons q qs => cases hhead
  | cons p ps =>
    cases qs with
    | nil => cases hhead
    | cons q qs =>
      cases hhead
      exact htail.cons p

/-- Whether functions are the same, but for the order of the parameters after the first one. -/
structure MappingFunction.SameButOrder (f f' : MappingFunction) : Prop where
  rest : f' = { f with params := f'.params }
  params : SameFirst f.params f'.params

/-- Whether units have the same functions, but for their order and that of the parameters after their
first ones. -/
def MappingUnit.SameButOrder (unit unit' : MappingUnit) : Prop :=
  ∃ fs, unit.functions.Perm fs ∧ List.Forall₂ MappingFunction.SameButOrder fs unit'.functions

/-- Whether types have the same methods, but for the order of the parameters after the first one. -/
def TypeDescriptor.SameMethods (d d' : TypeDescriptor) : Prop :=
  ∀ m, Option.Rel (fun sig sig' => sig.returns = sig'.returns ∧ SameFirst sig.params sig'.params)
    (d.method? m) (d'.method? m)

section

variable {unit unit' : MappingUnit} {base base' : Option TypeDescriptor}
  {current current' : MappingFunction}

theorem MappingFunction.SameButOrder.fields {f f' : MappingFunction} (h : f.SameButOrder f') :
    f'.name = f.name ∧ f'.receiver = f.receiver ∧
      firstPassing f'.params = firstPassing f.params := by
  have hname : f'.name = f.name := by rw [h.rest]
  have hreceiver : f'.receiver = f.receiver := by rw [h.rest]
  exact ⟨hname, hreceiver, h.params.firstPassing.symm⟩

/-- In a unit whose functions have different names, a sibling is any function of that name. -/
theorem functionTable_iff_mem (hnodup : (unit.functions.map (·.name)).Nodup) (name : String)
    (b : Binding) :
    functionTable unit current name b ↔ name ≠ current.name ∧ ∃ f ∈ unit.functions, f.name = name ∧
      f.receiver.isSome = true ∧ b = .sibling name (firstPassing f.params) := by
  refine and_congr_right fun _ => ⟨?_, ?_⟩
  · rintro ⟨before, f, after, hfunctions, hname, hreceiver, -, hb⟩
    exact ⟨f, by rw [hfunctions]; simp, hname, hreceiver, hb⟩
  · rintro ⟨f, hf, hname, hreceiver, hb⟩
    obtain ⟨before, after, hfunctions⟩ := List.append_of_mem hf
    refine ⟨before, f, after, hfunctions, hname, hreceiver, fun g hg hgname => ?_, hb⟩
    -- a function before it cannot have its name
    rw [hfunctions, List.map_append, List.map_cons, List.nodup_append] at hnodup
    have hne := hnodup.2.2 g.name (List.mem_map_of_mem hg) f.name List.mem_cons_self
    exact absurd (hgname.trans hname.symm) hne

/-- The siblings of a function of the unit are the other functions. -/
theorem functionTable_iff_ne (hnodup : (unit.functions.map (·.name)).Nodup)
    (hcurrent : current ∈ unit.functions) (name : String) (b : Binding) :
    functionTable unit current name b ↔ ∃ f ∈ unit.functions, f ≠ current ∧ f.name = name ∧
      f.receiver.isSome = true ∧ b = .sibling name (firstPassing f.params) := by
  rw [functionTable_iff_mem hnodup]
  constructor
  · rintro ⟨hne, f, hf, hname, hreceiver, hb⟩
    refine ⟨f, hf, ?_, hname, hreceiver, hb⟩
    rintro rfl
    exact hne hname.symm
  · rintro ⟨f, hf, hne, hname, hreceiver, hb⟩
    refine ⟨?_, f, hf, hname, hreceiver, hb⟩
    rintro rfl
    exact hne (List.inj_on_of_nodup_map hnodup hf hcurrent hname)

theorem map_eq_of_rel {α β γ : Type} {r : α → β → Prop} {f : α → γ} {g : β → γ}
    (h : ∀ a b, r a b → f a = g b) {o : Option α} {o' : Option β} (hr : Option.Rel r o o') :
    o.map f = o'.map g := by
  cases hr with
  | none => rfl
  | some hab => exact congrArg some (h _ _ hab)

/-- **The order of functions, and of parameters after the first one, is of no consequence.** -/
theorem resolve_sameButOrder (source : TypeDescriptor)
    (hnodup : (unit.functions.map (·.name)).Nodup) (hunit : unit.SameButOrder unit')
    (hbase : Option.Rel TypeDescriptor.SameMethods base base')
    (hcurrent : current.SameButOrder current') (name : String) :
    Binding.resolve unit' base' current' source name =
      Binding.resolve unit base current source name := by
  obtain ⟨fs, hperm, hfs⟩ := hunit
  have hnames : fs.map (·.name) = unit'.functions.map (·.name) := by
    have heq : List.Forall₂ (· = ·) (fs.map (·.name)) (unit'.functions.map (·.name)) := by
      rw [List.forall₂_map_left_iff, List.forall₂_map_right_iff]
      exact hfs.imp fun f f' h => h.fields.1.symm
    exact List.forall₂_eq_eq_eq ▸ heq
  have hnodup' : (unit'.functions.map (·.name)).Nodup := by
    rw [← hnames]
    exact (hperm.map _).nodup_iff.1 hnodup
  have hparameter : SameAt name (parameterTable current') (parameterTable current) := by
    intro b
    have hmem := (hcurrent.params.perm.map (·.name)).mem_iff (a := name)
    rw [parameterTable, parameterTable, hmem]
  have hfunction : SameAt name (functionTable unit' current') (functionTable unit current) := by
    intro b
    rw [functionTable_iff_mem hnodup, functionTable_iff_mem hnodup', hcurrent.fields.1]
    refine and_congr_right fun _ => ⟨?_, ?_⟩
    · rintro ⟨f', hf', hname, hreceiver, hb⟩
      obtain ⟨f, hf, hsame⟩ := exists_of_forall₂_right hfs f' hf'
      obtain ⟨hn, hr, hp⟩ := hsame.fields
      exact ⟨f, hperm.mem_iff.2 hf, hn ▸ hname, hr ▸ hreceiver, hp ▸ hb⟩
    · rintro ⟨f, hf, hname, hreceiver, hb⟩
      obtain ⟨f', hf', hsame⟩ := exists_of_forall₂_right hfs.flip f (hperm.mem_iff.1 hf)
      obtain ⟨hn, hr, hp⟩ := hsame.fields
      exact ⟨f', hf', hn ▸ hname, hr ▸ hreceiver, hp ▸ hb⟩
  have hmethods : SameAt name (baseTable base') (baseTable base) := by
    have hpass : (base'.bind (·.method? name)).map (fun sig => firstPassing sig.params) =
        (base.bind (·.method? name)).map fun sig => firstPassing sig.params := by
      cases hbase with
      | none => rfl
      | some hd => exact (map_eq_of_rel (fun _ _ h => h.2.firstPassing) (hd name)).symm
    intro b
    rw [baseTable_iff, baseTable_iff, hpass]
  exact resolve_eq_of_tables (.cons hparameter (.cons hfunction (.cons hmethods
    (.cons (.refl _ _) (.cons (.refl _ _) .nil)))))

end

/-! ## All together -/

section

variable (unit : MappingUnit) (base : Option TypeDescriptor) (current : MappingFunction)
  (source : TypeDescriptor)

/-- What order is of no consequence for the bindings of a function. -/
structure OrderIrrelevant : Prop where
  /-- A sibling is any other function of its name. -/
  siblings : current ∈ unit.functions → ∀ name b, functionTable unit current name b ↔
    ∃ f ∈ unit.functions, f ≠ current ∧ f.name = name ∧ f.receiver.isSome = true ∧
      b = .sibling name (firstPassing f.params)
  /-- The functions of the unit, and the parameters of functions and of base methods after their
  first ones. -/
  functions : ∀ unit' base' current', unit.SameButOrder unit' →
    Option.Rel TypeDescriptor.SameMethods base base' → current.SameButOrder current' → ∀ name,
    Binding.resolve unit' base' current' source name = Binding.resolve unit base current source name
  /-- The members of the source. -/
  sourceMembers : ∀ ms, ms.Perm source.members → ∀ name,
    Binding.resolve unit base current (source.withoutMembers.addAll ms) name =
      Binding.resolve unit base current source name
  /-- The members of the base. -/
  baseMembers : ∀ d ms, base = some d → ms.Perm d.members → ∀ name,
    Binding.resolve unit (some (d.withoutMembers.addAll ms)) current source name =
      Binding.resolve unit base current source name
  /-- Members that are added to some type, even if some of them take the place of others, as long as
  the last ones in all places are the same. -/
  additions : ∀ ms ms', (∀ place, lastAt place ms = lastAt place ms') → ∀ name,
    Binding.resolve unit (base.map (·.addAll ms)) current (source.addAll ms) name =
      Binding.resolve unit (base.map (·.addAll ms')) current (source.addAll ms') name

/-- What new members change of the bindings of a function.  Only a method of the source must not take
the place of another one, which could be an accessor. -/
structure GrowsLocally : Prop where
  sourceProperty : ∀ p, ChangesOnly p.name (Binding.resolve unit base current source)
    (Binding.resolve unit base current (source.withProperty p))
  sourceMethod : ∀ m sig, source.method? m = none →
    ChangesOnly m (Binding.resolve unit base current source)
      (Binding.resolve unit base current (source.withMethod m sig))
  baseMethod : ∀ d m sig, base = some d →
    ChangesOnly m (Binding.resolve unit base current source)
      (Binding.resolve unit (some (d.withMethod m sig)) current source)
  function : ∀ g unit', unit.Gains g unit' →
    ChangesOnly g.name (Binding.resolve unit base current source)
      (Binding.resolve unit' base current source)

theorem orderIrrelevant_of_nodup (hnodup : (unit.functions.map (·.name)).Nodup) :
    OrderIrrelevant unit base current source where
  siblings := functionTable_iff_ne hnodup
  functions := fun _ _ _ hunit hbase hcurrent name =>
    resolve_sameButOrder source hnodup hunit hbase hcurrent name
  sourceMembers := by
    intro ms hperm name
    rw [source.addAll_of_perm_members hperm]
  baseMembers := by
    rintro d ms rfl hperm name
    rw [d.addAll_of_perm_members hperm]
  additions := by
    intro ms ms' hlast name
    have hadd : ∀ d : TypeDescriptor, d.addAll ms = d.addAll ms' := fun d => d.addAll_congr hlast
    simp only [hadd]

theorem growsLocally : GrowsLocally unit base current source where
  sourceProperty := changesOnly_withProperty unit base current source
  sourceMethod := fun _ sig hnew => changesOnly_withMethod unit base current source sig hnew
  baseMethod := by
    rintro d m sig rfl
    exact changesOnly_withBaseMethod unit current source d m sig
  function := fun _ _ hgains => changesOnly_gains unit base current source hgains

/-- **Precedence and locality.**  The first table with the name of a field gives its binding, and a
field is unresolved if none has it.  In a unit whose functions have different names, bindings do not
depend on any order but that of the tables, and a new member has a bearing only on fields of its
name, none of which becomes unresolved. -/
theorem resolve_first_table :
    (∀ name b, Binding.resolve unit base current source name = b ↔
      FirstIn (tables unit base current source) name b) ∧
    (∀ name, Binding.resolve unit base current source name = .unresolved ↔
      ∀ t ∈ tables unit base current source, ¬t.Has name) ∧
    ((unit.functions.map (·.name)).Nodup →
      OrderIrrelevant unit base current source ∧ GrowsLocally unit base current source) :=
  ⟨resolve_eq_iff_firstIn unit base current source,
    resolve_eq_unresolved_iff unit base current source, fun hnodup =>
    ⟨orderIrrelevant_of_nodup unit base current source hnodup,
      growsLocally unit base current source⟩⟩

end

/-- A summary takes the semester from a property of the student, and the initials from a sibling, in
whatever order the functions stand.  A new function called `semester` comes before the property, and
leaves the initials as they are. -/
theorem resolve_first_table_summary :
    let unit := Students.studentMapper
    let summary := Students.function "into_summary" [Students.studentRef .owned]
      (.named "StudentSummary") .required
    let student := (Students.registry.describe? "StudentEntity").getD (.bare "" "")
    let semester := Students.function "semester" [] Students.numberType .provided
    let turned := { unit with functions := unit.functions.reverse }
    let grown := { unit with functions := semester :: unit.functions }
    (unit.functions.map (·.name)).Nodup ∧
    FirstIn (tables unit none summary student) "semester" (.property "semester") ∧
    Binding.resolve turned none summary student "initials" = .sibling "initials" (some .shared) ∧
    Binding.resolve grown none summary student "semester" = .sibling "semester" none ∧
    Binding.resolve grown none summary student "initials" = .sibling "initials" (some .shared) := by
  intro unit summary student semester turned grown
  have hnodup : (unit.functions.map (·.name)).Nodup := by decide
  obtain ⟨hfirst, -, hlocal⟩ := resolve_first_table unit none summary student
  obtain ⟨horder, hgrows⟩ := hlocal hnodup
  have hsame : ∀ f : MappingFunction, f.SameButOrder f := fun f => ⟨rfl, rfl, .refl _⟩
  have hturned : unit.SameButOrder turned :=
    ⟨turned.functions, unit.functions.reverse_perm.symm, List.forall₂_same.2 fun f _ => hsame f⟩
  have hgrown : ChangesOnly "semester" _ _ := hgrows.function semester grown ⟨[], _, rfl, rfl⟩
  have hinitials : Binding.resolve unit none summary student "initials" =
      .sibling "initials" (some .shared) := by decide
  refine ⟨hnodup, (hfirst _ _).1 (by decide), ?_, by decide, ?_⟩
  · rw [horder.functions turned none summary hturned .none (hsame summary), hinitials]
  · rw [hgrown.same "initials" (by decide), hinitials]

end Mapwright
