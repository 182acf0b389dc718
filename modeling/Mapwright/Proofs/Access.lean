import Mapwright.Proofs.Items
import Mapwright.Proofs.Moves
import Mapwright.Proofs.Pass

/-!
# What generated calls rely on

A call in a body goes to a method of the source, to another function of the
unit, or to a method of the base.  `Calls` says where a method with that name
stands in the sources that were read, and how it takes `self`.

Each call goes to some method that takes `self` without a written type.  How it
takes it plays no part: it is recorded for the functions of units only, and is
looked at nowhere, so a call may need more access than its receiver has.

    field.binding calls something → ∃ owner k, Calls … field.binding owner k     (`calls_of_planUnit`)
    not every `k` is one that the receiver of the call supplies                  (`not_forall_supplies`)
-/

namespace Mapwright

open Source

/-! ## Callees -/

/-- Who a generated call is made on. -/
inductive Owner
  | source
  | unit
  | base
deriving DecidableEq, Repr

/-- The methods of the impls on a type, over all sources. -/
def methodsOf (sources : List (ModuleId × String)) (type : String) : List (Scope × Signature) :=
  sources.flatMap fun s => inherentMethods type s.2

/-- Whether a binding stands for a call, of something that takes `self` in the given way. -/
inductive Calls (sources : List (ModuleId × String)) (unit : MappingUnit) (r : ResolvedFunction) :
    Binding → Owner → Receiver → Prop
  | accessor {e : Scope × Signature} {k : Receiver}
      (he : e ∈ methodsOf sources r.source.type.name) (hk : e.2.receiverOf = .ok (some k))
      (hparams : e.2.params = []) (houtput : e.2.output.isSome = true) :
      Calls sources unit r (.accessor e.2.name) .source k
  | function {name : String} {f : MappingFunction} {k : Receiver}
      (hf : unit.sibling? r.function name = some f) (hk : f.receiver = some k) :
      Calls sources unit r (.sibling name (firstPassing f.params)) .unit k
  | baseMethod {base : TypeRef} {e : Scope × Signature} {k : Receiver} {params : List Param}
      (hf : unit.sibling? r.function e.2.name = none) (hbase : unit.base = some base)
      (he : e ∈ methodsOf sources base.name) (hk : e.2.receiverOf = .ok (some k))
      (hparams : e.2.paramsOf e.1 = .ok params) :
      Calls sources unit r (.sibling e.2.name (firstPassing params)) .base k

/-- Whether a binding is generated as a call. -/
def Binding.isCall : Binding → Bool
  | .accessor _ => true
  | .sibling _ _ => true
  | _ => false

/-! ## Callees of what was read -/

namespace Generator

/-- A method of a described type stands in an impl on the type. -/
theorem exists_methodsOf {settings : Settings} {sources : List (ModuleId × String)}
    {type name : String} {d : TypeDescriptor} {sig : MethodSig}
    (hd : ((fresh settings).addSources sources).registry.describe? type = some d)
    (hm : d.method? name = some sig) :
    ∃ e ∈ methodsOf sources type, e.2.method? e.1 = some (name, sig) := by
  have hmethod := method?_declareAll (fresh settings)
    (sources.flatMap fun s => (declarations? s.1 s.2).getD []) type name
  rw [← addSources_eq_declareAll, hd, Option.bind_some, hm] at hmethod
  cases hlast : (sources.flatMap fun s => (declarations? s.1 s.2).getD []).findRev?
      (·.adds type name) with
  | none =>
    rw [hlast] at hmethod
    cases hmethod
  | some decl =>
    rw [hlast] at hmethod
    obtain ⟨s, hs, hdecl⟩ := List.mem_flatMap.1 (mem_of_findRev? hlast)
    obtain ⟨e, he, hsig⟩ := exists_inherentMethod hdecl (prop_of_findRev? hlast)
    refine ⟨e, List.mem_flatMap.2 ⟨s, hs, he⟩, ?_⟩
    rw [hsig, ← show some sig = decl.method? name from hmethod, Option.map_some]

end Generator

theorem exists_of_accessor? {d : TypeDescriptor} {name : String}
    (h : (d.accessor? name).isSome = true) : ∃ t, d.method? name = some ⟨[], some t⟩ := by
  obtain ⟨t, h⟩ := Option.isSome_iff_exists.1 h
  unfold TypeDescriptor.accessor? at h
  split at h
  · next returns hm =>
    rw [h] at hm
    exact ⟨t, hm⟩
  · cases h

section

variable {settings : Settings} {sources : List (ModuleId × String)} {unit : MappingUnit}
  {r : ResolvedFunction}

/-- An accessor of the source is a method of it that takes nothing but `self`. -/
theorem calls_accessor {d : TypeDescriptor} {name : String}
    (hd : ((Generator.fresh settings).addSources sources).registry.describe? r.source.type.name =
      some d) (h : (d.accessor? name).isSome = true) :
    ∃ k, Calls sources unit r (.accessor name) .source k := by
  obtain ⟨t, hm⟩ := exists_of_accessor? h
  obtain ⟨e, he, hsig⟩ := Generator.exists_methodsOf hd hm
  obtain ⟨⟨k, hk⟩, hparams, hreturns, rfl⟩ := Signature.method?_eq_some_iff.1 hsig
  refine ⟨k, .accessor he hk ?_ ?_⟩
  · rw [Signature.paramsOf, mapM_eq_ok_iff] at hparams
    exact List.forall₂_nil_right_iff.1 hparams
  · rw [Signature.returnsOf] at hreturns
    cases ho : e.2.output with
    | none => rw [ho] at hreturns; cases hreturns
    | some t => rfl

/-- A method of the base is called if the unit has no function of its name. -/
theorem calls_baseMethod {base : TypeRef} {d : TypeDescriptor} {name : String} {sig : MethodSig}
    (hf : unit.sibling? r.function name = none) (hbase : unit.base = some base)
    (hd : ((Generator.fresh settings).addSources sources).registry.describe? base.name = some d)
    (hm : d.method? name = some sig) :
    ∃ k, Calls sources unit r (.sibling name (firstPassing sig.params)) .base k := by
  obtain ⟨e, he, hsig⟩ := Generator.exists_methodsOf hd hm
  obtain ⟨⟨k, hk⟩, hparams, -, rfl⟩ := Signature.method?_eq_some_iff.1 hsig
  exact ⟨k, .baseMethod hf hbase he hk hparams⟩

/-- A sibling is a function of the unit, or else a method of the base. -/
theorem calls_sibling {base : Option TypeDescriptor} {name : String} {pass : Option Passing}
    (hbase : checkBase ((Generator.fresh settings).addSources sources).registry unit = .ok base)
    (h : siblingPassing unit base r.function name = some pass) :
    ∃ owner k, Calls sources unit r (.sibling name pass) owner k := by
  unfold siblingPassing at h
  split at h
  · next f hf =>
    cases h
    have hreceiver := List.find?_some hf
    rw [Bool.and_eq_true] at hreceiver
    obtain ⟨k, hk⟩ := Option.isSome_iff_exists.1 hreceiver.2
    exact ⟨.unit, k, .function hf hk⟩
  · next hf =>
    obtain ⟨sig, hsig, rfl⟩ := Option.map_eq_some_iff.1 h
    obtain ⟨d, rfl, hm⟩ := Option.bind_eq_some_iff.1 hsig
    rcases checkBase_eq_ok_iff.1 hbase with ⟨-, hd⟩ | ⟨b, d', hb, hdescribe, -, hd⟩
    · cases hd
    · cases hd
      exact ⟨.base, calls_baseMethod hf hb hdescribe hm⟩

end

/-- A shared source is handed to no sibling for writing, unless the sibling is in conflict. -/
theorem ResolvedFunction.ne_sibling_of_conflictingSibling? {r : ResolvedFunction}
    (h : r.conflictingSibling? = none) (hshared : r.source.type.passing = .shared) :
    ∀ field ∈ r.fields, ∀ g, field.binding ≠ .sibling g (some .exclusive) := by
  rw [ResolvedFunction.conflictingSibling?, if_pos hshared, List.findSome?_eq_none_iff] at h
  intro field hf g hb
  have := h field hf
  rw [hb] at this
  cases this

/-! ## Receivers of methods play no part -/

namespace Source

/-- A signature with `&self` for any other `self` that has no written type. -/
def Signature.withRefSelf (s : Signature) : Signature :=
  { s with receiver := s.receiver.map fun p => if p.typed then p else ⟨true, none, false, false⟩ }

mutual

/-- An item with `&self` for any other `self` in its impls. -/
def Item.withRefSelf : Item → Item
  | .implementation ofTrait owner methods =>
    .implementation ofTrait owner (methods.map (·.withRefSelf))
  | .module (some items) => .module (some (withRefSelf items))
  | item => item

/-- Items with `&self` for any other `self` in their impls. -/
def withRefSelf : List Item → List Item
  | [] => []
  | item :: items => item.withRefSelf :: withRefSelf items

end

theorem Signature.takesSelf_withRefSelf (s : Signature) :
    (∃ k, s.withRefSelf.receiverOf = .ok (some k)) ↔ ∃ k, s.receiverOf = .ok (some k) := by
  rw [receiverOf, receiverOf]
  cases hr : s.receiver with
  | none => simp [withRefSelf, hr]
  | some p =>
    obtain ⟨reference, lifetime, mutable, typed⟩ := p
    cases typed <;> cases reference <;> simp [withRefSelf, hr]

theorem Signature.method?_withRefSelf (scope : Scope) (s : Signature) :
    s.withRefSelf.method? scope = s.method? scope := by
  refine Option.ext fun ⟨name, sig⟩ => ?_
  rw [Signature.method?_eq_some_iff, Signature.method?_eq_some_iff, takesSelf_withRefSelf]
  rfl

theorem bindings_withRefSelf (items : List Item) :
    (withRefSelf items).flatMap Item.bindings = items.flatMap Item.bindings := by
  induction items with
  | nil => rfl
  | cons item items ih =>
    rw [withRefSelf, List.flatMap_cons, List.flatMap_cons, ih]
    congr 1
    cases item with
    | module inner => cases inner <;> rfl
    | _ => rfl

mutual

theorem Item.declarations_withRefSelf (scope : Scope) (module : ModuleId) :
    ∀ item : Item, item.withRefSelf.declarations scope module = item.declarations scope module
  | .implementation ofTrait owner methods => by
    have hmethods : (methods.map (·.withRefSelf)).filterMap (·.method? scope) =
        methods.filterMap (·.method? scope) := by
      rw [List.filterMap_map]
      congr 1
      funext s
      exact s.method?_withRefSelf scope
    unfold Item.withRefSelf Item.declarations implDeclaration?
    rw [hmethods]
  | .module none => rfl
  | .module (some items) => by
    unfold Item.withRefSelf Item.declarations
    rw [Scope.within, bindings_withRefSelf]
    exact declarations_withRefSelf _ module items
  | .struct _ _ => rfl
  | .enumeration _ => rfl
  | .trait _ => rfl
  | .use _ => rfl
  | .alias _ _ => rfl
  | .other => rfl

theorem declarations_withRefSelf (scope : Scope) (module : ModuleId) :
    ∀ items : List Item,
      declarations scope module (withRefSelf items) = declarations scope module items
  | [] => rfl
  | item :: items => by
    rw [withRefSelf, declarations, declarations, Item.declarations_withRefSelf scope module item,
      declarations_withRefSelf scope module items]

end

/-- Whether two texts of one module differ only in how the methods of impls take `self`. -/
def SameButSelf (s t : ModuleId × String) : Prop :=
  s.1 = t.1 ∧ (items? s.2).map withRefSelf = (items? t.2).map withRefSelf

theorem declarations?_eq_of_sameButSelf {s t : ModuleId × String} (h : SameButSelf s t) :
    declarations? s.1 s.2 = declarations? t.1 t.2 := by
  have hread : ∀ module text, declarations? module text =
      ((items? text).map withRefSelf).map fun items =>
        declarations (Scope.ofItems items) module items := by
    intro module text
    rw [declarations?, Option.map_map]
    congr 1
    funext items
    show _ = declarations (Scope.ofItems (withRefSelf items)) module (withRefSelf items)
    rw [Scope.ofItems, Scope.ofItems, Scope.within, Scope.within, bindings_withRefSelf,
      declarations_withRefSelf]
  rw [hread, hread, h.1, h.2]

end Source

theorem Generator.addSources_eq_of_sameButSelf {sources sources' : List (ModuleId × String)}
    (h : List.Forall₂ SameButSelf sources sources') (g : Generator) :
    g.addSources sources = g.addSources sources' := by
  rw [addSources_eq_declareAll, addSources_eq_declareAll]
  congr 1
  induction h with
  | nil => rfl
  | cons hst _ ih =>
    rw [List.flatMap_cons, List.flatMap_cons, ih, declarations?_eq_of_sameButSelf hst]

/-! ## Calls of generated units -/

/-- **What generated calls go to.**  Each call in a generated unit goes to a method that takes
`self`, of the source, the unit or the base, and a shared source is handed to no sibling for
writing.  How the methods of impls take `self` plays no part in anything that is read. -/
theorem calls_of_planUnit (settings : Settings) (sources : List (ModuleId × String))
    (unit : MappingUnit) (plan : Plan)
    (hplan : planUnit settings ((Generator.fresh settings).addSources sources).registry unit =
      .ok plan) :
    (∀ r ∈ plan.resolved, ∀ field ∈ r.fields,
      (field.binding.isCall = true → ∃ owner k, Calls sources unit r field.binding owner k) ∧
      (r.source.type.passing = .shared → ∀ g, field.binding ≠ .sibling g (some .exclusive))) ∧
    ∀ sources', List.Forall₂ SameButSelf sources sources' →
      (Generator.fresh settings).addSources sources' =
        (Generator.fresh settings).addSources sources := by
  refine ⟨fun r hr field hf => ?_, fun sources' h =>
    (Generator.addSources_eq_of_sameButSelf h _).symm⟩
  obtain ⟨p, hmem, rfl⟩ := List.mem_map.1 hr
  obtain ⟨f, -, m, -, hfun⟩ := exists_of_mem_functions hplan hmem
  obtain ⟨source, target, fields, hsource, -, -, hconflict, hp⟩ := planFunction_eq_ok_iff.1 hfun
  obtain ⟨-, hbase, -, -⟩ := planUnit_eq_ok_iff.1 hplan
  have hr : p.resolved = .resolve unit plan.base m.function m.source source m.target fields := by
    rw [hp]
  refine ⟨fun hcall => ?_, fun hshared =>
    ResolvedFunction.ne_sibling_of_conflictingSibling? hconflict hshared field hf⟩
  obtain ⟨-, hb⟩ := (ResolvedFunction.mem_fields_resolve ..).1 (hr ▸ hf)
  cases hbinding : field.binding with
  | accessor x =>
    rw [hbinding, eq_comm, Binding.resolve_eq_accessor_iff] at hb
    obtain ⟨rfl, -, -, haccessor⟩ := hb
    obtain ⟨k, hk⟩ := calls_accessor (r := p.resolved) (by rw [hr]; exact hsource) haccessor
    exact ⟨.source, k, hk⟩
  | sibling g pass =>
    rw [hbinding, eq_comm, Binding.resolve_eq_sibling_iff] at hb
    obtain ⟨rfl, -, hpass⟩ := hb
    exact calls_sibling (r := p.resolved) hbase (by rw [hr]; exact hpass)
  | _ =>
    rw [hbinding] at hcall
    cases hcall

/-! ## Calls that need more than they get -/

/-- To close an account, to open a vault and to number a receipt all need writing.  The receipt is
made by `&self`, on a vault, for an account that is lent for reading only. -/
def bankTexts : List (ModuleId × List String) :=
  [("account.rs", ["struct Account; ", "impl Account", inBraces "fn close(&mut self) -> u32 \x7b 0 \x7d"]),
    ("vault.rs", ["struct Vault; ", "impl Vault", inBraces "fn open(&mut self) -> u32 \x7b 0 \x7d"]),
    ("bank.rs", ["struct Receipt", inBraces "close: u32, number: u32, open: u32",
      "#[mapper_derive::mapper", "(base = Vault)] ", "trait Bank \x7b",
      "fn number(&mut self) -> u32", inBraces "0", "fn receipt(&self, ", "account: &Account)",
      " -> Receipt; \x7d"])]

def bankSources : List (ModuleId × String) := bankTexts.map fun s => (s.1, String.join s.2)

def bankNumber : MappingFunction := ⟨"number", some .refMut, [], some (.named "u32"), .provided⟩

def bankFunction : MappingFunction :=
  ⟨"receipt", some .ref, [⟨"account", "Account", "Account", .shared⟩], some (.named "Receipt"),
    .required⟩

def bank : MappingUnit :=
  ⟨"Bank", "bank.rs", "", false, some (.named "Vault"), none, [bankNumber, bankFunction]⟩

def receiptFields : List Param :=
  [⟨"close", .named "u32"⟩, ⟨"number", .named "u32"⟩, ⟨"open", .named "u32"⟩]

def account : TypeDescriptor :=
  (TypeDescriptor.record "Account" "account.rs" []).withMethod "close" ⟨[], some (.named "u32")⟩

def vault : TypeDescriptor :=
  (TypeDescriptor.record "Vault" "vault.rs" []).withMethod "open" ⟨[], some (.named "u32")⟩

def bankReceipt : ResolvedFunction :=
  ⟨bankFunction, ⟨"account", "Account", "Account", .shared⟩, .named "Receipt",
    [⟨⟨"close", .named "u32"⟩, .accessor "close"⟩, ⟨⟨"number", .named "u32"⟩, .sibling "number" none⟩,
      ⟨⟨"open", .named "u32"⟩, .sibling "open" none⟩]⟩

def bankPlan : Plan :=
  ⟨bank, some vault, [⟨bankReceipt, "account.rs", "bank.rs"⟩]⟩

def bankDeclared : List Declaration :=
  [.struct "Account" "account.rs" (some []),
    .methods "Account" "account.rs" [("close", ⟨[], some (.named "u32")⟩)],
    .struct "Vault" "vault.rs" (some []),
    .methods "Vault" "vault.rs" [("open", ⟨[], some (.named "u32")⟩)],
    .struct "Receipt" "bank.rs" (some receiptFields), .unit bank]

/-- What is read of the sources: their declarations, and how the methods take `self`. -/
theorem read_bankSources :
    (bankSources.flatMap fun s => (declarations? s.1 s.2).getD []) = bankDeclared ∧
    ∀ type ∈ ["Account", "Vault"], ∀ e ∈ methodsOf bankSources type,
      e.2.receiverOf = .ok (some .refMut) := by
  simp only [bankSources, List.flatMap_map, methodsOf, inherentMethods, declarations?, items?_join]
  decide +kernel

theorem addSources_bankSources : (Generator.fresh .standard).addSources bankSources =
    (Generator.fresh .standard).declareAll bankDeclared := by
  rw [Generator.addSources_eq_declareAll, read_bankSources.1]

theorem planUnit_bank :
    planUnit .standard ((Generator.fresh .standard).addSources bankSources).registry bank =
      .ok bankPlan := by
  rw [addSources_bankSources]
  rfl

/-- The receipt calls something for each of its fields. -/
theorem calls_of_planUnit_bank :
    planUnit .standard ((Generator.fresh .standard).addSources bankSources).registry bank =
      .ok bankPlan ∧
    ∀ field ∈ bankReceipt.fields,
      ∃ owner k, Calls bankSources bank bankReceipt field.binding owner k := by
  have hplan := planUnit_bank
  have hcalls : ∀ field ∈ bankReceipt.fields, field.binding.isCall = true := by decide
  refine ⟨hplan, fun field hfield => ?_⟩
  exact ((calls_of_planUnit .standard bankSources bank bankPlan hplan).1 bankReceipt
    List.mem_cons_self field hfield).1 (hcalls field hfield)

/-- Whether the receiver of a call supplies what the callee takes.  The source must be lent for
writing, be declared `mut`, or be given away for good; a function is called on the `self` of the
caller; a base is only lent for reading. -/
def Supplies (r : ResolvedFunction) (b : Binding) : Owner → Receiver → Prop
  | _, .ref => True
  | .source, .refMut =>
    r.source.type.passing = .exclusive ∨
      r.source.type.passing = .owned ∧ ∃ slot ∈ Code.slots r, slot.param = r.source ∧ slot.mutable
  | .source, .value =>
    r.source.type.passing = .owned ∧ ∀ before call after,
      Code.bindingExpr? r.source b = some call →
      (Code.body r).evaluated = before ++ call :: after →
      ∀ e ∈ after, e.mentions r.source.name = false
  | .unit, k => Code.receiverOf r.function = .value ∨ Code.receiverOf r.function = k
  | .base, _ => False

/-- Whether every generated call on an owner is made on a receiver that supplies what the callee
takes. -/
def AllSupplied (owner : Owner) : Prop :=
  ∀ (settings : Settings) (sources : List (ModuleId × String)) (unit : MappingUnit) (plan : Plan),
    unit ∈ ((Generator.fresh settings).addSources sources).units.values →
    planUnit settings ((Generator.fresh settings).addSources sources).registry unit = .ok plan →
    ∀ r ∈ plan.resolved, ∀ field ∈ r.fields, (∃ k, Calls sources unit r field.binding owner k) →
      ∃ k, Calls sources unit r field.binding owner k ∧ Supplies r field.binding owner k

/-- Whatever the receipt calls writes to what it is called on, and is called on what may only be
read. -/
theorem not_supplies_bank {b : Binding} {owner : Owner} {k : Receiver}
    (h : Calls bankSources bank bankReceipt b owner k) : ¬Supplies bankReceipt b owner k := by
  have hmethods := read_bankSources.2
  have hsiblings : ∀ f ∈ bank.functions, f.name ≠ bankFunction.name → f.receiver = some .refMut := by
    decide
  cases h with
  | @accessor e k he hk =>
    cases (hmethods "Account" (by decide) e he).symm.trans hk
    rintro (h | ⟨h, -⟩) <;> cases h
  | @function name f k hf hk =>
    have hother := List.find?_some hf
    simp only [Bool.and_eq_true, bne_iff_ne] at hother
    cases (hsiblings f (List.mem_of_find?_eq_some hf) hother.1.2).symm.trans hk
    rintro (h | h) <;> cases h
  | @baseMethod base e k params hf hbase he hk =>
    cases hbase
    cases (hmethods "Vault" (by decide) e he).symm.trans hk
    exact id

theorem not_allSupplied_bank {owner : Owner}
    (h : ∃ field ∈ bankReceipt.fields, ∃ k, Calls bankSources bank bankReceipt field.binding owner k) :
    ¬AllSupplied owner := by
  intro hall
  obtain ⟨field, hfield, hcalls⟩ := h
  have hunit : bank ∈ ((Generator.fresh .standard).addSources bankSources).units.values := by
    rw [addSources_bankSources]
    decide +kernel
  obtain ⟨k, hk, hsupplies⟩ := hall .standard bankSources bank bankPlan hunit planUnit_bank bankReceipt
    List.mem_cons_self field hfield hcalls
  exact not_supplies_bank hk hsupplies

/-- **Calls are made without regard to the access that they need.**  The receipt is generated; it
writes to an account that it may only read, to a base that is behind a reference, and through its own
`&self`. -/
theorem not_forall_supplies :
    ¬AllSupplied .source ∧ ¬AllSupplied .unit ∧ ¬AllSupplied .base := by
  refine ⟨not_allSupplied_bank ?_, not_allSupplied_bank ?_, not_allSupplied_bank ?_⟩
  · have haccount : ((Generator.fresh .standard).addSources bankSources).registry.describe?
        bankReceipt.source.type.name = some account := by
      rw [addSources_bankSources]
      rfl
    exact ⟨⟨⟨"close", .named "u32"⟩, .accessor "close"⟩, by decide, calls_accessor haccount rfl⟩
  · have hnumber : Calls bankSources bank bankReceipt (.sibling "number" (firstPassing bankNumber.params))
        .unit .refMut := .function rfl rfl
    exact ⟨⟨⟨"number", .named "u32"⟩, .sibling "number" none⟩, by decide, _, hnumber⟩
  · have hvault : ((Generator.fresh .standard).addSources bankSources).registry.describe?
        (TypeRef.named "Vault").name = some vault := by
      rw [addSources_bankSources]
      rfl
    have hopen : vault.method? "open" = some ⟨[], some (.named "u32")⟩ := rfl
    exact ⟨⟨⟨"open", .named "u32"⟩, .sibling "open" none⟩, by decide,
      calls_baseMethod rfl rfl hvault hopen⟩

end Mapwright
