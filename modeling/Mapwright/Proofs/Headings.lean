import Mapwright.Proofs.Keeping
import Mapwright.Proofs.UnitTexts

/-!
# The headings of generated methods

What a marked trait says before the body of a function, beside what the method
that is generated for it says there.  Of a function without a body the method
has the name, `self` and the parameters, and it keeps their types.  It lacks the
words before `fn` and the lifetimes of outer references, and has of a type only
what is plainly written.

    a trait is generated → each of its required functions has a method whose
      heading repeats the signature                                  (`headings_of_declaration?`)
    a heading is not always that of the signature                   (`not_forall_heading?`)
-/

namespace Mapwright

namespace Source

/-! ## Headings -/

/-- No words before `fn`. -/
def Qualifiers.plain : Qualifiers := ⟨false, false, false, false⟩

/-- The words before `fn`. -/
def Qualifiers.words (q : Qualifiers) : List String :=
  (if q.isConst then ["const"] else []) ++ (if q.isAsync then ["async"] else []) ++
    (if q.unsafety then ["unsafe"] else []) ++ (if q.foreign then ["extern"] else [])

theorem Qualifiers.words_eq_nil_iff (q : Qualifiers) : q.words = [] ↔ q = .plain := by
  obtain ⟨isConst, isAsync, unsafety, foreign⟩ := q
  cases isConst <;> cases isAsync <;> cases unsafety <;> cases foreign <;> decide

/-- A text with a lifetime and a blank in it is longer than the text without. -/
theorem append_lifetime_ne (before l after : String) :
    before ++ (l ++ " ") ++ after ≠ before ++ "" ++ after := by
  intro h
  have hlength := congrArg String.length h
  simp only [String.length_append] at hlength
  have hblank : " ".length = 1 := rfl
  have hempty : "".length = 0 := rfl
  omega

namespace SelfParam

/-- The `self` parameter spelled in full. -/
def spell (p : SelfParam) : String :=
  if p.reference then
    "&" ++ (p.lifetime.elim "" (· ++ " ")) ++ (if p.mutable then "mut " else "") ++ "self"
  else "self"

/-- The lifetime of a reference to `self`, if it is written. -/
def lifetime? (p : SelfParam) : Option String := if p.reference then p.lifetime else none

/-- The `self` parameter without the lifetime of a reference. -/
def withoutLifetime (p : SelfParam) : SelfParam := { p with lifetime := none }

/-- The `self` parameter is written in full exactly if no reference to it has a lifetime. -/
theorem spell_eq_spell_withoutLifetime_iff (p : SelfParam) :
    p.spell = p.withoutLifetime.spell ↔ p.lifetime? = none := by
  obtain ⟨reference, lifetime, mutable, typed⟩ := p
  cases reference with
  | false => exact iff_of_true rfl rfl
  | true =>
    cases lifetime with
    | none => exact iff_of_true rfl rfl
    | some l =>
      refine iff_of_false (fun h => ?_) (Option.some_ne_none l)
      refine append_lifetime_ne "&" l ((if mutable then "mut " else "") ++ "self") ?_
      rw [← String.append_assoc, ← String.append_assoc]
      exact h

end SelfParam

/-- What stands before the body of a function, but for its name: the words before `fn`, `self`, the
parameters with their types, and what is returned. -/
structure Heading where
  qualifiers : List String
  self : String
  params : List (String × String)
  output : String

namespace Heading

/-- The parameters as they are written; the first one may be `mut`. -/
def paramTexts (h : Heading) (mutable : Bool) : List String :=
  match h.params with
  | [] => []
  | p :: ps => ((if mutable then "mut " else "") ++ (p.1 ++ ": " ++ p.2)) ::
      ps.map fun p => p.1 ++ ": " ++ p.2

/-- The text of a heading. -/
def text (h : Heading) (name : String) (mutable : Bool) : String :=
  String.join (h.qualifiers.map (· ++ " ")) ++ "fn " ++ name ++ "(" ++
    ", ".intercalate (h.self :: h.paramTexts mutable) ++ ") -> " ++ h.output

end Heading

theorem mem_toList_intercalate {c : Char} {separator s : String} (ss : List String)
    (h : c ∈ s.toList) : c ∈ (separator.intercalate (s :: ss)).toList := by
  cases ss with
  | nil => simpa using h
  | cons t ss =>
    rw [String.intercalate_cons_of_ne_nil (List.cons_ne_nil _ _), String.toList_append,
      String.toList_append]
    exact List.mem_append_left _ (List.mem_append_left _ h)

/-- The heading shows how `self` is taken. -/
theorem Heading.mem_text {c : Char} (h : Heading) (hc : c ∈ h.self.toList) (name : String)
    (mutable : Bool) : c ∈ (h.text name mutable).toList := by
  have hmem : c ∈ (", ".intercalate (h.self :: h.paramTexts mutable)).toList :=
    mem_toList_intercalate _ hc
  simp only [text, String.toList_append, List.mem_append, hmem, true_or, or_true]

/-- A text declares the types of a signature by tokens: those of each parameter, and those of what is
returned. -/
structure Signature.DeclaredBy (text : String) (s : Signature) (params : List (List Token))
    (output : List Token) : Prop where
  params : List.Forall₂ (fun p ws => Source.DeclaredBy text p.type ws) s.params params
  output : ∀ t ∈ s.output, Source.DeclaredBy text t output

/-- The heading is that of the signature, with types of the given tokens. -/
structure Heading.IsDeclared (s : Signature) (params : List (List Token)) (output : List Token)
    (h : Heading) : Prop where
  qualifiers : h.qualifiers = s.qualifiers.words
  self : s.receiver.map (·.spell) = some h.self
  names : s.params.map (·.name) = h.params.map (some ·.1)
  types : List.Forall₂ (fun p ws => HasTokens p.2 ws) h.params params
  output : HasTokens h.output output

/-- What a heading keeps of a signature that a text declares. -/
structure Heading.Repeats (text : String) (s : Signature) (h : Heading) : Prop where
  qualifiers : h.qualifiers = []
  self : ∃ p, s.receiver = some p ∧ h.self = p.withoutLifetime.spell
  params : List.Forall₂ (fun p q => p.name = some q.1 ∧ Keeps text p.type q.2) s.params h.params
  output : ∃ t, s.output = some t ∧ Keeps text t h.output
  /-- The heading is kept in full if there is nothing to lose. -/
  full : ∀ params output, s.DeclaredBy text params output → (h.IsDeclared s params output ↔
    s.qualifiers = .plain ∧ (∀ p ∈ s.receiver, p.lifetime? = none) ∧
      List.Forall₂ (fun p ws => IsPlainly p.type ws ∧ p.type.lifetime? = none) s.params params ∧
      ∀ t ∈ s.output, IsPlainly t output)

/-- There is nothing in the signature that no heading can repeat. -/
structure Signature.IsRepeatable (s : Signature) : Prop where
  plain : s.generic = false
  receiver : ∀ p ∈ s.receiver, p.typed = false
  params : ∀ p ∈ s.params, p.name.isSome = true ∧ p.type.pieces?.isSome = true
  output : ∀ t ∈ s.output, t.pieces?.isSome = true

/-! ## What is declared -/

/-- The types of a repeatable signature are declared by tokens. -/
theorem Signature.IsRepeatable.exists_declaredBy {text : String} {s : Signature}
    (h : s.IsRepeatable) (hs : s.Declares (IsDeclaredIn text)) :
    ∃ params output, s.DeclaredBy text params output := by
  obtain ⟨params, hparams⟩ := exists_forall₂_iff.2 fun p hp => hs.params p hp (h.params p hp).2
  cases ht : s.output with
  | none => exact ⟨params, [], hparams, fun t hmem => by rw [ht] at hmem; cases hmem⟩
  | some t =>
    obtain ⟨output, houtput⟩ := hs.output t ht (h.output t ht)
    refine ⟨params, output, hparams, fun u hu => ?_⟩
    rw [ht] at hu
    cases hu
    exact houtput

/-- The signatures in a trait of a text have types that are declared in the text, if they can be
written again. -/
theorem declares_of_mem_traits {text : String} {e : Scope × TraitItem} (he : e ∈ traits text) :
    e.2.Declares (IsDeclaredIn text) := by
  obtain ⟨items, hitems, he⟩ := mem_getD_map_iff.1 he
  obtain ⟨⟨scope, item⟩, hmem, heq⟩ := List.mem_filterMap.1 he
  have hdeclares := declaredIn_of_mem_read hitems _ hmem
  cases hdeclares with
  | trait h =>
    cases heq
    exact h
  | _ => cases heq

end Source

/-! ## From signatures to functions -/

namespace Source.Signature

variable {scope : Scope} {s : Signature} {f : MappingFunction}

theorem exists_receiverOf_iff (s : Signature) :
    (∃ r, s.receiverOf = .ok r) ↔ ∀ p ∈ s.receiver, p.typed = false := by
  unfold receiverOf
  cases s.receiver with
  | none => simp
  | some p =>
    obtain ⟨reference, lifetime, mutable, typed⟩ := p
    cases typed <;> cases reference <;> simp

theorem exists_returnsOf_iff (scope : Scope) (s : Signature) :
    (∃ target, s.returnsOf scope = .ok target) ↔ ∀ t ∈ s.output, t.pieces?.isSome = true := by
  unfold returnsOf
  cases s.output with
  | none => simp
  | some t =>
    simp only [map_eq_ok_iff, Option.mem_def, Option.some.injEq, forall_eq',
      ← TypeExpr.exists_spell_iff, ← t.exists_ref_iff scope]
    exact ⟨fun ⟨_, r, hr, _⟩ => ⟨r, hr⟩, fun ⟨r, hr⟩ => ⟨some r, r, hr, rfl⟩⟩

theorem exists_paramsOf_iff_pieces? (scope : Scope) (s : Signature) :
    (∃ ps, s.paramsOf scope = .ok ps) ↔
      ∀ p ∈ s.params, p.name.isSome = true ∧ p.type.pieces?.isSome = true := by
  simp only [exists_paramsOf_iff, FnParam.IsPlain, TypeExpr.exists_spell_iff]

/-- A signature can be repeated exactly if it is read as that of a function to be implemented. -/
theorem isRepeatable_iff (scope : Scope) (s : Signature) :
    s.IsRepeatable ↔ ∃ f, s.required scope = .ok f := by
  simp only [required_eq_ok_iff]
  constructor
  · intro h
    obtain ⟨params, hparams⟩ := (exists_paramsOf_iff_pieces? scope s).2 h.params
    obtain ⟨receiver, hreceiver⟩ := (exists_receiverOf_iff s).2 h.receiver
    obtain ⟨returns, hreturns⟩ := (exists_returnsOf_iff scope s).2 h.output
    exact ⟨⟨s.name, receiver, params, returns, .required⟩, h.plain, hreceiver, hparams, hreturns,
      rfl, rfl⟩
  · rintro ⟨f, hgeneric, hreceiver, hparams, hreturns, -, -⟩
    exact ⟨hgeneric, (exists_receiverOf_iff s).1 ⟨_, hreceiver⟩,
      (exists_paramsOf_iff_pieces? scope s).1 ⟨_, hparams⟩, (exists_returnsOf_iff scope s).1 ⟨_, hreturns⟩⟩

/-- A receiver is kept without the lifetime of a reference. -/
theorem exists_of_receiverOf {r : Receiver} (h : s.receiverOf = .ok (some r)) :
    ∃ p, s.receiver = some p ∧ r.render = p.withoutLifetime.spell := by
  unfold receiverOf at h
  cases hr : s.receiver with
  | none =>
    rw [hr] at h
    cases h
  | some p =>
    obtain ⟨reference, lifetime, mutable, typed⟩ := p
    rw [hr] at h
    refine ⟨_, rfl, ?_⟩
    cases typed <;> cases reference <;> cases mutable <;> cases h <;> rfl

end Source.Signature

/-! ## From functions to methods -/

namespace Source

/-- A heading keeps a signature in full if nothing of it is lost. -/
theorem Heading.isDeclared_iff {text : String} {s : Signature} {h : Heading}
    (hqualifiers : h.qualifiers = [])
    (hself : ∃ p, s.receiver = some p ∧ h.self = p.withoutLifetime.spell)
    (hparams : List.Forall₂ (fun p q => p.name = some q.1 ∧ Keeps text p.type q.2) s.params h.params)
    (houtput : ∃ t, s.output = some t ∧ t.lifetime? = none ∧ Keeps text t h.output)
    {params : List (List Token)} {output : List Token} (hs : s.DeclaredBy text params output) :
    h.IsDeclared s params output ↔
      s.qualifiers = .plain ∧ (∀ p ∈ s.receiver, p.lifetime? = none) ∧
        List.Forall₂ (fun p ws => IsPlainly p.type ws ∧ p.type.lifetime? = none) s.params params ∧
        ∀ t ∈ s.output, IsPlainly t output := by
  obtain ⟨p, hp, hpself⟩ := hself
  obtain ⟨t, ht, hlifetime, hkeeps⟩ := houtput
  have hreceiver : s.receiver.map (·.spell) = some h.self ↔ ∀ p ∈ s.receiver, p.lifetime? = none := by
    simp [hp, hpself, p.spell_eq_spell_withoutLifetime_iff]
  have htypes : List.Forall₂ (fun q ws => HasTokens q.2 ws) h.params params ↔
      List.Forall₂ (fun p ws => IsPlainly p.type ws ∧ p.type.lifetime? = none) s.params params :=
    forall₂_iff_of_forall₂ hparams hs.params fun p q ws hpq hws => hpq.2.full ws hws
  have hnames : s.params.map (·.name) = h.params.map (some ·.1) := by
    rw [← List.forall₂_eq_eq_eq, List.forall₂_map_left_iff, List.forall₂_map_right_iff]
    exact hparams.imp fun p q hpq => hpq.1
  have hreturned : HasTokens h.output output ↔ ∀ t ∈ s.output, IsPlainly t output := by
    simp [ht, hkeeps.full output (hs.output t ht), hlifetime]
  rw [← htypes, ← hreceiver, ← hreturned, ← s.qualifiers.words_eq_nil_iff]
  constructor
  · rintro ⟨hwords, hself, -, htypes, houtput⟩
    exact ⟨hwords ▸ hqualifiers, hself, htypes, houtput⟩
  · rintro ⟨hwords, hself, htypes, houtput⟩
    exact ⟨hqualifiers.trans hwords.symm, hself, hnames, htypes, houtput⟩

/-- The heading of the method for a function. -/
def headingOf (receiver : Receiver) (params : List Param) (target : TypeRef) : Heading :=
  ⟨[], receiver.render, params.map fun p => (p.name, p.type.render), target.render⟩

theorem text_headingOf (name : String) (receiver : Receiver) (source : Param) (extras : List Param)
    (target : TypeRef) (mutable : Bool) :
    (headingOf receiver (source :: extras) target).text name mutable =
      Code.headingText name receiver
        (((if mutable then "mut " else "") ++ source.render) :: extras.map (·.render)) target := by
  have hextras : (extras.map fun p => (p.name, p.type.render)).map (fun p => p.1 ++ ": " ++ p.2) =
      extras.map (·.render) := List.map_map
  show "" ++ "fn " ++ name ++ "(" ++ ", ".intercalate (receiver.render :: _ :: _) ++ ") -> " ++ _ = _
  rw [hextras, String.empty_append]
  rfl

/-- **What a heading keeps** of a function to be implemented. -/
theorem repeats_of_required {scope : Scope} {text : String} {s : Signature} {f : MappingFunction}
    {receiver : Receiver} {source : Param} {extras : List Param} {target : TypeRef}
    (h : s.required scope = .ok f)
    (hs : s.Declares (IsDeclaredIn text))
    (hreceiver : f.receiver = some receiver) (hparams : f.params = source :: extras)
    (hreturns : f.returns = some target) (howned : target.isBorrowed = false) :
    (headingOf receiver (source :: extras) target).Repeats text s := by
  have hrepeatable := (Signature.isRepeatable_iff scope s).2 ⟨f, h⟩
  have htypes := fun p hp => hs.params p hp (hrepeatable.params p hp).2
  obtain ⟨-, hself, hps, hreturned, -, -⟩ := Signature.required_eq_ok_iff.1 h
  have hself := Signature.exists_of_receiverOf (hreceiver ▸ hself)
  have hkept : List.Forall₂ (fun p q => p.name = some q.1 ∧ Keeps text p.type q.2) s.params
      ((source :: extras).map fun p => (p.name, p.type.render)) := by
    rw [List.forall₂_map_right_iff, ← hparams]
    refine ((List.forall₂_and_left _ _).2 ⟨htypes, Signature.paramsOf_eq_ok_iff.1 hps⟩).imp ?_
    rintro p q ⟨hdeclared, hname, href⟩
    exact ⟨hname, keeps_of_spell hdeclared (TypeExpr.spell_withoutLifetime href)⟩
  obtain ⟨t, ht, hlifetime, hkeeps⟩ : ∃ t, s.output = some t ∧ t.lifetime? = none ∧
      Keeps text t target.render := by
    rcases Signature.returnsOf_eq_ok_iff.1 hreturned with ⟨-, hnone⟩ | ⟨t, target', ht, href, hf⟩
    · cases hnone.symm.trans hreturns
    · cases hf.symm.trans hreturns
      exact ⟨t, ht, TypeExpr.lifetime?_of_ref href howned,
        keeps_of_spell (hs.output t ht (hrepeatable.output t ht)) (TypeExpr.spell_withoutLifetime href)⟩
  exact ⟨rfl, hself, hkept, ⟨t, ht, hkeeps⟩,
    fun _ _ => Heading.isDeclared_iff rfl hself hkept ⟨t, ht, hlifetime, hkeeps⟩⟩

/-! ## Traits -/

/-- A required function of which the heading cannot be repeated keeps its trait out. -/
theorem TraitItem.rejected_of_not_isRepeatable {scope : Scope} {module : ModuleId} {t : TraitItem}
    {d : Declaration} (hd : t.declaration? scope module = some d) {f : TraitFn}
    (hf : f ∈ t.functions) (hbody : f.hasBody = false) (h : ¬f.signature.IsRepeatable) :
    ∃ reason, d = .rejected t.name reason ∧ ((∃ fault, reason = .invalidArguments fault) ∨
      ∃ function fault, reason = .unsupportedSignature function fault) := by
  obtain ⟨marker, -, rfl⟩ := Option.map_eq_some_iff.1 hd
  split
  · next u hu =>
    rw [hu] at hd
    obtain ⟨m, -, hm⟩ := exists_of_forall₂_right (functions_of_declaration? hd).flip f hf
    exact absurd ((Signature.isRepeatable_iff scope f.signature).2
      ⟨m, TraitFn.required_of_function hm hbody⟩) h
  · next reason hreason => exact ⟨reason, rfl, TraitItem.reason_of_unit hreason⟩

/-- The required functions of a unit are those of its trait without a body, in order. -/
theorem TraitItem.forall₂_required {scope : Scope} {module : ModuleId} {t : TraitItem}
    {unit : MappingUnit} (hd : t.declaration? scope module = some (.unit unit)) :
    List.Forall₂ (fun f m => f ∈ t.functions ∧ f.signature.required scope = .ok m)
      (t.functions.filter (!·.hasBody)) unit.requiredFunctions := by
  have hfunctions := forall₂_filter (p := (!·.hasBody)) (q := (·.isRequired))
    (fun f m hm => (TraitFn.name_of_function hm).2.symm) (t.functions_of_declaration? hd)
  have hmem : ∀ f ∈ t.functions.filter (!·.hasBody), f ∈ t.functions ∧ f.hasBody = false := by
    intro f hf
    rwa [List.mem_filter, Bool.not_eq_eq_eq_not, Bool.not_true] at hf
  refine ((List.forall₂_and_left _ _).2 ⟨hmem, hfunctions⟩).imp ?_
  rintro f m ⟨⟨hf, hbody⟩, hm⟩
  exact ⟨hf, TraitFn.required_of_function hm hbody⟩

/-- **What methods keep of signatures.**  A marked trait in a text with a required function that
cannot be repeated is rejected.  If a trait is generated, the impl of it has a method for each of its
required functions, in order, under a heading that repeats the signature. -/
theorem headings_of_declaration? (settings : Settings) (registry : Registry) (text : String)
    (module : ModuleId) (e : Scope × TraitItem) (he : e ∈ traits text) (d : Declaration)
    (hd : e.2.declaration? e.1 module = some d) :
    (∀ f ∈ e.2.functions, f.hasBody = false → ¬f.signature.IsRepeatable →
      ∃ reason, d = .rejected e.2.name reason ∧ ((∃ fault, reason = .invalidArguments fault) ∨
        ∃ function fault, reason = .unsupportedSignature function fault)) ∧
    ∀ unit plan, d = .unit unit → planUnit settings registry unit = .ok plan →
      ∃ start methods, (plan.generate settings).implementation =
          start ++ Code.traitPart e.2.name (plan.generate settings).implName methods ∧
        List.Forall₂ (fun f method => ∃ (heading : Heading) (mutable : Bool) (body : String),
          method = Code.methodText (heading.text f.signature.name mutable) body ∧
            heading.Repeats text f.signature) (e.2.functions.filter (!·.hasBody)) methods := by
  refine ⟨fun f hf hbody h => e.2.rejected_of_not_isRepeatable hd hf hbody h, ?_⟩
  rintro unit plan rfl hplan
  obtain ⟨hunit, -⟩ := planUnit_eq_ok_iff.1 hplan
  have hname : plan.unit.name = e.2.name := by
    obtain ⟨marker, hread⟩ := e.2.unit_of_declaration? hd
    rw [hunit, e.2.name_of_unit hread]
  obtain ⟨start, himplementation⟩ := plan.exists_implementation settings
  rw [hname] at himplementation
  refine ⟨start, _, himplementation, ?_⟩
  rw [List.forall₂_map_right_iff]
  refine (forall₂_comp (e.2.forall₂_required hd) (forall₂_functions hplan)).imp ?_
  rintro f p ⟨m, ⟨hf, hrequired⟩, mapping, hmapping, hp⟩
  obtain ⟨receiver, source, extras, sourceType, target, fields, hmaps, -, hprint⟩ :=
    print_planFunction hmapping hp
  obtain ⟨-, -, hreturns, howned, -⟩ := readMapping_eq_ok_iff.1 hmapping
  obtain rfl : mapping.target = target :=
    Option.some.inj (hreturns.symm.trans hmaps.returns)
  have hfunction : m.name = f.signature.name := (Signature.required_eq_ok_iff.1 hrequired).2.2.2.2.1
  refine ⟨headingOf receiver (source :: extras) mapping.target, Code.lendsForWriting p.resolved,
    (Code.body p.resolved).print, ?_,
    repeats_of_required hrequired ((declares_of_mem_traits he).functions f hf) hmaps.receiver
      hmaps.params hmaps.returns howned⟩
  rw [hprint, text_headingOf, hfunction]

/-! ## A heading that is not kept -/

/-- A packet is framed by a function that is not safe, and is taken for good. -/
def framerText : List String :=
  ["struct Packet", inBraces "size: u32", "struct Frame", inBraces "size: u32",
    "#[mapper_derive::mapper] ", "trait Framer \x7b", "unsafe fn frame(", "&\x27static self, ",
    "packet: &\x27static Packet", ") -> Frame; \x7d"]

def framerSources : List (ModuleId × String) := [("frames.rs", String.join framerText)]

def framerFunction : MappingFunction :=
  ⟨"frame", some .ref, [⟨"packet", "Packet", "Packet", .shared⟩], some (.named "Frame"), .required⟩

def framer : MappingUnit := ⟨"Framer", "frames.rs", "", false, none, none, [framerFunction]⟩

def framerDeclared : List Declaration :=
  [.struct "Packet" "frames.rs" (some [⟨"size", .named "u32"⟩]),
    .struct "Frame" "frames.rs" (some [⟨"size", .named "u32"⟩]), .unit framer]

def framerPlan : Plan :=
  ⟨framer, none, [⟨⟨framerFunction, ⟨"packet", "Packet", "Packet", .shared⟩, .named "Frame",
    [⟨⟨"size", .named "u32"⟩, .property "size"⟩]⟩, "frames.rs", "frames.rs"⟩]⟩

/-- What is read of the sources: their declarations, and the trait with the receiver of its
function. -/
theorem read_framerSources :
    (framerSources.flatMap fun s => (declarations? s.1 s.2).getD []) = framerDeclared ∧
    ∃ s ∈ framerSources, ∃ e ∈ traits s.2, e.2.declaration? e.1 s.1 = some (.unit framer) ∧
      (e.2.functions.filter (!·.hasBody)).map (fun f => f.signature.receiver.map (·.spell)) =
        [some "&\x27static self"] := by
  simp only [framerSources, List.flatMap_cons, List.flatMap_nil, List.mem_singleton,
    exists_eq_left, declarations?, traits, items?_join]
  decide +kernel

theorem planUnit_framer :
    planUnit .standard ((Generator.fresh .standard).addSources framerSources).registry framer =
      .ok framerPlan := by
  rw [Generator.addSources_eq_declareAll, read_framerSources.1]
  rfl

/-- The method of the implementation repeats what it can. -/
theorem headings_of_declaration?_framer :
    ∃ s ∈ framerSources, ∃ e ∈ traits s.2, e.2.declaration? e.1 s.1 = some (.unit framer) ∧
      planUnit .standard ((Generator.fresh .standard).addSources framerSources).registry framer =
        .ok framerPlan ∧
      ∃ start methods, (framerPlan.generate .standard).implementation =
          start ++ Code.traitPart e.2.name (framerPlan.generate .standard).implName methods ∧
        List.Forall₂ (fun f method => ∃ (heading : Heading) (mutable : Bool) (body : String),
          method = Code.methodText (heading.text f.signature.name mutable) body ∧
            heading.Repeats s.2 f.signature) (e.2.functions.filter (!·.hasBody)) methods := by
  obtain ⟨s, hs, e, he, hd, -⟩ := read_framerSources.2
  have hplan := planUnit_framer
  exact ⟨s, hs, e, he, hd, hplan,
    (headings_of_declaration? .standard _ s.2 s.1 e he _ hd).2 framer framerPlan rfl hplan⟩

/-- **A method does not always have the heading of its signature.**  The one that frames packets
is said to be safe, and to take every packet. -/
theorem not_forall_heading? :
    ¬∀ (settings : Settings) (sources : List (ModuleId × String)) (unit : MappingUnit) (plan : Plan),
      planUnit settings ((Generator.fresh settings).addSources sources).registry unit = .ok plan →
      ∀ s ∈ sources, ∀ e ∈ traits s.2, e.2.declaration? e.1 s.1 = some (.unit unit) →
        ∃ start methods, (plan.generate settings).implementation =
            start ++ Code.traitPart e.2.name (plan.generate settings).implName methods ∧
          List.Forall₂ (fun f method => ∃ (heading : Heading) (mutable : Bool) (body : String),
            method = Code.methodText (heading.text f.signature.name mutable) body ∧
              ∀ params output, f.signature.DeclaredBy s.2 params output →
                heading.IsDeclared f.signature params output)
            (e.2.functions.filter (!·.hasBody)) methods := by
  intro h
  obtain ⟨s, hs, e, he, hd, hreceivers⟩ := read_framerSources.2
  obtain ⟨start, methods, himplementation, hmethods⟩ :=
    h .standard framerSources framer framerPlan planUnit_framer s hs e he hd
  have hrequired := e.2.forall₂_required hd
  obtain ⟨f, hf, hself⟩ := List.map_eq_singleton_iff.1 hreceivers
  rw [hf] at hmethods hrequired
  cases hrequired with
  | cons hread _ =>
    cases hmethods with
    | cons hmethod hnil =>
      cases hnil
      obtain ⟨heading, mutable, body, rfl, hheading⟩ := hmethod
      obtain ⟨params, output, hdeclared⟩ := ((f.signature.isRepeatable_iff e.1).2
        ⟨_, hread.2⟩).exists_declaredBy ((declares_of_mem_traits he).functions f hread.1)
      have hlifetime : heading.self = "&\x27static self" :=
        (Option.some.inj (hself.symm.trans (hheading params output hdeclared).self)).symm
      -- the lifetime of the receiver is nowhere in the text
      have hmem : '\x27' ∈ ((framerPlan.generate .standard).implementation).toList := by
        rw [himplementation]
        have hchar : '\x27' ∈ heading.self.toList := by
          rw [hlifetime]
          decide
        have hheading := heading.mem_text hchar f.signature.name mutable
        simp [Code.traitPart, Code.methodText, String.toList_append, hheading]
      exact absurd hmem (by decide +kernel)

end Source

end Mapwright
