import Mapwright.Proofs.Except
import Mapwright.Proofs.Parsing
import Mapwright.Source.Declarations

/-!
# The names of a well-formed text

Keywords have few places in a path or an import.  No segment of a path is an
underscore.  An import may bind an underscore, to which nothing can refer; any
other keyword that it binds is also the last name of the path it stands for.
What holds of all types that the grammar reads holds of the types in items too.

    the grammar of any depth gives well-named types               (`yields_type_upTo`)
    it gives well-named items, with types of any kind it reads    (`declares_upTo`)
    items? text = some items → every item is well-named           (`wellNamed_of_items?`)
-/

namespace Mapwright.Source

open Token Parse

/-! ## Well-named items -/

/-- No segment of the path is an underscore. -/
def Path.WellNamed (p : Path) : Prop := ∀ s ∈ p.segments, s.name ≠ "_"

def NamePath.WellNamed (p : NamePath) : Prop := ∀ n ∈ p.names, n ≠ "_"

/-- The type is no path, or a well-named one, below any references. -/
def TypeExpr.WellNamed : TypeExpr → Prop
  | .path p => p.WellNamed
  | .reference _ _ target => target.WellNamed
  | _ => True

section

variable (P : TypeExpr → Prop)

/-- The types of a signature have a property. -/
structure Signature.Declares (s : Signature) : Prop where
  params : ∀ p ∈ s.params, P p.type
  output : ∀ t ∈ s.output, P t

/-- The attributes of a trait are well-named, and the types in its functions have a property. -/
structure TraitItem.Declares (t : TraitItem) : Prop where
  attributes : ∀ a ∈ t.attributes, a.path.WellNamed
  functions : ∀ f ∈ t.functions, f.signature.Declares P

/-- The types of named fields have a property. -/
def Fields.Declares : Fields → Prop
  | .named fields => ∀ f ∈ fields, P f.2
  | _ => True

end

/-- A keyword that is bound is an underscore, or else the last name of what it stands for. -/
def BindsWell (binding : String × List String) : Prop :=
  isKeyword binding.1 = true → binding.1 = "_" ∨ binding.2.getLast? = some binding.1

def UseTree.WellNamed (tree : UseTree) : Prop := ∀ path, ∀ b ∈ tree.bindings path, BindsWell b

/-- An item, and the items inside it, bind well what they do, and the types in them have a
property. -/
inductive Item.Declares (P : TypeExpr → Prop) : Item → Prop
  | struct {name fields} (h : fields.Declares P) : Declares P (.struct name fields)
  | enumeration {name} : Declares P (.enumeration name)
  | implementation {ofTrait self methods} (hself : P self)
    (hmethods : ∀ s ∈ methods, s.Declares P) : Declares P (.implementation ofTrait self methods)
  | trait {t} (h : t.Declares P) : Declares P (.trait t)
  | outside : Declares P (.module none)
  | inside {items} (h : ∀ item ∈ items, Declares P item) : Declares P (.module (some items))
  | imported {tree} (h : tree.WellNamed) : Declares P (.use tree)
  | aliased {name type} (h : isKeyword name = false) : Declares P (.alias name type)
  | other : Declares P .other

/-- The types of a signature are well-named. -/
abbrev Signature.WellNamed : Signature → Prop := Signature.Declares TypeExpr.WellNamed

abbrev TraitItem.WellNamed : TraitItem → Prop := TraitItem.Declares TypeExpr.WellNamed

abbrev Fields.WellNamed : Fields → Prop := Fields.Declares TypeExpr.WellNamed

/-- The types of an item, and of those inside it, are well-named, and it binds well what it does. -/
abbrev Item.WellNamed : Item → Prop := Item.Declares TypeExpr.WellNamed

theorem ne_underscore {w : String} (h : isKeyword w = false) : w ≠ "_" := by
  rintro rfl
  cases h

theorem Path.WellNamed.close {p : Path} (hp : p.WellNamed) (args : SegmentArgs) :
    (p.close args).WellNamed := by
  have hnames : ∀ ss, (closeSegments args ss).map (·.name) = ss.map (·.name) := by
    intro ss
    induction ss with
    | nil => rfl
    | cons s ss ih =>
      cases ss with
      | nil => rfl
      | cons s' ss => exact congrArg (s.name :: ·) ih
  intro s hs
  have hmem : s.name ∈ p.segments.map (·.name) := hnames p.segments ▸ List.mem_map_of_mem hs
  obtain ⟨s', hs', hname⟩ := List.mem_map.1 hmem
  exact hname ▸ hp s' hs'

theorem Path.WellNamed.append {p : Path} (hp : p.WellNamed) {ss : List Segment}
    (hss : ∀ s ∈ ss, s.name ≠ "_") : (p.append ss).WellNamed := by
  intro s hs
  rcases List.mem_append.1 hs with hs | hs
  · exact hp s hs
  · exact hss s hs

theorem UseTree.wellNamed_name (w : String) : (UseTree.name w).WellNamed := by
  intro path b hb
  cases List.mem_singleton.1 hb
  exact fun _ => Or.inr List.getLast?_concat

theorem UseTree.wellNamed_rename {w a : String} (ha : a = "_" ∨ isKeyword a = false) :
    (UseTree.rename w a).WellNamed := by
  intro path b hb hkeyword
  cases List.mem_singleton.1 hb
  rcases ha with ha | ha
  · exact Or.inl ha
  · rw [ha] at hkeyword
    cases hkeyword

theorem UseTree.wellNamed_glob : UseTree.glob.WellNamed := fun _ _ hb => absurd hb List.not_mem_nil

theorem UseTree.wellNamed_group {trees : List UseTree} (h : ∀ t ∈ trees, t.WellNamed) :
    (UseTree.group trees).WellNamed := by
  intro path
  rw [UseTree.bindings]
  induction trees with
  | nil => exact fun b hb => absurd hb List.not_mem_nil
  | cons t ts ih =>
    obtain ⟨ht, hts⟩ := List.forall_mem_cons.1 h
    intro b hb
    rcases List.mem_append.1 hb with hb | hb
    · exact ht path b hb
    · exact ih hts b hb

namespace Grammar

variable {g : Grammar} [Taking g] {whole : List Token}

/-! ## Paths and types

In a rule, what is read but not kept is passed over by `after`, and a step that may be left out by
`optionally`. -/

theorem yields_nameOr_ne {words : List String} (h : "_" ∉ words) :
    Yields whole (nameOr words) fun w => w ≠ "_" := by
  refine (yields_nameOr whole words).imp fun w hw => ?_
  rcases hw with hw | hw
  · rintro rfl
    exact h hw
  · exact ne_underscore hw

theorem yields_segment (inExpr : Bool) : Yields whole (segment g inExpr) fun s => s.name ≠ "_" := by
  intro ts s rest hts h
  unfold segment at h
  rw [run_next_bind] at h
  split at h
  · next hstarts =>
    obtain ⟨⟨w, ts'⟩, hw, hs⟩ := Option.bind_eq_some_iff.1 h
    cases hs
    rw [run_word_eq_some_iff.1 hw] at hstarts
    have hmem := startsAnyOf_ident.1 hstarts
    rintro rfl
    simp at hmem
  · have hself : "_" ∉ ["Self"] := by decide
    refine (yields_nameOr_ne hself).bind (S := fun s => s.name ≠ "_") (fun w hw => ?_) ts s rest hts h
    exact .after fun _ => .ite (fun _ => .after fun _ => .pure hw) (fun _ => .pure hw)

theorem yields_moreSegments (inExpr : Bool) :
    Yields whole (moreSegments g inExpr) fun ss => ∀ s ∈ ss, s.name ≠ "_" :=
  .many (.after fun _ => yields_segment inExpr) _

theorem yields_path (inExpr : Bool) : Yields whole (path g inExpr) Path.WellNamed := by
  unfold path
  refine .after fun absolute => (yields_segment inExpr).bind fun first hfirst => ?_
  refine (yields_moreSegments inExpr).bind fun rest hrest => .pure ?_
  exact List.forall_mem_cons.2 ⟨hfirst, hrest⟩

theorem yields_anyPath (inExpr : Bool) :
    Yields whole (anyPath g inExpr) fun r => r.1 = false → r.2.WellNamed := by
  unfold anyPath
  refine .after fun isQualified => .ite (fun _ => ?_) (fun _ => ?_)
  · refine .after fun _ => .after fun _ => ?_
    extract_lets rest
    have hrest : ∀ root, Yields whole (rest root) fun r => r.1 = false → r.2.WellNamed :=
      fun root => .after fun _ => .after fun _ => .after fun segments => .pure fun h => by cases h
    exact .ite (fun _ => .after hrest) (fun _ => .after hrest)
  · exact (yields_path inExpr).map fun p hp _ => hp

theorem yields_calledPath {p : Path} (hp : p.WellNamed) : Yields whole (calledPath g p) Path.WellNamed := by
  have hfuel : ∀ fuel p, p.WellNamed → Yields whole (calledPathUpTo g fuel p) Path.WellNamed := by
    intro fuel
    induction fuel with
    | zero => exact fun p hp => .pure hp
    | succ fuel ih =>
      intro p hp
      refine .after fun called => .ite (fun _ => ?_) (fun _ => .pure hp)
      refine .after fun _ => .after fun args => .ite (fun _ => ?_) (fun _ => ?_)
      · exact (yields_moreSegments false).bind fun ss hss => ih _ ((hp.close args).append hss)
      · exact ih _ ((hp.close args).append (List.forall_mem_nil _))
  exact .after fun ts => hfuel _ p hp

theorem yields_pathType (plus binder : Bool) :
    Yields whole (pathType g plus binder) fun r => r.1.WellNamed := by
  unfold pathType
  refine (yields_anyPath false).bind fun r hr => ?_
  obtain ⟨isQualified, p⟩ := r
  cases isQualified with
  | true => exact .after fun p => .pure trivial
  | false =>
    refine (yields_calledPath (hr rfl)).bind fun p hp => ?_
    refine .after fun isMacro => .ite (fun _ => ?_) (fun _ => ?_)
    · exact .after fun _ => .after fun _ => .pure trivial
    · refine .after fun isSum => .ite (fun _ => .after fun more => .pure trivial) (fun _ => ?_)
      exact .ite (fun _ => .pure trivial) (fun _ => .pure hp)

theorem yields_parenType (plus : Bool) : Yields whole (parenType g plus) fun r => r.1.WellNamed := by
  unfold parenType
  refine .after fun e => ?_
  cases e with
  | tuple elems => exact .pure trivial
  | bound b =>
    refine .after fun more => ?_
    cases more <;> exact .pure trivial
  | type t b =>
    cases b with
    | none => exact .pure trivial
    | some b =>
      exact .after fun isSum => .ite (fun _ => .after fun more => .pure trivial) (fun _ => .pure trivial)

theorem yields_functionPointer (binder : Bool) :
    Yields whole (functionPointer g binder) TypeExpr.WellNamed := by
  unfold functionPointer
  exact .after fun _ => .after fun _ => .after fun _ => .after fun _ => .after fun _ => .pure trivial

theorem yields_bracketType : Yields whole (bracketType g) TypeExpr.WellNamed := by
  refine .group (.after fun elem => .after fun isArray => .ite (fun _ => ?_) (fun _ => ?_)) .bracket
  · exact .after fun length => .pure trivial
  · exact .pure trivial

theorem yields_pointerType : Yields whole (pointerType g) TypeExpr.WellNamed := by
  unfold pointerType
  refine .after fun _ => .after fun mutable => .ite (fun _ => ?_) (fun _ => ?_)
  · exact .after fun _ => .after fun target => .pure trivial
  · exact .after fun target => .pure trivial

theorem yields_dynType (plus : Bool) : Yields whole (dynType g plus) TypeExpr.WellNamed := by
  unfold dynType
  refine .after fun _ => .after fun star => .after fun bounds => .pure ?_
  cases star <;> exact trivial

theorem yields_implType (plus : Bool) : Yields whole (implType g plus) TypeExpr.WellNamed :=
  .after fun _ => .after fun _ => .pure trivial

theorem yields_referenceType (htype : Yields whole (g.type false) fun r => r.1.WellNamed) :
    Yields whole (referenceType g) TypeExpr.WellNamed := by
  have htarget : Yields whole (plainType g) TypeExpr.WellNamed := htype.map fun _ ht => ht
  unfold referenceType
  exact .after fun _ => .after fun _ => .after fun _ => htarget.map fun _ ht => ht

theorem yields_typeRule (htype : Yields whole (g.type false) fun r => r.1.WellNamed) (plus : Bool) :
    Yields whole (typeRule g plus) fun r => r.1.WellNamed := by
  -- every kind of type but the bare paths and the bounds is made by a rule of its own
  have halone : ∀ {p : Parse TypeExpr} [Takes p], Yields whole p TypeExpr.WellNamed →
      Yields whole (do return (← p, (none : Option Bound))) fun r => r.1.WellNamed :=
    fun hp => hp.map fun _ ht => ht
  unfold typeRule
  refine .after fun binder => .after fun _ => .after fun _ => ?_
  refine .ite (fun _ => yields_parenType plus) (fun _ => .after fun _ => ?_)
  refine .ite (fun _ => halone (yields_functionPointer binder)) (fun _ => .after fun _ => ?_)
  refine .ite (fun _ => yields_pathType plus binder) (fun _ => .after fun _ => ?_)
  refine .ite (fun _ => halone (yields_dynType plus)) (fun _ => .after fun _ => ?_)
  refine .ite (fun _ => halone yields_bracketType) (fun _ => .after fun _ => ?_)
  refine .ite (fun _ => halone yields_pointerType) (fun _ => .after fun _ => ?_)
  refine .ite (fun _ => halone (yields_referenceType htype)) (fun _ => .after fun _ => ?_)
  refine .ite (fun _ => .pure trivial) (fun _ => .after fun _ => ?_)
  refine .ite (fun _ => halone (yields_implType plus)) (fun _ => .after fun _ => ?_)
  refine .ite (fun _ => .pure trivial) (fun _ => .after fun _ => ?_)
  exact .after fun bounds => .pure trivial

omit [Taking g] in
/-- **The grammar of any depth gives well-named types.** -/
theorem yields_type_upTo (depth : Nat) (plus : Bool) :
    Yields whole ((upTo depth).type plus) fun r => r.1.WellNamed := by
  induction depth generalizing plus with
  | zero => exact .failure
  | succ depth ih => exact yields_typeRule (ih false) plus

/-! ## Attributes -/

theorem yields_namePath : Yields whole namePath NamePath.WellNamed := by
  have hroots : "_" ∉ rootWords := by decide
  refine .after fun absolute => ?_
  exact ((yields_nameOr_ne hroots).chained _ _).map fun names hnames => hnames

theorem yields_attributeBody (inner : Bool) :
    Yields whole (attributeBody g inner) fun a => a.path.WellNamed := by
  have hpath : Yields whole attributePath NamePath.WellNamed := by
    refine .after fun isUnsafe => .ite (fun _ => .pure ?_) (fun _ => yields_namePath)
    intro n hn
    rw [List.mem_singleton.1 hn]
    decide
  refine .group ?_ .bracket
  exact hpath.bind fun path hp => .after fun _ => .pure hp

theorem yields_outerAttributes :
    Yields whole (outerAttributes g) fun as => ∀ a ∈ as, a.path.WellNamed :=
  .many (.after fun _ => yields_attributeBody false) _

theorem yields_innerAttributes :
    Yields whole (innerAttributes g) fun as => ∀ a ∈ as, a.path.WellNamed :=
  .many (.after fun _ => .after fun _ => yields_attributeBody true) _

/-! ## Functions -/

/-- The types that are read have a property, and so have those in the items that are nested. -/
structure Declares (g : Grammar) (whole : List Token) (P : TypeExpr → Prop) : Prop where
  type : ∀ plus, Yields whole (g.type plus) fun r => P r.1
  unspelled : P .unspelled
  items : Yields whole g.items fun items => ∀ item ∈ items, item.Declares P

variable {P : TypeExpr → Prop}

theorem yields_wholeType (hg : g.Declares whole P) : Yields whole (wholeType g) P :=
  (hg.type true).map fun _ ht => ht

theorem yields_anyParam (hg : g.Declares whole P) :
    Yields whole (anyParam g) fun q => ∀ p ∈ q.typed?, P p.type := by
  unfold anyParam
  refine .after fun _ => .after fun dots => .ite (fun _ => .pure forall_mem_none) (fun _ => ?_)
  refine .after fun ts => ?_
  cases StateT.run (selfParam g) ts with
  | some found =>
    intro _ _ _ _ h
    cases h
    exact forall_mem_none
  | none =>
    refine .after fun bare => .ite (fun _ => ?_) (fun _ => ?_)
    · exact (yields_wholeType hg).map fun t ht => forall_mem_some ht
    · refine .after fun pattern => .after fun _ => .after fun dots => ?_
      refine .ite (fun _ => .pure forall_mem_none) (fun _ => ?_)
      exact (yields_wholeType hg).map fun t ht => forall_mem_some ht

theorem yields_params (hg : g.Declares whole P) :
    Yields whole (params g) fun ps => ∀ q ∈ ps, ∀ p ∈ q.typed?, P p.type :=
  .group ((yields_anyParam hg).commaList.bind fun _ hps => .after fun _ => .pure hps) .paren

theorem yields_output? (hg : g.Declares whole P) (plus : Bool) :
    Yields whole (output? g plus) fun o => ∀ t ∈ o, P t := by
  refine .after fun arrow => .ite (fun _ => ?_) (fun _ => .pure forall_mem_none)
  exact (hg.type plus).map fun r hr => forall_mem_some hr

theorem yields_signature (hg : g.Declares whole P) (safe : Bool) :
    Yields whole (signature g safe) (Signature.Declares P) := by
  unfold signature
  refine .after fun isConst => .after fun isAsync => .after fun unsafety => .optionally fun _ => ?_
  refine .after fun foreign => .after fun _ => .after fun name => .after fun generic => ?_
  refine (yields_params hg).bind fun ps hps => (yields_output? hg true).bind fun o ho => ?_
  exact .after fun _ => .pure ⟨List.forall_mem_filterMap.2 hps, ho⟩

/-! ## Items -/

theorem mem_of_mapM_id {α : Type} {os : List (Option α)} {as : List α} (h : os.mapM id = some as) :
    ∀ a ∈ as, some a ∈ os := by
  induction os generalizing as with
  | nil =>
    cases h
    exact fun a ha => absurd ha List.not_mem_nil
  | cons o os ih =>
    rw [List.mapM_cons] at h
    obtain ⟨a, ha, h⟩ := Option.bind_eq_some_iff.1 h
    obtain ⟨as', has', h⟩ := Option.bind_eq_some_iff.1 h
    cases h
    have ho : o = some a := ha
    rw [ho]
    intro b hb
    rcases List.mem_cons.1 hb with rfl | hb
    · exact List.mem_cons_self
    · exact List.mem_cons_of_mem _ (ih has' b hb)

theorem yields_namedField (hg : g.Declares whole P) (fuel : Nat) :
    Yields whole (namedFieldUpTo g fuel) fun f => P f.2 := by
  cases fuel with
  | zero => exact .failure
  | succ fuel =>
    refine .after fun _ => .after fun _ => .after fun name => .after fun _ => .after fun nameless => ?_
    refine .ite (fun _ => ?_) (fun _ => (yields_wholeType hg).map fun t ht => ht)
    exact .after fun _ => .after fun _ => .pure hg.unspelled

theorem yields_namedFields (hg : g.Declares whole P) :
    Yields whole (namedFields g) fun fs => ∀ f ∈ fs, P f.2 :=
  .after fun ts => .group (yields_namedField hg ts.length).commaList .brace

theorem yields_structItem (hg : g.Declares whole P) : Yields whole (structItem g) (Item.Declares P) := by
  unfold structItem
  refine .after fun _ => .after fun name => .after fun _ => .after fun _ => .after fun _ => ?_
  refine .ite (fun _ => ?_) (fun _ => .after fun _ => ?_)
  · exact .after fun _ => .after fun _ => .after fun _ => .pure (.struct trivial)
  refine .ite (fun _ => (yields_namedFields hg).map fun fs hfs => .struct hfs) (fun _ => ?_)
  exact .after fun _ => .pure (.struct trivial)

theorem yields_enumItem : Yields whole (enumItem g) (Item.Declares P) := by
  unfold enumItem
  exact .after fun _ => .after fun _ => .after fun _ => .after fun _ => .after fun _ =>
    .pure .enumeration

theorem yields_typeItem (early late : Bool) :
    Yields whole (typeItem g early late) fun r => isKeyword r.1 = false := by
  unfold typeItem
  refine .after fun _ => (yields_name whole).bind fun name hname => .after fun _ => .after fun bounded => ?_
  refine .optionally fun _ => ?_
  extract_lets rest
  have hrest : ∀ constrained, Yields whole (rest constrained) fun r => isKeyword r.1 = false := by
    intro constrained
    refine .after fun isDefined => ?_
    extract_lets done
    have hdone : ∀ type, Yields whole (done type) fun r => isKeyword r.1 = false :=
      fun type => .optionally fun _ => .after fun _ => .pure hname
    exact .ite (fun _ => .after fun t => .after hdone) (fun _ => .after hdone)
  exact .ite (fun _ => .after hrest) (fun _ => .after hrest)

theorem yields_traitMember (hg : g.Declares whole P) :
    Yields whole (traitMember g) fun m => ∀ f ∈ m, f.signature.Declares P := by
  unfold traitMember
  refine .after fun _ => .after fun vis => .after fun isDefault => .after fun _ => ?_
  refine .ite (fun _ => ?_) (fun _ => .after fun _ => ?_)
  · refine (yields_signature hg false).bind fun s hs => .after fun hasBody => .pure ?_
    split
    · exact forall_mem_some hs
    · exact forall_mem_none
  refine .ite (fun _ => .after fun _ => .pure forall_mem_none) (fun _ => .after fun _ => ?_)
  refine .ite (fun _ => .after fun _ => .pure forall_mem_none) (fun _ => ?_)
  exact .after fun _ => .after fun _ => .pure forall_mem_none

theorem yields_traitItem (hg : g.Declares whole P) {outer : List Attribute} (vis : Visibility)
    (houter : ∀ a ∈ outer, a.path.WellNamed) : Yields whole (traitItem g outer vis) (Item.Declares P) := by
  unfold traitItem
  refine .after fun unsafety => .after fun auto => .after fun _ => .after fun name => ?_
  refine .after fun generic => .after fun _ => .ite (fun _ => ?_) (fun _ => .after fun _ => ?_)
  · exact .after fun _ => .after fun _ => .after fun _ => .after fun _ => .pure .other
  refine .optionally fun _ => .after fun _ => .group ?_ .brace
  refine yields_innerAttributes.bind fun inner hinner => ?_
  refine ((yields_traitMember hg).many atEnd).map fun ms hms => .trait ⟨?_, ?_⟩
  · exact List.forall_mem_append.2 ⟨houter, hinner⟩
  · exact List.forall_mem_filterMap.2 hms

theorem yields_implMember (hg : g.Declares whole P) :
    Yields whole (implMember g) fun m => ∀ s ∈ m, s.Declares P := by
  unfold implMember
  refine .after fun _ => .after fun vis => .after fun isDefault => .optionally fun _ => .after fun _ => ?_
  refine .ite (fun _ => ?_) (fun _ => .after fun _ => ?_)
  · refine (yields_signature hg false).bind fun s hs => .after fun hasBody => .pure ?_
    split
    · exact forall_mem_some hs
    · exact forall_mem_none
  refine .ite (fun _ => .after fun _ => .pure forall_mem_none) (fun _ => .after fun _ => ?_)
  refine .ite (fun _ => .after fun _ => .pure forall_mem_none) (fun _ => ?_)
  exact .after fun _ => .after fun _ => .pure forall_mem_none

theorem yields_implBody (hg : g.Declares whole P) :
    Yields whole (implBody g) fun ss => ∀ s ∈ ss, s.Declares P := by
  refine .after fun _ => .group (.after fun _ => ?_) .brace
  exact ((yields_implMember hg).many _).map fun ms hms => List.forall_mem_filterMap.2 hms

theorem yields_implItem (hg : g.Declares whole P) (vis : Visibility) :
    Yields whole (implItem g vis) (Item.Declares P) := by
  unfold implItem
  refine .after fun _ => .after fun _ => .after fun _ => .after fun _ => .optionally fun _ => ?_
  refine .after fun isConst => ?_
  extract_lets plain rest
  have hrest : ∀ u, Yields whole (rest u) (Item.Declares P) := by
    intro u
    refine .after fun negative => .optionally fun _ => ?_
    refine (yields_wholeType hg).bind fun first hfirst => ?_
    refine .after fun _ => .ite (fun _ => ?_) (fun _ => ?_)
    · refine (yields_wholeType hg).bind fun self hself => (yields_implBody hg).map fun ms hms => ?_
      split
      · exact .implementation hself hms
      · exact .other
    · refine .after fun _ => (yields_implBody hg).map fun ms hms => ?_
      split
      · exact .implementation hfirst hms
      · exact .other
  exact .ite (fun _ => .after fun _ => .after hrest) (fun _ => hrest ())

theorem yields_useTree (fuel : Nat) (rooted : Bool) :
    Yields whole (useTreeUpTo fuel rooted) fun r => ∀ tree ∈ r, tree.WellNamed := by
  induction fuel generalizing rooted with
  | zero => exact .failure
  | succ fuel ih =>
    refine .after fun _ => .ite (fun _ => ?_) (fun _ => .after fun _ => ?_)
    · refine .after fun w => .after fun _ => .ite (fun _ => ?_) (fun _ => .after fun _ => ?_)
      · refine (ih false).map fun r hr tree htree => ?_
        obtain ⟨rest, hrest, rfl⟩ := Option.map_eq_some_iff.1 htree
        exact fun path => hr rest hrest (path ++ [w])
      refine .ite (fun _ => ?_) (fun _ => .pure (forall_mem_some (UseTree.wellNamed_name w)))
      refine (yields_nameOr whole ["_"]).map fun a ha => forall_mem_some (UseTree.wellNamed_rename ?_)
      exact ha.imp List.mem_singleton.1 id
    refine .ite (fun _ => .pure (forall_mem_some UseTree.wellNamed_glob)) (fun _ => ?_)
    refine .bind (R := fun rs => ∀ r ∈ rs, ∀ tree ∈ r, tree.WellNamed)
      (.group (.commaList ?_) .brace) fun rs hrs => .pure fun tree htree => ?_
    · extract_lets rest
      have hrest : ∀ absolute, Yields whole (rest absolute) fun r => ∀ tree ∈ r, tree.WellNamed := by
        refine fun absolute => (ih _).map fun r hr => ?_
        split
        · exact forall_mem_none
        · exact hr
      exact .ite (fun _ => .after hrest) (fun _ => .after hrest)
    · obtain ⟨trees, htrees, rfl⟩ := Option.map_eq_some_iff.1 htree
      exact UseTree.wellNamed_group fun t ht => hrs (some t) (mem_of_mapM_id htrees t ht) t rfl

theorem yields_useItem : Yields whole useItem (Item.Declares P) := by
  refine .after fun _ => .after fun absolute => .after fun ts => ?_
  refine (yields_useTree _ _).bind fun r hr => .after fun _ => .pure ?_
  cases r with
  | none => exact .other
  | some tree => exact .imported (hr tree rfl)

theorem yields_moduleItem (hg : g.Declares whole P) : Yields whole (moduleItem g) (Item.Declares P) := by
  unfold moduleItem
  refine .after fun _ => .after fun _ => .after fun _ => .after fun elsewhere => ?_
  refine .ite (fun _ => .pure .outside) (fun _ => .group (.after fun _ => ?_) .brace)
  exact hg.items.map fun items hitems => .inside hitems

theorem yields_item (hg : g.Declares whole P) : Yields whole (item g) (Item.Declares P) := by
  refine yields_outerAttributes.bind fun outer houter => ?_
  unfold itemRest
  refine .after fun vis => .after fun _ => ?_
  refine .ite (fun _ => .after fun _ => .after fun _ => .pure .other) (fun _ => .after fun _ => ?_)
  refine .ite (fun _ => .after fun _ => .pure .other) (fun _ => .after fun _ => ?_)
  refine .ite (fun _ => .after fun _ => .after fun _ => .pure .other) (fun _ => .after fun _ => ?_)
  refine .ite (fun _ => yields_useItem) (fun _ => .after fun _ => ?_)
  refine .ite (fun _ => .after fun _ => .pure .other) (fun _ => .after fun _ => ?_)
  refine .ite (fun _ => .after fun _ => .pure .other) (fun _ => .after fun _ => ?_)
  refine .ite (fun _ => yields_traitItem hg vis houter) (fun _ => .after fun _ => ?_)
  refine .ite (fun _ => yields_implItem hg vis) (fun _ => .after fun _ => ?_)
  refine .ite (fun _ => yields_moduleItem hg) (fun _ => .after fun _ => ?_)
  refine .ite (fun _ => (yields_typeItem true false).bind fun r hr => ?_) (fun _ => .after fun _ => ?_)
  · obtain ⟨name, type⟩ := r
    cases type with
    | none => exact .pure .other
    | some type => exact .pure (.aliased hr)
  refine .ite (fun _ => yields_structItem hg) (fun _ => .after fun _ => ?_)
  refine .ite (fun _ => yields_enumItem) (fun _ => .after fun _ => ?_)
  refine .ite (fun _ => .after fun _ => .pure .other) (fun _ => .after fun _ => ?_)
  refine .ite (fun _ => .after fun _ => .pure .other) (fun _ => ?_)
  exact .after fun _ => .after fun _ => .pure .other

theorem yields_itemsRule (hg : g.Declares whole P) :
    Yields whole (itemsRule g) fun items => ∀ item ∈ items, item.Declares P :=
  (yields_item hg).many atEnd

omit [Taking g] in
/-- **The grammar of any depth gives well-named items**, with types that have any property that all
types have that it reads. -/
theorem declares_upTo (htype : ∀ depth plus, Yields whole ((upTo depth).type plus) fun r => P r.1)
    (hunspelled : P .unspelled) (depth : Nat) : (upTo depth).Declares whole P := by
  induction depth with
  | zero => exact ⟨htype 0, hunspelled, .failure⟩
  | succ depth ih => exact ⟨htype (depth + 1), hunspelled, yields_itemsRule ih⟩

end Grammar

/-! ## Marker arguments -/

def Argument.WellNamed : Argument → Prop
  | .base path => path.WellNamed
  | _ => True

theorem wellNamed_argument {ts rest : List Token} {a : Argument} (h : argument ts = .ok (a, rest)) :
    a.WellNamed := by
  unfold argument at h
  obtain ⟨⟨name, ts⟩, -, h⟩ := bind_eq_ok_iff.1 h
  simp only at h
  split at h
  · split at h
    · obtain ⟨⟨wanted, ts⟩, -, h⟩ := bind_eq_ok_iff.1 h
      cases h
      trivial
    · cases h
      trivial
  · obtain ⟨ts, -, h⟩ := bind_eq_ok_iff.1 h
    obtain ⟨⟨p, rest⟩, hp, h⟩ := bind_eq_ok_iff.1 h
    cases h
    unfold pathValue at hp
    split at hp
    · next found hfound =>
      cases hp
      exact Grammar.yields_path false ts _ _ (List.suffix_refl ts) hfound
    · cases hp
  · obtain ⟨ts, -, h⟩ := bind_eq_ok_iff.1 h
    obtain ⟨⟨name, ts⟩, -, h⟩ := bind_eq_ok_iff.1 h
    cases h
    trivial
  · cases h

theorem wellNamed_arguments {ts : List Token} {as : List Argument} (h : arguments ts = .ok as) :
    ∀ a ∈ as, a.WellNamed := by
  have hfuel : ∀ fuel ts as, argumentsUpTo fuel ts = .ok as → ∀ a ∈ as, a.WellNamed := by
    intro fuel
    induction fuel with
    | zero =>
      intro ts as h
      cases h
      exact fun a ha => absurd ha List.not_mem_nil
    | succ fuel ih =>
      intro ts as h
      cases ts with
      | nil =>
        cases h
        exact fun a ha => absurd ha List.not_mem_nil
      | cons t ts =>
        rw [argumentsUpTo] at h
        · obtain ⟨⟨a, rest⟩, ha, h⟩ := bind_eq_ok_iff.1 h
          have hhead : a.WellNamed := wellNamed_argument ha
          simp only at h
          split at h
          · cases h
            exact List.forall_mem_singleton.2 hhead
          · obtain ⟨as', has, h⟩ := bind_eq_ok_iff.1 h
            cases h
            exact List.forall_mem_cons.2 ⟨hhead, ih _ _ has⟩
          · cases h
        · exact List.cons_ne_nil t ts
  exact hfuel _ ts as h

/-- The base that a marker names is well-named. -/
theorem wellNamed_base {a : Attribute} {settings : MarkerSettings} (h : a.settings = .ok settings) :
    ∀ p ∈ settings.base, p.WellNamed := by
  have hfold : ∀ (as : List Argument) (s : MarkerSettings), (∀ a ∈ as, a.WellNamed) →
      (∀ p ∈ s.base, p.WellNamed) → ∀ p ∈ (as.foldl .update s).base, p.WellNamed := by
    intro as
    induction as with
    | nil => exact fun s _ hs => hs
    | cons a as ih =>
      intro s has hs
      obtain ⟨ha, has⟩ := List.forall_mem_cons.1 has
      refine ih (s.update a) has ?_
      cases a with
      | base path => exact forall_mem_some ha
      | _ => exact hs
  have hunset : ∀ p ∈ MarkerSettings.unset.base, p.WellNamed := forall_mem_none
  unfold Attribute.settings at h
  split at h
  · cases h
    exact hunset
  · obtain ⟨as, has, rfl⟩ := map_eq_ok_iff.1 h
    exact hfold as _ (wellNamed_arguments has) hunset
  · cases h

/-- What holds of all types that are read from the tokens of a text holds of the types in its
items. -/
theorem declares_of_items? {P : TypeExpr → Prop} {text : String} {ts : List Token}
    (hts : fileTokens? text = some ts)
    (htype : ∀ depth plus, Yields ts ((Grammar.upTo depth).type plus) fun r => P r.1)
    (hunspelled : P .unspelled) {items : List Item} (h : items? text = some items) :
    ∀ item ∈ items, item.Declares P := by
  rw [items?, hts, Option.bind_some] at h
  have hfile : Yields ts (Grammar.file (Grammar.ofTokens ts)) fun items =>
      ∀ item ∈ items, item.Declares P :=
    .after fun _ => Grammar.yields_itemsRule (Grammar.declares_upTo htype hunspelled _)
  exact hfile.run? h

/-- **The items of a text are well-named.** -/
theorem wellNamed_of_items? {text : String} {items : List Item} (h : items? text = some items) :
    ∀ item ∈ items, item.WellNamed := by
  obtain ⟨ts, hts, -⟩ := Option.bind_eq_some_iff.1 h
  exact declares_of_items? hts Grammar.yields_type_upTo trivial h

end Mapwright.Source
