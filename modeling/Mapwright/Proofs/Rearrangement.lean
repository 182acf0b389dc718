import Mapwright.Proofs.Agreement
import Mapwright.Proofs.Items
import Mapwright.Proofs.Scopes

/-!
# The order of items

A file can be rearranged: its items change places, and so do those of the
modules inside it.  It then declares the same in another order, as long as no
two items side by side bind one name.  If no two of its declarations are about
one thing, the order is of no consequence.

    Rearranged items items' → declarations … items is a permutation of declarations … items'
                                                                        (`perm_declarations`)
    ds.Perm es, no two of ds are about one thing → Agree ds es          (`Agree.of_perm`)
    reading a file = reading it rearranged                              (`addSource_rearranged`)
-/

namespace Mapwright

/-! ## One hit at most -/

theorem findRev?_eq_of_perm_filter {α : Type} {p : α → Bool} {l l' : List α}
    (h : (l.filter p).Perm (l'.filter p)) (hone : l.countP p ≤ 1) :
    l.findRev? p = l'.findRev? p := by
  rw [List.countP_eq_length_filter] at hone
  rw [findRev?_eq_getLast?_filter, findRev?_eq_getLast?_filter]
  match hl : l.filter p with
  | [] =>
    rw [hl] at h
    rw [h.nil_eq]
  | [a] =>
    rw [hl] at h
    rw [List.singleton_perm.1 h]
  | a :: b :: rest =>
    rw [hl, List.length_cons, List.length_cons] at hone
    omega

/-- No type is declared by two structs or enums, no method of a type has two impls, and no unit is
settled twice. -/
structure DeclaredOnce (ds : List Declaration) : Prop where
  types : ∀ type, ds.countP (·.places type) ≤ 1
  methods : ∀ type m, ds.countP (·.adds type m) ≤ 1
  units : ∀ name, ds.countP (·.settles name) ≤ 1

theorem DeclaredOnce.builds {ds : List Declaration} (h : DeclaredOnce ds) (type : String) :
    ds.countP (·.builds type) ≤ 1 := by
  refine (List.countP_mono_left fun d _ hd => ?_).trans (h.types type)
  cases d with
  | struct name module constructor => exact hd
  | _ => cases hd

/-- What is first said of a type stands in the one module that everything stands in. -/
theorem begins_of_module {ds : List Declaration} {module : ModuleId}
    (hmodule : ∀ d ∈ ds, ∀ m, d.module? = some m → m = module) (type : String) :
    (ds.find? (·.concerns type)).bind (·.module?) =
      if ds.any (·.concerns type) then some module else none := by
  cases hd : ds.find? (·.concerns type) with
  | none =>
    rw [List.find?_eq_none] at hd
    rw [if_neg]
    · rfl
    · rw [List.any_eq_true]
      rintro ⟨d, hmem, hconcerns⟩
      exact hd d hmem hconcerns
  | some d =>
    have hconcerns : d.concerns type = true := List.find?_some hd
    obtain ⟨m, hm⟩ := Option.isSome_iff_exists.1 (Declaration.isSome_module?_of_concerns hconcerns)
    have hmem := List.mem_of_find?_eq_some hd
    rw [if_pos (List.any_eq_true.2 ⟨d, hmem, hconcerns⟩), Option.bind_some, hm,
      hmodule d hmem m hm]

/-- **Declarations of one module come to the same in any order**, if no two are about one thing. -/
theorem Agree.of_perm {ds es : List Declaration} (h : ds.Perm es) (honce : DeclaredOnce ds)
    {module : ModuleId} (hmodule : ∀ d ∈ ds, ∀ m, d.module? = some m → m = module) :
    Agree ds es where
  builds := by
    intro type
    rw [findRev?_eq_of_perm_filter (h.filter _) (honce.builds type)]
  places := by
    intro type
    rw [findRev?_eq_of_perm_filter (h.filter _) (honce.types type)]
  begins := by
    intro type
    have hany : ds.any (·.concerns type) = es.any (·.concerns type) := h.any_eq
    rw [begins_of_module hmodule, begins_of_module fun d hd => hmodule d (h.mem_iff.2 hd), hany]
  adds := by
    intro type m
    rw [findRev?_eq_of_perm_filter (h.filter _) (honce.methods type m)]
  settles := by
    intro name
    rw [findRev?_eq_of_perm_filter (h.filter _) (honce.units name)]

namespace Source

/-! ## Rearranged items -/

/-- Items in another order, with those of the modules among them in another order as well. -/
inductive Rearranged : List Item → List Item → Prop
  | nil : Rearranged [] []
  | cons (item : Item) {items items' : List Item} (h : Rearranged items items') :
    Rearranged (item :: items) (item :: items')
  | inside {inner inner' items items' : List Item} (hinner : Rearranged inner inner')
    (h : Rearranged items items') :
    Rearranged (.module (some inner) :: items) (.module (some inner') :: items')
  | swap (a b : Item) (items : List Item) : Rearranged (b :: a :: items) (a :: b :: items)
  | trans {items mid items' : List Item} (h : Rearranged items mid) (h' : Rearranged mid items') :
    Rearranged items items'

/-- The items of a file, or those of a module inside it. -/
inductive Block : List Item → List Item → Prop
  | whole (items : List Item) : Block items items
  | inner {items inner block : List Item} (hmem : .module (some inner) ∈ items)
    (h : Block inner block) : Block items block

/-- No two items of a file, or of a module inside it, bind the same name.  Keywords do not count:
`_` is no name, and `self` in a group stands for the name before it. -/
def BoundOnce (items : List Item) : Prop :=
  ∀ block, Block items block → ∀ name, isKeyword name = false → block.countP (·.binds name) ≤ 1

theorem BoundOnce.inner {items inner : List Item} (h : BoundOnce items)
    (hmem : .module (some inner) ∈ items) : BoundOnce inner :=
  fun block hblock => h block (.inner hmem hblock)

namespace Rearranged

variable {items items' : List Item}

theorem refl (items : List Item) : Rearranged items items := by
  induction items with
  | nil => exact .nil
  | cons item _ ih => exact .cons item ih

/-- Items may change places in any way. -/
theorem of_perm (h : items.Perm items') : Rearranged items items' := by
  induction h with
  | nil => exact .nil
  | cons item _ ih => exact .cons item ih
  | swap a b items => exact .swap a b items
  | trans _ _ ih ih' => exact .trans ih ih'

/-- Apart from the modules there are the same items. -/
theorem perm_filter (h : Rearranged items items') {p : Item → Bool}
    (hp : ∀ inner, p (.module inner) = false) : (items.filter p).Perm (items'.filter p) := by
  induction h with
  | nil => exact .nil
  | cons item _ ih =>
    rw [List.filter_cons, List.filter_cons]
    split
    · exact ih.cons item
    · exact ih
  | inside _ _ _ ih =>
    rw [List.filter_cons_of_neg (by simp [hp]), List.filter_cons_of_neg (by simp [hp])]
    exact ih
  | swap a b items => exact (List.Perm.swap a b items).filter p
  | trans _ _ ih ih' => exact ih.trans ih'

theorem countP_eq (h : Rearranged items items') {p : Item → Bool}
    (hp : ∀ inner, p (.module inner) = false) : items.countP p = items'.countP p := by
  rw [List.countP_eq_length_filter, List.countP_eq_length_filter, (h.perm_filter hp).length_eq]

/-- Each module is one that was there before, with its items rearranged. -/
theorem exists_module (h : Rearranged items items') {inner' : List Item}
    (hmem : .module (some inner') ∈ items') :
    ∃ inner, .module (some inner) ∈ items ∧ Rearranged inner inner' := by
  induction h generalizing inner' with
  | nil => cases hmem
  | cons item _ ih =>
    rcases List.mem_cons.1 hmem with rfl | hmem
    · exact ⟨inner', List.mem_cons_self, refl inner'⟩
    · obtain ⟨inner, hinner, hmoved⟩ := ih hmem
      exact ⟨inner, List.mem_cons_of_mem item hinner, hmoved⟩
  | @inside inner _ _ _ hinner _ _ ih =>
    rcases List.mem_cons.1 hmem with heq | hmem
    · cases heq
      exact ⟨inner, List.mem_cons_self, hinner⟩
    · obtain ⟨inner, hinner, hmoved⟩ := ih hmem
      exact ⟨inner, List.mem_cons_of_mem _ hinner, hmoved⟩
  | swap a b items => exact ⟨inner', (List.Perm.swap a b items).mem_iff.2 hmem, refl inner'⟩
  | trans _ _ ih ih' =>
    obtain ⟨mid, hmid, hmoved'⟩ := ih' hmem
    obtain ⟨inner, hinner, hmoved⟩ := ih hmid
    exact ⟨inner, hinner, hmoved.trans hmoved'⟩

theorem exists_block {block' : List Item} (hblock : Block items' block')
    (h : Rearranged items items') : ∃ block, Block items block ∧ Rearranged block block' := by
  induction hblock generalizing items with
  | whole items' => exact ⟨items, .whole items, h⟩
  | inner hmem _ ih =>
    obtain ⟨inner, hinner, hmoved⟩ := h.exists_module hmem
    obtain ⟨block, hblock, hmoved⟩ := ih hmoved
    exact ⟨block, .inner hinner hblock, hmoved⟩

theorem boundOnce (h : Rearranged items items') (honce : BoundOnce items) : BoundOnce items' := by
  intro block' hblock' name hname
  obtain ⟨block, hblock, hmoved⟩ := h.exists_block hblock'
  rw [← hmoved.countP_eq fun _ => rfl]
  exact honce block hblock name hname

theorem wellNamed (h : Rearranged items items') (hitems : ∀ item ∈ items, item.WellNamed) :
    ∀ item ∈ items', item.WellNamed := by
  induction h with
  | nil => exact hitems
  | cons item _ ih =>
    obtain ⟨hitem, hitems⟩ := List.forall_mem_cons.1 hitems
    exact List.forall_mem_cons.2 ⟨hitem, ih hitems⟩
  | inside _ _ ihinner ih =>
    obtain ⟨hmodule, hitems⟩ := List.forall_mem_cons.1 hitems
    cases hmodule with
    | inside hinner => exact List.forall_mem_cons.2 ⟨.inside (ihinner hinner), ih hitems⟩
  | swap a b items => exact fun item hitem => hitems item ((List.Perm.swap a b items).mem_iff.2 hitem)
  | trans _ _ ih ih' => exact ih' (ih hitems)

/-! ## Declarations of rearranged items -/

/-- Inside rearranged items there is a scope that is alike. -/
theorem alike_within (h : Rearranged items items') (hitems : ∀ item ∈ items, item.WellNamed)
    (honce : ∀ name, isKeyword name = false → items.countP (·.binds name) ≤ 1) {s s' : Scope}
    (hs : s.Alike s') : (s.within items).Alike (s'.within items') where
  left := hs.left.within hitems
  right := hs.right.within (h.wellNamed hitems)
  same := by
    intro name hname
    rw [Scope.find?_within, Scope.find?_within, hs.same name hname,
      findRev?_eq_of_perm_filter (h.perm_filter fun _ => rfl) (honce name hname)]

theorem perm_declarations (h : Rearranged items items') (module : ModuleId)
    (hitems : ∀ item ∈ items, item.WellNamed)
    (honce : ∀ inner, .module (some inner) ∈ items → BoundOnce inner) {s s' : Scope}
    (hs : s.Alike s') : (declarations s module items).Perm (declarations s' module items') := by
  induction h generalizing s s' with
  | nil => exact .nil
  | cons item _ ih =>
    obtain ⟨hitem, hitems⟩ := List.forall_mem_cons.1 hitems
    rw [declarations, declarations, Item.declarations_congr hitem module hs]
    exact (ih hitems (fun inner hmem => honce inner (List.mem_cons_of_mem item hmem)) hs).append_left _
  | @inside inner inner' items items' hinner _ ihinner ih =>
    obtain ⟨hmodule, hitems⟩ := List.forall_mem_cons.1 hitems
    cases hmodule with
    | inside hnamed =>
      have hbound : BoundOnce inner := honce inner List.mem_cons_self
      have hwithin := hinner.alike_within hnamed (hbound inner (.whole inner)) hs
      have hhead := ihinner hnamed (fun _ hmem => hbound.inner hmem) hwithin
      have htail := ih hitems (fun inner hmem => honce inner (List.mem_cons_of_mem _ hmem)) hs
      exact hhead.append htail
  | swap a b items =>
    obtain ⟨hb, ha, hitems⟩ : b.WellNamed ∧ a.WellNamed ∧ ∀ item ∈ items, item.WellNamed := by
      simpa using hitems
    have htail : declarations s module items = declarations s' module items :=
      declarations_eq_of_forall fun item hitem => Item.declarations_congr (hitems item hitem) module hs
    simp only [declarations, Item.declarations_congr ha module hs,
      Item.declarations_congr hb module hs, htail, ← List.append_assoc]
    exact List.perm_append_comm.append_right _
  | trans h h' ih ih' =>
    refine (ih hitems honce hs).trans (ih' (h.wellNamed hitems) (fun inner' hmem => ?_) hs.right.alike)
    obtain ⟨inner, hinner, hmoved⟩ := h.exists_module hmem
    exact hmoved.boundOnce (honce inner hinner)

end Rearranged

end Source

/-! ## Reading rearranged files -/

theorem Source.declarations?_eq_some {text : String} {items : List Item} (module : ModuleId)
    (h : items? text = some items) :
    declarations? module text = some (declarations (Scope.ofItems items) module items) :=
  congrArg (Option.map fun items => declarations (Scope.ofItems items) module items) h

namespace Generator

open Source

/-- **The order of items does not matter.**  A file in which no two items side by side bind one name
and nothing is declared twice is read as it is read rearranged. -/
theorem addSource_rearranged {text : String} {items items' : List Item} (module : ModuleId)
    (hitems : items? text = some items) (hmoved : Rearranged items items') (hbound : BoundOnce items)
    (hdeclared : DeclaredOnce (declarations (Scope.ofItems items) module items)) (g : Generator) :
    g.addSource module text =
        .ok (g.declareAll (declarations (Scope.ofItems items') module items')) ∧
      ∀ text', items? text' = some items' → g.addSource module text' = g.addSource module text := by
  have hread : ∀ {text items}, items? text = some items → g.addSource module text =
      .ok (g.declareAll (declarations (Scope.ofItems items) module items)) := by
    intro text items h
    unfold addSource
    rw [declarations?_eq_some module h]
  have hnamed := wellNamed_of_items? hitems
  have hscope : (Scope.ofItems items).Alike (Scope.ofItems items') :=
    hmoved.alike_within hnamed (hbound items (.whole items)) Scope.wellNamed_empty.alike
  have hperm := hmoved.perm_declarations module hnamed (fun _ hmem => hbound.inner hmem) hscope
  have hmodule : ∀ d ∈ declarations (Scope.ofItems items) module items, ∀ m,
      d.module? = some m → m = module := by
    intro d hd m hm
    refine module_of_mem_declarations? (?_ : d ∈ (declarations? module text).getD []) hm
    rw [declarations?_eq_some module hitems, Option.getD_some]
    exact hd
  have hsame := declareAll_congr (Agree.of_perm hperm hdeclared hmodule) g
  refine ⟨(hread hitems).trans (congrArg Except.ok hsame), fun text' hitems' => ?_⟩
  rw [hread hitems, hread hitems', hsame]

end Generator

/-! ## A file and the same file rearranged -/

namespace Source

def importText : String := "use press::Sheet as Page;"
def noteText : String := "struct Note" ++ inBraces "page: Page"
def methodsText : String := "impl Note" ++ inBraces ("fn first(&self) -> Page" ++ inBraces "")
def copierText : String :=
  "#[mapper_derive::mapper] trait Copier" ++ inBraces "fn copy(note: &Note) -> Note;"

/-- Notes are declared in a module of their own, and copied outside. -/
def notebook : List String :=
  ["mod shelf \x7b", importText, noteText, methodsText, "\x7d", copierText]

/-- Whatever is said comes before what it refers to. -/
def turnedNotebook : List String :=
  [copierText, "mod shelf \x7b", methodsText, noteText, importText, "\x7d"]

def bareType (name : String) : TypeExpr := .path ⟨false, [⟨name, .none⟩]⟩

def importItem : Item := .use (.path "press" (.rename "Sheet" "Page"))
def noteItem : Item := .struct "Note" (.named [("page", bareType "Page")])
def methodsItem : Item :=
  .implementation false (bareType "Note")
    [⟨⟨false, false, false, false⟩, "first", false, some ⟨true, none, false, false⟩, [],
      some (bareType "Page")⟩]
def copierItem : Item :=
  .trait ⟨[⟨false, ⟨false, ["mapper_derive", "mapper"]⟩, .none⟩], .inherited, "Copier", false,
    [⟨⟨⟨false, false, false, false⟩, "copy", false, none,
      [⟨some "note", .reference none false (bareType "Note")⟩], some (bareType "Note")⟩, false⟩]⟩

def notebookItems : List Item := [.module (some [importItem, noteItem, methodsItem]), copierItem]

def turnedItems : List Item := [copierItem, .module (some [methodsItem, noteItem, importItem])]

def separatorTokens : List Token := [.punct ':' true, .punct ':' false]
def arrowTokens : List Token := [.punct '-' true, .punct '>' false]
def braceTokens (ts : List Token) : List Token := .opening .brace :: ts ++ [.closing .brace]

def importTokens : List Token :=
  [.ident "use", .ident "press"] ++ separatorTokens ++
    [.ident "Sheet", .ident "as", .ident "Page", .punct ';' false]
def noteTokens : List Token :=
  [.ident "struct", .ident "Note"] ++ braceTokens [.ident "page", .punct ':' false, .ident "Page"]
def methodsTokens : List Token :=
  [.ident "impl", .ident "Note"] ++
    braceTokens ([.ident "fn", .ident "first", .opening .paren, .punct '&' false, .ident "self",
      .closing .paren] ++ arrowTokens ++ [.ident "Page"] ++ braceTokens [])
def copierTokens : List Token :=
  [.punct '#' false, .opening .bracket, .ident "mapper_derive"] ++ separatorTokens ++
    [.ident "mapper", .closing .bracket, .ident "trait", .ident "Copier"] ++
    braceTokens ([.ident "fn", .ident "copy", .opening .paren, .ident "note", .punct ':' false,
      .punct '&' false, .ident "Note", .closing .paren] ++ arrowTokens ++
      [.ident "Note", .punct ';' false])
def shelfTokens (inside : List Token) : List Token :=
  [.ident "mod", .ident "shelf"] ++ braceTokens inside

set_option maxRecDepth 100000 in
theorem items?_notebook : items? (String.join notebook) = some notebookItems := by
  have htokens : tokens? (dropByteOrderMark (dropInterpreterLine (dropByteOrderMark
      (notebook.flatMap String.toList)))) =
      some (shelfTokens (importTokens ++ noteTokens ++ methodsTokens) ++ copierTokens) := by
    decide +kernel
  rw [items?_join, itemsOfChars?, htokens]
  rfl

set_option maxRecDepth 100000 in
theorem items?_turnedNotebook : items? (String.join turnedNotebook) = some turnedItems := by
  have htokens : tokens? (dropByteOrderMark (dropInterpreterLine (dropByteOrderMark
      (turnedNotebook.flatMap String.toList)))) =
      some (copierTokens ++ shelfTokens (methodsTokens ++ noteTokens ++ importTokens)) := by
    decide +kernel
  rw [items?_join, itemsOfChars?, htokens]
  rfl

theorem rearranged_notebookItems : Rearranged notebookItems turnedItems := by
  have hinner : Rearranged [importItem, noteItem, methodsItem] [methodsItem, noteItem, importItem] :=
    .of_perm (List.reverse_perm [methodsItem, noteItem, importItem])
  exact (Rearranged.inside hinner (.refl [copierItem])).trans (.swap copierItem _ [])

theorem boundOnce_notebookItems : BoundOnce notebookItems := by
  intro block hblock name _
  cases hblock with
  | whole => exact Nat.zero_le 1
  | inner hmem hblock =>
    simp only [notebookItems, copierItem, List.mem_cons, Item.module.injEq, Option.some.injEq,
      reduceCtorEq, List.not_mem_nil, or_false] at hmem
    subst hmem
    cases hblock with
    | whole => exact List.countP_le_length (l := [importItem])
    | inner hmem => simp [importItem, noteItem, methodsItem] at hmem

def notebookDeclared : List Declaration :=
  [.struct "Note" "notes.rs" (some [⟨"page", "Sheet", "Page", .owned⟩]),
    .methods "Note" "notes.rs" [("first", ⟨[], some ⟨"Sheet", "Page", .owned⟩⟩)],
    .unit ⟨"Copier", "notes.rs", "", false, none, none,
      [⟨"copy", none, [⟨"note", "Note", "Note", .shared⟩], some (.named "Note"), .required⟩]⟩]

theorem declaredOnce_notebookItems :
    DeclaredOnce (declarations (Scope.ofItems notebookItems) "notes.rs" notebookItems) := by
  have hdeclared : declarations (Scope.ofItems notebookItems) "notes.rs" notebookItems =
      notebookDeclared := by rfl
  rw [hdeclared]
  -- there is one declaration of each kind
  constructor
  · intro type
    exact List.countP_le_length (l := notebookDeclared.take 1)
  · intro type m
    exact List.countP_le_length (l := (notebookDeclared.drop 1).take 1)
  · intro name
    exact List.countP_le_length (l := notebookDeclared.drop 2)

end Source

namespace Generator

open Source

/-- The notebook is read as it is read rearranged. -/
theorem addSource_rearranged_notebook :
    items? (String.join notebook) = some notebookItems ∧ Rearranged notebookItems turnedItems ∧
      BoundOnce notebookItems ∧
      DeclaredOnce (declarations (Scope.ofItems notebookItems) "notes.rs" notebookItems) ∧
      new.addSource "notes.rs" (String.join turnedNotebook) =
        new.addSource "notes.rs" (String.join notebook) := by
  have hread := addSource_rearranged "notes.rs" items?_notebook rearranged_notebookItems
    boundOnce_notebookItems declaredOnce_notebookItems new
  exact ⟨items?_notebook, rearranged_notebookItems, boundOnce_notebookItems,
    declaredOnce_notebookItems, hread.2 _ items?_turnedNotebook⟩

end Generator

end Mapwright
