import Mathlib.Data.List.Forall2
import Mathlib.Data.List.Nodup
import Mathlib.Data.List.TakeWhile
import Mapwright.Code.Evaluation
import Mapwright.Proofs.Except
import Mapwright.Proofs.MethodTexts
import Mapwright.Proofs.Resolution
import Mapwright.Source.Lexer
import Mapwright.Students

/-!
# What generated bodies compute

`Denotes` says what each binding stands for in a call, by position and without
any code: an argument, a sibling applied to the source or to nothing, an
accessor of the source, a property of it.  A body computes just that, in every
model of values, unless one of its locals hides the source: a local has the name
of no parameter, since a field of such a name is bound to the parameter, which is
never kept in a local; but names that differ in `r#` only are one identifier.

    Denotes m self f args b v → bindingExpr? source b = some e → e.eval? m env = some v   (`eval?_bindingExpr`)
    l ∈ bodyLocals r → l.name is no parameter                                             (`name_of_mem_bodyLocals`)
    no local hides the source → Computes … (method r)                                     (`computes_method`)
    a local hides the source → ¬Computes … (method r)                                     (`not_computes_method`)
    all of it, with the text of the body                                                  (`computes_method_iff`)
-/

namespace Mapwright.Code

/-! ## Names -/

/-- A name: an identifier, written raw or not, that is no keyword. -/
def IsName (x : String) : Prop :=
  Source.identifier? x.toList = some (x.toList, []) ∧ Source.isKeyword x = false

instance (x : String) : Decidable (IsName x) := inferInstanceAs (Decidable (_ ∧ _))

theorem IsName.ne_self {x : String} (h : IsName x) : x ≠ "self" := by
  rintro rfl
  exact absurd h.2 (by decide)

theorem wordRest?_eq_nil {cs : List Char} (h : Source.wordRest? cs = some []) :
    ∀ c ∈ cs, Text.isIdentifierStart c = true ∨ Text.isIdentifierContinue c = true := by
  cases cs with
  | nil => simp [Source.wordRest?] at h
  | cons c cs =>
    simp only [Source.wordRest?] at h
    split at h
    · next hc =>
      simp only [Option.some.injEq, List.dropWhile_eq_nil_iff] at h
      intro d hd
      rcases List.mem_cons.1 hd with rfl | hd
      · exact Or.inl hc
      · exact Or.inr (h d hd)
    · cases h

theorem identifier?_chars {cs word : List Char} (h : Source.identifier? cs = some (word, [])) :
    ∀ c ∈ word, c = '#' ∨ Text.isIdentifierStart c = true ∨ Text.isIdentifierContinue c = true := by
  simp only [Source.identifier?] at h
  generalize hraw : (cs.take 2 == ['r', '#']) = raw at h
  generalize hbody : (if raw = true then cs.drop 2 else cs) = body at h
  split at h
  · cases h
  · next rest hrest =>
    split at h
    · cases h
    · simp only [Option.some.injEq, Prod.mk.injEq] at h
      obtain ⟨hword, rfl⟩ := h
      have hchars := wordRest?_eq_nil hrest
      simp only [List.length_nil, Nat.sub_zero, List.take_length] at hword
      intro c hc
      rw [← hword] at hc
      split at hc
      · rcases List.mem_cons.1 hc with rfl | hc
        · exact Or.inr (Or.inl (by decide))
        · rcases List.mem_cons.1 hc with rfl | hc
          · exact Or.inl rfl
          · exact Or.inr (hchars c hc)
      · exact Or.inr (hchars c hc)

/-- A keyword stays one when it is written raw, if it may be written so at all. -/
theorem IsName.identifier_ne_self {x : String} (h : IsName x) : identifier x ≠ "self" := by
  intro hself
  unfold identifier at hself
  split at hself
  · next word hx =>
    have hword : word = ['s', 'e', 'l', 'f'] := by
      rw [← String.toList_ofList (l := word), hself]
      rfl
    have hraw := h.1
    rw [hx, hword] at hraw
    exact absurd hraw (by decide)
  · exact h.ne_self hself

theorem identifier_self : identifier "self" = "self" := by decide

theorem IsName.no_dot {x : String} (h : IsName x) : '.' ∉ x.toList := by
  intro hd
  rcases identifier?_chars h.1 '.' hd with h | h | h <;> exact absurd h (by decide)

theorem IsName.no_slash {x : String} (h : IsName x) : '/' ∉ x.toList := by
  intro hs
  rcases identifier?_chars h.1 '/' hs with h | h | h <;> exact absurd h (by decide)

/-! ## What bindings stand for -/

variable {V : Type}

/-- The value that a binding stands for in a call of `f` on the given arguments. -/
inductive Denotes (m : Model V) (self : V) (f : MappingFunction) (args : List V) :
    Binding → V → Prop
  | parameter {i : Nat} {p : Param} {name : String} {v : V} (hp : f.params[i]? = some p)
      (hname : p.name = name) (hv : args[i]? = some v) : Denotes m self f args (.parameter name) v
  | siblingOnSource {g : String} {passing : Passing} {s : V} (hs : args.head? = some s) :
      Denotes m self f args (.sibling g (some passing)) (m.call self g [s])
  | sibling {g : String} : Denotes m self f args (.sibling g none) (m.call self g [])
  | accessor {x : String} {s : V} (hs : args.head? = some s) :
      Denotes m self f args (.accessor x) (m.call s x [])
  | property {x : String} {s : V} (hs : args.head? = some s) :
      Denotes m self f args (.property x) (m.field s x)

/-- A binding stands for one value only, if the parameters have different names. -/
theorem Denotes.unique {m : Model V} {self : V} {f : MappingFunction} {args : List V} {b : Binding}
    {v w : V} (hnodup : (f.params.map (·.name)).Nodup) (hv : Denotes m self f args b v)
    (hw : Denotes m self f args b w) : v = w := by
  cases hv with
  | @parameter i p _ _ hp hname hv =>
    cases hw with
    | @parameter j q _ _ hq hname' hw =>
      have hi : i < (f.params.map (·.name)).length := by
        rw [List.length_map]
        exact (List.getElem?_eq_some_iff.1 hp).1
      have hij : (f.params.map (·.name))[i]? = (f.params.map (·.name))[j]? := by
        rw [List.getElem?_map, List.getElem?_map, hp, hq, Option.map_some, Option.map_some, hname, hname']
      have := (List.getElem?_inj hi hnodup).1 hij
      subst this
      rw [hv] at hw
      exact Option.some.inj hw
  | siblingOnSource hs =>
    cases hw with
    | siblingOnSource hs' => rw [hs] at hs'; cases hs'; rfl
  | sibling => cases hw; rfl
  | accessor hs =>
    cases hw with
    | accessor hs' => rw [hs] at hs'; cases hs'; rfl
  | property hs =>
    cases hw with
    | property hs' => rw [hs] at hs'; cases hs'; rfl

/-- Whatever a resolved field is bound to stands for something. -/
theorem exists_denotes (m : Model V) (self : V) {unit : MappingUnit} {base : Option TypeDescriptor}
    {f : MappingFunction} {sourceType : TypeDescriptor} {name : String} {args : List V}
    (hlen : args.length = f.params.length) (hpos : f.params ≠ [])
    (hres : (Binding.resolve unit base f sourceType name).isResolved = true) :
    ∃ v, Denotes m self f args (Binding.resolve unit base f sourceType name) v := by
  obtain ⟨s, hs⟩ : ∃ s, args.head? = some s := by
    cases args with
    | nil => exact absurd (List.eq_nil_of_length_eq_zero hlen.symm) hpos
    | cons s args => exact ⟨s, rfl⟩
  rcases Binding.resolve_cases unit base f sourceType name with
    ⟨hp, hr⟩ | ⟨-, ⟨pass, -, hr⟩ | ⟨-, ⟨-, hr⟩ | ⟨-, ⟨-, hr⟩ | ⟨-, hr⟩⟩⟩⟩
  · rw [hr]
    obtain ⟨p, hp, hname⟩ := List.mem_map.1 hp
    obtain ⟨i, hi, rfl⟩ := List.mem_iff_getElem.1 hp
    exact ⟨args[i], .parameter (List.getElem?_eq_getElem hi) hname (List.getElem?_eq_getElem _)⟩
  · rw [hr]
    cases pass with
    | none => exact ⟨_, .sibling⟩
    | some passing => exact ⟨_, .siblingOnSource hs⟩
  · rw [hr]; exact ⟨_, .accessor hs⟩
  · rw [hr]; exact ⟨_, .property hs⟩
  · rw [hr] at hres; cases hres

/-! ## Expressions -/

/-- Under which identifiers `self` and the arguments of a call are found, as far as the parameters
are among the given names. -/
structure Sees (env : Env V) (owner : V) (f : MappingFunction) (args : List V)
    (names : List String) : Prop where
  receiver : env.lookup "self" = some owner
  param : ∀ {i : Nat} {p : Param} {v : V}, f.params[i]? = some p → args[i]? = some v →
    p.name ∈ names → env.lookup (identifier p.name) = some v

theorem Sees.source {env : Env V} {self : V} {f : MappingFunction} {args : List V} {source : Param}
    {names : List String} {s : V} (h : Sees env self f args names)
    (hsource : f.source? = some source) (hnames : source.name ∈ names)
    (hs : args.head? = some s) : env.lookup (identifier source.name) = some s :=
  h.param (by rw [← hsource, MappingFunction.source?, List.head?_eq_getElem?])
    (by rw [← hs, List.head?_eq_getElem?]) hnames

/-- A local does not hide anything if it is called otherwise. -/
theorem Sees.cons {env : Env V} {self : V} {f : MappingFunction} {args : List V}
    {names : List String} {x : String} (h : Sees env self f args names)
    (hself : identifier x ≠ "self")
    (hx : ∀ p ∈ f.params, p.name ∈ names → identifier x ≠ identifier p.name) (v : V) :
    Sees ((identifier x, v) :: env) self f args names where
  receiver := by rw [List.lookup_cons, beq_false_of_ne (Ne.symm hself)]; exact h.receiver
  param := by
    intro i p w hp hw hname
    have hne : identifier p.name ≠ identifier x := (hx p (List.mem_of_getElem? hp) hname).symm
    rw [List.lookup_cons, beq_false_of_ne hne]
    exact h.param hp hw hname

/-- References and clones make no difference: the argument of a sibling is the source. -/
theorem eval?_sourceArgument (m : Model V) (env : Env V) (source : Param) (passing : Passing) :
    (sourceArgument source passing).eval? m env = env.lookup (identifier source.name) := by
  unfold sourceArgument
  split <;> rfl

theorem eval?_bindingExpr (m : Model V) {env : Env V} {self : V} {f : MappingFunction}
    {args : List V} {names : List String} {source : Param} {b : Binding} {v : V} {e : Expr}
    (h : Sees env self f args names) (hsource : f.source? = some source)
    (hnames : source.name ∈ names) (hparam : ∀ x, b = .parameter x → x ∈ names)
    (hd : Denotes m self f args b v) (he : bindingExpr? source b = some e) :
    e.eval? m env = some v := by
  cases hd with
  | parameter hp hname hv =>
    cases he
    have hmem := hparam _ rfl
    rw [← hname] at hmem ⊢
    exact h.param hp hv hmem
  | siblingOnSource hs =>
    cases he
    simp only [Expr.eval?, identifier_self, h.receiver, eval?_sourceArgument,
      h.source hsource hnames hs]
    rfl
  | sibling =>
    cases he
    simp only [Expr.eval?, identifier_self, h.receiver, Option.map_some]
  | accessor hs =>
    cases he
    simp only [Expr.eval?, h.source hsource hnames hs, Option.map_some]
  | property hs =>
    simp only [bindingExpr?] at he
    split at he <;> cases he <;>
      simp only [Expr.eval?, h.source hsource hnames hs, Option.map_some]

theorem bindingExpr?_isSome (source : Param) (b : Binding) :
    (bindingExpr? source b).isSome = b.isResolved := by
  cases b with
  | parameter x => rfl
  | sibling g pass => cases pass <;> rfl
  | accessor x => rfl
  | property x => simp only [bindingExpr?]; split <;> rfl
  | unresolved => rfl

/-! ## The environment of a call -/

theorem lookup_zip {names : List String} {args : List V} (hnodup : names.Nodup) :
    ∀ {i : Nat} {x : String} {v : V}, names[i]? = some x → args[i]? = some v →
      (names.zip args).lookup x = some v := by
  induction names generalizing args with
  | nil => intro i x v hx; simp at hx
  | cons y names ih =>
    intro i x v hx hv
    obtain ⟨hy, hnodup⟩ := List.nodup_cons.1 hnodup
    cases args with
    | nil => simp at hv
    | cons w args =>
      rw [List.zip_cons_cons, List.lookup_cons]
      cases i with
      | zero =>
        simp only [List.getElem?_cons_zero, Option.some.injEq] at hx hv
        rw [hx, hv, beq_self_eq_true]
      | succ i =>
        rw [List.getElem?_cons_succ] at hx hv
        have hne : x ≠ y := by
          rintro rfl
          exact hy (List.mem_of_getElem? hx)
        rw [beq_false_of_ne hne]
        exact ih hnodup hx hv

theorem params_slots (r : ResolvedFunction) : (slots r).map (·.param) = r.function.params := by
  unfold slots
  split
  · next h => rw [h]; rfl
  · next first rest h =>
    rw [h, List.map_cons, List.map_map]
    show first :: rest.map id = first :: rest
    rw [List.map_id]

/-- A method begins with `self` and its arguments in sight. -/
theorem sees_env (r : ResolvedFunction) (self : V) (args : List V) (names : List String)
    (hnodup : (r.function.params.map (identifier ·.name)).Nodup)
    (hself : ∀ p ∈ r.function.params, identifier p.name ≠ "self") :
    Sees ((method r).header.env self args) self r.function args names where
  receiver := by simp [Header.env]
  param := by
    intro i p v hp hv _
    have hnames : (slots r).map (identifier ·.param.name) =
        r.function.params.map (identifier ·.name) := by
      rw [← params_slots r, List.map_map]
      rfl
    have hne : identifier p.name ≠ "self" := hself p (List.mem_of_getElem? hp)
    simp only [Header.env, method, hnames, List.lookup_cons, beq_false_of_ne hne]
    exact lookup_zip hnodup (by rw [List.getElem?_map, hp, Option.map_some]) hv

/-! ## Locals -/

/-- Locals that only read what stays in sight are all bound, each to the value it has by itself. -/
theorem bindLocals?_spec (m : Model V) (P : Env V → Prop) :
    ∀ (bs : List Binder), (bs.map (identifier ·.name)).Nodup →
      (∀ env, P env → ∀ b ∈ bs, ∀ v, P ((identifier b.name, v) :: env)) →
      (∀ b ∈ bs, ∃ v, ∀ env, P env → b.value.eval? m env = some v) →
      ∀ env, P env → ∃ env', bindLocals? m env bs = some env' ∧ P env' ∧
        (∀ x, x ∉ bs.map (identifier ·.name) → env'.lookup x = env.lookup x) ∧
        ∀ b ∈ bs, env'.lookup (identifier b.name) = b.value.eval? m env := by
  intro bs
  induction bs with
  | nil => intro _ _ _ env henv; exact ⟨env, rfl, henv, fun _ _ => rfl, fun b hb => by simp at hb⟩
  | cons b bs ih =>
    intro hnodup hP hval env henv
    rw [List.map_cons, List.nodup_cons] at hnodup
    obtain ⟨v, hv⟩ := hval b List.mem_cons_self
    have hstep : P ((identifier b.name, v) :: env) := hP env henv b List.mem_cons_self v
    obtain ⟨env', hbind, henv', hkeep, hlocal⟩ := ih hnodup.2
      (fun e he c hc => hP e he c (List.mem_cons_of_mem _ hc))
      (fun c hc => hval c (List.mem_cons_of_mem _ hc)) _ hstep
    refine ⟨env', ?_, henv', ?_, ?_⟩
    · rw [bindLocals?, hv env henv, Option.bind_some]
      exact hbind
    · intro x hx
      rw [List.map_cons, List.mem_cons, not_or] at hx
      rw [hkeep x hx.2, List.lookup_cons, beq_false_of_ne hx.1]
    · intro c hc
      rcases List.mem_cons.1 hc with rfl | hc
      · rw [hkeep _ hnodup.1, List.lookup_cons_self, hv env henv]
      · obtain ⟨w, hw⟩ := hval c (List.mem_cons_of_mem _ hc)
        rw [hlocal c hc, hw _ hstep, hw env henv]

theorem mem_bodyLocals (r : ResolvedFunction) (l : Binder) :
    l ∈ bodyLocals r ↔ ∃ f ∈ r.fields, isHoisted r f = true ∧ l.name = f.param.name ∧
      bindingExpr? r.source f.binding = some l.value := by
  simp only [bodyLocals, List.mem_filterMap]
  constructor
  · rintro ⟨f, hf, h⟩
    split at h
    · next hh =>
      obtain ⟨e, he, rfl⟩ := Option.map_eq_some_iff.1 h
      exact ⟨f, hf, hh, rfl, he⟩
    · cases h
  · rintro ⟨f, hf, hh, hname, he⟩
    refine ⟨f, hf, ?_⟩
    rw [if_pos hh, he, Option.map_some, ← hname]

theorem nodup_bodyLocals (r : ResolvedFunction)
    (h : (r.fields.map (identifier ·.param.name)).Nodup) :
    ((bodyLocals r).map (identifier ·.name)).Nodup := by
  unfold List.Nodup at h ⊢
  rw [List.pairwise_map] at h ⊢
  rw [bodyLocals, List.pairwise_filterMap]
  refine h.imp ?_
  intro f g hne b hb c hc
  split at hb
  · split at hc
    · obtain ⟨e, -, rfl⟩ := Option.map_eq_some_iff.1 hb
      obtain ⟨e', -, rfl⟩ := Option.map_eq_some_iff.1 hc
      exact hne
    · cases hc
  · cases hb

/-- A field that is hoisted has no parameter's name, since it would be bound to the parameter. -/
theorem not_mem_params_of_readsSource {unit : MappingUnit} {base : Option TypeDescriptor}
    {f : MappingFunction} {sourceType : TypeDescriptor} {name : String}
    (h : readsSource (Binding.resolve unit base f sourceType name) = true) :
    name ∉ f.params.map (·.name) := by
  rcases Binding.resolve_cases unit base f sourceType name with ⟨-, hr⟩ | ⟨hp, -⟩
  · rw [hr] at h; cases h
  · exact hp

/-! ## Fields -/

theorem mapM_filterMap_forall₂ {α β γ : Type} {g : α → Option β} {h : β → Option γ}
    {keep : α → Bool} {P : α → γ → Prop} :
    ∀ (l : List α), (∀ a ∈ l, keep a = false → g a = none) →
      (∀ a ∈ l, keep a = true → ∃ b c, g a = some b ∧ h b = some c ∧ P a c) →
      ∃ cs, (l.filterMap g).mapM h = some cs ∧ List.Forall₂ P (l.filter keep) cs
  | [], _, _ => ⟨[], rfl, .nil⟩
  | a :: l, hdrop, hkeep => by
    obtain ⟨cs, hcs, hP⟩ := mapM_filterMap_forall₂ l
      (fun b hb => hdrop b (List.mem_cons_of_mem _ hb))
      (fun b hb => hkeep b (List.mem_cons_of_mem _ hb))
    cases hk : keep a with
    | false =>
      rw [List.filterMap_cons, hdrop a List.mem_cons_self hk, List.filter_cons, hk]
      exact ⟨cs, hcs, hP⟩
    | true =>
      obtain ⟨b, c, hb, hc, hac⟩ := hkeep a List.mem_cons_self hk
      refine ⟨c :: cs, ?_, ?_⟩
      · rw [List.filterMap_cons, hb]
        simp only [List.mapM_cons, hc, hcs]
        rfl
      · rw [List.filter_cons, hk]
        exact .cons hac hP

/-- An expression for a binding is a plain name or has a dot in it. -/
theorem dot_mem_render {source : Param} {b : Binding} {e : Expr}
    (he : bindingExpr? source b = some e) : (∃ x, e = .named x) ∨ '.' ∈ e.render.toList := by
  cases b with
  | parameter x => cases he; exact Or.inl ⟨x, rfl⟩
  | sibling g pass =>
    cases pass <;> cases he <;> simp [Expr.render, String.toList_append]
  | accessor x => cases he; simp [Expr.render, String.toList_append]
  | property x =>
    simp only [bindingExpr?] at he
    split at he <;> cases he <;> simp [Expr.render, String.toList_append]
  | unresolved => cases he

/-- The short form of a field stands for the name of the field and for nothing else. -/
theorem value_of_shortForm (r : ResolvedFunction) {b : Binder} (hb : b ∈ bodyFields r)
    (hname : IsName b.name) (hshort : ExprText b.value b.name) : b.value = .named b.name := by
  have hval : (∃ x, b.value = .named x) ∨ '.' ∈ b.value.render.toList := by
    simp only [bodyFields, List.mem_filterMap] at hb
    obtain ⟨f, -, h⟩ := hb
    obtain ⟨e, he, rfl⟩ := Option.map_eq_some_iff.1 h
    show (∃ x, (if isHoisted r f then Expr.named f.param.name else e) = .named x) ∨ _
    split
    · exact Or.inl ⟨_, rfl⟩
    · exact dot_mem_render he
  have hrender : b.name = b.value.render := hshort.eq_render
  rcases hval with ⟨x, hx⟩ | hdot
  · rw [hx] at hrender ⊢
    rw [hrender]
    rfl
  · exact absurd (hrender ▸ hdot) hname.no_dot

/-! ## Bodies -/

/-- Whether a method computes, in every model and for all arguments, what the fields of a target are
bound to: it returns each field that has a binding, in order, with the one value that this denotes. -/
def Computes (unit : MappingUnit) (base : Option TypeDescriptor) (f : MappingFunction)
    (sourceType : TypeDescriptor) (fields : List Param) (method : Method) : Prop :=
  ∀ (V : Type) (m : Model V) (self : V) (args : List V), args.length = f.params.length →
    ∃ values, method.call? m self args = some values ∧
      List.Forall₂ (fun p entry => entry.1 = p.name ∧
          ∀ v, Denotes m self f args (Binding.resolve unit base f sourceType p.name) v ↔ v = entry.2)
        (fields.filter fun p => (Binding.resolve unit base f sourceType p.name).isResolved) values

section

variable {unit : MappingUnit} {base : Option TypeDescriptor} {f : MappingFunction} {source : Param}
  {sourceType : TypeDescriptor} {target : TypeRef} {fields : List Param} {r : ResolvedFunction}
  (hr : r = ResolvedFunction.resolve unit base f source sourceType target fields)

include hr

theorem name_of_mem_bodyLocals {l : Binder} (hl : l ∈ bodyLocals r) :
    (∃ p ∈ fields, l.name = p.name) ∧ l.name ∉ f.params.map (·.name) := by
  obtain ⟨field, hf, hh, hname, -⟩ := (mem_bodyLocals r l).1 hl
  subst hr
  obtain ⟨hp, hb⟩ := (ResolvedFunction.mem_fields_resolve ..).1 hf
  rw [hname]
  refine ⟨⟨_, hp, rfl⟩, ?_⟩
  rw [isHoisted, Bool.and_eq_true_iff, hb] at hh
  exact not_mem_params_of_readsSource hh.2

theorem nodup_fields (hfields : (fields.map (identifier ·.name)).Nodup) :
    (r.fields.map (identifier ·.param.name)).Nodup := by
  have h := congrArg (List.map identifier) (ResolvedFunction.names_fields_resolve unit base f source
    sourceType target fields)
  rw [← hr, List.map_map, List.map_map] at h
  exact h ▸ hfields

/-- A local that does not hide the source hides no parameter that a field takes its value from:
fields are different identifiers. -/
theorem identifier_ne_of_mem_bodyLocals (hfields : (fields.map (identifier ·.name)).Nodup)
    {l : Binder} (hl : l ∈ bodyLocals r) (hsource : identifier l.name ≠ identifier source.name)
    {p : Param} (hp : p ∈ f.params) (hname : p.name ∈ source.name :: fields.map (·.name)) :
    identifier l.name ≠ identifier p.name := by
  obtain ⟨⟨q, hq, hlq⟩, hnot⟩ := name_of_mem_bodyLocals hr hl
  rcases List.mem_cons.1 hname with hname | hname
  · rwa [hname]
  · obtain ⟨q', hq', hname⟩ := List.mem_map.1 hname
    intro heq
    rw [hlq, ← hname] at heq
    obtain rfl : q = q' := List.inj_on_of_nodup_map hfields hq hq' heq
    rw [hlq, hname] at hnot
    exact hnot (List.mem_map_of_mem hp)

/-- A resolved field has an expression, which has the value that the binding denotes wherever
`self` and the arguments are in sight. -/
theorem exists_expr_denotes (m : Model V) (self : V) {args : List V}
    (hsource : f.source? = some source) (hargs : args.length = f.params.length)
    {field : ResolvedField} (hf : field ∈ r.fields) (hres : field.binding.isResolved = true) :
    ∃ e v, bindingExpr? source field.binding = some e ∧ Denotes m self f args field.binding v ∧
      ∀ env, Sees env self f args (source.name :: fields.map (·.name)) → e.eval? m env = some v := by
  have hpos : f.params ≠ [] := by
    intro h
    rw [MappingFunction.source?, h] at hsource
    cases hsource
  obtain ⟨e, he⟩ := Option.isSome_iff_exists.1 ((bindingExpr?_isSome source _).trans hres)
  subst hr
  obtain ⟨hp, hb⟩ := (ResolvedFunction.mem_fields_resolve ..).1 hf
  have hparam : ∀ x, field.binding = .parameter x → x ∈ source.name :: fields.map (·.name) := by
    intro x hx
    rcases Binding.resolve_cases unit base f sourceType field.param.name with
      ⟨-, hr⟩ | ⟨-, ⟨_, -, hr⟩ | ⟨-, ⟨-, hr⟩ | ⟨-, ⟨-, hr⟩ | ⟨-, hr⟩⟩⟩⟩ <;>
      rw [hb, hr] at hx <;> cases hx
    exact List.mem_cons_of_mem _ (List.mem_map_of_mem hp)
  rw [hb] at hres
  obtain ⟨v, hv⟩ := exists_denotes m self hargs hpos hres
  rw [← hb] at hv
  exact ⟨e, v, he, hv, fun env henv =>
    eval?_bindingExpr m henv hsource List.mem_cons_self hparam hv he⟩

/-- All locals of a body are bound, and each has the value that its expression has at the start of
the body: since none of them hides what another one reads, their order does not matter. -/
theorem exists_bindLocals (m : Model V) (self : V) {args : List V}
    (hsource : f.source? = some source) (hargs : args.length = f.params.length)
    (hfields : (fields.map (identifier ·.name)).Nodup) (hnames : ∀ p ∈ fields, IsName p.name)
    (hunhidden : ∀ l ∈ bodyLocals r, identifier l.name ≠ identifier source.name)
    {start : Env V} (hstart : Sees start self f args (source.name :: fields.map (·.name))) :
    ∃ env, bindLocals? m start (bodyLocals r) = some env ∧
      Sees env self f args (source.name :: fields.map (·.name)) ∧
      ∀ l ∈ bodyLocals r, env.lookup (identifier l.name) = l.value.eval? m start := by
  have hnodup := nodup_bodyLocals r (nodup_fields hr hfields)
  have hvalue : ∀ l ∈ bodyLocals r, ∃ v, ∀ env,
      Sees env self f args (source.name :: fields.map (·.name)) → l.value.eval? m env = some v := by
    intro l hl
    obtain ⟨field, hf, -, -, he⟩ := (mem_bodyLocals r l).1 hl
    have hres : field.binding.isResolved = true := by
      rw [← bindingExpr?_isSome r.source, he]
      rfl
    obtain ⟨e, v, he', -, hev⟩ := exists_expr_denotes hr m self hsource hargs hf hres
    rw [show r.source = source by rw [hr]; rfl, he'] at he
    cases he
    exact ⟨v, hev⟩
  have hstep : ∀ env, Sees env self f args (source.name :: fields.map (·.name)) →
      ∀ l ∈ bodyLocals r, ∀ v,
        Sees ((identifier l.name, v) :: env) self f args (source.name :: fields.map (·.name)) := by
    intro env henv l hl v
    obtain ⟨⟨p, hp, hname⟩, -⟩ := name_of_mem_bodyLocals hr hl
    refine henv.cons ?_ (fun q hq => identifier_ne_of_mem_bodyLocals hr hfields hl
      (hunhidden l hl) hq) v
    rw [hname]
    exact (hnames p hp).identifier_ne_self
  obtain ⟨env, hbind, henv, -, hlookup⟩ := bindLocals?_spec m
    (Sees · self f args (source.name :: fields.map (·.name))) (bodyLocals r) hnodup hstep hvalue
    start hstart
  exact ⟨env, hbind, henv, hlookup⟩

/-- The literal of a body lists, in order, each resolved field with what its binding denotes. -/
theorem exists_evalFields (m : Model V) (self : V) {args : List V}
    (hsource : f.source? = some source) (hargs : args.length = f.params.length)
    (hparams : (f.params.map (·.name)).Nodup) {start env : Env V}
    (hstart : Sees start self f args (source.name :: fields.map (·.name)))
    (henv : Sees env self f args (source.name :: fields.map (·.name)))
    (hlocal : ∀ l ∈ bodyLocals r, env.lookup (identifier l.name) = l.value.eval? m start) :
    ∃ values, evalFields? m env (bodyFields r) = some values ∧
      List.Forall₂ (fun field entry => entry.1 = field.param.name ∧
          ∀ v, Denotes m self f args field.binding v ↔ v = entry.2)
        (r.fields.filter (·.binding.isResolved)) values := by
  have hrs : r.source = source := by rw [hr]; rfl
  refine mapM_filterMap_forall₂ r.fields ?_ ?_
  · intro field _ hres
    have hnone : bindingExpr? r.source field.binding = none := by
      rw [← Option.isNone_iff_eq_none, ← Option.not_isSome, bindingExpr?_isSome, hres]
      rfl
    rw [hnone, Option.map_none]
  · intro field hf hres
    obtain ⟨e, v, he, hv, hev⟩ := exists_expr_denotes hr m self hsource hargs hf hres
    refine ⟨_, (field.param.name, v), by rw [hrs, he, Option.map_some], ?_, rfl,
      fun w => ⟨fun hw => hw.unique hparams hv, fun hw => hw ▸ hv⟩⟩
    show Option.map _ ((if isHoisted r field = true then Expr.named field.param.name
      else e).eval? m env) = _
    split
    · next hh =>
      -- a hoisted field takes the value of its local, bound at the start
      have hmem : (⟨field.param.name, e⟩ : Binder) ∈ bodyLocals r :=
        (mem_bodyLocals r _).2 ⟨field, hf, hh, rfl, by rw [hrs]; exact he⟩
      rw [Expr.eval?, hlocal _ hmem, hev start hstart]
      rfl
    · rw [hev env henv]
      rfl

/-- The fields with a binding, as they are resolved and as the target has them. -/
theorem forall₂_filter_fields {P : String → Binding → String × V → Prop}
    {values : List (String × V)} :
    List.Forall₂ (fun field entry => P field.param.name field.binding entry)
        (r.fields.filter (·.binding.isResolved)) values ↔
      List.Forall₂ (fun p entry => P p.name (Binding.resolve unit base f sourceType p.name) entry)
        (fields.filter fun p => (Binding.resolve unit base f sourceType p.name).isResolved)
        values := by
  have hfields : r.fields.filter (·.binding.isResolved) =
      (fields.filter fun p => (Binding.resolve unit base f sourceType p.name).isResolved).map
        fun p => ⟨p, Binding.resolve unit base f sourceType p.name⟩ := by
    rw [hr, ResolvedFunction.resolve, List.filter_map]
    rfl
  rw [hfields, List.forall₂_map_left_iff]

/-- **A body computes what its bindings stand for** if no local hides the source. -/
theorem computes_method (hsource : f.source? = some source)
    (hparams : (f.params.map (identifier ·.name)).Nodup)
    (hfields : (fields.map (identifier ·.name)).Nodup)
    (hnames : ∀ x ∈ f.params.map (·.name) ++ fields.map (·.name), IsName x)
    (hunhidden : ∀ l ∈ bodyLocals r, identifier l.name ≠ identifier source.name) :
    Computes unit base f sourceType fields (method r) := by
  intro V m self args hargs
  have hfname : ∀ p ∈ fields, IsName p.name := fun p hp =>
    hnames _ (List.mem_append_right _ (List.mem_map_of_mem hp))
  have hself : ∀ p ∈ f.params, identifier p.name ≠ "self" := fun p hp =>
    (hnames _ (List.mem_append_left _ (List.mem_map_of_mem hp))).identifier_ne_self
  have hfunction : r.function = f := by rw [hr]; rfl
  have hstart := sees_env r self args (source.name :: fields.map (·.name))
    (by rw [hfunction]; exact hparams) (by rw [hfunction]; exact hself)
  rw [hfunction] at hstart
  have htexts : (f.params.map (·.name)).Nodup := by
    refine List.Nodup.of_map identifier ?_
    rwa [List.map_map]
  obtain ⟨env, hbind, henv, hlocal⟩ :=
    exists_bindLocals hr m self hsource hargs hfields hfname hunhidden hstart
  obtain ⟨values, hvalues, hdenote⟩ :=
    exists_evalFields hr m self hsource hargs htexts hstart henv hlocal
  refine ⟨values, ?_, (forall₂_filter_fields hr (P := fun name b entry => entry.1 = name ∧
    ∀ v, Denotes m self f args b v ↔ v = entry.2)).1 hdenote⟩
  rw [Method.call?, Body.fields?, show (method r).body.locals = bodyLocals r from rfl, hbind]
  exact hvalues

end

/-! ## A source that is hidden -/

/-- The fields of a literal are those of its binders, each with its value. -/
theorem forall₂_of_evalFields? {m : Model V} {env : Env V} {bs : List Binder}
    {values : List (String × V)} (h : evalFields? m env bs = some values) :
    List.Forall₂ (fun b entry => entry.1 = b.name ∧ b.value.eval? m env = some entry.2) bs
      values := by
  induction bs generalizing values with
  | nil =>
    cases h
    exact .nil
  | cons b bs ih =>
    rw [evalFields?, List.mapM_cons] at h
    obtain ⟨entry, hentry, h⟩ := Option.bind_eq_some_iff.1 h
    obtain ⟨rest, hrest, h⟩ := Option.bind_eq_some_iff.1 h
    cases h
    obtain ⟨v, hv, rfl⟩ := Option.map_eq_some_iff.1 hentry
    exact .cons ⟨rfl, hv⟩ (ih hrest)

/-- A model in which a field is what its owner is, and every call gives `true`. -/
def callModel : Model Bool where
  field owner _ := owner
  call _ _ _ := true

/-- Locals that call something are all `true`. -/
theorem lookup_of_bindLocals? {bs : List Binder}
    (hcalls : ∀ b ∈ bs, ∀ env v, b.value.eval? callModel env = some v → v = true)
    {env env' : Env Bool} (h : bindLocals? callModel env bs = some env') {x : String}
    (hx : x ∈ bs.map (identifier ·.name) ∨ env.lookup x = some true) :
    env'.lookup x = some true := by
  induction bs generalizing env with
  | nil =>
    cases h
    exact hx.resolve_left List.not_mem_nil
  | cons b bs ih =>
    obtain ⟨hb, hbs⟩ := List.forall_mem_cons.1 hcalls
    obtain ⟨v, hv, h⟩ := Option.bind_eq_some_iff.1 h
    refine ih hbs h ?_
    rw [hb env v hv, List.lookup_cons]
    by_cases hname : x = identifier b.name
    · exact Or.inr (by rw [hname, beq_self_eq_true])
    · rw [beq_false_of_ne hname]
      exact hx.imp_left fun hx => (List.mem_cons.1 hx).resolve_left hname

/-- What is hoisted is a call. -/
theorem eval?_of_mem_bodyLocals {r : ResolvedFunction} {l : Binder} (hl : l ∈ bodyLocals r)
    {env : Env Bool} {v : Bool} (hv : l.value.eval? callModel env = some v) : v = true := by
  obtain ⟨field, -, hh, -, he⟩ := (mem_bodyLocals r l).1 hl
  have hreads := (Bool.and_eq_true_iff.1 hh).2
  cases hb : field.binding with
  | sibling g pass =>
    rw [hb] at hreads he
    cases pass with
    | none => cases hreads
    | some passing =>
      rw [← Option.some.inj he] at hv
      obtain ⟨_, -, hv⟩ := Option.bind_eq_some_iff.1 hv
      obtain ⟨_, -, hv⟩ := Option.bind_eq_some_iff.1 hv
      exact (Option.some.inj hv).symm
  | accessor x =>
    rw [hb] at he
    rw [← Option.some.inj he] at hv
    obtain ⟨_, -, hv⟩ := Option.map_eq_some_iff.1 hv
    exact hv.symm
  | _ =>
    rw [hb] at hreads
    cases hreads

/-- Something is hoisted only where a field is moved out of an owned source. -/
theorem exists_property_of_mem_bodyLocals {r : ResolvedFunction} {l : Binder}
    (hl : l ∈ bodyLocals r) : ∃ field ∈ r.fields, ∃ x, field.binding = .property x ∧
      isHoisted r field = false ∧ bindingExpr? r.source field.binding =
        some (.field (.named r.source.name) x) := by
  obtain ⟨_, -, hh, -⟩ := (mem_bodyLocals r l).1 hl
  obtain ⟨howned, hany⟩ := Bool.and_eq_true_iff.1 (Bool.and_eq_true_iff.1 hh).1
  obtain ⟨field, hfield, hproperty⟩ := List.any_eq_true.1 hany
  split at hproperty
  · next x hb =>
    have hborrowed : r.source.type.isBorrowed = false := by
      rw [TypeRef.isBorrowed, eq_of_beq howned]
      rfl
    refine ⟨field, hfield, x, hb, by rw [isHoisted, hb]; exact Bool.and_false _, ?_⟩
    rw [hb, bindingExpr?, hborrowed]
    rfl
  · cases hproperty

/-- **A body does not compute what its bindings stand for if a local hides the source**: the field
that is moved out of the source comes from the local. -/
theorem not_computes_method {unit : MappingUnit} {base : Option TypeDescriptor}
    {f : MappingFunction} {source : Param} {sourceType : TypeDescriptor} {target : TypeRef}
    {fields : List Param} {r : ResolvedFunction}
    (hr : r = ResolvedFunction.resolve unit base f source sourceType target fields)
    (hsource : f.source? = some source) (hfields : (fields.map (identifier ·.name)).Nodup)
    {l : Binder} (hl : l ∈ bodyLocals r) (hhides : identifier l.name = identifier source.name) :
    ¬Computes unit base f sourceType fields (method r) := by
  intro hcomputes
  have hrs : r.source = source := by rw [hr]; rfl
  obtain ⟨params, hparams⟩ := List.head?_eq_some_iff.1 hsource
  obtain ⟨values, hcall, hvalues⟩ := hcomputes Bool callModel false
    (List.replicate f.params.length false) List.length_replicate
  obtain ⟨env, hbind, heval⟩ := Option.bind_eq_some_iff.1 hcall
  -- the source is `true` once the locals are bound
  have hlookup : env.lookup (identifier r.source.name) = some true := by
    refine lookup_of_bindLocals? (fun b hb env v => eval?_of_mem_bodyLocals hb) hbind (Or.inl ?_)
    rw [hrs, ← hhides]
    exact List.mem_map_of_mem hl
  -- and so is the field that is moved out of it, which stands for `false`
  obtain ⟨field, hfield, x, hb, hh, hexpr⟩ := exists_property_of_mem_bodyLocals hl
  obtain ⟨hp, hbinding⟩ := (ResolvedFunction.mem_fields_resolve ..).1 (hr ▸ hfield)
  rw [hb] at hbinding
  obtain ⟨entry, hentry, hname, hdenotes⟩ := exists_of_forall₂_right hvalues.flip field.param
    (List.mem_filter.2 ⟨hp, by rw [← hbinding]; rfl⟩)
  have hfalse : entry.2 = false := by
    refine ((hdenotes false).1 ?_).symm
    rw [← hbinding]
    exact .property (m := callModel) (by rw [hparams]; rfl)
  obtain ⟨b, hmem, hbname, hvalue⟩ :=
    exists_of_forall₂_right (forall₂_of_evalFields? heval) entry hentry
  obtain ⟨field', hfield', hbinder⟩ := List.mem_filterMap.1 hmem
  obtain ⟨e, he, rfl⟩ := Option.map_eq_some_iff.1 hbinder
  obtain rfl : field' = field :=
    List.inj_on_of_nodup_map (nodup_fields hr hfields) hfield' hfield
      (congrArg identifier (hbname.symm.trans hname))
  rw [hexpr] at he
  cases he
  rw [hh] at hvalue
  rw [show (if false = true then Expr.named field'.param.name
    else .field (.named r.source.name) x) = .field (.named r.source.name) x from rfl, Expr.eval?,
    Expr.eval?, hlookup, hfalse] at hvalue
  cases hvalue

/-- **What a body computes, and how it is written.**  The method that is generated for a function
returns, for each field of its target that has a binding, the one value that the binding denotes, in
every model of values and for all arguments, exactly if none of its locals is called, as an
identifier, like the source.  No local is called `self`, and none has the name of a parameter.  The
text of the body is what it computes, and a field in the short form takes the value of its own
name. -/
theorem computes_method_iff (unit : MappingUnit) (base : Option TypeDescriptor)
    (f : MappingFunction) (source : Param) (sourceType : TypeDescriptor) (target : TypeRef)
    (fields : List Param) (hsource : f.source? = some source)
    (hparams : (f.params.map (identifier ·.name)).Nodup)
    (hfields : (fields.map (identifier ·.name)).Nodup)
    (hnames : ∀ x ∈ f.params.map (·.name) ++ fields.map (·.name), IsName x) :
    let r := ResolvedFunction.resolve unit base f source sourceType target fields
    (Computes unit base f sourceType fields (method r) ↔
      ∀ l ∈ (body r).locals, identifier l.name ≠ identifier source.name) ∧
    (∀ l ∈ (body r).locals, identifier l.name ≠ "self" ∧ l.name ∉ f.params.map (·.name)) ∧
    (∃ text, BodyText (body r) text ∧
      (method r).print = methodText (method r).header.render text) ∧
    ∀ b ∈ (body r).result.fields, ExprText b.value b.name → b.value = .named b.name := by
  intro r
  have hfname : ∀ p ∈ fields, IsName p.name := fun p hp =>
    hnames _ (List.mem_append_right _ (List.mem_map_of_mem hp))
  refine ⟨⟨fun h l hl hhides => ?_, fun h => ?_⟩, fun l hl => ?_, ?_, fun b hb => ?_⟩
  · exact not_computes_method (r := r) rfl hsource hfields hl hhides h
  · exact computes_method (r := r) rfl hsource hparams hfields hnames h
  · obtain ⟨⟨p, hp, hname⟩, hnot⟩ := name_of_mem_bodyLocals (r := r) rfl hl
    rw [hname]
    exact ⟨(hfname p hp).identifier_ne_self, hname ▸ hnot⟩
  · exact ⟨_, bodyText_body r, print_method (method r)⟩
  · obtain ⟨field, hf, h⟩ := List.mem_filterMap.1 hb
    obtain ⟨e, -, rfl⟩ := Option.map_eq_some_iff.1 h
    exact value_of_shortForm r hb (hfname _ ((ResolvedFunction.mem_fields_resolve ..).1 hf).1)

/-- A summary of a student that is given away: two fields are moved out of it, after an accessor and
a sibling were called on it, and no local hides it. -/
theorem computes_method_intoSummary :
    let f := Students.function "into_summary" [Students.studentRef .owned]
      (.named "StudentSummary") .required
    let entity := (Students.registry.describe? "StudentEntity").getD (.bare "" "")
    let fields := Students.fields ["mat_nr", "display_name", "semester", "initials"]
    let r := ResolvedFunction.resolve Students.studentMapper none f (Students.studentRef .owned) entity
      (.named "StudentSummary") fields
    (body r).locals.map (·.name) = ["display_name", "initials"] ∧
    f.source? = some (Students.studentRef .owned) ∧
    (f.params.map (identifier ·.name)).Nodup ∧ (fields.map (identifier ·.name)).Nodup ∧
    (∀ x ∈ f.params.map (·.name) ++ fields.map (·.name), IsName x) ∧
    Computes Students.studentMapper none f entity fields (method r) ∧
    ∃ text, BodyText (body r) text ∧
      (method r).print = methodText (method r).header.render text := by
  intro f entity fields r
  have hparams : (f.params.map (identifier ·.name)).Nodup := by decide +kernel
  have hfields : (fields.map (identifier ·.name)).Nodup := by decide +kernel
  have hnames : ∀ x ∈ f.params.map (·.name) ++ fields.map (·.name), IsName x := by decide +kernel
  obtain ⟨hcomputes, -, htext, -⟩ := computes_method_iff Students.studentMapper none f
    (Students.studentRef .owned) entity (.named "StudentSummary") fields rfl hparams hfields hnames
  exact ⟨by decide +kernel, rfl, hparams, hfields, hnames, hcomputes.2 (by decide +kernel), htext⟩

/-- A badge is made for an employee, who is called `r#id` and has an accessor `id` and a name. -/
def badgeFunction : MappingFunction :=
  ⟨"badge", some .ref, [⟨"r#id", .named "Employee"⟩], some (.named "Badge"), .required⟩

def badgeUnit : MappingUnit := ⟨"Badges", .inline, "", false, none, none, [badgeFunction]⟩

def employee : TypeDescriptor :=
  (TypeDescriptor.record "Employee" .inline [⟨"name", .named "String"⟩]).withMethod "id"
    ⟨[], some (.named "u32")⟩

def badgeFields : List Param := [⟨"id", .named "u32"⟩, ⟨"name", .named "String"⟩]

/-- **A body does not always compute what its bindings stand for.**  The number of the employee is
kept in a local `id`, out of which the name is then moved. -/
theorem not_forall_computes :
    ¬∀ (unit : MappingUnit) (base : Option TypeDescriptor) (f : MappingFunction) (source : Param)
      (sourceType : TypeDescriptor) (target : TypeRef) (fields : List Param),
      f.source? = some source → (f.params.map (·.name)).Nodup →
      (f.params.map (identifier ·.name)).Nodup → (fields.map (·.name)).Nodup →
      (fields.map (identifier ·.name)).Nodup →
      (∀ x ∈ f.params.map (·.name) ++ fields.map (·.name), IsName x) →
      Computes unit base f sourceType fields
        (method (.resolve unit base f source sourceType target fields)) := by
  intro h
  have hfields : (badgeFields.map (identifier ·.name)).Nodup := by decide +kernel
  have hlocal : (⟨"id", .call (.named "r#id") "id"⟩ : Binder) ∈
      bodyLocals (.resolve badgeUnit none badgeFunction ⟨"r#id", .named "Employee"⟩ employee
        (.named "Badge") badgeFields) := by decide +kernel
  refine not_computes_method rfl rfl hfields hlocal (by decide +kernel) ?_
  exact h badgeUnit none badgeFunction ⟨"r#id", .named "Employee"⟩ employee (.named "Badge")
    badgeFields rfl (by decide +kernel) (by decide +kernel) (by decide +kernel) hfields
    (by decide +kernel)

end Mapwright.Code
