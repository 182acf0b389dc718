import Mapwright.Proofs.Taking

/-!
# What parsers give

A property of all that a parser gives, wherever among some tokens it begins.  Of
parsers one after the other only those count whose values are used, and of a
choice both sides.  What repeats a parser gives lists of its values, and a group
is what is inside.

    name gives no keywords                          (`yields_name`)
    p gives values with a property → many stop p gives lists of such values
                                                    (`Yields.many`, and so for the others)
-/

namespace Mapwright.Source.Parse

open Token

variable {α β : Type} {p : Parse α} {Q R : α → Prop}

theorem forall_mem_none : ∀ a ∈ (none : Option α), Q a := by
  intro a ha
  cases ha

theorem forall_mem_some {a : α} (h : Q a) : ∀ b ∈ some a, Q b := by
  intro b hb
  cases hb
  exact h

/-- Whatever a parser gives has a property, if it reads the given tokens or those at their end. -/
def Yields (whole : List Token) (p : Parse α) (Q : α → Prop) : Prop :=
  ∀ ts a rest, ts <:+ whole → p.run ts = some (a, rest) → Q a

namespace Yields

variable {whole : List Token}

/-! ## One after the other -/

theorem bind [Takes p] {f : α → Parse β} {S : β → Prop} (hp : Yields whole p R)
    (hf : ∀ a, R a → Yields whole (f a) S) : Yields whole (p >>= f) S := by
  intro ts b rest hts h
  rw [StateT.run_bind] at h
  obtain ⟨⟨a, mid⟩, ha, hb⟩ := Option.bind_eq_some_iff.1 h
  exact hf a (hp ts a mid hts ha) mid b rest ((Takes.suffix ts a mid ha).trans hts) hb

/-- What is read first has no bearing on what is given. -/
theorem after [Takes p] {f : α → Parse β} {S : β → Prop} (hf : ∀ a, Yields whole (f a) S) :
    Yields whole (p >>= f) S :=
  bind (R := fun _ => True) (fun _ _ _ _ _ => trivial) fun a _ => hf a

theorem pure {a : α} (h : Q a) : Yields whole (pure a : Parse α) Q := by
  intro ts b rest _ hb
  cases hb
  exact h

theorem failure : Yields whole (failure : Parse α) Q := by
  intro ts a rest _ h
  cases h

theorem imp (hp : Yields whole p R) (h : ∀ a, R a → Q a) : Yields whole p Q :=
  fun ts a rest hts ha => h a (hp ts a rest hts ha)

/-- A choice gives what its sides give. -/
theorem ite {c : Prop} [Decidable c] {q : Parse α} (hp : c → Yields whole p Q)
    (hq : ¬c → Yields whole q Q) : Yields whole (if c then p else q) Q := by
  split
  · next h => exact hp h
  · next h => exact hq h

/-- A step that may be left out has no bearing on what is given. -/
theorem optionally {c : Prop} [Decidable c] {step : Parse PUnit} [Takes step]
    {k : PUnit → Parse α} (hk : ∀ u, Yields whole (k u) Q) :
    Yields whole (if c then step >>= k else k ⟨⟩) Q :=
  ite (fun _ => after hk) (fun _ => hk _)

theorem map [Takes p] {f : α → β} {S : β → Prop} (hp : Yields whole p R)
    (h : ∀ a, R a → S (f a)) : Yields whole (do return f (← p)) S :=
  hp.bind fun a ha => pure (h a ha)

/-! ## Repetition -/

section

variable [Takes p]

theorem many (hp : Yields whole p Q) (stop : List Token → Bool) :
    Yields whole (Parse.many stop p) fun as => ∀ a ∈ as, Q a := by
  have hfuel : ∀ fuel, Yields whole (manyUpTo stop p fuel) fun as => ∀ a ∈ as, Q a := by
    intro fuel
    induction fuel with
    | zero => exact failure
    | succ fuel ih =>
      refine after fun ts => ?_
      split
      · exact pure (List.forall_mem_nil _)
      · exact hp.bind fun a ha => ih.map fun as has => List.forall_mem_cons.2 ⟨ha, has⟩
  exact after fun ts => hfuel _

theorem separated (hp : Yields whole p Q) (stop : List Token → Bool) (separator : List Char) :
    Yields whole (Parse.separated stop separator p) fun as => ∀ a ∈ as, Q a := by
  have hfuel : ∀ fuel,
      Yields whole (separatedUpTo stop separator p fuel) fun as => ∀ a ∈ as, Q a := by
    intro fuel
    induction fuel with
    | zero => exact failure
    | succ fuel ih =>
      refine after fun ts => ?_
      split
      · exact pure (List.forall_mem_nil _)
      · refine hp.bind fun a ha => after fun ts => ?_
        split
        · exact pure (List.forall_mem_singleton.2 ha)
        · exact after fun _ => ih.map fun as has => List.forall_mem_cons.2 ⟨ha, has⟩
  exact after fun ts => hfuel _

theorem chained (hp : Yields whole p Q) (stop : List Token → Bool) (separator : List Char) :
    Yields whole (Parse.chained stop separator p) fun as => ∀ a ∈ as, Q a := by
  have hfuel : ∀ fuel,
      Yields whole (chainedUpTo stop separator p fuel) fun as => ∀ a ∈ as, Q a := by
    intro fuel
    induction fuel with
    | zero => exact failure
    | succ fuel ih =>
      refine after fun ts => ?_
      split
      · exact pure (List.forall_mem_nil _)
      · refine hp.bind fun a ha => after fun more => ?_
        split
        · exact ih.map fun as has => List.forall_mem_cons.2 ⟨ha, has⟩
        · exact pure (List.forall_mem_singleton.2 ha)
  exact after fun ts => hfuel _

theorem commaList (hp : Yields whole p Q) :
    Yields whole (Parse.commaList p) fun as => ∀ a ∈ as, Q a :=
  hp.separated atEnd [',']

theorem group (hp : Yields whole p Q) (d : Delimiter) : Yields whole (Parse.group d p) Q := by
  refine after fun _ => after fun _ => hp.bind fun a ha => after fun t => ?_
  split
  · exact pure ha
  · exact failure

end

theorem run? {ts : List Token} (hp : Yields ts p Q) {a : α} (h : Parse.run? p ts = some a) :
    Q a := by
  unfold Parse.run? at h
  split at h
  · next b hb =>
    cases h
    exact hp ts a [] (List.suffix_refl ts) hb
  · cases h

end Yields

/-! ## Words -/

theorem run_next_bind (test : List Token → Bool) (f : Bool → Parse α) (ts : List Token) :
    (next test >>= f).run ts = (f (test ts)).run ts :=
  rfl

theorem run_demand_bind (test : List Token → Bool) (f : Unit → Parse α) (ts : List Token) :
    (demand test >>= f).run ts = if test ts then (f ()).run ts else none := by
  unfold demand
  rw [bind_assoc]
  show (if test ts then Pure.pure () else failure : Parse Unit) ts >>= (fun e => f e.1 e.2) = _
  cases test ts <;> rfl

theorem run_symbol_bind (sym : List Char) (f : Unit → Parse α) (ts : List Token) :
    (symbol sym >>= f).run ts =
      if startsWith sym ts then (f ()).run (ts.drop sym.length) else none := by
  unfold symbol
  rw [bind_assoc, run_demand_bind]
  rfl

theorem run_word_eq_some_iff {ts rest : List Token} {w : String} :
    word.run ts = some (w, rest) ↔ ts = .ident w :: rest := by
  constructor
  · intro h
    cases ts with
    | nil => cases h
    | cons t ts =>
      cases t with
      | ident v =>
        cases h
        rfl
      | _ => cases h
  · rintro rfl
    rfl

theorem startsAnyOf_ident {words : List String} {w : String} {ts : List Token} :
    startsAnyOf words (.ident w :: ts) = true ↔ w ∈ words :=
  List.contains_iff_mem

/-- A name is no keyword. -/
theorem yields_name (whole : List Token) : Yields whole name fun w => isKeyword w = false := by
  intro ts w rest _ h
  unfold name at h
  rw [run_demand_bind] at h
  split at h
  · next hstarts =>
    rw [run_word_eq_some_iff.1 h] at hstarts
    exact Bool.not_eq_true' _ ▸ hstarts
  · cases h

theorem yields_nameOr (whole : List Token) (words : List String) :
    Yields whole (nameOr words) fun w => w ∈ words ∨ isKeyword w = false := by
  intro ts w rest hts h
  have hrun : (nameOr words).run ts =
      if startsAnyOf words ts then word.run ts else name.run ts := by
    unfold nameOr
    cases hs : startsAnyOf words ts <;> simp [StateT.run_bind, hs]
  rw [hrun] at h
  split at h
  · next hstarts =>
    rw [run_word_eq_some_iff.1 h] at hstarts
    exact Or.inl (startsAnyOf_ident.1 hstarts)
  · exact Or.inr (yields_name whole ts w rest hts h)

end Mapwright.Source.Parse
