import Mapwright.Proofs.Integers
import Mapwright.Proofs.Lexing
import Mapwright.Proofs.Parsing

/-!
# What parsers read from the tokens of a text

The words, lifetimes and integers among the tokens of a text are spelled as
such.  Parsers take tokens off the head, so what each of them reads, it reads
from tokens of that kind.  A condition on the tokens that are next, and one on
those that are left, carry on from each parser to the one after it.

    tokens? cs = some ts → Spelled ts                                             (`spelled_of_tokens?`)
    Reads P p R → (∀ a, Reads (R a) (f a) Q) → Reads P (p >>= f) Q                (`Reads.bind`, and so for the others)
    name gives identifiers that are no keywords                                   (`reads_name`)
-/

namespace Mapwright.Source

open Token Text

/-! ## Spelled tokens -/

/-- Whether the text of a token is one that lexing gives to a token of its kind. -/
def Token.IsSpelled : Token → Prop
  | .ident w => IsIdentifier w.toList
  | .lifetime l => ∃ w, IsIdentifier w ∧ l.toList = '\x27' :: w
  | .literal .int n => IsInteger n.toList
  | _ => True

def Spelled (ts : List Token) : Prop := ∀ t ∈ ts, t.IsSpelled

theorem Spelled.suffix {ts rest : List Token} (h : Spelled ts) (hrest : rest <:+ ts) :
    Spelled rest := fun t ht => h t (hrest.subset ht)

theorem isSpelled_of_apostrophe? {cs rest : List Char} {t : Token}
    (h : apostrophe? cs = some (t, rest)) : t.IsSpelled := by
  unfold apostrophe? at h
  split at h
  · cases h
  · next w rest' hword =>
    obtain ⟨-, hw, -⟩ := identifier?_eq_some_iff.1 hword
    split at h
    · cases h
    · split at h
      · cases h
        trivial
      · cases h
        exact ⟨w, hw, String.toList_ofList⟩

theorem isSpelled_of_leaf? {cs rest : List Char} {t : Token} (h : leaf? cs = some (t, rest)) :
    t.IsSpelled := by
  unfold leaf? at h
  split at h
  · next kind rest' hliteral =>
    cases h
    cases kind with
    | int =>
      obtain ⟨n, rfl, hn⟩ := exists_isInteger_of_literal? hliteral
      show IsInteger _
      rwa [String.toList_ofList, List.length_append, Nat.add_sub_cancel, List.take_left]
    | _ => trivial
  · split at h
    · cases h
    · next c after =>
      split at h
      · exact isSpelled_of_apostrophe? h
      · split at h
        · cases h
          trivial
        · split at h
          · cases h
          · obtain ⟨⟨w, rest'⟩, hword, heq⟩ := Option.map_eq_some_iff.1 h
            cases heq
            show IsIdentifier _
            rw [String.toList_ofList]
            exact (identifier?_eq_some_iff.1 hword).2.1

theorem spelled_docTokens (inner : Bool) (words : List Char) : Spelled (docTokens inner words) := by
  have hdoc : IsIdentifier ['d', 'o', 'c'] := .plain ⟨by decide, by decide⟩
  cases inner <;> simp [Spelled, docTokens, Token.IsSpelled, hdoc]

/-- A step of lexing reads spelled tokens. -/
theorem TokenStep.spelled {openings openings' : List Delimiter} {cs rest : List Char}
    {ts : List Token} (h : TokenStep openings cs ts openings' rest) : Spelled ts := by
  cases h with
  | documentation => exact spelled_docTokens _ _
  | placeholder => exact List.forall_mem_singleton.2 trivial
  | opening => exact List.forall_mem_singleton.2 trivial
  | closing => exact List.forall_mem_singleton.2 trivial
  | leaf _ _ _ _ hleaf => exact List.forall_mem_singleton.2 (isSpelled_of_leaf? hleaf)

/-- **The tokens of a text are spelled as such.** -/
theorem spelled_of_tokensUpTo {fuel : Nat} {openings : List Delimiter} {cs : List Char}
    {ts : List Token} (h : tokensUpTo fuel openings cs = some ts) : Spelled ts := by
  induction fuel generalizing openings cs ts with
  | zero => cases h
  | succ fuel ih =>
    obtain ⟨-, -, rfl⟩ | ⟨head, openings', rest, tail, hstep, htail, rfl⟩ :=
      exists_step_of_tokensUpTo h
    · exact List.forall_mem_nil _
    · exact List.forall_mem_append.2 ⟨hstep.spelled, ih htail⟩

theorem spelled_of_tokens? {cs : List Char} {ts : List Token} (h : tokens? cs = some ts) :
    Spelled ts := spelled_of_tokensUpTo h

/-! ## What is read -/

namespace Parse

variable {α β : Type} {p : Parse α} {P : List Token → Prop} {Q R : α → List Token → Prop}

/-- From spelled tokens with a property a parser gives values, and leaves tokens, with a
property. -/
def Reads (P : List Token → Prop) (p : Parse α) (Q : α → List Token → Prop) : Prop :=
  ∀ ts a rest, Spelled ts → P ts → p.run ts = some (a, rest) → Q a rest

/-- No condition on tokens. -/
def Anywhere (_ : List Token) : Prop := True

namespace Reads

theorem weaken {P' : List Token → Prop} (hp : Reads P p R) (hP : ∀ ts, P' ts → P ts)
    (hQ : ∀ a rest, R a rest → Q a rest) : Reads P' p Q :=
  fun ts a rest hts hstart h => hQ a rest (hp ts a rest hts (hP ts hstart) h)

theorem imp (hp : Reads P p R) (hQ : ∀ a rest, R a rest → Q a rest) : Reads P p Q :=
  hp.weaken (fun _ h => h) hQ

/-- What can be read anywhere can be read here. -/
theorem here (hp : Reads Anywhere p Q) : Reads P p Q := hp.weaken (fun _ _ => trivial) fun _ _ h => h

/-! ### One after the other -/

theorem bind [Takes p] {f : α → Parse β} {S : β → List Token → Prop} (hp : Reads P p R)
    (hf : ∀ a, Reads (R a) (f a) S) : Reads P (p >>= f) S := by
  intro ts b rest hts hstart h
  rw [StateT.run_bind] at h
  obtain ⟨⟨a, mid⟩, ha, hb⟩ := Option.bind_eq_some_iff.1 h
  exact hf a mid b rest (hts.suffix (Takes.suffix ts a mid ha)) (hp ts a mid hts hstart ha) hb

/-- What is read first has no bearing on what is given. -/
theorem after [Takes p] {f : α → Parse β} {S : β → List Token → Prop}
    (hf : ∀ a, Reads Anywhere (f a) S) : Reads P (p >>= f) S :=
  bind (R := fun _ => Anywhere) (fun _ _ _ _ _ _ => trivial) hf

/-- A test of the tokens that are next. -/
theorem next {test : List Token → Bool} {f : Bool → Parse β} {S : β → List Token → Prop}
    (hf : ∀ b, Reads (fun ts => P ts ∧ test ts = b) (f b) S) : Reads P (Parse.next test >>= f) S := by
  intro ts b rest hts hstart h
  rw [run_next_bind] at h
  exact hf _ ts b rest hts ⟨hstart, rfl⟩ h

theorem pure {a : α} (h : ∀ ts, P ts → Q a ts) : Reads P (pure a) Q := by
  intro ts b rest _ hstart hb
  cases hb
  exact h ts hstart

theorem failure : Reads P (failure : Parse α) Q := by
  intro ts a rest _ _ h
  cases h

/-- A choice gives what its sides give. -/
theorem ite {c : Prop} [Decidable c] {q : Parse α} (hp : c → Reads P p Q) (hq : ¬c → Reads P q Q) :
    Reads P (if c then p else q) Q := by
  split
  · next h => exact hp h
  · next h => exact hq h

theorem map [Takes p] {f : α → β} {S : β → List Token → Prop} (hp : Reads P p R)
    (h : ∀ a rest, R a rest → S (f a) rest) : Reads P (do return f (← p)) S :=
  hp.bind fun a => pure (h a)

/-- A step that may be left out has no bearing on what is given. -/
theorem optionally {c : Prop} [Decidable c] {step : Parse PUnit} [Takes step]
    {k : PUnit → Parse α} (hk : ∀ u, Reads Anywhere (k u) Q) :
    Reads P (if c then step >>= k else k ⟨⟩) Q :=
  ite (fun _ => after hk) (fun _ => (hk _).here)

/-- What holds whatever the tokens are can be used while they are read. -/
theorem given {c : Prop} (hp : c → Reads Anywhere p Q) : Reads (fun _ => c) p Q :=
  fun ts a rest hts hc h => hp hc ts a rest hts trivial h

/-! ### Repetition -/

section

variable [Takes p] {S : α → Prop}

theorem many (hp : Reads Anywhere p fun a _ => S a) (stop : List Token → Bool) :
    Reads Anywhere (Parse.many stop p) fun as _ => ∀ a ∈ as, S a := by
  have hfuel : ∀ fuel, Reads Anywhere (manyUpTo stop p fuel) fun as _ => ∀ a ∈ as, S a := by
    intro fuel
    induction fuel with
    | zero => exact failure
    | succ fuel ih =>
      refine after fun ts => ite (fun _ => pure fun _ _ => List.forall_mem_nil _) fun _ => ?_
      refine hp.bind fun a => given fun ha => ?_
      exact ih.map fun as _ has => List.forall_mem_cons.2 ⟨ha, has⟩
  exact after fun ts => hfuel _

theorem separated (hp : Reads Anywhere p fun a _ => S a) (stop : List Token → Bool)
    (separator : List Char) :
    Reads Anywhere (Parse.separated stop separator p) fun as _ => ∀ a ∈ as, S a := by
  have hfuel : ∀ fuel,
      Reads Anywhere (separatedUpTo stop separator p fuel) fun as _ => ∀ a ∈ as, S a := by
    intro fuel
    induction fuel with
    | zero => exact failure
    | succ fuel ih =>
      refine after fun ts => ite (fun _ => pure fun _ _ => List.forall_mem_nil _) fun _ => ?_
      refine hp.bind fun a => given fun ha => after fun ts => ?_
      refine ite (fun _ => pure fun _ _ => List.forall_mem_singleton.2 ha) fun _ => after fun _ => ?_
      exact ih.map fun as _ has => List.forall_mem_cons.2 ⟨ha, has⟩
  exact after fun ts => hfuel _

theorem chained (hp : Reads Anywhere p fun a _ => S a) (stop : List Token → Bool)
    (separator : List Char) :
    Reads Anywhere (Parse.chained stop separator p) fun as _ => ∀ a ∈ as, S a := by
  have hfuel : ∀ fuel,
      Reads Anywhere (chainedUpTo stop separator p fuel) fun as _ => ∀ a ∈ as, S a := by
    intro fuel
    induction fuel with
    | zero => exact failure
    | succ fuel ih =>
      refine after fun ts => ite (fun _ => pure fun _ _ => List.forall_mem_nil _) fun _ => ?_
      refine hp.bind fun a => given fun ha => after fun more => ite (fun _ => ?_) fun _ => ?_
      · exact ih.map fun as _ has => List.forall_mem_cons.2 ⟨ha, has⟩
      · exact pure fun _ _ => List.forall_mem_singleton.2 ha
  exact after fun ts => hfuel _

theorem commaList (hp : Reads Anywhere p fun a _ => S a) :
    Reads Anywhere (Parse.commaList p) fun as _ => ∀ a ∈ as, S a :=
  hp.separated atEnd [',']

end

/-! ### Groups and whole lists -/

/-- What is inside a group is read up to the delimiter that closes it. -/
theorem group_of_closing [Takes p] {S : α → Prop} (hp : Reads Anywhere p Q)
    (h : ∀ a d rest, Q a (.closing d :: rest) → S a) (d : Delimiter) :
    Reads P (Parse.group d p) fun a _ => S a := by
  refine after fun _ => after fun _ => hp.bind fun a => ?_
  intro ts b rest _ hq hb
  cases ts with
  | nil => cases hb
  | cons t ts =>
    cases t with
    | closing d' =>
      cases hb
      exact h a d' rest hq
    | _ => cases hb

theorem group [Takes p] {S : α → Prop} (hp : Reads Anywhere p fun a _ => S a) (d : Delimiter) :
    Reads P (Parse.group d p) fun a _ => S a :=
  group_of_closing hp (fun _ _ _ h => h) d

theorem run? {S : α → Prop} (hp : Reads Anywhere p fun a _ => S a) {ts : List Token}
    (hts : Spelled ts) {a : α} (h : Parse.run? p ts = some a) : S a := by
  unfold Parse.run? at h
  split at h
  · next b hb =>
    cases h
    exact hp ts a [] hts trivial hb
  · cases h

end Reads

/-! ### Words -/

theorem reads_word : Reads P word fun w _ => IsIdentifier w.toList := by
  intro ts w rest hts _ h
  rw [run_word_eq_some_iff.1 h] at hts
  exact hts _ List.mem_cons_self

/-- A name is an identifier and no keyword. -/
theorem reads_name : Reads P name fun w _ => IsIdentifier w.toList ∧ isKeyword w = false := by
  intro ts w rest hts hstart h
  have hkeyword := yields_name ts ts w rest (List.suffix_refl ts) h
  unfold name at h
  rw [run_demand_bind] at h
  split at h
  · exact ⟨reads_word (P := Anywhere) ts w rest hts trivial h, hkeyword⟩
  · cases h

end Parse

end Mapwright.Source
