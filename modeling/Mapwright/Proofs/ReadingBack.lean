import Mapwright.Proofs.Readings

/-!
# Spelled types are read back

The rules for types and expressions give what can be laid out again, and so does
the grammar of any depth.  Hence the spelling of a type that was read is read as
the same type, if it is legible.

    type? text = some t → t.spell = .ok s → t.isLegible true → type? s = some t      (`type?_spell`)
-/

namespace Mapwright.Source

open Token Parse

namespace Grammar

variable {g : Grammar} [Taking g] {P : List Token → Prop}

/-! ## Function pointers -/

theorem reads_pointerParam (hg : g.ReadsBack) (first : Bool) :
    Reads P (pointerParam g first) fun o _ => ∀ t ∈ o, t.ReadsBack true := by
  have hunspelled : ∀ t ∈ some TypeExpr.unspelled, t.ReadsBack true := by
    rintro _ ⟨⟩
    exact .of_none
  unfold pointerParam
  refine .after fun _ => .after fun variadic => .ite (fun _ => ?_) (fun _ => ?_)
  · refine .after fun _ => ?_
    extract_lets dots
    have hdots : ∀ u, Reads Anywhere (dots u) fun o _ => ∀ t ∈ o, t.ReadsBack true :=
      fun _ => .after fun _ => .pure fun _ _ t ht => (by cases ht)
    exact .ite (fun _ => .after fun _ => .after hdots) (fun _ => hdots ())
  · extract_lets mutSelf
    refine .after fun mutable => ?_
    extract_lets rest
    have hrest : ∀ u, Reads Anywhere (rest u) fun o _ => ∀ t ∈ o, t.ReadsBack true := by
      intro u
      refine .after fun named => .after fun isSelf => ?_
      extract_lets last
      have hlast : ∀ u, Reads Anywhere (last u) fun o _ => ∀ t ∈ o, t.ReadsBack true := by
        intro u
        refine .after fun _ => .ite (fun _ => .after fun _ => .after fun _ => ?_) (fun _ => ?_)
        · exact .pure fun _ _ => hunspelled
        refine .ite (fun _ => .after fun _ => .pure fun _ _ => hunspelled) (fun _ => ?_)
        refine (reads_wholeType hg).map fun t _ ht => ?_
        split
        · exact hunspelled
        · rintro _ ⟨⟩
          exact ht.1
      exact .ite (fun _ => .after fun _ => .after hlast) (fun _ => hlast ())
    exact .ite (fun _ => .after hrest) (fun _ => hrest ())

theorem reads_pointerParams (hg : g.ReadsBack) :
    Reads Anywhere (pointerParams g) fun ts _ => ∀ t ∈ ts, t.ReadsBack true := by
  unfold pointerParams
  refine .after fun _ => .ite (fun _ => .pure fun _ _ => List.forall_mem_nil _) (fun _ => ?_)
  refine (reads_pointerParam hg true).bind fun first => .given fun hfirst => .after fun more => ?_
  extract_lets rest
  have hrest : ∀ os : List (Option TypeExpr), (∀ o ∈ os, ∀ t ∈ o, t.ReadsBack true) →
      Reads Anywhere (rest os) fun ts _ => ∀ t ∈ ts, t.ReadsBack true := by
    intro os hos
    refine .after fun _ => .pure fun _ _ t ht => ?_
    obtain ⟨o, ho, hto⟩ := List.mem_filterMap.1 ht
    exact List.forall_mem_cons.2 ⟨hfirst, hos⟩ o ho t hto
  refine .ite (fun _ => ?_) (fun _ => ?_)
  · exact (reads_pointerParam hg false).commaList.bind fun os => .given fun hos => hrest os hos
  · rw [pure_bind]
    exact hrest [] (List.forall_mem_nil _)

theorem reads_functionPointer (hg : g.ReadsBack) (plus binder : Bool) :
    Reads P (functionPointer g binder) fun t _ => t.ReadsBack plus ∧ boundName? t = none := by
  unfold functionPointer
  refine .after fun _ => .after fun _ => .after fun _ => ?_
  refine ((reads_pointerParams hg).group .paren).bind fun inputs => .given fun hinputs => ?_
  exact (reads_output? hg).map fun output _ houtput => ⟨.function hinputs houtput, rfl⟩

/-! ## Paths -/

/-- A type that is no bound and binds no name. -/
theorem TypeRead.of_back {plus : Bool} {t : TypeExpr} (h : t.ReadsBack plus)
    (hname : boundName? t = none) : TypeRead plus (t, none) :=
  ⟨h, fun b hb => (by cases hb), fun name hn => (by rw [hname] at hn; cases hn)⟩

theorem TypeRead.traitObject {plus : Bool} {b : Bound} {bs : List Bound}
    (hb : b.ReadsBack ∧ boundsTrait b = true) (hbs : ∀ b ∈ bs, b.ReadsBack) :
    TypeRead plus (.traitObject (b :: bs), none) :=
  .of_back (.traitObject (List.forall_mem_cons.2 ⟨hb.1, hbs⟩) (by simp [hb.2])) rfl

/-- A single bound that is a type is one that more bounds may follow. -/
theorem TypeRead.single {plus : Bool} {b : Bound} (hb : b.ReadsBack ∧ boundsTrait b = true) :
    TypeRead plus (.traitObject [b], some b) := by
  refine ⟨.traitObject (List.forall_mem_singleton.2 hb.1) (by simp [hb.2]), ?_, fun _ h => ?_⟩
  · rintro _ ⟨⟩
    exact hb
  · cases h

theorem TypeRead.path {plus : Bool} {p : Path} (hp : p.IsRead)
    (hcalls : CallsAllowed (fun output => isClosedOutput output = true) p.segments)
    (hfirst : p.absolute = true ∨ p.first? ≠ some "try") :
    TypeRead plus (.path p, some (.trait false p)) := by
  have hback : ∀ s ∈ p.segments, s.ReadsBack := fun s hs => (hp.segments s hs).back
  refine ⟨.path hback hp.ne_nil hcalls hfirst, ?_, fun name hname => ?_⟩
  · rintro _ ⟨⟩
    exact ⟨.trait hback hp.ne_nil, rfl⟩
  · unfold boundName? at hname
    split at hname
    · next heq =>
      cases heq
      cases hname
      exact ⟨(hp.segments _ List.mem_cons_self).name, fun htry => hfirst.elim Bool.false_ne_true
        fun hne => hne (congrArg some htry)⟩
    · next heq =>
      cases heq
      cases hname
      exact ⟨(hp.segments _ List.mem_cons_self).name, fun htry => hfirst.elim Bool.false_ne_true
        fun hne => hne (congrArg some htry)⟩
    · cases hname

/-- A path that is read as a type does not begin with the bare word `try`. -/
theorem reads_typePath (hg : g.ReadsBack) :
    Reads (fun ts => startsPath ts = true ∧ startsWith ['<'] ts = false) (path g false)
      fun p _ => (p.IsRead ∧ ∀ s ∈ p.segments, s.IsUncalled) ∧
        (p.absolute = true ∨ p.first? ≠ some "try") := by
  refine (reads_path hg false).imp fun p rest hp => ⟨hp.1, hp.2.imp_right ?_⟩
  rintro ⟨w, ts, hw, ⟨hstarts, -⟩, -⟩ htry
  rw [htry] at hw
  cases hw
  cases hstarts

theorem reads_pathType (hg : g.ReadsBack) (plus binder : Bool) :
    Reads (fun ts => startsPath ts = true) (pathType g plus binder) fun r _ => TypeRead plus r := by
  unfold pathType
  refine (reads_anyPath false (reads_typePath hg)).bind fun r => ?_
  obtain ⟨isQualified, p⟩ := r
  cases isQualified with
  | true => exact .after fun p => .pure fun _ _ => .of_back .of_none rfl
  | false =>
    refine .since (fun _ h => h rfl) fun h => ?_
    obtain ⟨⟨hp, hcalls⟩, hfirst⟩ := h
    refine (reads_calledPath hg hp (callsAllowed_of_uncalled hcalls)).bind fun p' => .given fun h => ?_
    obtain ⟨hp', hcalls', habsolute, hfirst'⟩ := h
    have hread : ∀ {plus}, TypeRead plus (.path p', some (.trait false p')) := by
      rw [← habsolute, ← hfirst'] at hfirst
      exact .path hp' hcalls' hfirst
    have hbound := (hread : TypeRead plus _).bound _ rfl
    refine .after fun bang => .ite (fun _ => ?_) (fun _ => .after fun sum => .ite (fun _ => ?_) fun _ => ?_)
    · exact .after fun _ => .after fun _ => .pure fun _ _ => .of_back .of_none rfl
    · exact (reads_moreBounds hg false false).map fun bs _ hbs => .traitObject hbound hbs
    · exact .ite (fun _ => .pure fun _ _ => .single hbound) (fun _ => .pure fun _ _ => hread)

/-! ## Parentheses and brackets -/

/-- What stands in parentheses can be laid out again. -/
def Enclosed.IsRead : Enclosed → Prop
  | .tuple elems => ∀ t ∈ elems, t.ReadsBack true
  | .type t b => TypeRead true (t, b)
  | .bound b => b.ReadsBack ∧ boundsTrait b = true

theorem reads_enclosed (hg : g.ReadsBack) : Reads Anywhere (enclosed g) fun e _ => e.IsRead := by
  unfold enclosed
  refine .ifNext (.pure fun _ _ => List.forall_mem_nil _) (.ifNext ?_ (.ifNext ?_ ?_))
  · refine (reads_traitBounds hg true false false).map fun bs _ hbs => ?_
    exact TypeRead.of_back (.traitObject hbs.1 hbs.2.2) rfl
  · exact (reads_traitBound hg false).map fun b _ hb => hb
  · refine (hg.type true).here.bind fun r => .given fun hr => ?_
    obtain ⟨first, b⟩ := r
    refine .after fun comma => .ite (fun _ => ?_) (fun _ => .pure fun _ _ => hr)
    exact (reads_types hg).map fun ts _ hts => List.forall_mem_cons.2 ⟨hr.back, hts⟩

theorem reads_parenType (hg : g.ReadsBack) (plus : Bool) :
    Reads P (parenType g plus) fun r _ => TypeRead plus r := by
  unfold parenType
  refine ((reads_enclosed hg).group .paren).bind fun e => .given fun he => ?_
  cases e with
  | tuple elems => exact .pure fun _ _ => .of_back (.tuple he) rfl
  | bound b =>
    refine (reads_addedBounds hg).bind fun bs => .given fun hbs => ?_
    cases bs with
    | nil => exact .pure fun _ _ => .single he
    | cons c bs => exact .pure fun _ _ => .traitObject he hbs
  | type t b =>
    cases b with
    | none => exact .pure fun _ _ => .of_back (.paren he.back) rfl
    | some b =>
      refine .after fun sum => .ite (fun _ => ?_) (fun _ => .pure fun _ _ => ?_)
      · exact (reads_addedBounds hg).map fun bs _ hbs => .traitObject (he.bound b rfl) hbs
      · exact .of_back (.paren he.back) rfl

theorem reads_bracketType (hg : g.ReadsBack) (plus : Bool) :
    Reads P (bracketType g) fun t _ => t.ReadsBack plus ∧ boundName? t = none := by
  unfold bracketType
  refine .group_of_closing (Q := fun t rest => atEnd rest = true →
    t.ReadsBack plus ∧ boundName? t = none) ?_ (fun t d rest h => h rfl) .bracket
  refine (reads_wholeType hg).bind fun elem => .given fun helem => .ifSymbol ?_ ?_
  · refine hg.length.map fun e rest he hend => ⟨.array helem.1 ?_, rfl⟩
    cases e with
    | constant c => exact he c rfl hend
    | _ => exact .of_none
  · exact .pure fun _ _ _ => ⟨.slice helem.1, rfl⟩

/-! ## Types -/

theorem reads_pointerType (hg : g.ReadsBack) (plus : Bool) :
    Reads P (pointerType g) fun t _ => t.ReadsBack plus ∧ boundName? t = none := by
  unfold pointerType
  refine .after fun _ => .after fun mutable => .optionally fun _ => ?_
  exact (reads_plainType hg).map fun t _ ht => ⟨.pointer ht, rfl⟩

theorem reads_referenceType (hg : g.ReadsBack) (plus : Bool) :
    Reads P (referenceType g) fun t _ => t.ReadsBack plus ∧ boundName? t = none := by
  unfold referenceType
  refine .after fun _ => reads_lifetime?.bind fun l => .given fun hl => .after fun mutable => ?_
  exact (reads_plainType hg).map fun t _ ht => ⟨.reference ht hl, rfl⟩

theorem reads_dynType (hg : g.ReadsBack) (plus : Bool) :
    Reads P (dynType g plus) fun t _ => t.ReadsBack plus ∧ boundName? t = none := by
  unfold dynType
  refine .after fun _ => .after fun star => ?_
  refine (reads_traitBounds hg plus false false).map fun bs _ hbs => ?_
  cases star with
  | true => exact ⟨.of_none, rfl⟩
  | false => exact ⟨.traitObject hbs.1 hbs.2.2, rfl⟩

theorem reads_implType (hg : g.ReadsBack) (plus : Bool) :
    Reads P (implType g plus) fun t _ => t.ReadsBack plus ∧ boundName? t = none := by
  unfold implType
  refine .after fun _ => (reads_traitBounds hg plus true true).map fun bs _ hbs => ?_
  exact ⟨.implTrait hbs.1 hbs.2.1 hbs.2.2, rfl⟩

theorem reads_typeRule (hg : g.ReadsBack) (plus : Bool) :
    Reads Anywhere (typeRule g plus) fun r _ => TypeRead plus r := by
  have hplain : ∀ {P} {p : Parse TypeExpr} [Takes p],
      Reads P p (fun t _ => t.ReadsBack plus ∧ boundName? t = none) →
        Reads P (do return (← p, none)) fun r _ => TypeRead plus r :=
    fun h => h.map fun _ _ ht => .of_back ht.1 ht.2
  unfold typeRule
  refine .after fun binder => .after fun _ => .ifNext (reads_parenType hg plus) ?_
  refine .ifNext (hplain (reads_functionPointer hg plus binder)) (.ifNext ?_ ?_)
  · exact (reads_pathType hg plus binder).weaken (fun _ h => h.2) fun _ _ h => h
  refine .ifNext (hplain (reads_dynType hg plus)) ?_
  refine .ifNext (hplain (reads_bracketType hg plus)) ?_
  refine .ifNext (hplain (reads_pointerType hg plus)) ?_
  refine .ifNext (hplain (reads_referenceType hg plus)) ?_
  refine .ifSymbol (.pure fun _ _ => .of_back .never rfl) ?_
  refine .ifNext (hplain (reads_implType hg plus)) (.after fun _ => .ite (fun _ => ?_) (fun _ => ?_))
  · exact .pure fun _ _ => .of_back .of_none rfl
  · refine .after fun _ => (reads_traitBounds hg true false false).map fun bs _ hbs => ?_
    exact .of_back (.traitObject hbs.1 hbs.2.2) rfl

/-! ## Lengths of arrays -/

/-- The form of an expression is no constant. -/
def NoConstant (e : ExprForm) : Prop := ∀ c, e ≠ .constant c

/-- A constant, if it ends where the group does, can be laid out as the length of an array. -/
def LengthRead (e : ExprForm) (rest : List Token) : Prop :=
  ∀ c, e = .constant c → atEnd rest = true → c.ReadsBackLength

theorem reads_noConstant {e : ExprForm} (h : NoConstant e) :
    Reads P (pure e) LengthRead := .pure fun _ _ c hc => absurd hc (h c)

/-- The length of an array is a literal without a minus. -/
theorem reads_lengthLiteral : Reads (fun ts => startsWith ['-'] ts = false) literal fun c rest =>
    LengthRead (.constant c) rest := by
  refine reads_literal.imp fun c rest hc => ?_
  rintro _ ⟨⟩ -
  rcases hc with ⟨n, hn, rfl | ⟨-, ts, hplain, hminus⟩⟩ | ⟨value, rfl⟩ | rfl
  · exact .int hn
  · rw [hplain] at hminus
    cases hminus
  · exact .bool value
  · exact .of_none

/-- A path that ends where the group does is not the bare word `try` alone. -/
theorem reads_pathExpr (hg : g.ReadsBack) :
    Reads (fun ts => startsPathExpr ts = true) (pathExpr g true) LengthRead := by
  unfold pathExpr
  refine (reads_anyPath true (reads_path hg true)).bind fun r => ?_
  obtain ⟨isQualified, p⟩ := r
  refine .ifNext (.after fun _ => .after fun _ => reads_noConstant fun _ h => by cases h) ?_
  refine .ifNext (.after fun _ => reads_noConstant fun _ h => by cases h) ?_
  cases isQualified with
  | true => exact reads_noConstant fun _ h => by cases h
  | false =>
    refine .pure fun rest h => ?_
    obtain ⟨⟨hp, -⟩, hstart⟩ := h.1.1 rfl
    rintro _ ⟨⟩ hend
    refine .path (fun s hs => (hp.segments s hs).back) (fun s hs => (hp.segments s hs).name)
      hp.ne_nil (hstart.imp_right ?_)
    rintro ⟨w, ts, hw, ⟨hexpr, -⟩, hbare⟩ hnames
    have htry : w = "try" := by
      have hfirst : p.names.head? = some w := by rwa [Path.names, List.head?_map]
      rw [hnames] at hfirst
      exact (Option.some.inj hfirst).symm
    subst htry
    obtain rfl := hbare (by decide) hnames
    have hmore : startsWith ['!'] rest = true ∨ startsWith [':', ':'] rest = true := by
      simpa [startsPathExpr, startsPath, startsPathWord, startsName, startsAnyOf, startsKeyword,
        afterTree, startsWith, isKeyword, keywords, rootWords] using hexpr
    cases rest with
    | nil => rcases hmore with h | h <;> cases h
    | cons t ts =>
      cases t with
      | closing d => rcases hmore with h | h <;> cases h
      | _ => cases hend

theorem reads_rangeExpr (braces : Bool) : Reads P (rangeExpr g braces) fun e _ => NoConstant e := by
  have hrange : NoConstant .range := fun _ h => by cases h
  unfold rangeExpr
  refine .after fun _ => .after fun closed => .ifNext (.pure fun _ _ => hrange) ?_
  exact .after fun _ => .pure fun _ _ => hrange

theorem reads_atom (hg : g.ReadsBack) :
    Reads (fun ts => startsWith ['-'] ts = false) (atom g true) LengthRead := by
  have hother : ∀ {P}, Reads P (pure .other) LengthRead := reads_noConstant fun _ h => by cases h
  have hblock : ∀ {P}, Reads P (pure .block) LengthRead := reads_noConstant fun _ h => by cases h
  unfold atom
  refine .ifNext ?_ (.ifNext (.after fun _ => hblock) ?_)
  · exact (reads_lengthLiteral.weaken (fun _ h => h.1) fun _ _ h => h).map fun _ _ h => h
  refine .ifNext (.after fun _ => .after fun _ => .after fun _ => hother) ?_
  refine .ifNext (.after fun _ => hother) ?_
  refine .ifNext (.after fun _ => .after fun _ => .after fun _ => .after fun _ => .after fun _ =>
    hother) ?_
  refine .ifNext ((reads_pathExpr hg).weaken (fun _ h => h.2) fun _ _ h => h) ?_
  -- none of the other forms is a constant
  refine .after fun _ => .ite (fun _ => .after fun _ => hother) (fun _ => .after fun _ => ?_)
  refine .ite (fun _ => .after fun _ => hother) (fun _ => .after fun _ => ?_)
  refine .ite (fun _ => .after fun _ => hother) (fun _ => .after fun _ => ?_)
  refine .ite (fun _ => .after fun _ => .after fun _ => .optionally fun _ => hother)
    (fun _ => .after fun _ => ?_)
  refine .ite (fun _ => .after fun _ => hother) (fun _ => .after fun _ => ?_)
  refine .ite (fun _ => .after fun _ => hother) (fun _ => .after fun _ => ?_)
  refine .ite (fun _ => .after fun _ => hother) (fun _ => .after fun _ => ?_)
  refine .ite (fun _ => ?_) (fun _ => .after fun _ => ?_)
  · exact (reads_rangeExpr true).imp fun e _ he c hc => absurd hc (he c)
  · exact .ite (fun _ => hother) (fun _ => .after fun _ => hblock)

/-- What follows an expression makes no constant of it, or leaves it and the tokens as they are. -/
theorem reads_trailersRule (hg : g.ReadsBack) (e : ExprForm) : Reads P (trailersRule g e)
    fun e' rest => ∀ c, e' = .constant c → e = .constant c ∧ P rest := by
  have hmore : ∀ {P'}, Reads P' (g.trailers .other) fun e' rest =>
      ∀ c, e' = .constant c → e = .constant c ∧ P rest :=
    hg.trailers.here.imp fun e' _ he c hc => absurd hc (he c)
  unfold trailersRule
  refine .ifNext (.after fun _ => hmore) (.ifNext ?_ (.ifNext (.after fun _ => hmore) (.ifNext
    (.after fun _ => hmore) (.pure fun ts h c hc => ⟨hc, h.1.1.1.1⟩))))
  refine .after fun _ => .after fun float => ?_
  extract_lets after rest
  have hrest : ∀ complete, Reads Anywhere (rest complete) fun e' _ => NoConstant e' :=
    fun complete => .ite (fun _ => .after fun _ => hg.trailers) (fun _ => hg.trailers)
  have hall : ∀ e' rest, NoConstant e' → ∀ c, e' = .constant c → e = .constant c ∧ P rest :=
    fun e' rest he c hc => absurd hc (he c)
  refine .ite (fun _ => .after fun _ => ?_) (fun _ => ?_)
  · exact (Reads.after hrest).imp hall
  · exact (Reads.after hrest).imp hall

/-- Operators make no constant of their operands, or leave the operand and the tokens as they
are. -/
theorem reads_operatorsRule (hg : g.ReadsBack) (braces : Bool) (least : Nat) (e : ExprForm) :
    Reads P (operatorsRule g braces least e) fun e' rest =>
      ∀ c, e' = .constant c → e = .constant c ∧ P rest := by
  have hmore : ∀ {P'} e', NoConstant e' → Reads P' (g.operators braces least e') fun e' rest =>
      ∀ c, e' = .constant c → e = .constant c ∧ P rest :=
    fun e' he' => (hg.operators braces least e' he').here.imp fun e' _ he c hc => absurd hc (he c)
  have hother : NoConstant .other := fun _ h => by cases h
  have hkeep : ∀ {P' : List Token → Prop}, (∀ ts, P' ts → P ts) → Reads P' (pure e) fun e' rest =>
      ∀ c, e' = .constant c → e = .constant c ∧ P rest :=
    fun h => .pure fun ts hts c hc => ⟨hc, h ts hts⟩
  unfold operatorsRule
  refine .ite (fun _ => hkeep fun _ h => h) (fun _ => .look fun ts => ?_)
  cases operator? ts with
  | some op =>
    obtain ⟨sym, precedence⟩ := op
    refine .ite (fun _ => hkeep fun _ h => h) (fun _ => ?_)
    refine .after fun _ => .after fun _ => .after fun _ => hmore _ ?_
    split <;> exact fun _ h => by cases h
  | none =>
    refine .ifNext (.after fun _ => .after fun _ => hmore _ hother) (.ifNext ?_ (.ifNext ?_ ?_))
    · exact (reads_rangeExpr braces).imp fun e' _ he c hc => absurd hc (he c)
    · exact .after fun _ => .after fun _ => .after fun _ => hmore _ hother
    · exact hkeep fun _ h => h.1.1.1

theorem reads_operandRule (hg : g.ReadsBack) : Reads P (operandRule g true) LengthRead := by
  have hother : ∀ {P}, Reads P (pure .other) LengthRead := reads_noConstant fun _ h => by cases h
  unfold operandRule
  refine .after fun attributes => .after fun _ => .ite (fun _ => .after fun _ => .after fun _ => hother)
    (fun _ => .ifNext (.after fun _ => .after fun _ => hother) ?_)
  have hatom : Reads (fun ts => Anywhere ts ∧ (startsWith ['*'] ts || startsWith ['!'] ts ||
      startsWith ['-'] ts) = false) (atom g true) LengthRead :=
    (reads_atom hg).weaken (fun ts h => (Bool.or_eq_false_iff.1 h.2).2) fun _ _ h => h
  refine hatom.bind fun e => (reads_trailersRule hg e).bind fun e' => ?_
  refine .demand (.pure fun ts h c hc => ?_)
  obtain ⟨he, hrest⟩ := h.1 c hc
  exact hrest c he

theorem reads_exprRule (hg : g.ReadsBack) : Reads P (exprRule g true) LengthRead := by
  unfold exprRule
  refine (reads_operandRule hg).bind fun e => (reads_operatorsRule hg true _ e).imp ?_
  intro e' rest h c hc
  obtain ⟨he, hrest⟩ := h c hc
  exact hrest c he

/-! ## Any depth -/

theorem readsBack_deepen (hg : g.ReadsBack) : (deepen g).ReadsBack where
  type := reads_typeRule hg
  bound captures consts := reads_boundRule hg captures consts
  length := reads_exprRule hg
  trailers := (reads_trailersRule hg .other).imp fun e _ h c hc => by cases (h c hc).1
  operators braces least left hleft :=
    (reads_operatorsRule hg braces least left).imp fun e _ h c hc => hleft c (h c hc).1

omit [Taking g] in
/-- **The grammar of any depth gives what can be laid out again.** -/
theorem readsBack_upTo (depth : Nat) : (upTo depth).ReadsBack := by
  induction depth with
  | zero => exact ⟨fun _ => .failure, fun _ _ => .failure, .failure, .failure, fun _ _ _ _ => .failure⟩
  | succ depth ih => exact readsBack_deepen ih

end Grammar

/-- Pieces that can be laid out before the end of a word are the tokens of their letters. -/
theorem LaidBefore.tokens?_letters {ps : List Piece} (h : LaidBefore EndsWords ps) :
    tokens? (letters ps) = some (tokens ps) := by
  have hall := h [] [] endsWords_nil rfl
  rw [List.append_nil] at hall
  exact Source.tokens?_letters hall

/-- **The spelling of a type that was read is read as the type.** -/
theorem type?_spell {text s : String} {t : TypeExpr} (ht : type? text = some t)
    (hs : t.spell = .ok s) (hlegible : t.isLegible true = true) : type? s = some t := by
  obtain ⟨ts, hts, hread⟩ := Option.bind_eq_some_iff.1 ht
  have hback : t.ReadsBack true := Reads.run?
    ((Grammar.reads_wholeType (Grammar.readsBack_upTo _)).imp fun _ _ h => h.1)
    (spelled_of_tokens? hts) hread
  obtain ⟨ps, hps, htext⟩ := TypeExpr.spell_eq_ok_iff.1 hs
  obtain ⟨hlaid, hread⟩ := hback ps hps
  have htokens : tokens? s.toList = some (tokens ps) := htext ▸ hlaid.tokens?_letters
  have hrun := (hread hlegible).run_wholeType (n := (tokens ps).length + 1) [] (Nat.lt_succ_self _) rfl
  rw [List.append_nil] at hrun
  rw [type?, htokens]
  show Parse.run? (Grammar.wholeType (Grammar.upTo ((tokens ps).length + 1))) (tokens ps) = some t
  rw [Parse.run?, hrun]
  rfl

/-- The type of a text, if the text is one of a legible type. -/
theorem exists_of_spelling (text s : String)
    (h : (type? text).any (fun t => t.spell.toOption == some s && t.isLegible true) = true) :
    ∃ t, type? text = some t ∧ t.spell = .ok s ∧ t.isLegible true = true := by
  obtain ⟨t, ht, hall⟩ := (Option.any_eq_true _ _).1 h
  rw [Bool.and_eq_true, beq_iff_eq] at hall
  exact ⟨t, ht, toOption_eq_some_iff.1 hall.1, hall.2⟩

theorem type?_spell_map : ∃ t,
    type? "Map::<&'a str, Item = [u8; 4], B: Copy + 'a>" = some t ∧
      t.spell = .ok "Map<&'a str, Item = [u8; 4], B: Copy + 'a>" ∧ t.isLegible true = true ∧
      type? "Map<&'a str, Item = [u8; 4], B: Copy + 'a>" = some t := by
  obtain ⟨t, ht, hs, hlegible⟩ := exists_of_spelling "Map::<&'a str, Item = [u8; 4], B: Copy + 'a>"
    "Map<&'a str, Item = [u8; 4], B: Copy + 'a>" (by decide +kernel)
  exact ⟨t, ht, hs, hlegible, type?_spell ht hs hlegible⟩

/-- Texts of types, and their spellings, each of which lacks what tells how to read it: separators
before arguments in an expression, parentheses around bounds after a reference, and parentheses
around a trait with a segment after its arguments. -/
theorem unread_spellings : ∀ e ∈ [("[u8; Layout::<3>::WIDTH]", "[u8; Layout<3>::WIDTH]"),
    ("&'b 'a + Send", "&'b dyn 'a + Send"), ("Fn()::Output + Send", "dyn Fn()::Output + Send")],
    ((type? e.1).bind (·.spell.toOption)) = some e.2 ∧ (type? e.2).isNone = true := by
  decide +kernel

/-- Not every spelling is the text of a type. -/
theorem not_forall_type?_spell :
    ¬ ∀ (text s : String) (t : TypeExpr), type? text = some t → t.spell = .ok s →
      ∃ t', type? s = some t' ∧ t'.spell = .ok s := by
  intro h
  obtain ⟨hspelled, hunread⟩ := unread_spellings
    ("[u8; Layout::<3>::WIDTH]", "[u8; Layout<3>::WIDTH]") (.head _)
  obtain ⟨t, ht, hs⟩ := Option.bind_eq_some_iff.1 hspelled
  obtain ⟨t', ht', -⟩ := h _ _ t ht (toOption_eq_some_iff.1 hs)
  rw [ht'] at hunread
  cases hunread

end Mapwright.Source
