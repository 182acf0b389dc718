import Mapwright.Proofs.Legible
import Mapwright.Proofs.Tokens

/-!
# What is read can be laid out

The rules for paths, their arguments and bounds give what can be laid out again
as it is spelled, if the rules for what is nested do.

    Grammar.ReadsBack g        the rules for what is nested give such types, bounds and constants
    a path is read from segments that can be laid out                                  (`reads_path`)
-/

namespace Mapwright.Source

open Token

namespace Parse

variable {α : Type} {P : List Token → Prop} {Q : α → List Token → Prop}

/-! ## Tests and choices -/

namespace Reads

/-- What follows from the tokens that are next can be used while they are read. -/
theorem since {c : Prop} {p : Parse α} (h : ∀ ts, P ts → c) (hp : c → Reads Anywhere p Q) :
    Reads P p Q := fun ts a rest hts hstart hrun => hp (h ts hstart) ts a rest hts trivial hrun

theorem started {p : Parse α} (hp : Reads P p Q) : Reads P p fun a rest => Q a rest ∧ ∃ ts, P ts :=
  fun ts a rest hts hstart h => ⟨hp ts a rest hts hstart h, ts, hstart⟩

/-- A choice by the tokens that are next. -/
theorem ifNext {test : List Token → Bool} {p q : Parse α}
    (hp : Reads (fun ts => P ts ∧ test ts = true) p Q)
    (hq : Reads (fun ts => P ts ∧ test ts = false) q Q) :
    Reads P (Parse.next test >>= fun b => if b then p else q) Q := by
  refine next fun b => ?_
  cases b with
  | true => exact hp
  | false => exact hq

theorem demand {test : List Token → Bool} {f : Unit → Parse α}
    (hf : Reads (fun ts => P ts ∧ test ts = true) (f ()) Q) :
    Reads P (Parse.demand test >>= f) Q := by
  intro ts a rest hts hstart h
  rw [run_demand_bind] at h
  split at h
  · next htest => exact hf ts a rest hts ⟨hstart, htest⟩ h
  · cases h

/-- The tokens that are next are looked at. -/
theorem look {f : List Token → Parse α} (hf : ∀ ts, Reads P (f ts) Q) : Reads P (get >>= f) Q :=
  fun ts a rest hts hstart h => hf ts ts a rest hts hstart h

/-- Where punctuation is not taken, it was not next. -/
theorem symbol? (sym : List Char) :
    Reads P (Parse.symbol? sym) fun b ts => b = false → P ts ∧ startsWith sym ts = false := by
  intro ts b rest _ hstart h
  have h : (Parse.symbol? sym >>= Pure.pure).run ts = some (b, rest) := by rwa [bind_pure]
  rw [run_symbol?_bind] at h
  split at h
  · cases h
    exact fun hb => (by cases hb)
  · next hsym =>
    cases h
    exact fun _ => ⟨hstart, Bool.eq_false_iff.2 hsym⟩

/-- A choice by whether punctuation is next. -/
theorem ifSymbol {sym : List Char} {p q : Parse α} (hp : Reads Anywhere p Q)
    (hq : Reads (fun ts => P ts ∧ startsWith sym ts = false) q Q) :
    Reads P (Parse.symbol? sym >>= fun b => if b then p else q) Q := by
  refine (symbol? sym).bind fun b => ?_
  cases b with
  | true => exact hp.here
  | false => exact hq.weaken (fun ts hts => hts rfl) fun _ _ h => h

/-- Where nothing is taken one after the other, the tokens are the same. -/
theorem many_nil {p : Parse α} {stop : List Token → Bool} :
    Reads P (Parse.many stop p) fun as rest => as = [] → P rest := by
  rintro ts as rest _ hstart h rfl
  have h : (manyUpTo stop p (ts.length + 1)).run ts = some ([], rest) := h
  have hget : (get : Parse (List Token)).run ts = some (ts, ts) := rfl
  rw [manyUpTo, run_bind_of hget] at h
  split at h
  · cases h
    exact hstart
  · rw [StateT.run_bind] at h
    obtain ⟨⟨a, mid⟩, -, h⟩ := Option.bind_eq_some_iff.1 h
    rw [StateT.run_bind] at h
    obtain ⟨⟨as, last⟩, -, h⟩ := Option.bind_eq_some_iff.1 h
    cases h

end Reads

/-! ## Words and literals -/

/-- The word that is read is the one that was next. -/
theorem reads_next_word :
    Reads P word fun w rest => IsIdentifier w.toList ∧ P (.ident w :: rest) := by
  intro ts w rest hts hstart h
  have hword := reads_word (P := Anywhere) ts w rest hts trivial h
  rw [run_word_eq_some_iff.1 h] at hstart
  exact ⟨hword, hstart⟩

theorem reads_nameOr (words : List String) : Reads P (nameOr words) fun w rest =>
    IsIdentifier w.toList ∧ (w ∈ words ∨ isKeyword w = false) ∧ P (.ident w :: rest) := by
  intro ts w rest hts hstart h
  have hget : (get : Parse (List Token)).run ts = some (ts, ts) := rfl
  rw [nameOr, run_bind_of hget] at h
  split at h
  · next hwords =>
    obtain ⟨hword, -⟩ := reads_next_word (P := P) ts w rest hts hstart h
    rw [run_word_eq_some_iff.1 h] at hwords hstart
    exact ⟨hword, Or.inl (startsAnyOf_ident.1 hwords), hstart⟩
  · obtain ⟨hword, hname⟩ := reads_name (P := P) ts w rest hts hstart h
    rw [Parse.name, run_demand_bind] at h
    split at h
    · rw [run_word_eq_some_iff.1 h] at hstart
      exact ⟨hword, Or.inr hname, hstart⟩
    · cases h

theorem reads_lifetime : Reads P lifetime fun l _ => IsLifetime l := by
  intro ts l rest hts _ h
  cases ts with
  | nil => cases h
  | cons t ts =>
    cases t with
    | lifetime l' =>
      cases h
      exact hts _ List.mem_cons_self
    | _ => cases h

theorem reads_lifetime? : Reads P lifetime? fun l _ => ∀ x ∈ l, IsLifetime x := by
  refine Reads.after fun ts => .ite (fun _ => ?_) (fun _ => .pure fun _ _ x hx => (by cases hx))
  refine reads_lifetime.map fun l _ hl x hx => ?_
  cases hx
  exact hl

end Parse

/-- A segment that can be laid out again. -/
structure Segment.IsRead (s : Segment) : Prop where
  back : s.ReadsBack
  name : IsSegmentName s.name

def Segment.IsUncalled (s : Segment) : Prop := ∀ inputs output, s.args ≠ .called inputs output

/-- A path whose segments can be laid out again. -/
structure Path.IsRead (p : Path) : Prop where
  segments : ∀ s ∈ p.segments, s.IsRead
  ne_nil : p.segments ≠ []

/-- The first word of a path. -/
def Path.first? (p : Path) : Option String := p.segments.head?.map (·.name)

/-! ## Calls in paths -/

theorem callsAllowed_of_uncalled {allowed : Option TypeExpr → Prop} {ss : List Segment}
    (h : ∀ s ∈ ss, s.IsUncalled) : CallsAllowed allowed ss := by
  induction ss with
  | nil => trivial
  | cons s ss ih =>
    obtain ⟨hs, hss⟩ := List.forall_mem_cons.1 h
    exact ⟨fun _ inputs output heq => absurd heq (hs inputs output), ih hss⟩

theorem callsAllowed_append {allowed : Option TypeExpr → Prop} {pre ss : List Segment}
    (hne : ss ≠ []) : CallsAllowed allowed (pre ++ ss) ↔
      (∀ s ∈ pre, ∀ inputs output, s.args = .called inputs output → allowed output) ∧
        CallsAllowed allowed ss := by
  induction pre with
  | nil => simp
  | cons s pre ih =>
    have hmore : pre ++ ss ≠ [] := by simp [hne]
    rw [List.cons_append, CallsAllowed, ih, List.forall_mem_cons, and_assoc]
    exact and_congr_left fun _ => ⟨fun h => h hmore, fun h _ => h⟩

/-- A path whose last segment can take arguments. -/
theorem exists_of_isOpen {p : Path} (h : p.isOpen = true) : ∃ absolute pre name args,
    p = ⟨absolute, pre ++ [⟨name, args⟩]⟩ := by
  obtain ⟨absolute, ss⟩ := p
  rcases List.eq_nil_or_concat ss with rfl | ⟨pre, ⟨name, args⟩, rfl⟩
  · cases h
  · exact ⟨absolute, pre, name, args, by rw [List.concat_eq_append]⟩

/-- A path goes on after arguments in parentheses. -/
theorem Path.IsRead.called {absolute : Bool} {pre rest : List Segment} {name : String}
    {args : SegmentArgs} {inputs : List TypeExpr} {output : Option TypeExpr}
    (h : Path.IsRead ⟨absolute, pre ++ [⟨name, args⟩]⟩) (hinputs : ∀ t ∈ inputs, t.ReadsBack true)
    (houtput : ∀ t ∈ output, t.ReadsBack false) (hrest : ∀ s ∈ rest, s.IsRead) :
    Path.IsRead ⟨absolute, pre ++ ⟨name, .called inputs output⟩ :: rest⟩ := by
  obtain ⟨hpre, hlast⟩ := List.forall_mem_append.1 h.segments
  have hname := (hlast _ List.mem_cons_self).name
  refine ⟨List.forall_mem_append.2 ⟨hpre, List.forall_mem_cons.2 ⟨⟨?_, hname⟩, hrest⟩⟩, by simp⟩
  exact .called hname hinputs houtput

/-- The last segment of a path takes arguments in parentheses. -/
theorem Path.IsRead.close {p : Path} {inputs : List TypeExpr} {output : Option TypeExpr}
    (h : p.IsRead) (hopen : p.isOpen = true) (hinputs : ∀ t ∈ inputs, t.ReadsBack true)
    (houtput : ∀ t ∈ output, t.ReadsBack false) : (p.close (.called inputs output)).IsRead := by
  obtain ⟨absolute, pre, name, args, rfl⟩ := exists_of_isOpen hopen
  rw [Path.close, closeSegments_concat]
  exact h.called hinputs houtput (List.forall_mem_nil _)

namespace Grammar

open Parse

variable {g : Grammar} {P : List Token → Prop}

/-- What a literal gives: a number, with a minus if that is next, a truth value, or something that
has no spelling. -/
theorem reads_literal : Reads P literal fun c _ =>
    (∃ n : String, IsInteger n.toList ∧ (c = .int n ∨ (c = .int ("-" ++ n) ∧
      ∃ ts, P ts ∧ startsWith ['-'] ts = true))) ∨ (∃ value, c = .bool value) ∨
        c = .otherLiteral := by
  intro ts c rest hts hstart h
  rw [literal, run_demand_bind] at h
  split at h
  · next hliteral =>
    cases ts with
    | nil => cases hliteral
    | cons t ts =>
      cases t with
      | ident w =>
        cases h
        exact Or.inr (Or.inl ⟨_, rfl⟩)
      | literal kind text =>
        cases kind with
        | int =>
          cases h
          exact Or.inl ⟨text, hts _ List.mem_cons_self, Or.inl rfl⟩
        | _ =>
          cases h
          exact Or.inr (Or.inr rfl)
      | punct s joint =>
        cases ts with
        | nil => cases h
        | cons t ts =>
          cases t with
          | literal kind text =>
            cases kind with
            | int =>
              have hminus : startsWith ['-'] (.punct s joint :: .literal .int text :: ts) = true := by
                unfold startsLiteral at hliteral
                split at hliteral <;> simp_all
              cases h
              exact Or.inl ⟨text, hts _ (List.mem_cons_of_mem _ List.mem_cons_self),
                Or.inr ⟨rfl, _, hstart, hminus⟩⟩
            | _ =>
              cases h
              exact Or.inr (Or.inr rfl)
          | _ =>
            cases h
            exact Or.inr (Or.inr rfl)
      | _ => cases hliteral
  · cases h

/-! ## What is nested -/

/-- What is given for a type: the type can be laid out again, so can the bound that it stands for,
and a name that it binds can be read again. -/
structure TypeRead (plus : Bool) (r : TypeExpr × Option Bound) : Prop where
  back : r.1.ReadsBack plus
  bound : ∀ b ∈ r.2, b.ReadsBack ∧ boundsTrait b = true
  name : ∀ name, boundName? r.1 = some name → IsArgName name

/-- The rules for what is nested give what can be laid out again. -/
structure ReadsBack (g : Grammar) : Prop where
  type : ∀ plus, Reads Anywhere (g.type plus) fun r _ => TypeRead plus r
  bound : ∀ captures consts, Reads Anywhere (g.bound captures consts) fun b _ => b.ReadsBack
  length : Reads Anywhere (g.expr true) fun e rest =>
    ∀ c, e = .constant c → atEnd rest = true → c.ReadsBackLength
  trailers : Reads Anywhere (g.trailers .other) fun e _ => ∀ c, e ≠ .constant c
  operators : ∀ braces least left, (∀ c, left ≠ .constant c) →
    Reads Anywhere (g.operators braces least left) fun e _ => ∀ c, e ≠ .constant c

variable [Taking g]

theorem reads_wholeType (hg : g.ReadsBack) : Reads P (wholeType g) fun t _ =>
    t.ReadsBack true ∧ ∀ name, boundName? t = some name → IsArgName name :=
  (hg.type true).here.map fun _ _ hr => ⟨hr.back, hr.name⟩

theorem reads_plainType (hg : g.ReadsBack) : Reads P (plainType g) fun t _ => t.ReadsBack false :=
  (hg.type false).here.map fun _ _ hr => hr.back

theorem reads_types (hg : g.ReadsBack) :
    Reads Anywhere (commaList (wholeType g)) fun ts _ => ∀ t ∈ ts, t.ReadsBack true :=
  ((reads_wholeType hg).imp fun _ _ ht => ht.1).commaList

theorem reads_output? (hg : g.ReadsBack) :
    Reads P (output? g false) fun o _ => ∀ t ∈ o, t.ReadsBack false := by
  refine .ifSymbol ?_ (.pure fun _ _ t ht => (by cases ht))
  refine (hg.type false).map fun r _ hr t ht => ?_
  cases ht
  exact hr.back

/-! ## Arguments -/

theorem reads_constArg : Reads P (constArg g) fun c _ => c.ReadsBack := by
  unfold constArg
  refine .ifNext (reads_literal.imp fun c _ hc => ?_) (.after fun _ => .pure fun _ _ => .of_none)
  rcases hc with ⟨n, hn, rfl | ⟨rfl, -⟩⟩ | ⟨value, rfl⟩ | rfl
  · exact .int hn
  · exact .negative hn
  · exact .bool value
  · exact .of_none

theorem reads_genericArg (hg : g.ReadsBack) :
    Reads Anywhere (genericArg g) fun a _ => a.ReadsBack := by
  unfold genericArg
  refine .ifNext (reads_lifetime.map fun l _ hl => .lifetime hl) ?_
  refine .ifNext (reads_constArg.map fun c _ hc => .const hc) ?_
  refine (reads_wholeType hg).bind fun t => .given fun ht => ?_
  cases hname : boundName? t with
  | none => exact .pure fun _ _ => .type ht.1
  | some name =>
    have hname := ht.2 name hname
    refine .ifSymbol (.ifNext ?_ ?_) (.ifSymbol ?_ (.pure fun _ _ => .type ht.1))
    · exact reads_constArg.map fun c _ hc => .assocConst hname hc
    · exact (reads_wholeType hg).map fun t _ ht => .assocType hname ht.1
    · exact ((hg.bound false true).chained _ _).map fun bs _ hbs => .constraint hname hbs

theorem reads_angledArgs (hg : g.ReadsBack) : Reads P (angledArgs g) fun args _ =>
    ∃ as, args = .angled as ∧ ∀ a ∈ as, a.ReadsBack := by
  unfold angledArgs
  refine .after fun _ => .after fun _ => ((reads_genericArg hg).separated _ _).bind fun as => ?_
  exact .given fun has => .after fun _ => .pure fun _ _ => ⟨as, rfl, has⟩

theorem reads_calledArgs (hg : g.ReadsBack) : Reads P (calledArgs g) fun args _ =>
    ∃ inputs output, args = .called inputs output ∧ (∀ t ∈ inputs, t.ReadsBack true) ∧
      ∀ t ∈ output, t.ReadsBack false := by
  unfold calledArgs
  refine ((reads_types hg).group .paren).bind fun inputs => .given fun hinputs => ?_
  exact (reads_output? hg).map fun output _ houtput => ⟨inputs, output, rfl, hinputs, houtput⟩

/-! ## Paths -/

/-- A segment is read from the word that is next; a bare one takes nothing but the word. -/
theorem reads_segment (hg : g.ReadsBack) (inExpr : Bool) : Reads P (segment g inExpr) fun s rest =>
    (s.IsRead ∧ s.IsUncalled) ∧
      ∃ ts, P (.ident s.name :: ts) ∧ (s.name ∈ bareSegments → rest = ts) := by
  unfold segment
  refine .ifNext ?_ ?_
  · refine reads_next_word.map fun w rest hw => ?_
    obtain ⟨hw, hstart, hbare⟩ := hw
    have hname : IsSegmentName w := ⟨hw, Or.inl (startsAnyOf_ident.1 hbare)⟩
    exact ⟨⟨⟨.plain hname, hname⟩, fun _ _ h => (by cases h)⟩, rest, hstart, fun _ => rfl⟩
  · refine (reads_nameOr ["Self"]).bind fun name => ?_
    refine .since (c := IsSegmentName name ∧ name ∉ bareSegments ∧ ∃ ts, P (.ident name :: ts))
      (fun rest h => ?_) fun h => ?_
    · obtain ⟨hname, hkind, hstart, -⟩ := h
      have hbare : name ∉ bareSegments := by
        rcases hkind with hself | hkeyword
        · rw [List.mem_singleton.1 hself]
          decide
        · intro hbare
          have hkeywords : ∀ k ∈ bareSegments, isKeyword k = true := by decide
          rw [hkeywords name hbare] at hkeyword
          cases hkeyword
      refine ⟨⟨hname, Or.inr ?_⟩, hbare, rest, hstart⟩
      exact hkind.imp_left List.mem_singleton.1
    · obtain ⟨hname, hbare, ts, hts⟩ := h
      have hrest : name ∈ bareSegments → ∀ rest, rest = ts := fun h => absurd h hbare
      refine .ifNext ?_ ?_
      · refine (reads_angledArgs hg).map fun args rest hargs => ?_
        obtain ⟨as, rfl, has⟩ := hargs
        exact ⟨⟨⟨.angled hname hbare has, hname⟩, fun _ _ h => (by cases h)⟩, ts, hts,
          fun h => hrest h rest⟩
      · exact .pure fun rest _ => ⟨⟨⟨.plain hname, hname⟩, fun _ _ h => (by cases h)⟩, ts, hts,
          fun h => hrest h rest⟩

theorem reads_moreSegments (hg : g.ReadsBack) (inExpr : Bool) :
    Reads P (moreSegments g inExpr) fun ss rest =>
      (∀ s ∈ ss, s.IsRead ∧ s.IsUncalled) ∧ (ss = [] → P rest) := by
  have hall : Reads Anywhere (moreSegments g inExpr) fun ss _ => ∀ s ∈ ss, s.IsRead ∧ s.IsUncalled :=
    Reads.many (.after fun _ => (reads_segment hg inExpr).imp fun _ _ h => h.1) _
  exact fun ts ss rest hts hstart h =>
    ⟨hall ts ss rest hts trivial h, Reads.many_nil ts ss rest hts hstart h⟩

/-- A path is read from the word that is next, unless it begins with a separator. -/
theorem reads_path (hg : g.ReadsBack) (inExpr : Bool) : Reads P (path g inExpr) fun p rest =>
    (p.IsRead ∧ ∀ s ∈ p.segments, s.IsUncalled) ∧ (p.absolute = true ∨
      ∃ w ts, p.first? = some w ∧ P (.ident w :: ts) ∧
        (w ∈ bareSegments → p.names = [w] → rest = ts)) := by
  unfold path
  refine (Reads.symbol? [':', ':']).bind fun absolute => (reads_segment hg inExpr).bind fun first => ?_
  refine (reads_moreSegments hg inExpr).started.map fun ss rest h => ?_
  obtain ⟨⟨hss, hnil⟩, mid, ⟨hfirst, hcalls⟩, ts, hts, hbare⟩ := h
  refine ⟨⟨⟨?_, List.cons_ne_nil _ _⟩, ?_⟩, ?_⟩
  · exact List.forall_mem_cons.2 ⟨hfirst, fun s hs => (hss s hs).1⟩
  · exact List.forall_mem_cons.2 ⟨hcalls, fun s hs => (hss s hs).2⟩
  · cases absolute with
    | true => exact Or.inl rfl
    | false =>
      by_cases hmore : ss = []
      · obtain ⟨-, ts, hts, hbare⟩ := hnil hmore
        exact Or.inr ⟨first.name, ts, rfl, (hts rfl).1, fun hw _ => hbare hw⟩
      · refine Or.inr ⟨first.name, ts, rfl, (hts rfl).1, fun _ hnames => ?_⟩
        exact absurd (List.map_eq_nil_iff.1 (List.cons.inj hnames).2) hmore

/-- Of a path that begins with a type in angle brackets nothing is said. -/
theorem reads_anyPath {Q : Path → List Token → Prop} (inExpr : Bool)
    (hpath : Reads (fun ts => P ts ∧ startsWith ['<'] ts = false) (path g inExpr) Q) :
    Reads P (anyPath g inExpr) fun r rest => r.1 = false → Q r.2 rest := by
  unfold anyPath
  refine .ifSymbol ?_ (hpath.map fun p rest hp _ => hp)
  refine .after fun _ => .after fun _ => ?_
  extract_lets rest
  have hrest : ∀ root, Reads Anywhere (rest root) fun r rest => r.1 = false → Q r.2 rest := by
    intro root
    exact .after fun _ => .after fun _ => .after fun _ => .pure fun _ _ h => (by cases h)
  exact .ite (fun _ => .after hrest) (fun _ => .after hrest)

/-- Arguments in parentheses, and what comes after them, leave a path one that can be laid out. -/
theorem reads_calledPathUpTo (hg : g.ReadsBack) (fuel : Nat) {p : Path} (hp : p.IsRead)
    (hcalls : CallsAllowed (fun output => isClosedOutput output = true) p.segments) :
    Reads P (calledPathUpTo g fuel p) fun p' _ => p'.IsRead ∧
      CallsAllowed (fun output => isClosedOutput output = true) p'.segments ∧
      p'.absolute = p.absolute ∧ p'.first? = p.first? := by
  induction fuel generalizing p P with
  | zero => exact .pure fun _ _ => ⟨hp, hcalls, rfl, rfl⟩
  | succ fuel ih =>
    unfold calledPathUpTo
    refine .ifNext ?_ (.pure fun _ _ => ⟨hp, hcalls, rfl, rfl⟩)
    refine .since (fun ts h => (Bool.and_eq_true_iff.1 h.2).1) fun hopen => ?_
    obtain ⟨absolute, pre, name, args, rfl⟩ := exists_of_isOpen hopen
    refine .after fun _ => (reads_calledArgs hg).bind fun args' => .given fun hargs => ?_
    obtain ⟨inputs, output, rfl, hinputs, houtput⟩ := hargs
    extract_lets rest
    have hrest : ∀ ss : List Segment, (∀ s ∈ ss, s.IsRead ∧ s.IsUncalled) →
        (isClosedOutput output = false → ss = []) → Reads Anywhere (rest ss) fun p' _ =>
          p'.IsRead ∧ CallsAllowed (fun output => isClosedOutput output = true) p'.segments ∧
          p'.absolute = absolute ∧ p'.first? = Path.first? ⟨absolute, pre ++ [⟨name, args⟩]⟩ := by
      intro ss hss hopen
      have hgrown : Path.append (Path.close ⟨absolute, pre ++ [⟨name, args⟩]⟩
          (.called inputs output)) ss = ⟨absolute, pre ++ ⟨name, .called inputs output⟩ :: ss⟩ := by
        rw [Path.close, closeSegments_concat, Path.append, List.append_assoc, List.singleton_append]
      have hfirst : Path.first? ⟨absolute, pre ++ ⟨name, .called inputs output⟩ :: ss⟩ =
          Path.first? ⟨absolute, pre ++ [⟨name, args⟩]⟩ := by
        cases pre <;> rfl
      have hall := ((callsAllowed_append (List.cons_ne_nil _ _)).1 hcalls).1
      have hmore : CallsAllowed (fun output => isClosedOutput output = true)
          (pre ++ ⟨name, .called inputs output⟩ :: ss) := by
        refine (callsAllowed_append (List.cons_ne_nil _ _)).2 ⟨hall, fun hne => ?_, ?_⟩
        · rintro _ _ heq
          cases heq
          exact Bool.of_not_eq_false fun hclosed => hne (hopen hclosed)
        · exact callsAllowed_of_uncalled fun s hs => (hss s hs).2
      show Reads Anywhere (calledPathUpTo g fuel _) _
      rw [hgrown, ← hfirst]
      exact ih (hp.called hinputs houtput fun s hs => (hss s hs).1) hmore
    rw [isClosed_called]
    refine .ite (fun hclosed => ?_) (fun _ => ?_)
    · refine ((reads_moreSegments hg false).imp fun ss _ h => h.1).bind fun ss => .given fun hss => ?_
      exact hrest ss hss fun hopen => absurd hclosed (Bool.eq_false_iff.1 hopen)
    · rw [pure_bind]
      exact hrest [] (List.forall_mem_nil _) fun _ => rfl

theorem reads_calledPath (hg : g.ReadsBack) {p : Path} (hp : p.IsRead)
    (hcalls : CallsAllowed (fun output => isClosedOutput output = true) p.segments) :
    Reads P (calledPath g p) fun p' _ => p'.IsRead ∧
      CallsAllowed (fun output => isClosedOutput output = true) p'.segments ∧
      p'.absolute = p.absolute ∧ p'.first? = p.first? := by
  unfold calledPath
  exact .after fun ts => reads_calledPathUpTo hg _ hp hcalls

/-! ## Bounds -/

theorem reads_traitBound (hg : g.ReadsBack) (consts : Bool) :
    Reads P (traitBound g consts) fun b _ => b.ReadsBack ∧ boundsTrait b = true := by
  unfold traitBound
  refine .after fun early => .after fun bracket => ?_
  extract_lets isConstRest
  have hrest : ∀ isConst, Reads Anywhere (isConstRest isConst) fun b _ =>
      b.ReadsBack ∧ boundsTrait b = true := by
    intro isConst
    refine .after fun _ => .after fun relaxed => ?_
    extract_lets lateRest
    have hlate : ∀ late, Reads Anywhere (lateRest late) fun b _ =>
        b.ReadsBack ∧ boundsTrait b = true := by
      intro late
      refine ((reads_path hg false).imp fun p _ h => h.1.1).bind fun p => .given fun hp => ?_
      have hbound : ∀ p : Path, p.IsRead → Reads Anywhere (do
          demand fun _ => !(relaxed && (early || late))
          pure (if isConst = true then Bound.unspelled else Bound.trait relaxed p)) fun b _ =>
            b.ReadsBack ∧ boundsTrait b = true := by
        intro p hp
        refine .after fun _ => .pure fun _ _ => ?_
        cases isConst with
        | true => exact ⟨.of_none, rfl⟩
        | false => exact ⟨.trait (fun s hs => (hp.segments s hs).back) hp.ne_nil, rfl⟩
      refine .ifNext ?_ ?_
      · refine .since (fun ts h => (Bool.and_eq_true_iff.1 h.2).1) fun hopen => .after fun _ => ?_
        refine (reads_calledArgs hg).bind fun args => .given fun hargs => ?_
        obtain ⟨inputs, output, rfl, hinputs, houtput⟩ := hargs
        rw [pure_bind]
        exact hbound _ (hp.close hopen hinputs houtput)
      · rw [pure_bind]
        exact (hbound p hp).here
    exact .ite (fun _ => .after hlate) (fun _ => .after hlate)
  exact .ite (fun _ => .after fun _ => .after hrest) (fun _ => .after hrest)

theorem reads_boundRule (hg : g.ReadsBack) (captures consts : Bool) :
    Reads P (boundRule g captures consts) fun b _ => b.ReadsBack := by
  have htrait : ∀ {P}, Reads P (traitBound g consts) fun b _ => b.ReadsBack :=
    (reads_traitBound hg consts).imp fun _ _ h => h.1
  unfold boundRule
  refine .ifNext (reads_lifetime.map fun l _ hl => .lifetime hl) (.after fun _ => .ite (fun _ => ?_)
    (fun _ => .ifNext (htrait.group .paren) htrait))
  exact .after fun _ => .after fun _ => .pure fun _ _ => .of_none

theorem reads_moreBounds (hg : g.ReadsBack) (captures consts : Bool) :
    Reads P (moreBounds g captures consts) fun bs _ => ∀ b ∈ bs, b.ReadsBack := by
  unfold moreBounds
  refine .ifSymbol ?_ (.pure fun _ _ => List.forall_mem_nil _)
  exact (reads_boundRule hg captures consts).chained _ _

theorem reads_bounds (hg : g.ReadsBack) (plus captures consts : Bool) :
    Reads P (bounds g plus captures consts) fun bs _ =>
      (∀ b ∈ bs, b.ReadsBack) ∧ (plus = true ∨ bs.length = 1) := by
  unfold bounds
  refine (reads_boundRule hg captures consts).bind fun first => .given fun hfirst => ?_
  refine .ite (fun hplus => ?_) (fun _ => ?_)
  · exact (reads_moreBounds hg captures consts).map fun bs _ hbs =>
      ⟨List.forall_mem_cons.2 ⟨hfirst, hbs⟩, Or.inl hplus⟩
  · exact .pure fun _ _ => ⟨List.forall_mem_singleton.2 hfirst, Or.inr rfl⟩

theorem reads_traitBounds (hg : g.ReadsBack) (plus captures consts : Bool) :
    Reads P (traitBounds g plus captures consts) fun bs _ =>
      (∀ b ∈ bs, b.ReadsBack) ∧ (plus = true ∨ bs.length = 1) ∧ bs.any boundsTrait = true := by
  unfold traitBounds
  refine (reads_bounds hg plus captures consts).bind fun bs => .given fun hbs => ?_
  exact .demand (.pure fun _ htrait => ⟨hbs.1, hbs.2, htrait.2⟩)

theorem reads_addedBounds (hg : g.ReadsBack) :
    Reads Anywhere (addedBounds g) fun bs _ => ∀ b ∈ bs, b.ReadsBack :=
  Reads.many (.after fun _ => reads_boundRule hg false false) _

end Grammar

end Mapwright.Source
