import Mapwright.Proofs.ArgumentLayouts

/-!
# Spellings that can be read again

A spelling leaves out the separators before arguments in angle brackets, the
parentheses around bounds, and writes `dyn` before a trait object that had none.
That is harmless in most places.  Where it is not, the type is not legible:

  - a constant that is the length of an array is a path with arguments,
  - a trait object of several bounds stands where a type may be no sum of bounds,
  - in a bound, a segment comes after arguments in parentheses.

Every other type that has a spelling has a layout of it, if what it consists of
has.

    the parts of a type can be laid out as they are spelled → so can the type     (`TypeExpr.ReadsBack`)
-/

namespace Mapwright.Source

/-! ## Legible types -/

/-- Whether no segment of a path comes after arguments in parentheses. -/
def callsLast : List Segment → Bool
  | [] => true
  | [_] => true
  | ⟨_, .called _ _⟩ :: _ :: _ => false
  | _ :: ss => callsLast ss

/-- Whether a constant can be read again where it is the length of an array. -/
def ConstExpr.isLegible : ConstExpr → Bool
  | .path p => p.isPlain
  | _ => true

mutual

/-- Whether the spelling of a type can be read again, where it may be a sum of bounds (`plus`) or
not. -/
def TypeExpr.isLegible : TypeExpr → (plus : Bool) → Bool
  | .path p, _ => p.isLegible
  | .reference _ _ target, _ => target.isLegible false
  | .tuple elems, _ => legibleTypes elems
  | .array elem length, _ => elem.isLegible true && length.isLegible
  | .slice elem, _ => elem.isLegible true
  | .paren inner, _ => inner.isLegible true
  | .pointer _ target, _ => target.isLegible false
  | .traitObject bounds, plus => (plus || bounds.length == 1) && legibleBounds bounds
  | .implTrait bounds, _ => legibleBounds bounds
  | .function _ inputs none, _ => legibleTypes inputs
  | .function _ inputs (some output), _ => legibleTypes inputs && output.isLegible false
  | _, _ => true
termination_by structural t => t

def Path.isLegible : Path → Bool
  | ⟨_, segments⟩ => legibleSegments segments

def Segment.isLegible : Segment → Bool
  | ⟨_, args⟩ => args.isLegible

def SegmentArgs.isLegible : SegmentArgs → Bool
  | .none => true
  | .angled args => legibleArgs args
  | .called inputs none => legibleTypes inputs
  | .called inputs (some output) => legibleTypes inputs && output.isLegible false

def GenericArg.isLegible : GenericArg → Bool
  | .type type => type.isLegible true
  | .assocType _ type => type.isLegible true
  | .constraint _ bounds => legibleBounds bounds
  | _ => true

def Bound.isLegible : Bound → Bool
  | .trait _ path => callsLast path.segments && path.isLegible
  | _ => true

def legibleTypes : List TypeExpr → Bool
  | [] => true
  | t :: ts => t.isLegible true && legibleTypes ts

def legibleSegments : List Segment → Bool
  | [] => true
  | s :: ss => s.isLegible && legibleSegments ss

def legibleArgs : List GenericArg → Bool
  | [] => true
  | a :: as => a.isLegible && legibleArgs as

def legibleBounds : List Bound → Bool
  | [] => true
  | b :: bs => b.isLegible && legibleBounds bs

end

/-! ## Lists of parts -/

theorem typesPieces?_eq_mapM (ts : List TypeExpr) : typesPieces? ts = ts.mapM TypeExpr.pieces? := by
  induction ts with
  | nil => rfl
  | cons t ts ih => rw [typesPieces?, List.mapM_cons, ih]

theorem segmentsPieces?_eq_mapM (ss : List Segment) :
    segmentsPieces? ss = ss.mapM Segment.pieces? := by
  induction ss with
  | nil => rfl
  | cons s ss ih => rw [segmentsPieces?, List.mapM_cons, ih]

theorem argsPieces?_eq_mapM (as : List GenericArg) :
    argsPieces? as = as.mapM GenericArg.pieces? := by
  induction as with
  | nil => rfl
  | cons a as ih => rw [argsPieces?, List.mapM_cons, ih]

theorem boundsPieces?_eq_mapM (bs : List Bound) : boundsPieces? bs = bs.mapM Bound.pieces? := by
  induction bs with
  | nil => rfl
  | cons b bs ih => rw [boundsPieces?, List.mapM_cons, ih]

theorem legibleTypes_eq_all (ts : List TypeExpr) :
    legibleTypes ts = ts.all (TypeExpr.isLegible · true) := by
  induction ts with
  | nil => rfl
  | cons t ts ih => rw [legibleTypes, List.all_cons, ih]

theorem legibleSegments_eq_all (ss : List Segment) : legibleSegments ss = ss.all (·.isLegible) := by
  induction ss with
  | nil => rfl
  | cons s ss ih => rw [legibleSegments, List.all_cons, ih]

theorem legibleArgs_eq_all (as : List GenericArg) : legibleArgs as = as.all (·.isLegible) := by
  induction as with
  | nil => rfl
  | cons a as ih => rw [legibleArgs, List.all_cons, ih]

theorem legibleBounds_eq_all (bs : List Bound) : legibleBounds bs = bs.all (·.isLegible) := by
  induction bs with
  | nil => rfl
  | cons b bs ih => rw [legibleBounds, List.all_cons, ih]

/-! ## Layouts of what is written again -/

/-- If there are pieces they can be laid out, and if these are legible they are read again. -/
def Recovers (pieces? : Option (List Piece)) (legible : Bool) (laid laysOut : List Piece → Prop) :
    Prop := ∀ ps, pieces? = some ps → laid ps ∧ (legible = true → laysOut ps)

theorem Recovers.of_none {legible : Bool} {laid laysOut : List Piece → Prop} :
    Recovers none legible laid laysOut := fun _ hs => (by cases hs)

theorem Recovers.all {α : Type} {pieces? : α → Option (List Piece)} {legible : α → Bool}
    {laid : List Piece → Prop} {laysOut : α → List Piece → Prop} {as : List α}
    (h : ∀ a ∈ as, Recovers (pieces? a) (legible a) laid (laysOut a)) {pss : List (List Piece)}
    (hpss : as.mapM pieces? = some pss) :
    (∀ ps ∈ pss, laid ps) ∧ (as.all legible = true → List.Forall₂ laysOut as pss) := by
  induction as generalizing pss with
  | nil =>
    cases hpss
    exact ⟨List.forall_mem_nil _, fun _ => .nil⟩
  | cons a as ih =>
    rw [List.mapM_cons] at hpss
    obtain ⟨ps, hps, hpss⟩ := Option.bind_eq_some_iff.1 hpss
    obtain ⟨pss, hall, hpss⟩ := Option.bind_eq_some_iff.1 hpss
    cases hpss
    obtain ⟨hfirst, hothers⟩ := List.forall_mem_cons.1 h
    obtain ⟨hlaid, hreads⟩ := hfirst ps hps
    obtain ⟨hlaids, hread⟩ := ih hothers hall
    refine ⟨List.forall_mem_cons.2 ⟨hlaid, hlaids⟩, fun hlegible => ?_⟩
    rw [List.all_cons, Bool.and_eq_true] at hlegible
    exact .cons (hreads hlegible.1) (hread hlegible.2)

def TypeExpr.ReadsBack (plus : Bool) (t : TypeExpr) : Prop :=
  Recovers t.pieces? (t.isLegible plus) (LaidBefore EndsWords) (t.LaysOut plus)

def Bound.ReadsBack (b : Bound) : Prop :=
  Recovers b.pieces? b.isLegible (LaidBefore EndsWords) b.LaysOut

def GenericArg.ReadsBack (a : GenericArg) : Prop :=
  Recovers a.pieces? a.isLegible (LaidBefore EndsNumber) a.LaysOut

def Segment.ReadsBack (s : Segment) : Prop :=
  Recovers s.pieces? s.isLegible (LaidBefore EndsWords) s.LaysOut

/-- The constant can be laid out where it is an argument. -/
def ConstExpr.ReadsBack (c : ConstExpr) : Prop :=
  Recovers c.pieces? true (LaidBefore EndsNumber) c.LaysOut

/-- The constant can be laid out where it is the length of an array. -/
def ConstExpr.ReadsBackLength (c : ConstExpr) : Prop :=
  Recovers c.pieces? c.isLegible (LaidBefore EndsNumber) c.LaysOutLength

variable {plus : Bool} {t : TypeExpr} {ts : List TypeExpr} {bs : List Bound} {ss : List Segment}
  {pss : List (List Piece)}

theorem recovers_types (h : ∀ t ∈ ts, t.ReadsBack true) (hpss : typesPieces? ts = some pss) :
    (∀ ps ∈ pss, LaidBefore EndsWords ps) ∧
      (legibleTypes ts = true → List.Forall₂ (TypeExpr.LaysOut true) ts pss) := by
  rw [typesPieces?_eq_mapM] at hpss
  rw [legibleTypes_eq_all]
  exact Recovers.all h hpss

theorem recovers_bounds (h : ∀ b ∈ bs, b.ReadsBack) (hpss : boundsPieces? bs = some pss) :
    (∀ ps ∈ pss, LaidBefore EndsWords ps) ∧
      (legibleBounds bs = true → List.Forall₂ Bound.LaysOut bs pss) := by
  rw [boundsPieces?_eq_mapM] at hpss
  rw [legibleBounds_eq_all]
  exact Recovers.all h hpss

theorem recovers_segments (h : ∀ s ∈ ss, s.ReadsBack) (hpss : segmentsPieces? ss = some pss) :
    (∀ ps ∈ pss, LaidBefore EndsWords ps) ∧
      (legibleSegments ss = true → List.Forall₂ Segment.LaysOut ss pss) := by
  rw [segmentsPieces?_eq_mapM] at hpss
  rw [legibleSegments_eq_all]
  exact Recovers.all h hpss

theorem recovers_args {as : List GenericArg} (h : ∀ a ∈ as, a.ReadsBack)
    (hpss : argsPieces? as = some pss) : (∀ ps ∈ pss, LaidBefore EndsNumber ps) ∧
      (legibleArgs as = true → List.Forall₂ GenericArg.LaysOut as pss) := by
  rw [argsPieces?_eq_mapM] at hpss
  rw [legibleArgs_eq_all]
  exact Recovers.all h hpss

namespace TypeExpr.ReadsBack

theorem reference {lifetime : Option String} {mutable : Bool} (h : t.ReadsBack false)
    (hlifetime : ∀ l ∈ lifetime, IsLifetime l) :
    TypeExpr.ReadsBack plus (.reference lifetime mutable t) := by
  intro _ hs
  obtain ⟨ps, hps, hs⟩ := Option.bind_eq_some_iff.1 hs
  cases hs
  obtain ⟨hlaid, hread⟩ := h ps hps
  exact ⟨.reference hlifetime hlaid mutable, fun hlegible => .reference (hread hlegible)⟩

theorem pointer {mutable : Bool} (h : t.ReadsBack false) :
    TypeExpr.ReadsBack plus (.pointer mutable t) := by
  intro _ hs
  obtain ⟨ps, hps, hs⟩ := Option.bind_eq_some_iff.1 hs
  cases hs
  obtain ⟨hlaid, hread⟩ := h ps hps
  exact ⟨hlaid.pointer mutable, fun hlegible => .pointer (hread hlegible)⟩

theorem never : TypeExpr.ReadsBack plus .never := by
  intro _ hs
  cases hs
  exact ⟨.symbol (by decide) .nil, fun _ => .never⟩

theorem slice (h : t.ReadsBack true) : TypeExpr.ReadsBack plus (.slice t) := by
  intro _ hs
  obtain ⟨ps, hps, hs⟩ := Option.bind_eq_some_iff.1 hs
  cases hs
  obtain ⟨hlaid, hread⟩ := h ps hps
  exact ⟨hlaid.enclosed (fun _ => (endsWords_cons _ _).2 rfl) .nil,
    fun hlegible => .slice (hread hlegible)⟩

theorem paren (h : t.ReadsBack true) : TypeExpr.ReadsBack plus (.paren t) := by
  intro _ hs
  obtain ⟨ps, hps, hs⟩ := Option.bind_eq_some_iff.1 hs
  cases hs
  obtain ⟨hlaid, hread⟩ := h ps hps
  exact ⟨hlaid.enclosed (fun _ => (endsWords_cons _ _).2 rfl) .nil,
    fun hlegible => .paren (hread hlegible)⟩

theorem array {c : ConstExpr} (h : t.ReadsBack true) (hc : c.ReadsBackLength) :
    TypeExpr.ReadsBack plus (.array t c) := by
  intro _ hs
  obtain ⟨ps, hps, hs⟩ := Option.bind_eq_some_iff.1 hs
  obtain ⟨cs, hcs, hs⟩ := Option.bind_eq_some_iff.1 hs
  cases hs
  obtain ⟨hlaid, hread⟩ := h ps hps
  obtain ⟨hlaid', hread'⟩ := hc cs hcs
  refine ⟨.array hlaid hlaid', fun hlegible => ?_⟩
  rw [TypeExpr.isLegible, Bool.and_eq_true] at hlegible
  exact .array (hread hlegible.1) (hread' hlegible.2)

theorem tuple (h : ∀ t ∈ ts, t.ReadsBack true) : TypeExpr.ReadsBack plus (.tuple ts) := by
  intro _ hs
  obtain ⟨pss, hpss, hs⟩ := Option.bind_eq_some_iff.1 hs
  cases hs
  obtain ⟨hlaid, hread⟩ := recovers_types h hpss
  exact ⟨.tuple hlaid, fun hlegible => .tuple (hread hlegible)⟩

theorem traitObject (h : ∀ b ∈ bs, b.ReadsBack) (htrait : bs.any Grammar.boundsTrait = true) :
    TypeExpr.ReadsBack plus (.traitObject bs) := by
  intro _ hs
  obtain ⟨pss, hpss, hs⟩ := Option.bind_eq_some_iff.1 hs
  cases hs
  obtain ⟨hlaid, hread⟩ := recovers_bounds h hpss
  refine ⟨.bounds (isIdentifier_of_all (by decide) (by decide)) hlaid, fun hlegible => ?_⟩
  rw [TypeExpr.isLegible, Bool.and_eq_true, Bool.or_eq_true, beq_iff_eq] at hlegible
  exact .traitObject (hread hlegible.2) hlegible.1 htrait

theorem implTrait (h : ∀ b ∈ bs, b.ReadsBack) (hplus : plus = true ∨ bs.length = 1)
    (htrait : bs.any Grammar.boundsTrait = true) : TypeExpr.ReadsBack plus (.implTrait bs) := by
  intro _ hs
  obtain ⟨pss, hpss, hs⟩ := Option.bind_eq_some_iff.1 hs
  cases hs
  obtain ⟨hlaid, hread⟩ := recovers_bounds h hpss
  exact ⟨.bounds (isIdentifier_of_all (by decide) (by decide)) hlaid,
    fun hlegible => .implTrait (hread hlegible) hplus htrait⟩

/-- A path is laid out as a type unless it begins with the bare word `try`. -/
theorem path {p : Path} (h : ∀ s ∈ p.segments, s.ReadsBack) (hne : p.segments ≠ [])
    (hcalls : CallsAllowed (fun output => isClosedOutput output = true) p.segments)
    (hfirst : p.absolute = true ∨ p.segments.head?.map (·.name) ≠ some "try") :
    TypeExpr.ReadsBack plus (.path p) := by
  obtain ⟨absolute, ss⟩ := p
  intro _ hs
  obtain ⟨rows, hrows, hs⟩ := Option.bind_eq_some_iff.1 hs
  cases hs
  obtain ⟨hlaid, hread⟩ := recovers_segments h hrows
  exact ⟨.path hlaid absolute,
    fun hlegible => SegmentsLayOut.type ⟨hread hlegible, hne, hcalls⟩ plus hfirst⟩

end TypeExpr.ReadsBack

/-! ## Arguments in parentheses and what they lead to -/

variable {inputs : List TypeExpr} {output : Option TypeExpr}

theorem recovers_output {os : List Piece} (h : ∀ t ∈ output, t.ReadsBack false)
    (hos : outputPieces? output = some os) : LaidBefore EndsWords os ∧
      ((∀ t ∈ output, t.isLegible false = true) → OutputLaysOut output os) := by
  cases output with
  | none =>
    cases hos
    exact ⟨.nil, fun _ => .unwritten⟩
  | some t =>
    obtain ⟨ps, hps, hs⟩ := Option.bind_eq_some_iff.1 hos
    cases hs
    obtain ⟨hlaid, hread⟩ := h t rfl ps hps
    exact ⟨hlaid.output, fun hlegible => .written (hread (hlegible t rfl))⟩

theorem isLegible_called : (SegmentArgs.called inputs output).isLegible = true ↔
    legibleTypes inputs = true ∧ ∀ t ∈ output, t.isLegible false = true := by
  cases output with
  | none => simp [SegmentArgs.isLegible]
  | some t => simp [SegmentArgs.isLegible]

theorem TypeExpr.ReadsBack.function {plain : Bool} (h : ∀ t ∈ inputs, t.ReadsBack true)
    (houtput : ∀ t ∈ output, t.ReadsBack false) :
    TypeExpr.ReadsBack plus (.function plain inputs output) := by
  intro _ hs
  cases plain with
  | false => cases hs
  | true =>
    obtain ⟨pss, hpss, hs⟩ := Option.bind_eq_some_iff.1 hs
    obtain ⟨os, hos, hs⟩ := Option.bind_eq_some_iff.1 hs
    cases hs
    obtain ⟨hlaid, hread⟩ := recovers_types h hpss
    obtain ⟨hlaid', hread'⟩ := recovers_output houtput hos
    refine ⟨.word (isIdentifier_of_all (by decide) (by decide))
      (fun _ _ => (endsWords_cons _ _).2 rfl) (.called hlaid hlaid'), fun hlegible => ?_⟩
    have hlegible : (SegmentArgs.called inputs output).isLegible = true := by
      cases output <;> exact hlegible
    obtain ⟨hinputs, houtput⟩ := isLegible_called.1 hlegible
    exact .function (hread hinputs) (hread' houtput)

/-! ## Segments -/

namespace Segment.ReadsBack

variable {name : String}

theorem plain (hname : IsSegmentName name) : Segment.ReadsBack ⟨name, .none⟩ := by
  intro _ hs
  cases hs
  exact ⟨.word hname.identifier (fun _ hends => hends) .nil, fun _ => .plain hname⟩

theorem angled {args : List GenericArg} (hname : IsSegmentName name) (hbare : name ∉ bareSegments)
    (h : ∀ a ∈ args, a.ReadsBack) : Segment.ReadsBack ⟨name, .angled args⟩ := by
  intro _ hs
  obtain ⟨_, hargs, hs⟩ := Option.bind_eq_some_iff.1 hs
  cases hs
  obtain ⟨pss, hpss, hs⟩ := Option.bind_eq_some_iff.1 hargs
  cases hs
  obtain ⟨hlaid, hread⟩ := recovers_args h hpss
  exact ⟨.word hname.identifier (fun _ _ => (endsWords_cons _ _).2 rfl) (.angled hlaid),
    fun hlegible => .angled hname hbare (.of_args (hread hlegible))⟩

theorem called (hname : IsSegmentName name) (h : ∀ t ∈ inputs, t.ReadsBack true)
    (houtput : ∀ t ∈ output, t.ReadsBack false) :
    Segment.ReadsBack ⟨name, .called inputs output⟩ := by
  intro _ hs
  obtain ⟨_, hargs, hs⟩ := Option.bind_eq_some_iff.1 hs
  cases hs
  obtain ⟨pss, hpss, hs⟩ := Option.bind_eq_some_iff.1 hargs
  obtain ⟨os, hos, hs⟩ := Option.bind_eq_some_iff.1 hs
  cases hs
  obtain ⟨hlaid, hread⟩ := recovers_types h hpss
  obtain ⟨hlaid', hread'⟩ := recovers_output houtput hos
  refine ⟨.word hname.identifier (fun _ _ => (endsWords_cons _ _).2 rfl) (.called hlaid hlaid'),
    fun hlegible => ?_⟩
  obtain ⟨hinputs, houtput⟩ := isLegible_called.1 hlegible
  exact .called hname (.of_types (hread hinputs) (hread' houtput))

end Segment.ReadsBack

/-! ## Bounds -/

theorem callsAllowed_of_callsLast (h : callsLast ss = true) :
    CallsAllowed (fun _ => False) ss := by
  induction ss with
  | nil => trivial
  | cons s ss ih =>
    cases ss with
    | nil => exact ⟨fun hne => absurd rfl hne, trivial⟩
    | cons s' ss =>
      obtain ⟨name, args⟩ := s
      cases args with
      | called inputs output => cases h
      | _ => exact ⟨fun _ inputs output heq => (by cases heq), ih h⟩

namespace Bound.ReadsBack

theorem lifetime {l : String} (hl : IsLifetime l) : Bound.ReadsBack (.lifetime l) := by
  intro _ hs
  cases hs
  exact ⟨.lifetime hl (fun _ hends => hends), fun _ => .lifetime l⟩

theorem trait {relaxed : Bool} {p : Path} (h : ∀ s ∈ p.segments, s.ReadsBack)
    (hne : p.segments ≠ []) : Bound.ReadsBack (.trait relaxed p) := by
  obtain ⟨absolute, ss⟩ := p
  intro _ hs
  obtain ⟨_, hpath, hs⟩ := Option.bind_eq_some_iff.1 hs
  cases hs
  obtain ⟨rows, hrows, hs⟩ := Option.bind_eq_some_iff.1 hpath
  cases hs
  obtain ⟨hlaid, hread⟩ := recovers_segments h hrows
  refine ⟨?_, fun hlegible => ?_⟩
  · cases relaxed with
    | false => exact .path hlaid absolute
    | true => exact .symbol (by decide) (.path hlaid absolute)
  · rw [Bound.isLegible, Bool.and_eq_true] at hlegible
    exact .trait (hread hlegible.2) hne (callsAllowed_of_callsLast hlegible.1) relaxed absolute

end Bound.ReadsBack

/-! ## Constants -/

theorem numberPieces_integer {n : String} (hn : IsInteger n.toList) :
    numberPieces n = [.number n] := by
  unfold numberPieces
  split
  · next cs hcs =>
    have hhead := hn.head
    rw [hcs] at hhead
    cases hhead
  · rfl

theorem numberPieces_negative (n : String) : numberPieces ("-" ++ n) = [.symbol '-', .number n] := by
  simp [numberPieces, String.toList_append]

namespace ConstExpr

theorem ReadsBack.int {n : String} (hn : IsInteger n.toList) : ReadsBack (.int n) := by
  intro _ hs
  rw [ConstExpr.pieces?, numberPieces_integer hn] at hs
  cases hs
  exact ⟨.integer hn, fun _ => .int hn⟩

theorem ReadsBack.negative {n : String} (hn : IsInteger n.toList) :
    ReadsBack (.int ("-" ++ n)) := by
  intro _ hs
  rw [ConstExpr.pieces?, numberPieces_negative] at hs
  cases hs
  exact ⟨.symbol (by decide) (.integer hn), fun _ => .negative hn⟩

theorem ReadsBack.bool (value : Bool) : ReadsBack (.bool value) := by
  intro _ hs
  cases hs
  exact ⟨.boolWord value, fun _ => .bool value⟩

theorem ReadsBackLength.int {n : String} (hn : IsInteger n.toList) : ReadsBackLength (.int n) := by
  intro _ hs
  rw [ConstExpr.pieces?, numberPieces_integer hn] at hs
  cases hs
  exact ⟨.integer hn, fun _ => .int hn⟩

theorem ReadsBackLength.bool (value : Bool) : ReadsBackLength (.bool value) := by
  intro _ hs
  cases hs
  exact ⟨.boolWord value, fun _ => .bool value⟩

theorem segmentsPieces?_names (names : List String) :
    segmentsPieces? (names.map (⟨·, .none⟩)) = some (names.map fun w => [.word w]) := by
  induction names with
  | nil => rfl
  | cons w names ih =>
    rw [List.map_cons, segmentsPieces?, ih]
    rfl

theorem ReadsBackLength.path {p : Path} (h : ∀ s ∈ p.segments, s.ReadsBack)
    (hnames : ∀ s ∈ p.segments, IsSegmentName s.name)
    (hne : p.segments ≠ []) (htry : p.absolute = true ∨ p.names ≠ ["try"]) :
    ReadsBackLength (.path p) := by
  obtain ⟨absolute, ss⟩ := p
  intro _ hs
  obtain ⟨rows, hrows, hs⟩ := Option.bind_eq_some_iff.1 hs
  cases hs
  obtain ⟨hlaid, -⟩ := recovers_segments h hrows
  refine ⟨LaidBefore.number (.path hlaid absolute), fun hlegible => ?_⟩
  -- a legible path is one of names
  obtain ⟨names, rfl⟩ : ∃ names : List String, ss = names.map (⟨·, .none⟩) := by
    refine ⟨ss.map (·.name), ?_⟩
    rw [List.map_map]
    refine (List.map_id ss).symm.trans (List.map_congr_left fun x hx => ?_)
    have hplain := List.all_eq_true.1 hlegible x hx
    obtain ⟨name, args⟩ := x
    cases args with
    | none => rfl
    | _ => cases hplain
  have hwords : names.map (Segment.name ∘ (Segment.mk · .none)) = names := List.map_id names
  rw [segmentsPieces?_names] at hrows
  cases hrows
  refine .path ?_ ?_ ?_
  · exact fun w hw => hnames ⟨w, .none⟩ (List.mem_map_of_mem hw)
  · exact fun hnil => hne (by rw [hnil]; rfl)
  · rwa [Path.names, List.map_map, hwords] at htry

end ConstExpr

/-! ## Arguments in angle brackets -/

namespace GenericArg.ReadsBack

variable {name : String} {c : ConstExpr}

theorem lifetime {l : String} (hl : IsLifetime l) : GenericArg.ReadsBack (.lifetime l) := by
  intro _ hs
  cases hs
  exact ⟨.lifetime hl (fun _ hends => hends.endsWords), fun _ => .lifetime l⟩

theorem type (h : t.ReadsBack true) : GenericArg.ReadsBack (.type t) := by
  intro ps hps
  obtain ⟨hlaid, hread⟩ := h ps hps
  exact ⟨hlaid.number, fun hlegible => .type (hread hlegible)⟩

theorem const (h : c.ReadsBack) : GenericArg.ReadsBack (.const c) := by
  intro ps hps
  obtain ⟨hlaid, hread⟩ := h ps hps
  exact ⟨hlaid, fun _ => .const (hread rfl)⟩

theorem assocType (hname : IsArgName name) (h : t.ReadsBack true) :
    GenericArg.ReadsBack (.assocType name t) := by
  intro _ hs
  obtain ⟨ps, hps, hs⟩ := Option.bind_eq_some_iff.1 hs
  cases hs
  obtain ⟨hlaid, hread⟩ := h ps hps
  exact ⟨.named hname.segment.identifier hlaid.number, fun hlegible => .assocType hname (hread hlegible)⟩

theorem assocConst (hname : IsArgName name) (h : c.ReadsBack) :
    GenericArg.ReadsBack (.assocConst name c) := by
  intro _ hs
  obtain ⟨ps, hps, hs⟩ := Option.bind_eq_some_iff.1 hs
  cases hs
  obtain ⟨hlaid, hread⟩ := h ps hps
  exact ⟨.named hname.segment.identifier hlaid, fun _ => .assocConst hname (hread rfl)⟩

theorem constraint (hname : IsArgName name) (h : ∀ b ∈ bs, b.ReadsBack) :
    GenericArg.ReadsBack (.constraint name bs) := by
  intro _ hs
  obtain ⟨pss, hpss, hs⟩ := Option.bind_eq_some_iff.1 hs
  cases hs
  obtain ⟨hlaid, hread⟩ := recovers_bounds h hpss
  exact ⟨.constraint hname.segment.identifier hlaid,
    fun hlegible => .constraint hname (hread hlegible)⟩

end GenericArg.ReadsBack

end Mapwright.Source
