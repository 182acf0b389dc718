import Mapwright.Proofs.Except
import Mapwright.Proofs.Imports
import Mapwright.Proofs.Outline

/-!
# Types written in full

A single name in a type may be written as the path that it is bound to, as long
as the path is described by its own last name.  The type in full has a spelling
like before, and is looked up under the same name.

    a name and the path that it is bound to are the same in full          (`expand_ofNames`)
    a path in full is described like before                               (`typeName_expand`)
    a type in full is passed and looked up like before                    (`map_mention_ref_lookupInFull`)
-/

namespace Mapwright.Source

/-! ## Paths in full -/

namespace Scope

/-- The path that a name is bound to, or else the name itself. -/
def follow (s : Scope) (name : String) : List String :=
  match s.find? name with
  | some (x :: rest) => x :: rest
  | _ => [name]

/-- The full path of a name.  A single name that stands for something else again is left as it is. -/
def inFull (s : Scope) (name : String) : List String :=
  match s.follow name with
  | [x] => if s.typeName [x] = x then s.follow x else [name]
  | path => path

end Scope

/-- A path of plain names, the last of which has arguments. -/
def Path.ofNames (names : List String) (args : SegmentArgs) : Path :=
  ⟨false, names.dropLast.map (⟨·, .none⟩) ++ [⟨names.getLast?.getD "", args⟩]⟩

/-- The path with the full path in place of a single name. -/
def Path.expand (s : Scope) (p : Path) : Path :=
  match p with
  | ⟨false, [⟨name, args⟩]⟩ => .ofNames (s.inFull name) args
  | p => p

mutual

/-- A type with the types in it that are single names in full. -/
def TypeExpr.inFull (s : Scope) : TypeExpr → TypeExpr
  | .path p => .path ((p.inFull s).expand s)
  | .qualified p => .qualified p
  | .reference lifetime mutable target => .reference lifetime mutable (target.inFull s)
  | .tuple elems => .tuple (typesInFull s elems)
  | .array elem length => .array (elem.inFull s) (length.inFull s)
  | .slice elem => .slice (elem.inFull s)
  | .paren inner => .paren (inner.inFull s)
  | .pointer mutable target => .pointer mutable (target.inFull s)
  | .never => .never
  | .traitObject bounds => .traitObject (boundsInFull s bounds)
  | .implTrait bounds => .implTrait (boundsInFull s bounds)
  | .function plain inputs none => .function plain (typesInFull s inputs) none
  | .function plain inputs (some output) =>
    .function plain (typesInFull s inputs) (some (output.inFull s))
  | .inferred => .inferred
  | .unspelled => .unspelled
termination_by structural t => t

/-- A path with the types in its arguments in full. -/
def Path.inFull (s : Scope) : Path → Path
  | ⟨absolute, segments⟩ => ⟨absolute, segmentsInFull s segments⟩

def Segment.inFull (s : Scope) : Segment → Segment
  | ⟨name, args⟩ => ⟨name, args.inFull s⟩

def SegmentArgs.inFull (s : Scope) : SegmentArgs → SegmentArgs
  | .none => .none
  | .angled args => .angled (argsInFull s args)
  | .called inputs none => .called (typesInFull s inputs) none
  | .called inputs (some output) => .called (typesInFull s inputs) (some (output.inFull s))

def GenericArg.inFull (s : Scope) : GenericArg → GenericArg
  | .lifetime name => .lifetime name
  | .type type => .type (type.inFull s)
  | .const value => .const (value.inFull s)
  | .assocType name type => .assocType name (type.inFull s)
  | .assocConst name value => .assocConst name (value.inFull s)
  | .constraint name bounds => .constraint name (boundsInFull s bounds)

def Bound.inFull (s : Scope) : Bound → Bound
  | .trait relaxed path => .trait relaxed (path.inFull s)
  | .lifetime name => .lifetime name
  | .captures => .captures
  | .unspelled => .unspelled

def ConstExpr.inFull (s : Scope) : ConstExpr → ConstExpr
  | .int text => .int text
  | .bool value => .bool value
  | .otherLiteral => .otherLiteral
  | .path p => .path (p.inFull s)
  | .computed => .computed

def typesInFull (s : Scope) : List TypeExpr → List TypeExpr
  | [] => []
  | t :: ts => t.inFull s :: typesInFull s ts

def segmentsInFull (s : Scope) : List Segment → List Segment
  | [] => []
  | x :: xs => x.inFull s :: segmentsInFull s xs

def argsInFull (s : Scope) : List GenericArg → List GenericArg
  | [] => []
  | a :: as => a.inFull s :: argsInFull s as

def boundsInFull (s : Scope) : List Bound → List Bound
  | [] => []
  | b :: bs => b.inFull s :: boundsInFull s bs

end

/-! ## Spellings -/

/-- Whether a type has a spelling, and what is wrong if it has none. -/
abbrev spelled {α : Type} (x : Except SignatureFault α) : Except SignatureFault Unit := x.map fun _ => ()

theorem spelled_plain (names : List String) (segments : List Segment) :
    spelled (spellSegments (names.map (⟨·, .none⟩) ++ segments)) =
      spelled (spellSegments segments) := by
  induction names with
  | nil => rfl
  | cons name names ih =>
    show spelled (spellSegments (⟨name, .none⟩ :: (names.map (⟨·, .none⟩) ++ segments))) = _
    rw [← ih, spellSegments]
    cases spellSegments (names.map (⟨·, .none⟩) ++ segments) <;> rfl

/-- A path of plain names has a spelling if its arguments have one. -/
theorem Path.spelled_ofNames (names : List String) (args : SegmentArgs) :
    spelled (ofNames names args).spell = spelled args.spell := by
  have hsegments : spelled (spellSegments (ofNames names args).segments) = spelled args.spell := by
    refine (spelled_plain _ _).trans ?_
    unfold spellSegments Segment.spell
    cases args.spell <;> rfl
  rw [← hsegments]
  show spelled ((spellSegments (ofNames names args).segments >>= _ : Except SignatureFault String)) = _
  cases spellSegments (ofNames names args).segments <;> rfl

theorem Path.spelled_expand (s : Scope) (p : Path) : spelled (p.expand s).spell = spelled p.spell := by
  unfold expand
  split
  · next name args => exact (spelled_ofNames _ args).trans (spelled_ofNames [name] args).symm
  · rfl

mutual

/-- A type has a spelling in full if it has one. -/
theorem TypeExpr.spelled_inFull (s : Scope) :
    ∀ t : TypeExpr, spelled (t.inFull s).spell = spelled t.spell
  | .path p => ((p.inFull s).spelled_expand s).trans (p.spelled_inFull s)
  | .qualified _ => rfl
  | .reference _ _ target => map_bind_congr (target.spelled_inFull s) fun _ _ _ => rfl
  | .tuple elems => map_bind_congr (spelled_typesInFull s elems) fun _ _ _ => rfl
  | .array elem length =>
    map_bind_congr (elem.spelled_inFull s) fun _ _ _ =>
      map_bind_congr (length.spelled_inFull s) fun _ _ _ => rfl
  | .slice elem => map_bind_congr (elem.spelled_inFull s) fun _ _ _ => rfl
  | .paren inner => map_bind_congr (inner.spelled_inFull s) fun _ _ _ => rfl
  | .pointer _ target => map_bind_congr (target.spelled_inFull s) fun _ _ _ => rfl
  | .never => rfl
  | .traitObject bounds => map_bind_congr (spelled_boundsInFull s bounds) fun _ _ _ => rfl
  | .implTrait bounds => map_bind_congr (spelled_boundsInFull s bounds) fun _ _ _ => rfl
  | .function false _ none => rfl
  | .function false _ (some _) => rfl
  | .function true inputs none => map_bind_congr (spelled_typesInFull s inputs) fun _ _ _ => rfl
  | .function true inputs (some output) =>
    map_bind_congr (spelled_typesInFull s inputs) fun _ _ _ =>
      map_bind_congr (output.spelled_inFull s) fun _ _ _ => rfl
  | .inferred => rfl
  | .unspelled => rfl

theorem Path.spelled_inFull (s : Scope) :
    ∀ p : Path, spelled (p.inFull s).spell = spelled p.spell
  | ⟨_, segments⟩ => map_bind_congr (spelled_segmentsInFull s segments) fun _ _ _ => rfl

theorem Segment.spelled_inFull (s : Scope) :
    ∀ x : Segment, spelled (x.inFull s).spell = spelled x.spell
  | ⟨_, args⟩ => map_bind_congr (args.spelled_inFull s) fun _ _ _ => rfl

theorem SegmentArgs.spelled_inFull (s : Scope) :
    ∀ a : SegmentArgs, spelled (a.inFull s).spell = spelled a.spell
  | .none => rfl
  | .angled args => map_bind_congr (spelled_argsInFull s args) fun _ _ _ => rfl
  | .called inputs none => map_bind_congr (spelled_typesInFull s inputs) fun _ _ _ => rfl
  | .called inputs (some output) =>
    map_bind_congr (spelled_typesInFull s inputs) fun _ _ _ =>
      map_bind_congr (output.spelled_inFull s) fun _ _ _ => rfl

theorem GenericArg.spelled_inFull (s : Scope) :
    ∀ a : GenericArg, spelled (a.inFull s).spell = spelled a.spell
  | .lifetime _ => rfl
  | .type type => type.spelled_inFull s
  | .const value => value.spelled_inFull s
  | .assocType _ type => map_bind_congr (type.spelled_inFull s) fun _ _ _ => rfl
  | .assocConst _ value => map_bind_congr (value.spelled_inFull s) fun _ _ _ => rfl
  | .constraint _ bounds => map_bind_congr (spelled_boundsInFull s bounds) fun _ _ _ => rfl

theorem Bound.spelled_inFull (s : Scope) :
    ∀ b : Bound, spelled (b.inFull s).spell = spelled b.spell
  | .trait _ path => map_bind_congr (path.spelled_inFull s) fun _ _ _ => rfl
  | .lifetime _ => rfl
  | .captures => rfl
  | .unspelled => rfl

theorem ConstExpr.spelled_inFull (s : Scope) :
    ∀ c : ConstExpr, spelled (c.inFull s).spell = spelled c.spell
  | .int _ => rfl
  | .bool _ => rfl
  | .otherLiteral => rfl
  | .path p => p.spelled_inFull s
  | .computed => rfl

theorem spelled_typesInFull (s : Scope) :
    ∀ ts : List TypeExpr, spelled (spellTypes (typesInFull s ts)) = spelled (spellTypes ts)
  | [] => rfl
  | t :: ts =>
    map_bind_congr (t.spelled_inFull s) fun _ _ _ =>
      map_bind_congr (spelled_typesInFull s ts) fun _ _ _ => rfl

theorem spelled_segmentsInFull (s : Scope) :
    ∀ xs : List Segment, spelled (spellSegments (segmentsInFull s xs)) = spelled (spellSegments xs)
  | [] => rfl
  | x :: xs =>
    map_bind_congr (x.spelled_inFull s) fun _ _ _ =>
      map_bind_congr (spelled_segmentsInFull s xs) fun _ _ _ => rfl

theorem spelled_argsInFull (s : Scope) :
    ∀ as : List GenericArg, spelled (spellArgs (argsInFull s as)) = spelled (spellArgs as)
  | [] => rfl
  | a :: as =>
    map_bind_congr (a.spelled_inFull s) fun _ _ _ =>
      map_bind_congr (spelled_argsInFull s as) fun _ _ _ => rfl

theorem spelled_boundsInFull (s : Scope) :
    ∀ bs : List Bound, spelled (spellBounds (boundsInFull s bs)) = spelled (spellBounds bs)
  | [] => rfl
  | b :: bs =>
    map_bind_congr (b.spelled_inFull s) fun _ _ _ =>
      map_bind_congr (spelled_boundsInFull s bs) fun _ _ _ => rfl

end

/-! ## Names -/

namespace Scope

variable (s : Scope) (name : String)

/-- A name is described by the last name of what it stands for. -/
theorem getLast?_follow : (s.follow name).getLast? = some (s.typeName [name]) := by
  unfold follow
  split
  · next x rest hfound => exact (typeName_of_find? hfound (List.cons_ne_nil x rest)).symm
  · next hfound =>
    show some name = some (((s.find? name).bind (·.getLast?)).getD name)
    match hfind : s.find? name with
    | none => rfl
    | some [] => rfl
    | some (x :: rest) => exact absurd hfind (hfound x rest)

theorem follow_ne_nil : s.follow name ≠ [] := by
  intro h
  have hlast := s.getLast?_follow name
  rw [h] at hlast
  cases hlast

theorem follow_of_find? {s : Scope} {name : String} {path : List String}
    (h : s.find? name = some path) (hne : path ≠ []) : s.follow name = path := by
  unfold follow
  rw [h]
  cases path with
  | nil => exact absurd rfl hne
  | cons x rest => rfl

theorem inFull_ne_nil : s.inFull name ≠ [] := by
  unfold inFull
  split
  · next x _ =>
    by_cases hx : s.typeName [x] = x
    · rw [if_pos hx]
      exact s.follow_ne_nil x
    · rw [if_neg hx]
      exact List.cons_ne_nil name []
  · exact s.follow_ne_nil name

/-- A path whose last name describes it, and what follows from a name if it is a single one. -/
theorem typeName_eq_of_getLast? {path : List String} {type : String} (h : path.getLast? = some type)
    (hsingle : ∀ x, path = [x] → s.typeName [x] = x) : s.typeName path = type := by
  match path with
  | [x] => exact (hsingle x rfl).trans (Option.some.inj h)
  | x :: y :: rest => exact Option.some.inj ((s.typeName_cons_cons x y rest).trans h)

/-- A name is described like its full path. -/
theorem typeName_inFull : s.typeName (s.inFull name) = s.typeName [name] := by
  have hlast := s.getLast?_follow name
  unfold inFull
  split
  · next x hfollow =>
    rw [hfollow] at hlast
    have hname : x = s.typeName [name] := Option.some.inj hlast
    by_cases hx : s.typeName [x] = x
    · rw [if_pos hx]
      have hagain : (s.follow x).getLast? = some x := by rw [s.getLast?_follow x, hx]
      refine (s.typeName_eq_of_getLast? hagain fun y hy => ?_).trans hname
      rw [hy] at hagain
      rw [show y = x from Option.some.inj hagain, hx]
    · rw [if_neg hx]
  · next hfollow => exact s.typeName_eq_of_getLast? hlast fun x hx => absurd hx (hfollow x)

/-- A single name that stands for itself has the full path that is bound to it. -/
theorem inFull_of_typeName {x : String} (hx : s.typeName [x] = x) : s.inFull x = s.follow x := by
  unfold inFull
  split
  · next y hfollow =>
    have hlast := s.getLast?_follow x
    rw [hfollow, hx] at hlast
    rw [show y = x from Option.some.inj hlast, if_pos hx, ← show y = x from Option.some.inj hlast]
  · rfl

end Scope

theorem Path.names_ofNames {names : List String} (h : names ≠ []) (args : SegmentArgs) :
    (ofNames names args).names = names := by
  show (_ ++ [_]).map _ = _
  rw [List.map_append, List.map_map, List.getLast?_eq_some_getLast h]
  exact (congrArg (· ++ _) (List.map_id _)).trans (List.dropLast_append_getLast h)

theorem Path.expand_of_length_ne_one (s : Scope) {p : Path} (h : p.names.length ≠ 1) :
    p.expand s = p := by
  unfold expand
  split
  · exact absurd rfl h
  · rfl

/-- A name may be written as the path that it is bound to, if that is described by its own last
name: the two are the same in full. -/
theorem Path.expand_ofNames {s : Scope} {name : String} {path : List String}
    (h : s.find? name = some path) (hne : path ≠ []) (hdirect : s.Direct path) (args : SegmentArgs) :
    (ofNames path args).expand s = (ofNames [name] args).expand s := by
  have hname : (ofNames [name] args).expand s = ofNames (s.inFull name) args := rfl
  have hfollow := Scope.follow_of_find? h hne
  rw [hname]
  unfold Scope.inFull
  match path with
  | [x] =>
    rw [hfollow]
    show ofNames (s.inFull x) args = ofNames (if s.typeName [x] = x then s.follow x else [name]) args
    rw [if_pos (hdirect x rfl), s.inFull_of_typeName (hdirect x rfl)]
  | x :: y :: rest =>
    rw [hfollow]
    refine expand_of_length_ne_one s ?_
    rw [names_ofNames hne, List.length_cons, List.length_cons]
    omega

theorem Path.names_inFull (s : Scope) (p : Path) : (p.inFull s).names = p.names := by
  obtain ⟨absolute, segments⟩ := p
  show (segmentsInFull s segments).map (·.name) = segments.map (·.name)
  induction segments with
  | nil => rfl
  | cons x xs ih =>
    have hname : (x.inFull s).name = x.name := by
      cases x
      rfl
    exact congrArg₂ List.cons hname ih

/-- A path is described like before. -/
theorem Path.typeName_expand (s : Scope) (p : Path) :
    s.typeName (p.expand s).names = s.typeName p.names := by
  unfold expand
  split
  · next name args => rw [names_ofNames (s.inFull_ne_nil name), s.typeName_inFull]; rfl
  · rfl

/-! ## Types -/

namespace TypeExpr

variable (s : Scope) (t : TypeExpr)

theorem passed_inFull : (t.inFull s).passed = (t.passed.1.inFull s, t.passed.2) := by
  cases t with
  | reference lifetime mutable target => cases mutable <;> rfl
  | function plain inputs output => cases output <;> rfl
  | _ => rfl

/-- What is left of a type in an outline does not depend on what it is. -/
theorem map_outline_ref : (t.ref s).map TypeRef.outline =
    (spelled t.passed.1.spell).map fun _ => ⟨"", "", t.passed.2⟩ := by
  unfold ref
  generalize t.passed = r
  obtain ⟨target, passing⟩ := r
  dsimp only
  cases target.spell with
  | error fault => rfl
  | ok text => cases target <;> rfl

/-- What is left of a path where types are looked up. -/
theorem map_mention_ref {p : Path} (hp : t.passed.1 = .path p) : (t.ref s).map TypeRef.mention =
    (spelled p.spell).map fun _ => ⟨s.typeName p.names, "", t.passed.2⟩ := by
  unfold ref
  generalize t.passed = r at hp
  obtain ⟨target, passing⟩ := r
  cases hp
  show ((p.spell >>= _ : Except SignatureFault TypeRef)).map _ = _
  cases p.spell <;> rfl

theorem map_outline_ref_inFull :
    ((t.inFull s).ref s).map TypeRef.outline = (t.ref s).map TypeRef.outline := by
  rw [map_outline_ref, map_outline_ref, passed_inFull, spelled_inFull]

/-- A type that is looked up, in full if it is a path.  Any other is described by its spelling. -/
def lookupInFull : TypeExpr :=
  match t.passed.1 with
  | .path _ => t.inFull s
  | _ => t

theorem map_mention_ref_lookupInFull :
    ((t.lookupInFull s).ref s).map TypeRef.mention = (t.ref s).map TypeRef.mention := by
  unfold lookupInFull
  split
  · next p hp =>
    have hfull : (t.inFull s).passed.1 = .path ((p.inFull s).expand s) := by
      rw [passed_inFull, hp]
      rfl
    rw [map_mention_ref s _ hfull, map_mention_ref s t hp, passed_inFull, Path.typeName_expand,
      Path.names_inFull, Path.spelled_expand, Path.spelled_inFull]
  · rfl

end TypeExpr

/-! ## A name and its path -/

section

variable {s : Scope} {name : String} {path : List String}

theorem segmentsInFull_plain (s : Scope) (names : List String) (x : Segment) :
    segmentsInFull s (names.map (⟨·, .none⟩) ++ [x]) =
      names.map (⟨·, .none⟩) ++ [x.inFull s] := by
  induction names with
  | nil => rfl
  | cons name names ih => exact congrArg (⟨name, .none⟩ :: ·) ih

/-- A type that is a single name is in full what it is, written as the path that the name is bound
to, in full. -/
theorem TypeExpr.inFull_ofNames (h : s.find? name = some path) (hne : path ≠ [])
    (hdirect : s.Direct path) (args : SegmentArgs) :
    (TypeExpr.path (.ofNames path args)).inFull s =
      (TypeExpr.path (.ofNames [name] args)).inFull s := by
  have hargs : ∀ names : List String,
      (Path.ofNames names args).inFull s = .ofNames names (args.inFull s) :=
    fun names => congrArg (Path.mk false) (segmentsInFull_plain s _ _)
  show TypeExpr.path (((Path.ofNames path args).inFull s).expand s) =
    .path (((Path.ofNames [name] args).inFull s).expand s)
  rw [hargs, hargs, Path.expand_ofNames h hne hdirect]

/-- A type that is a single name is looked up like the path that the name is bound to. -/
theorem TypeExpr.map_mention_ref_ofNames (h : s.find? name = some path) (hne : path ≠ [])
    (hdirect : s.Direct path) (args : SegmentArgs) :
    ((TypeExpr.path (.ofNames path args)).ref s).map TypeRef.mention =
      ((TypeExpr.path (.ofNames [name] args)).ref s).map TypeRef.mention := by
  rw [map_mention_ref s _ rfl, map_mention_ref s _ rfl, Path.names_ofNames hne,
    Path.names_ofNames (List.cons_ne_nil name []), Path.spelled_ofNames, Path.spelled_ofNames,
    (Scope.typeName_path_eq_iff h hne).2 hdirect]
  rfl

end

end Mapwright.Source
