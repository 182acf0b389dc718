import Mapwright.Proofs.Admission
import Mapwright.Proofs.PathLayouts

/-!
# The arguments of a marker

An argument is spelled as its name and perhaps a value.  Whatever follows it,
it is read as it is spelled, and what is spelled in no way is malformed in one.
So the arguments of a marker are read if they are a list, with commas between
them, of arguments that are spelled; of those of one name the last one counts.
If not, they begin with such arguments, and the first thing that is none of them
says what is wrong.

    arguments ts = .ok as       ↔ Lists as ts                                     (`arguments_eq_ok_iff`)
    arguments ts = .error fault ↔ ∃ as rest, Leads as ts rest ∧ Faulty rest fault  (`arguments_eq_error_iff`)
    .ofArguments as = the last value of each name                                 (`ofArguments_eq`)
    a marker is read as it is written, in whichever brackets                      (`run_outerAttribute`)
    a marked trait with a faulty argument is rejected, and nothing else           (`settings_of_marker`)
-/

namespace Mapwright.Source

open Token Parse

variable {ts more rest : List Token}

/-! ## Names of arguments -/

/-- The names that arguments have. -/
def argumentNames : List String := ["generate_wrapper", "base", "impl_name"]

/-- Some tokens without the separator that they may begin with. -/
def unrooted (ts : List Token) : List Token := if startsWith [':', ':'] ts then ts.drop 2 else ts

/-- The tokens after the further segments of a name. -/
inductive Segments : List Token → List Token → Prop
  | nil {ts : List Token} (h : startsWith [':', ':'] ts = false) : Segments ts ts
  | cons {joint : Bool} {w : String} {ts rest : List Token} (h : Segments ts rest) :
      Segments (.punct ':' true :: .punct ':' joint :: .ident w :: ts) rest

/-- Further segments that are cut off after a separator, and whether the end comes there. -/
inductive CutOff : List Token → (atEnd : Bool) → Prop
  | here {joint : Bool} {ts : List Token} (h : startsWord ts = false) :
      CutOff (.punct ':' true :: .punct ':' joint :: ts) ts.isEmpty
  | later {joint : Bool} {w : String} {ts : List Token} {atEnd : Bool} (h : CutOff ts atEnd) :
      CutOff (.punct ':' true :: .punct ':' joint :: .ident w :: ts) atEnd

theorem exists_of_separator (h : startsWith [':', ':'] ts = true) :
    ∃ joint rest, ts = .punct ':' true :: .punct ':' joint :: rest := by
  obtain ⟨more, rfl, hmore⟩ := startsWith_pair h
  obtain ⟨joint, rest, rfl⟩ := startsWith_one_iff.1 hmore
  exact ⟨joint, rest, rfl⟩

theorem exists_of_startsWord (h : startsWord ts = true) : ∃ w rest, ts = .ident w :: rest := by
  match ts, h with
  | .ident w :: rest, _ => exact ⟨w, rest, rfl⟩

theorem exists_of_startsName (h : startsName ts = true) :
    ∃ name rest, ts = .ident name :: rest ∧ isKeyword name = false := by
  match ts, h with
  | .ident name :: rest, h => exact ⟨name, rest, rfl, by simpa [startsName] using h⟩

theorem exists_of_startsBool (h : startsAnyOf ["true", "false"] ts = true) :
    ∃ (wanted : Bool) (rest : List Token), ts = .ident (toString wanted) :: rest := by
  match ts, h with
  | .ident w :: rest, h =>
    rcases List.mem_pair.1 (startsAnyOf_ident.1 h) with rfl | rfl
    · exact ⟨true, rest, rfl⟩
    · exact ⟨false, rest, rfl⟩

theorem segments_or_cutOff (ts : List Token) :
    (∃ rest, Segments ts rest) ∨ ∃ atEnd, CutOff ts atEnd := by
  induction hn : ts.length using Nat.strongRecOn generalizing ts with
  | _ n ih =>
    cases hstarts : startsWith [':', ':'] ts with
    | false => exact .inl ⟨ts, .nil hstarts⟩
    | true =>
      obtain ⟨joint, more, rfl⟩ := exists_of_separator hstarts
      cases hword : startsWord more with
      | false => exact .inr ⟨_, .here hword⟩
      | true =>
        obtain ⟨w, after, rfl⟩ := exists_of_startsWord hword
        have hlt : after.length < n := by
          rw [← hn]
          simp only [List.length_cons]
          omega
        rcases ih after.length hlt after rfl with ⟨rest, h⟩ | ⟨atEnd, h⟩
        · exact .inl ⟨rest, .cons h⟩
        · exact .inr ⟨atEnd, .later h⟩

theorem skipSegments_of_single (h : startsWith [':', ':'] ts = false) :
    skipSegments ts = .ok ts := by
  rw [skipSegments.eq_def]
  split
  · simp [startsWith] at h
  · simp [startsWith] at h
  · rfl

theorem skipSegments_of_segments (h : Segments ts rest) : skipSegments ts = .ok rest := by
  induction h with
  | nil h => exact skipSegments_of_single h
  | cons _ ih => rw [skipSegments, ih]

theorem skipSegments_of_cutOff {atEnd : Bool} (h : CutOff ts atEnd) :
    skipSegments ts = .error (.expectedIdent atEnd) := by
  induction h with
  | @here joint ts h =>
    cases ts with
    | nil => rfl
    | cons t ts => cases t <;> first | rfl | cases h
  | later _ ih => rw [skipSegments, ih]

theorem Segments.length_le (h : Segments ts rest) : rest.length ≤ ts.length := by
  induction h with
  | nil _ => exact Nat.le_refl _
  | cons _ ih =>
    simp only [List.length_cons]
    omega

theorem Segments.length_lt_iff (h : Segments ts rest) :
    rest.length < ts.length ↔ startsWith [':', ':'] ts = true := by
  cases h with
  | nil h => simp [h]
  | cons h =>
    have hle := h.length_le
    refine iff_of_true ?_ (by simp [startsWith])
    simp only [List.length_cons]
    omega

/-- The name of an argument is a single word. -/
theorem argumentName_word (w : String) (h : startsWith [':', ':'] ts = false) :
    argumentName (.ident w :: ts) = .ok (some w, ts) := by
  have hroot : startsWith [':', ':'] (.ident w :: ts) = false := rfl
  simp [argumentName, hroot, skipSegments_of_single h]

/-- Or it is no name that an argument has. -/
theorem argumentName_path {w : String} (hname : unrooted ts = .ident w :: more)
    (h : Segments more rest)
    (hlong : startsWith [':', ':'] ts = true ∨ startsWith [':', ':'] more = true) :
    argumentName ts = .ok (none, rest) := by
  rw [unrooted] at hname
  unfold argumentName
  dsimp only
  rw [hname]
  dsimp only
  rw [skipSegments_of_segments h]
  dsimp only
  rw [if_pos (by simpa [h.length_lt_iff] using hlong)]

/-! ## Spelled arguments -/

/-- An argument as it is spelled before other tokens. -/
inductive Argument.Spelled : Argument → List Token → (rest : List Token) → Prop
  | bare {rest : List Token} (hequals : startsWith ['='] rest = false)
      (hsegments : startsWith [':', ':'] rest = false) :
      Argument.Spelled (.wrappers true) (.ident "generate_wrapper" :: rest) rest
  | wrappers {joint : Bool} {rest : List Token} (wanted : Bool) :
      Argument.Spelled (.wrappers wanted)
        (.ident "generate_wrapper" :: .punct '=' joint :: .ident (toString wanted) :: rest) rest
  | base {joint : Bool} {p : Path} {ts rest : List Token}
      (h : (Grammar.path (Grammar.ofTokens ts) false).run ts = some (p, rest)) :
      Argument.Spelled (.base p) (.ident "base" :: .punct '=' joint :: ts) rest
  | implName {joint : Bool} {name : String} {rest : List Token} (h : isKeyword name = false) :
      Argument.Spelled (.implName name)
        (.ident "impl_name" :: .punct '=' joint :: .ident name :: rest) rest

/-- A path of names is a base. -/
theorem spelled_names {p : NamePath} (hne : p.names ≠ [])
    (hnames : ∀ name ∈ p.names, IsSegmentName name)
    (hend : rest = [] ∨ startsWith [','] rest = true) (joint : Bool) :
    Argument.Spelled (.base p.toPath)
      (.ident "base" :: .punct '=' joint :: (p.tokens ++ rest)) rest := by
  have hfollow : startsWith [':', ':'] rest = false ∧ startsWith ['<'] rest = false := by
    rcases hend with rfl | hcomma
    · exact ⟨rfl, rfl⟩
    · obtain ⟨joint, more, rfl⟩ := startsWith_one_iff.1 hcomma
      exact ⟨startsWith_pair_of_ne (by decide) joint more, rfl⟩
  exact .base (run_path_names hnames hfollow.2 hfollow.1 hne _ false p.absolute)

/-- An argument that is spelled in no way, and what is wrong with it. -/
inductive Malformed : List Token → ArgumentFault → Prop
  | unnamed {ts : List Token} (hne : ts ≠ []) (h : startsWord (unrooted ts) = false) :
      Malformed ts
        (if (unrooted ts).isEmpty then .expectedArgument
        else if startsLiteral (unrooted ts) then .literalArgument else .tokenArgument)
  | cutOff {w : String} {ts more : List Token} {atEnd : Bool}
      (hname : unrooted ts = .ident w :: more) (h : CutOff more atEnd) :
      Malformed ts (.expectedIdent atEnd)
  /-- The name is no word that an argument has for a name, or no single word. -/
  | unknown {w : String} {ts more rest : List Token} (hname : unrooted ts = .ident w :: more)
      (h : Segments more rest) (hother : startsWith [':', ':'] ts = true ∨
        startsWith [':', ':'] more = true ∨ w ∉ argumentNames) : Malformed ts .unknownArgument
  | noEquals {w : String} {ts : List Token} (hw : w ∈ ["base", "impl_name"])
      (hsegments : startsWith [':', ':'] ts = false) (h : startsWith ['='] ts = false) :
      Malformed (.ident w :: ts) .expectedEquals
  | wrappers {joint : Bool} {ts : List Token} (h : startsAnyOf ["true", "false"] ts = false) :
      Malformed (.ident "generate_wrapper" :: .punct '=' joint :: ts) (.expectedBoolean ts.isEmpty)
  | base {joint : Bool} {ts : List Token}
      (h : (Grammar.path (Grammar.ofTokens ts) false).run ts = none) :
      Malformed (.ident "base" :: .punct '=' joint :: ts) (pathFault (unrooted ts))
  | implName {joint : Bool} {ts : List Token} (h : startsName ts = false) :
      Malformed (.ident "impl_name" :: .punct '=' joint :: ts) (nameFault ts)

section

variable (hsegments : startsWith [':', ':'] ts = false)

include hsegments

theorem argument_wrappers : argument (.ident "generate_wrapper" :: ts) =
    if startsWith ['='] ts then (boolValue (ts.drop 1)).map fun r => (.wrappers r.1, r.2)
    else .ok (.wrappers true, ts) := by
  rw [argument, argumentName_word _ hsegments]
  rfl

theorem argument_base : argument (.ident "base" :: ts) =
    (dropEquals ts).bind fun ts => (pathValue ts).map fun r => (.base r.1, r.2) := by
  rw [argument, argumentName_word _ hsegments]
  rfl

theorem argument_implName : argument (.ident "impl_name" :: ts) =
    (dropEquals ts).bind fun ts => (nameValue ts).map fun r => (.implName r.1, r.2) := by
  rw [argument, argumentName_word _ hsegments]
  rfl

end

/-- An equals sign is no separator. -/
theorem separator_of_equals (joint : Bool) (ts : List Token) :
    startsWith [':', ':'] (.punct '=' joint :: ts) = false :=
  startsWith_pair_of_ne (by decide) joint ts

theorem nameValue_of_name {name : String} (h : isKeyword name = false) (rest : List Token) :
    nameValue (.ident name :: rest) = .ok (name, rest) := by
  have hrun : (Parse.name).run (.ident name :: rest) = some (name, rest) := by
    rw [Parse.name, run_demand_bind, if_pos (by simp [startsName, h])]
    rfl
  rw [nameValue, hrun]

/-- An argument is read as it is spelled. -/
theorem argument_of_spelled {a : Argument} (h : a.Spelled ts rest) :
    argument ts = .ok (a, rest) := by
  cases h with
  | bare hequals hsegments =>
    rw [argument_wrappers hsegments, hequals]
    rfl
  | wrappers wanted =>
    rw [argument_wrappers (separator_of_equals _ _)]
    cases wanted <;> rfl
  | base h =>
    rw [argument_base (separator_of_equals _ _), dropEquals, Except.bind, pathValue, h]
    rfl
  | implName h =>
    rw [argument_implName (separator_of_equals _ _), dropEquals, Except.bind, nameValue_of_name h]
    rfl

theorem argument_of_unnamed {fault : ArgumentFault} (h : argumentName ts = .error fault) :
    argument ts = .error fault := by
  rw [argument, h]
  rfl

theorem argument_of_other {name : Option String} (h : argumentName ts = .ok (name, rest))
    (hother : ∀ w ∈ name, w ∉ argumentNames) : argument ts = .error .unknownArgument := by
  rw [argument, h]
  dsimp only [bind, Except.bind]
  split
  · exact absurd (by decide) (hother "generate_wrapper" rfl)
  · exact absurd (by decide) (hother "base" rfl)
  · exact absurd (by decide) (hother "impl_name" rfl)
  · rfl

theorem dropEquals_of_not (h : startsWith ['='] ts = false) :
    dropEquals ts = .error .expectedEquals := by
  rw [dropEquals.eq_def]
  split
  · simp at h
  · rfl

/-- A malformed argument is no argument. -/
theorem argument_of_malformed {fault : ArgumentFault} (h : Malformed ts fault) :
    argument ts = .error fault := by
  cases h with
  | unnamed hne h =>
    refine argument_of_unnamed ?_
    rw [argumentName.eq_def]
    dsimp only
    rw [← unrooted]
    cases hu : unrooted ts with
    | nil => rfl
    | cons t more =>
      rw [hu] at h
      cases t <;> first | rfl | cases h
  | cutOff hname h =>
    refine argument_of_unnamed ?_
    rw [argumentName.eq_def]
    dsimp only
    rw [← unrooted, hname]
    dsimp only
    rw [skipSegments_of_cutOff h]
  | @unknown w _ more _ hname h hother =>
    by_cases hlong : startsWith [':', ':'] ts = true ∨ startsWith [':', ':'] more = true
    · exact argument_of_other (argumentName_path hname h hlong) fun w hw => (by cases hw)
    · rw [not_or, Bool.not_eq_true, Bool.not_eq_true] at hlong
      rw [unrooted, hlong.1] at hname
      obtain rfl : ts = .ident w :: more := hname
      refine argument_of_other (argumentName_word w hlong.2) ?_
      rintro _ ⟨⟩
      exact (hother.resolve_left (by rw [hlong.1]; exact Bool.false_ne_true)).resolve_left
        (by rw [hlong.2]; exact Bool.false_ne_true)
  | noEquals hw hsegments h =>
    rcases List.mem_pair.1 hw with rfl | rfl
    · rw [argument_base hsegments, dropEquals_of_not h]
      rfl
    · rw [argument_implName hsegments, dropEquals_of_not h]
      rfl
  | @wrappers joint ts h =>
    have hvalue : boolValue ts = .error (.expectedBoolean ts.isEmpty) := by
      rw [boolValue.eq_def]
      split
      · simp [startsAnyOf] at h
      · simp [startsAnyOf] at h
      · rfl
    rw [argument_wrappers (separator_of_equals _ _), if_pos (by simp), List.drop_one, List.tail_cons,
      hvalue]
    rfl
  | base h =>
    rw [argument_base (separator_of_equals _ _), dropEquals, Except.bind, pathValue, h]
    rfl
  | @implName joint ts h =>
    have hvalue : nameValue ts = .error (nameFault ts) := by
      have hrun : (Parse.name).run ts = none := by
        rw [Parse.name, run_demand_bind, if_neg (by simp [h])]
      rw [nameValue, hrun]
    rw [argument_implName (separator_of_equals _ _), dropEquals, Except.bind, hvalue]
    rfl

theorem Malformed.ne_nil {fault : ArgumentFault} (h : Malformed ts fault) : ts ≠ [] := by
  rintro rfl
  cases h with
  | unnamed hne _ => exact hne rfl
  | cutOff hname _ => cases hname
  | unknown hname _ _ => cases hname

/-- Tokens are a spelled argument or a malformed one. -/
theorem spelled_or_malformed (hne : ts ≠ []) :
    (∃ (a : Argument) (rest : List Token), a.Spelled ts rest) ∨ ∃ fault, Malformed ts fault := by
  cases hword : startsWord (unrooted ts) with
  | false => exact .inr ⟨_, .unnamed hne hword⟩
  | true =>
    obtain ⟨w, more, hname⟩ := exists_of_startsWord hword
    rcases segments_or_cutOff more with ⟨rest, hsegments⟩ | ⟨atEnd, hcut⟩
    swap
    · exact .inr ⟨_, .cutOff hname hcut⟩
    -- a single word that is the name of an argument, and of which
    by_cases hother : startsWith [':', ':'] ts = true ∨ startsWith [':', ':'] more = true ∨
        w ∉ argumentNames
    · exact .inr ⟨_, .unknown hname hsegments hother⟩
    rw [not_or, not_or, Bool.not_eq_true, Bool.not_eq_true, not_not] at hother
    obtain ⟨hroot, hsingle, hw⟩ := hother
    rw [unrooted, hroot] at hname
    obtain rfl : ts = .ident w :: more := hname
    cases hequals : startsWith ['='] more with
    | false =>
      rcases List.mem_cons.1 hw with rfl | hw
      · exact .inl ⟨_, _, .bare hequals hsingle⟩
      · exact .inr ⟨_, .noEquals hw hsingle hequals⟩
    | true =>
      obtain ⟨joint, value, rfl⟩ := startsWith_one_iff.1 hequals
      simp only [argumentNames, List.mem_cons, List.not_mem_nil, or_false] at hw
      rcases hw with rfl | rfl | rfl
      · cases hbool : startsAnyOf ["true", "false"] value with
        | false => exact .inr ⟨_, .wrappers hbool⟩
        | true =>
          obtain ⟨wanted, rest, rfl⟩ := exists_of_startsBool hbool
          exact .inl ⟨_, _, .wrappers wanted⟩
      · cases hpath : (Grammar.path (Grammar.ofTokens value) false).run value with
        | none => exact .inr ⟨_, .base hpath⟩
        | some found => exact .inl ⟨_, _, .base hpath⟩
      · cases hvalue : startsName value with
        | false => exact .inr ⟨_, .implName hvalue⟩
        | true =>
          obtain ⟨name, rest, rfl, hkeyword⟩ := exists_of_startsName hvalue
          exact .inl ⟨_, _, .implName hkeyword⟩

theorem Argument.Spelled.length_lt {a : Argument} (h : a.Spelled ts rest) :
    rest.length < ts.length := by
  cases h with
  | base h =>
    have hle := (Takes.suffix _ _ _ h).length_le
    simp only [List.length_cons]
    omega
  | _ =>
    simp only [List.length_cons]
    omega

/-! ## Lists of arguments -/

/-- Arguments with commas between them and perhaps one at the end. -/
inductive Lists : List Argument → List Token → Prop
  | nil : Lists [] []
  | last {a : Argument} {ts : List Token} (h : a.Spelled ts []) : Lists [a] ts
  | cons {a : Argument} {as : List Argument} {joint : Bool} {ts rest : List Token}
      (h : a.Spelled ts (.punct ',' joint :: rest)) (hs : Lists as rest) : Lists (a :: as) ts

/-- Arguments with a comma after each, before other tokens. -/
inductive Leads : List Argument → List Token → (rest : List Token) → Prop
  | nil {ts : List Token} : Leads [] ts ts
  | cons {a : Argument} {as : List Argument} {joint : Bool} {ts mid rest : List Token}
      (h : a.Spelled ts (.punct ',' joint :: mid)) (hs : Leads as mid rest) : Leads (a :: as) ts rest

/-- Tokens that begin with a malformed argument, or with a spelled one and no comma after it. -/
inductive Faulty : List Token → ArgumentFault → Prop
  | malformed {ts : List Token} {fault : ArgumentFault} (h : Malformed ts fault) : Faulty ts fault
  | noComma {a : Argument} {ts rest : List Token} (h : a.Spelled ts rest) (hne : rest ≠ [])
      (hcomma : startsWith [','] rest = false) : Faulty ts .expectedComma

theorem Argument.Spelled.ne_nil {a : Argument} (h : a.Spelled ts rest) : ts ≠ [] := by
  rintro rfl
  cases h

theorem argumentsUpTo_of_spelled {a : Argument} (fuel : Nat) :
    a.Spelled ts rest → argumentsUpTo (fuel + 1) ts = match rest with
      | [] => .ok [a]
      | .punct ',' _ :: rest => argumentsUpTo fuel rest >>= fun as => .ok (a :: as)
      | _ => .error .expectedComma := by
  intro h
  obtain ⟨t, ts, rfl⟩ := List.exists_cons_of_ne_nil h.ne_nil
  rw [argumentsUpTo.eq_def]
  dsimp only
  rw [argument_of_spelled h]
  rfl

theorem argumentsUpTo_of_comma {a : Argument} {joint : Bool}
    (h : a.Spelled ts (.punct ',' joint :: rest)) (fuel : Nat) :
    argumentsUpTo (fuel + 1) ts = argumentsUpTo fuel rest >>= fun as => .ok (a :: as) :=
  argumentsUpTo_of_spelled fuel h

theorem argumentsUpTo_of_lists {as : List Argument} (h : Lists as ts) {fuel : Nat}
    (hfuel : ts.length < fuel) : argumentsUpTo fuel ts = .ok as := by
  induction h generalizing fuel with
  | nil => cases fuel <;> rfl
  | last h =>
    obtain ⟨fuel, rfl⟩ := Nat.exists_eq_add_one_of_ne_zero (Nat.ne_zero_of_lt hfuel)
    exact argumentsUpTo_of_spelled fuel h
  | cons h _ ih =>
    obtain ⟨fuel, rfl⟩ := Nat.exists_eq_add_one_of_ne_zero (Nat.ne_zero_of_lt hfuel)
    have hlt := h.length_lt
    rw [List.length_cons] at hlt
    rw [argumentsUpTo_of_comma h, ih (by omega)]
    rfl

theorem argumentsUpTo_of_faulty {fault : ArgumentFault} (h : Faulty ts fault) (fuel : Nat) :
    argumentsUpTo (fuel + 1) ts = .error fault := by
  cases h with
  | malformed h =>
    cases ts with
    | nil => exact absurd h.ne_nil (fun h => h rfl)
    | cons t ts =>
      rw [argumentsUpTo.eq_def]
      dsimp only
      rw [argument_of_malformed h]
      rfl
  | noComma h hne hcomma =>
    rw [argumentsUpTo_of_spelled fuel h]
    split
    · exact absurd rfl hne
    · simp at hcomma
    · rfl

/-- What leads to a fault has no bearing on what is wrong. -/
theorem argumentsUpTo_of_leads {as : List Argument} {fault : ArgumentFault} (h : Leads as ts rest)
    (hfault : Faulty rest fault) {fuel : Nat} (hfuel : ts.length < fuel) :
    argumentsUpTo fuel ts = .error fault := by
  induction h generalizing fuel with
  | nil =>
    obtain ⟨fuel, rfl⟩ := Nat.exists_eq_add_one_of_ne_zero (Nat.ne_zero_of_lt hfuel)
    exact argumentsUpTo_of_faulty hfault fuel
  | cons h _ ih =>
    obtain ⟨fuel, rfl⟩ := Nat.exists_eq_add_one_of_ne_zero (Nat.ne_zero_of_lt hfuel)
    have hlt := h.length_lt
    rw [List.length_cons] at hlt
    rw [argumentsUpTo_of_comma h, ih hfault (by omega)]
    rfl

/-- Tokens are a list of arguments, or some arguments lead to a fault. -/
theorem lists_or_leads (ts : List Token) :
    (∃ as, Lists as ts) ∨ ∃ as rest fault, Leads as ts rest ∧ Faulty rest fault := by
  -- on the number of tokens, of which a spelled argument and the comma after it take some
  induction hn : ts.length using Nat.strongRecOn generalizing ts with
  | _ n ih =>
    by_cases hne : ts = []
    · exact .inl ⟨[], hne ▸ .nil⟩
    rcases spelled_or_malformed hne with ⟨a, rest, h⟩ | ⟨fault, h⟩
    swap
    · exact .inr ⟨[], ts, fault, .nil, .malformed h⟩
    by_cases hrest : rest = []
    · subst hrest
      exact .inl ⟨[a], .last h⟩
    cases hcomma : startsWith [','] rest with
    | false => exact .inr ⟨[], ts, _, .nil, .noComma h hrest hcomma⟩
    | true =>
      obtain ⟨joint, more, rfl⟩ := startsWith_one_iff.1 hcomma
      have hlt := h.length_lt
      rw [List.length_cons] at hlt
      rcases ih more.length (by omega) more rfl with ⟨as, hs⟩ | ⟨as, rest, fault, hs, hfault⟩
      · exact .inl ⟨a :: as, .cons h hs⟩
      · exact .inr ⟨a :: as, rest, fault, .cons h hs, hfault⟩

/-- **Which arguments are read.** -/
theorem arguments_eq_ok_iff {as : List Argument} : arguments ts = .ok as ↔ Lists as ts := by
  constructor
  · intro h
    rcases lists_or_leads ts with ⟨as', hs⟩ | ⟨_, _, _, hs, hfault⟩
    · have has : Except.ok as' = .ok as :=
        (argumentsUpTo_of_lists hs (Nat.lt_succ_self _)).symm.trans h
      cases has
      exact hs
    · cases (argumentsUpTo_of_leads hs hfault (Nat.lt_succ_self _)).symm.trans h
  · exact fun h => argumentsUpTo_of_lists h (Nat.lt_succ_self _)

/-- **What is wrong with arguments.** -/
theorem arguments_eq_error_iff {fault : ArgumentFault} :
    arguments ts = .error fault ↔ ∃ as rest, Leads as ts rest ∧ Faulty rest fault := by
  constructor
  · intro h
    rcases lists_or_leads ts with ⟨as, hs⟩ | ⟨as, rest, fault', hs, hfault⟩
    · cases (argumentsUpTo_of_lists hs (Nat.lt_succ_self _)).symm.trans h
    · have hsame : Except.error fault' = .error fault :=
        (argumentsUpTo_of_leads hs hfault (Nat.lt_succ_self _)).symm.trans h
      cases hsame
      exact ⟨as, rest, hs, hfault⟩
  · rintro ⟨as, rest, hs, hfault⟩
    exact argumentsUpTo_of_leads hs hfault (Nat.lt_succ_self _)

/-! ## The last value of each name -/

namespace Argument

def wanted? : Argument → Option Bool
  | .wrappers wanted => some wanted
  | _ => none

def base? : Argument → Option Path
  | .base p => some p
  | _ => none

def implName? : Argument → Option String
  | .implName name => some name
  | _ => none

end Argument

/-- The last value of each name that arguments have. -/
def lastSettings (as : List Argument) : MarkerSettings where
  wrappers := (as.filterMap (·.wanted?)).getLast?.getD false
  base := (as.filterMap (·.base?)).getLast?
  implName := (as.filterMap (·.implName?)).getLast?

theorem ofArguments_eq (as : List Argument) : MarkerSettings.ofArguments as = lastSettings as := by
  -- the last argument is the one that the settings are updated with last
  induction as using List.reverseRecOn with
  | nil => rfl
  | append_singleton as a ih =>
    rw [MarkerSettings.ofArguments, List.foldl_append, ← MarkerSettings.ofArguments, ih]
    cases a <;>
      simp [MarkerSettings.update, lastSettings, List.filterMap_append, Argument.wanted?,
        Argument.base?, Argument.implName?]

/-! ## Delimiters -/

def Token.isDelimiter : Token → Bool
  | .opening _ | .closing _ => true
  | _ => false

/-- Tokens in which every group is closed. -/
inductive Balanced : List Token → Prop
  | nil : Balanced []
  | cons {t : Token} {ts : List Token} (ht : t.isDelimiter = false) (h : Balanced ts) :
      Balanced (t :: ts)
  | group {d : Delimiter} {inside ts : List Token} (hinside : Balanced inside) (h : Balanced ts) :
      Balanced (.opening d :: (inside ++ .closing d :: ts))

theorem balanced_of_flat (h : ∀ t ∈ ts, t.isDelimiter = false) : Balanced ts := by
  induction ts with
  | nil => exact .nil
  | cons t ts ih =>
    obtain ⟨ht, hts⟩ := List.forall_mem_cons.1 h
    exact .cons ht (ih hts)

/-- A group ends outside of the groups in it. -/
theorem splitGroup_append (h : Balanced ts) (depth : Nat) (rest : List Token) :
    splitGroup depth (ts ++ rest) =
      (splitGroup depth rest).map fun split => (ts ++ split.1, split.2) := by
  induction h generalizing depth rest with
  | nil => simp
  | @cons t ts ht _ ih =>
    have hcons : splitGroup depth (t :: (ts ++ rest)) =
        (splitGroup depth (ts ++ rest)).map fun split => (t :: split.1, split.2) := by
      cases t with
      | opening d => cases ht
      | closing d => cases ht
      | _ => cases depth <;> rfl
    rw [List.cons_append, hcons, ih, Option.map_map]
    rfl
  | @group d inside ts _ _ ihInside ih =>
    have hopen : splitGroup depth (.opening d :: (inside ++ (.closing d :: (ts ++ rest)))) =
        (splitGroup (depth + 1) (inside ++ (.closing d :: (ts ++ rest)))).map fun split =>
          (.opening d :: split.1, split.2) := by
      cases depth <;> rfl
    have hclose : splitGroup (depth + 1) (.closing d :: (ts ++ rest)) =
        (splitGroup depth (ts ++ rest)).map fun split => (.closing d :: split.1, split.2) := rfl
    rw [List.cons_append, List.append_assoc, List.cons_append, hopen, ihInside, hclose, ih,
      Option.map_map, Option.map_map, Option.map_map]
    congr 1
    funext split
    simp

/-- An attribute before something, as it is spelled with arguments in any brackets or with none. -/
inductive Written : Attribute → List Token → Prop
  | bare (path : NamePath) :
      Written ⟨false, path, .none⟩
        (.punct '#' false :: .opening .bracket :: (path.tokens ++ [.closing .bracket]))
  | list (path : NamePath) {ts : List Token} (d : Delimiter) (h : Balanced ts) :
      Written ⟨false, path, .list ts⟩
        (.punct '#' false :: .opening .bracket ::
          (path.tokens ++ .opening d :: (ts ++ [.closing d, .closing .bracket])))

section

variable {names : List String}
  (hnames : ∀ name ∈ names, name ∈ Grammar.rootWords ∨ isKeyword name = false)
  (hend : startsWith [':', ':'] rest = false)

include hnames hend

theorem run_chained_names (hne : names ≠ []) :
    (chained (fun _ => false) [':', ':'] (nameOr Grammar.rootWords)).run
      ((laterTokens names).drop 2 ++ rest) = some (names, rest) := by
  induction names with
  | nil => exact absurd rfl hne
  | cons name names ih =>
    obtain ⟨hname, hnames⟩ := List.forall_mem_cons.1 hnames
    cases names with
    | nil => exact run_chained_last rfl (run_nameOr hname) hend
    | cons next names =>
      refine run_chained_cons rfl (run_nameOr hname) rfl ?_ (ih hnames (List.cons_ne_nil _ _))
      show (laterTokens names ++ rest).length + 1 < (laterTokens names ++ rest).length + 4
      exact Nat.add_lt_add_left (by decide) _

theorem run_attributePath (hne : names ≠ []) (absolute : Bool) :
    Grammar.attributePath.run ((NamePath.mk absolute names).tokens ++ rest) =
      some (⟨absolute, names⟩, rest) := by
  have hchained := run_chained_names hnames hend hne
  obtain ⟨name, names, rfl⟩ := List.exists_cons_of_ne_nil hne
  have hunsafe : startsKeyword "unsafe" ((NamePath.mk absolute (name :: names)).tokens ++ rest) =
      false := by
    have hname := hnames name List.mem_cons_self
    cases absolute with
    | true => rfl
    | false =>
      refine Bool.eq_false_iff.2 fun h => ?_
      rw [eq_of_beq h] at hname
      revert hname
      decide
  rw [Grammar.attributePath, run_keyword?_bind, hunsafe, if_neg Bool.false_ne_true,
    if_neg Bool.false_ne_true, Grammar.namePath, run_root_bind]
  exact (run_bind_of hchained).trans rfl

end

theorem run_anyGroup (h : Balanced ts) (d : Delimiter) (rest : List Token) :
    anyGroup.run (.opening d :: (ts ++ .closing d :: rest)) = some ((d, ts), rest) := by
  have htoken : token.run (.opening d :: (ts ++ .closing d :: rest)) =
      some (.opening d, ts ++ .closing d :: rest) := rfl
  have hget : (get : Parse (List Token)).run (ts ++ .closing d :: rest) =
      some (ts ++ .closing d :: rest, ts ++ .closing d :: rest) := rfl
  have hsplit : splitGroup 0 (ts ++ .closing d :: rest) = some (ts, rest) := by
    rw [splitGroup_append h]
    simp [splitGroup]
  rw [anyGroup, run_bind_of htoken]
  dsimp only
  rw [run_bind_of hget, hsplit]
  rfl

/-- Whichever brackets the arguments stand in, what is read is what stands between them. -/
theorem run_attributeInput_list (h : Balanced ts) (g : Grammar) (d : Delimiter) (rest : List Token) :
    (Grammar.attributeInput g).run (.opening d :: (ts ++ .closing d :: rest)) =
      some (.list ts, rest) := by
  have hopens : opensAny (.opening d :: (ts ++ .closing d :: rest)) = true := by
    cases d <;> rfl
  rw [Grammar.attributeInput, run_next_bind, if_pos hopens, run_bind_of (run_anyGroup h d rest)]
  rfl

/-- An attribute is read as it is written. -/
theorem run_outerAttribute {a : Attribute} {ws : List Token} (h : Written a ws)
    (hne : a.path.names ≠ [])
    (hnames : ∀ name ∈ a.path.names, name ∈ Grammar.rootWords ∨ isKeyword name = false)
    (g : Grammar) (rest : List Token) :
    (Grammar.outerAttribute g).run (ws ++ rest) = some (a, rest) := by
  unfold Grammar.outerAttribute Grammar.attributeBody
  cases h with
  | bare path =>
    rw [List.cons_append, List.cons_append, List.append_assoc, run_symbol_punct]
    refine run_group ?_
    rw [run_bind_of (run_attributePath hnames rfl hne path.absolute)]
    rfl
  | @list path ts d hbalanced =>
    simp only [List.append_assoc, List.cons_append, List.nil_append]
    rw [run_symbol_punct]
    refine run_group ?_
    rw [run_bind_of (run_attributePath hnames rfl hne path.absolute),
      run_bind_of (run_attributeInput_list hbalanced g d (.closing .bracket :: rest))]
    rfl

/-! ## Marked traits -/

/-- What becomes of a trait whose marker is at fault. -/
structure RejectedFor (scope : Scope) (module : ModuleId) (t : TraitItem) (marker : Attribute)
    (fault : ArgumentFault) : Prop where
  settings : marker.settings = .error fault
  declarations : (Item.trait t).declarations scope module =
    [.rejected t.name (.invalidArguments fault)]
  /-- Under its name the generator has the fault and no unit, and nothing else of it is changed. -/
  settled : ∀ g g' : Generator, g.declareAll ((Item.trait t).declarations scope module) = g' →
    g'.registry = g.registry ∧ g'.settings = g.settings ∧
      ∀ name, g'.held name =
        if t.name = name then (none, some (.invalidArguments fault)) else g.held name

theorem rejectedFor_of_settings {scope : Scope} {module : ModuleId} {t : TraitItem}
    {marker : Attribute} {fault : ArgumentFault}
    (hmarker : t.attributes.find? (·.marks scope) = some marker)
    (hsettings : marker.settings = .error fault) : RejectedFor scope module t marker fault := by
  have hunit : t.unit scope module marker = .error (.invalidArguments fault) := by
    rw [TraitItem.unit, hsettings]
    rfl
  have hdeclarations : (Item.trait t).declarations scope module =
      [.rejected t.name (.invalidArguments fault)] := by
    rw [TraitItem.declarations_of_marked hmarker, hunit]
  refine ⟨hsettings, hdeclarations, ?_⟩
  rintro g _ rfl
  rw [hdeclarations]
  exact ⟨rfl, rfl, g.held_reject t.name _⟩

/-- **Of the arguments of a marker, in whichever brackets, the last one of each name counts**, and if
one is at fault the trait is rejected for the first that is. -/
theorem settings_of_marker :
    (∀ (marker : Attribute) (ws : List Token), Written marker ws → marker.path.names ≠ [] →
      (∀ name ∈ marker.path.names, name ∈ Grammar.rootWords ∨ isKeyword name = false) →
      ∀ g rest, (Grammar.outerAttribute g).run (ws ++ rest) = some (marker, rest)) ∧
    (∀ p : NamePath, p.names ≠ [] → (∀ name ∈ p.names, IsSegmentName name) →
      ∀ joint rest, rest = [] ∨ startsWith [','] rest = true →
        Argument.Spelled (.base p.toPath)
          (.ident "base" :: .punct '=' joint :: (p.tokens ++ rest)) rest) ∧
    ∀ (scope : Scope) (module : ModuleId) (t : TraitItem) (marker : Attribute),
      t.attributes.find? (·.marks scope) = some marker →
      (marker.input = .none → marker.settings = .ok .unset) ∧
      ∀ ts, marker.input = .list ts →
        (∀ as, Lists as ts → marker.settings = .ok (lastSettings as)) ∧
        (∀ as rest fault, Leads as ts rest → Faulty rest fault →
          RejectedFor scope module t marker fault) ∧
        ((∃ as, Lists as ts) ∨ ∃ as rest fault, Leads as ts rest ∧ Faulty rest fault) := by
  refine ⟨fun marker ws h hne hnames => run_outerAttribute h hne hnames,
    fun p hne hnames joint rest hend => spelled_names hne hnames hend joint, ?_⟩
  intro scope module t marker hmarker
  refine ⟨fun hinput => by rw [Attribute.settings, hinput], fun ts hinput => ?_⟩
  have hsettings : marker.settings = (arguments ts).map .ofArguments := by
    rw [Attribute.settings, hinput]
  refine ⟨fun as h => ?_, fun as rest fault h hfault => ?_, lists_or_leads ts⟩
  · rw [hsettings, arguments_eq_ok_iff.2 h, Except.map, ofArguments_eq]
  · refine rejectedFor_of_settings hmarker ?_
    rw [hsettings, arguments_eq_error_iff.2 ⟨as, rest, h, hfault⟩]
    rfl

/-- The tokens of `impl_name = First, generate_wrapper, base = deps::Deps<Vec<u8>>, base = Deps,
generate_wrapper = false, impl_name = Labels,`. -/
def labelTokens : List Token :=
  [.ident "impl_name", .punct '=' false, .ident "First", .punct ',' false,
    .ident "generate_wrapper", .punct ',' false,
    .ident "base", .punct '=' false, .ident "deps", .punct ':' true, .punct ':' false, .ident "Deps",
    .punct '<' false, .ident "Vec", .punct '<' false, .ident "u8", .punct '>' true, .punct '>' true,
    .punct ',' false,
    .ident "base", .punct '=' false, .ident "Deps", .punct ',' false,
    .ident "generate_wrapper", .punct '=' false, .ident "false", .punct ',' false,
    .ident "impl_name", .punct '=' false, .ident "Labels", .punct ',' false]

/-- What `labelTokens` say. -/
def labelArguments : List Argument :=
  [.implName "First", .wrappers true,
    .base ⟨false, [⟨"deps", .none⟩, ⟨"Deps", .angled [.type (.path ⟨false, [⟨"Vec",
      .angled [.type (.path ⟨false, [⟨"u8", .none⟩]⟩)]⟩]⟩)]⟩]⟩,
    .base ⟨false, [⟨"Deps", .none⟩]⟩, .wrappers false, .implName "Labels"]

/-- The tokens of `wrappers, base`. -/
def unknownTokens : List Token := [.ident "wrappers", .punct ',' false, .ident "base"]

/-- The tokens of `generate_wrapper, base = Deps, wrappers, base`. -/
def doubtfulTokens : List Token :=
  [.ident "generate_wrapper", .punct ',' false,
    .ident "base", .punct '=' false, .ident "Deps", .punct ',' false] ++ unknownTokens

/-- The marker with some arguments. -/
def markerWith (ts : List Token) : Attribute :=
  ⟨false, ⟨false, ["mapper_derive", "mapper"]⟩, .list ts⟩

/-- A trait without functions. -/
def labeler (ts : List Token) : TraitItem := ⟨[markerWith ts], .everywhere, "Labeler", false, []⟩

/-- The marker with some arguments in braces. -/
def bracedMarker (ts : List Token) : List Token :=
  .punct '#' false :: .opening .bracket :: ((NamePath.mk false ["mapper_derive", "mapper"]).tokens ++
    .opening .brace :: (ts ++ [.closing .brace, .closing .bracket]))

/-- Of the names given twice the last values count.  The name that no argument has comes before the
value that is missing, and what stands before it has no effect. -/
theorem settings_of_marker_labels :
    (Written (markerWith labelTokens) (bracedMarker labelTokens) ∧
      (Grammar.outerAttribute .flat).run (bracedMarker labelTokens ++ []) =
        some (markerWith labelTokens, [])) ∧
    ((∀ name ∈ ["deps", "Deps"], IsSegmentName name) ∧
      Argument.Spelled (.base ⟨false, [⟨"deps", .none⟩, ⟨"Deps", .none⟩]⟩)
        [.ident "base", .punct '=' false, .ident "deps", .punct ':' true, .punct ':' false,
          .ident "Deps"] []) ∧
    ((labeler labelTokens).attributes.find? (·.marks .empty) = some (markerWith labelTokens) ∧
      Lists labelArguments labelTokens ∧
      (markerWith labelTokens).settings =
        .ok ⟨false, some ⟨false, [⟨"Deps", .none⟩]⟩, some "Labels"⟩) ∧
    (labeler doubtfulTokens).attributes.find? (·.marks .empty) = some (markerWith doubtfulTokens) ∧
      Leads [.wrappers true, .base ⟨false, [⟨"Deps", .none⟩]⟩] doubtfulTokens unknownTokens ∧
      Faulty unknownTokens .unknownArgument ∧
      RejectedFor .empty "labels.rs" (labeler doubtfulTokens) (markerWith doubtfulTokens)
        .unknownArgument := by
  have hwritten : Written (markerWith labelTokens) (bracedMarker labelTokens) :=
    .list ⟨false, ["mapper_derive", "mapper"]⟩ .brace (balanced_of_flat (by decide))
  have hnames : ∀ name ∈ ["deps", "Deps"], IsSegmentName name := by
    intro name hname
    rcases List.mem_pair.1 hname with rfl | rfl <;>
      exact ⟨isIdentifier_of_all (by decide) (by decide), .inr (.inr (by decide))⟩
  have hlists : Lists labelArguments labelTokens := arguments_eq_ok_iff.1 rfl
  have hleads : Leads [.wrappers true, .base ⟨false, [⟨"Deps", .none⟩]⟩] doubtfulTokens
      unknownTokens := .cons (.bare rfl rfl) (.cons (.base rfl) .nil)
  have hfaulty : Faulty unknownTokens .unknownArgument :=
    .malformed (.unknown rfl (.nil rfl) (.inr (.inr (by decide))))
  have hlabels := (settings_of_marker.2.2 .empty "labels.rs" (labeler labelTokens)
    (markerWith labelTokens) (by decide)).2 _ rfl
  have hdoubtful := (settings_of_marker.2.2 .empty "labels.rs" (labeler doubtfulTokens)
    (markerWith doubtfulTokens) (by decide)).2 _ rfl
  refine ⟨⟨hwritten, settings_of_marker.1 _ _ hwritten (by decide) (by decide) .flat []⟩,
    ⟨hnames, settings_of_marker.2.1 ⟨false, ["deps", "Deps"]⟩ (by decide) hnames false []
      (.inl rfl)⟩,
    ?_, ?_⟩
  · exact ⟨by decide, hlists, hlabels.1 _ hlists⟩
  · exact ⟨by decide, hleads, hfaulty, hdoubtful.2.1 _ _ _ hleads hfaulty⟩

end Mapwright.Source
