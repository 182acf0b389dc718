import Mapwright.Files.Path

/-!
# Places in a tree of files

A path to an entry of a directory takes the steps of the directory and then one
more.  A file that is written there is what stands at its place; everything
else that stood in the tree still does, so that paths lead where they led.

    steps? (joinPath directory name) = entrySteps directory, then down name      (`steps?_joinPath`)
    a path to an entry starts where the directory's does                         (`start_joinPath`)
    what stands next to a new entry is what stood there                          (`at?_put_entry`)
    (root after a write).readText? of an entry = the new text, or what it was    (`readText?_writeFile?`)
-/

namespace Mapwright.Files

/-! ## Parts between slashes -/

theorem slashParts_ne_nil (cs : List Char) : slashParts cs ≠ [] := by
  cases cs with
  | nil => simp [slashParts]
  | cons c cs =>
    unfold slashParts
    split
    · simp
    · split <;> simp

theorem slashParts_append_slash (cs ds : List Char) :
    slashParts (cs ++ '/' :: ds) = slashParts cs ++ slashParts ds := by
  induction cs with
  | nil =>
    obtain ⟨part, parts, hparts⟩ := List.exists_cons_of_ne_nil (slashParts_ne_nil ds)
    simp [slashParts, hparts]
  | cons c cs ih =>
    obtain ⟨part, parts, hparts⟩ := List.exists_cons_of_ne_nil (slashParts_ne_nil cs)
    rw [List.cons_append, slashParts, ih, slashParts, hparts, List.cons_append]
    dsimp only
    split <;> rfl

theorem slashParts_of_no_slash {cs : List Char} (h : '/' ∉ cs) : slashParts cs = [cs] := by
  induction cs with
  | nil => rfl
  | cons c cs ih =>
    rw [List.mem_cons, not_or] at h
    rw [slashParts, ih h.2]
    exact if_neg (Ne.symm h.1)

theorem head?_of_no_slash {cs : List Char} (h : '/' ∉ cs) : (cs.head? == some '/') = false :=
  beq_eq_false_iff_ne.2 fun hc => h (List.mem_of_head? hc)

/-! ## Entries of a directory -/

/-- A name that an entry of a directory can have: no path, and no step that stays or goes up. -/
structure IsEntryName (name : String) : Prop where
  noSlash : '/' ∉ name.toList
  ne_empty : name ≠ ""
  ne_dot : name ≠ "."
  ne_dots : name ≠ ".."

theorem IsEntryName.ofText {name : String} (h : IsEntryName name) :
    Step.ofText name = .down name := by
  unfold Step.ofText
  simp [h.ne_empty, h.ne_dot, h.ne_dots]

/-- The steps to a directory, from which one more leads to an entry of it. -/
def entrySteps (directory : String) : List Step :=
  let parts := slashParts directory.toList
  (if directory = "" then []
    else if directory.toList.getLast? == some '/' then parts.dropLast else parts).map
    fun part => .ofText (String.ofList part)

/-- The path to an entry starts where that of the directory does. -/
theorem start_joinPath (directory : String) {name : String} (h : '/' ∉ name.toList)
    (here : List String) : start (joinPath directory name) here = start directory here := by
  have hhead := head?_of_no_slash h
  unfold start joinPath
  by_cases hempty : directory = ""
  · simp [hhead, hempty]
  · obtain ⟨c, cs, hdirectory⟩ := List.exists_cons_of_ne_nil (mt String.toList_eq_nil_iff.1 hempty)
    simp only [hhead, hempty, Bool.false_or, decide_false, Bool.false_eq_true, if_false]
    split <;> simp [String.toList_append, hdirectory]

theorem slashParts_joinPath {directory name : String} (h : '/' ∉ name.toList) :
    (slashParts (joinPath directory name).toList).map (fun part => Step.ofText (String.ofList part)) =
      entrySteps directory ++ [Step.ofText name] := by
  unfold joinPath entrySteps
  rw [head?_of_no_slash h]
  by_cases hempty : directory = ""
  · simp [hempty, slashParts_of_no_slash h]
  · by_cases hlast : directory.toList.getLast? = some '/'
    · obtain ⟨cs, hcs⟩ := List.getLast?_eq_some_iff.1 hlast
      have hparts : slashParts (cs ++ ['/']) = slashParts cs ++ [[]] :=
        slashParts_append_slash cs []
      simp [hempty, hcs, hparts, slashParts_append_slash, slashParts_of_no_slash h,
        String.toList_append]
    · simp [hempty, hlast, slashParts_append_slash, slashParts_of_no_slash h,
        String.toList_append]

/-- **The steps to an entry.** -/
theorem steps?_joinPath {directory name : String} (hname : IsEntryName name) {steps : List Step}
    (h : steps? (joinPath directory name) = some steps) :
    steps = entrySteps directory ++ [.down name] := by
  rw [← hname.ofText, ← slashParts_joinPath hname.noSlash]
  unfold steps? at h
  dsimp only at h
  split at h
  · cases h
  · exact (Option.some.inj h).symm

namespace Node

/-! ## A new entry -/

/-- What stands in a directory after something was put there. -/
theorem at?_put_entry {new root : Node} {place : List String} {name : String}
    (h : (root.at? place).any (·.isDirectory) = true) (other : String) :
    (put new (place ++ [name]) root).at? (place ++ [other]) =
      if name = other then some new else root.at? (place ++ [other]) := by
  induction place generalizing root with
  | nil =>
    cases root with
    | file text => simp [at?, isDirectory] at h
    | directory entries =>
      simp only [List.nil_append, put, at?, NameMap.lookup_place]
      by_cases hname : name = other
      · simp [hname]
      · simp [hname]
  | cons step place ih =>
    cases root with
    | file text => simp [at?] at h
    | directory entries =>
      simp only [at?] at h
      cases hc : NameMap.lookup step entries with
      | none => simp [hc] at h
      | some child =>
        simp only [hc] at h
        simp only [List.cons_append, put, at?, NameMap.lookup_place, if_true, hc, Option.getD_some]
        exact ih h

/-- Whether all that stands in a tree stands in another as well, a directory as a directory and a
file as a file. -/
def StaysIn (root root' : Node) : Prop :=
  ∀ place kind, (root.at? place).map (·.isDirectory) = some kind →
    (root'.at? place).map (·.isDirectory) = some kind

/-- A file that is put into a directory removes nothing, if it takes the place of no directory. -/
theorem staysIn_put {root : Node} {text : Option String} {place : List String} {name : String}
    (hdirectory : (root.at? place).any (·.isDirectory) = true)
    (hfile : (root.at? (place ++ [name])).any (·.isDirectory) = false) :
    root.StaysIn (put (.file text) (place ++ [name]) root) := by
  induction place generalizing root with
  | nil =>
    intro target kind h
    cases root with
    | file text => simp [at?, isDirectory] at hdirectory
    | directory entries =>
      cases target with
      | nil => exact h
      | cons step target =>
        simp only [List.nil_append, put, at?, NameMap.lookup_place] at h hfile ⊢
        by_cases hstep : name = step
        · subst hstep
          -- what stood there was a file, so nothing stood below it
          cases hc : NameMap.lookup name entries with
          | none => simp [hc] at h
          | some child =>
            rw [hc] at h hfile
            cases child with
            | directory inner => simp [isDirectory] at hfile
            | file old =>
              cases target with
              | nil => simpa [at?, isDirectory] using h
              | cons next target => simp [at?] at h
        · simpa [hstep] using h
  | cons first place ih =>
    intro target kind h
    cases root with
    | file text => simp [at?] at hdirectory
    | directory entries =>
      simp only [at?, List.cons_append] at hdirectory hfile
      cases hc : NameMap.lookup first entries with
      | none => simp [hc] at hdirectory
      | some child =>
        simp only [hc] at hdirectory hfile
        cases target with
        | nil => exact h
        | cons step target =>
          simp only [List.cons_append, put, at?, NameMap.lookup_place, hc, Option.getD_some] at h ⊢
          by_cases hstep : first = step
          · subst hstep
            simp only [hc, if_true] at h ⊢
            exact ih hdirectory hfile target kind h
          · simpa [hstep] using h

theorem StaysIn.isDirectory {root root' : Node} (h : root.StaysIn root') {place : List String}
    (hd : (root.at? place).any (·.isDirectory) = true) :
    (root'.at? place).any (·.isDirectory) = true := by
  have hkind := h place true
  cases hn : root.at? place with
  | none => simp [hn] at hd
  | some n =>
    rw [hn] at hd hkind
    obtain ⟨n', hn', hd'⟩ := Option.map_eq_some_iff.1 (hkind (congrArg some hd))
    rw [hn']
    exact hd'

theorem StaysIn.isSome {root root' : Node} (h : root.StaysIn root') {place : List String}
    (hs : (root.at? place).isSome = true) : (root'.at? place).isSome = true := by
  obtain ⟨n, hn⟩ := Option.isSome_iff_exists.1 hs
  obtain ⟨n', hn', -⟩ := Option.map_eq_some_iff.1 (h place n.isDirectory (by rw [hn]; rfl))
  rw [hn']
  rfl

/-! ## Following steps -/

theorem follow?_append (root : Node) (names : List String) (steps steps' : List Step) :
    root.follow? names (steps ++ steps') =
      (root.follow? names steps).bind (root.follow? · steps') := by
  induction steps generalizing names with
  | nil => rfl
  | cons step steps ih =>
    simp only [List.cons_append, follow?]
    split
    · cases step with
      | stay => exact ih names
      | up => exact ih names.dropLast
      | down name =>
        dsimp only
        split
        · exact ih (names ++ [name])
        · rfl
    · rfl

/-- Steps lead where they led as long as nothing is removed. -/
theorem StaysIn.follow? {root root' : Node} (h : root.StaysIn root') {names place : List String}
    {steps : List Step} (hf : root.follow? names steps = some place) :
    root'.follow? names steps = some place := by
  induction steps generalizing names with
  | nil => exact hf
  | cons step steps ih =>
    unfold Node.follow? at hf ⊢
    split at hf
    · next hd =>
      rw [if_pos (h.isDirectory hd)]
      cases step with
      | stay => exact ih hf
      | up => exact ih hf
      | down name =>
        dsimp only at hf ⊢
        split at hf
        · next hs =>
          rw [if_pos (h.isSome hs)]
          exact ih hf
        · cases hf
    · cases hf

/-! ## Writing an entry -/

section

variable {root root' : Node} {directory name : String} {here : List String}

/-- What the path to an entry leads to. -/
theorem find?_joinPath {place : List String}
    (hf : root.follow? (start directory here) (entrySteps directory) = some place)
    (hd : (root.at? place).any (·.isDirectory) = true) (hname : IsEntryName name) :
    root.find? (joinPath directory name) here =
      (steps? (joinPath directory name)).bind fun _ => root.at? (place ++ [name]) := by
  unfold find?
  rw [start_joinPath directory hname.noSlash]
  cases hs : steps? (joinPath directory name) with
  | none => rfl
  | some steps =>
    rw [steps?_joinPath hname hs]
    show (root.follow? (start directory here) (entrySteps directory ++ [.down name])).bind
      root.at? = _
    rw [follow?_append, hf, Option.bind_some, Option.bind_some, Node.follow?, if_pos hd]
    cases hn : root.at? (place ++ [name]) with
    | none => simp
    | some n => simp [Node.follow?, hn]

/-- What it takes to write an entry. -/
theorem exists_of_writeFile? {text : Option String} (hname : IsEntryName name)
    (h : root.writeFile? (joinPath directory name) text here = some root') :
    ∃ place, root.follow? (start directory here) (entrySteps directory) = some place ∧
      (root.at? place).any (·.isDirectory) = true ∧
      (root.at? (place ++ [name])).any (·.isDirectory) = false ∧
      root' = put (.file text) (place ++ [name]) root := by
  unfold writeFile? at h
  rw [start_joinPath directory hname.noSlash] at h
  cases hs : steps? (joinPath directory name) with
  | none => rw [hs] at h; cases h
  | some steps =>
    rw [hs, steps?_joinPath hname hs] at h
    simp only [Option.bind_eq_bind, Option.bind_some, List.getLast?_concat, List.dropLast_concat,
      Option.bind_eq_some_iff] at h
    obtain ⟨place, hf, h⟩ := h
    split at h
    · next hcond =>
      simp only [Bool.and_eq_true, Bool.not_eq_true'] at hcond
      exact ⟨place, hf, hcond.1.1, hcond.2, (Option.some.inj h).symm⟩
    · cases h

/-- **What a write does to the entries of its directory.** -/
theorem readText?_writeFile? {text : String} (hname : IsEntryName name)
    (h : root.writeFile? (joinPath directory name) (some text) here = some root') {other : String}
    (hother : IsEntryName other) :
    root'.readText? (joinPath directory other) here =
      if name = other then some text else root.readText? (joinPath directory other) here := by
  obtain ⟨place, hf, hd, hfile, rfl⟩ := exists_of_writeFile? hname h
  have hstays : root.StaysIn (put (.file (some text)) (place ++ [name]) root) :=
    staysIn_put hd hfile
  have hsteps : name = other → (steps? (joinPath directory other)).isSome = true := by
    rintro rfl
    cases hs : steps? (joinPath directory name) with
    | some steps => rfl
    | none =>
      unfold writeFile? at h
      rw [hs] at h
      cases h
  unfold readText?
  rw [find?_joinPath (hstays.follow? hf) (hstays.isDirectory hd) hother,
    find?_joinPath hf hd hother, at?_put_entry hd]
  by_cases heq : name = other
  · obtain ⟨steps, hs⟩ := Option.isSome_iff_exists.1 (hsteps heq)
    rw [hs, if_pos heq, if_pos heq, Option.bind_some]
  · rw [if_neg heq, if_neg heq]

end

end Node

end Mapwright.Files
