import Mapwright.Files.Sources
import Mapwright.Proofs.NameMap
import Mapwright.Proofs.Places

/-!
# Scanning a directory

A scan reads the source files below a directory one after the other, in the
order of their places, and ends at the first one that cannot be read.  Places
are compared name by name, and names byte by byte; this is not the order of the
paths that the places are spelled as.

    s < t → nameBytes s < nameBytes t                                     (`nameBytes_lt`)
    the leaves of a tree are its files, each once and in order            (`mem_leaves_iff`, `pairwise_leaves`)
    the path of a place leads to what stands there                        (`readText?_pathAt`)
    g.addDirectory root path here reads them until one fails              (`addDirectory_scans`)
-/

namespace Mapwright

namespace Files

/-! ## The bytes of names -/

/-- The bytes of a name. -/
def nameBytes (name : String) : List UInt8 := name.toByteArray.data.toList

/-- The bytes of the names of a place. -/
def placeBytes (place : List String) : List (List UInt8) := place.map nameBytes

theorem nameBytes_eq (name : String) :
    nameBytes name = name.toList.flatMap String.utf8EncodeChar := by
  rw [nameBytes, ← String.utf8Encode_toList, List.utf8Encode, List.data_toByteArray]

/-- The bytes of a character, and whatever follows them, come before those of a greater one. -/
theorem utf8EncodeChar_append_lt {c d : Char} (h : c < d) (xs ys : List UInt8) :
    String.utf8EncodeChar c ++ xs < String.utf8EncodeChar d ++ ys := by
  have hlt : c.val.toNat < d.val.toNat := h
  have hmax : d.val.toNat < 1114112 := by
    rcases d.valid with hd | hd
    · exact Nat.lt_trans hd (by decide)
    · exact hd.2
  have hbyte : ∀ a b : Nat, a < 256 → b < 256 → (UInt8.ofNat a < UInt8.ofNat b ↔ a < b) := by
    intro a b ha hb
    rw [UInt8.lt_iff_toNat_lt, UInt8.toNat_ofNat_of_lt' ha, UInt8.toNat_ofNat_of_lt' hb]
  have hsame : ∀ a b : Nat, a < 256 → b < 256 → (UInt8.ofNat a = UInt8.ofNat b ↔ a = b) := by
    intro a b ha hb
    rw [← UInt8.toNat_inj, UInt8.toNat_ofNat_of_lt' ha, UInt8.toNat_ofNat_of_lt' hb]
  have hdigits : ∀ n : Nat, n < 1114112 →
      n = n % 64 + 64 * (n / 64 % 64) + 4096 * (n / 4096 % 64) + 262144 * (n / 262144 % 8) := by
    omega
  have hc := hdigits c.val.toNat (Nat.lt_trans hlt hmax)
  have hd := hdigits d.val.toNat hmax
  unfold String.utf8EncodeChar
  dsimp only
  -- the first byte tells how many there are, and the others are digits, the highest one first
  repeat' split
  all_goals
    simp (disch := omega) only [List.cons_append, List.nil_append, List.cons_lt_cons_iff, hbyte,
      hsame]
    omega

theorem utf8EncodeChar_ne_nil (c : Char) : String.utf8EncodeChar c ≠ [] := by
  unfold String.utf8EncodeChar
  dsimp only
  repeat' split
  all_goals exact List.cons_ne_nil _ _

/-- **Names are in the order of their bytes.** -/
theorem nameBytes_lt {s t : String} (h : s < t) : nameBytes s < nameBytes t := by
  rw [nameBytes_eq, nameBytes_eq]
  have hchars : s.toList < t.toList := h
  generalize s.toList = cs at hchars
  generalize t.toList = ds at hchars
  induction cs generalizing ds with
  | nil =>
    cases ds with
    | nil => exact absurd hchars (List.not_lt_nil _)
    | cons d ds =>
      obtain ⟨b, bs, hd⟩ := List.exists_cons_of_ne_nil (utf8EncodeChar_ne_nil d)
      rw [List.flatMap_nil, List.flatMap_cons, hd, List.cons_append]
      exact List.nil_lt_cons _ _
  | cons c cs ih =>
    cases ds with
    | nil => exact absurd hchars (List.not_lt_nil _)
    | cons d ds =>
      rw [List.flatMap_cons, List.flatMap_cons]
      rcases List.cons_lt_cons_iff.1 hchars with hcd | ⟨rfl, hrest⟩
      · exact utf8EncodeChar_append_lt hcd _ _
      · exact List.append_left_lt (ih ds hrest)

/-! ## Trees -/

/-- A name of an entry as a file system stores it. -/
def IsStoredName (name : String) : Prop := IsEntryName name ∧ '\x00' ∉ name.toList

namespace Node

/-- Whether each directory of a tree has its entries in the order of their names. -/
def WellFormed (root : Node) : Prop :=
  ∀ place entries, root.at? place = some (.directory entries) →
    entries.Pairwise (fun a b => a.1 < b.1) ∧ ∀ e ∈ entries, IsStoredName e.1

theorem at?_append (root : Node) (place rest : List String) :
    root.at? (place ++ rest) = (root.at? place).bind (·.at? rest) := by
  induction place generalizing root with
  | nil => rfl
  | cons name place ih =>
    cases root with
    | file text => rfl
    | directory entries =>
      simp only [List.cons_append, at?]
      cases NameMap.lookup name entries with
      | none => rfl
      | some child => exact ih child

theorem at?_cons_directory (entries : List (String × Node)) (name : String) (place : List String) :
    (directory entries).at? (name :: place) =
      (NameMap.lookup name entries).bind (·.at? place) := by
  simp only [at?]
  cases NameMap.lookup name entries <;> rfl

/-- What stands in a well-formed tree is well formed. -/
theorem WellFormed.at? {root n : Node} (h : root.WellFormed) {place : List String}
    (hn : root.at? place = some n) : n.WellFormed := by
  intro rest entries hrest
  apply h (place ++ rest)
  rw [at?_append, hn, Option.bind_some, hrest]

/-- The entries of a well-formed directory, each by its name. -/
theorem WellFormed.lookup_iff {entries : List (String × Node)} (h : (directory entries).WellFormed)
    {name : String} {n : Node} : NameMap.lookup name entries = some n ↔ (name, n) ∈ entries :=
  ⟨NameMap.mem_of_lookup_eq_some, NameMap.lookup_eq_some_of_mem (h [] entries rfl).1⟩

theorem WellFormed.entry {entries : List (String × Node)} (h : (directory entries).WellFormed) :
    ∀ e ∈ entries, e.2.WellFormed := by
  rintro ⟨name, n⟩ he
  have hplace : (directory entries).at? [name] = some n := by
    rw [at?_cons_directory, h.lookup_iff.2 he]
    rfl
  exact h.at? hplace

/-- What has a name at the end of its place is an entry of a directory. -/
theorem WellFormed.isStoredName {root n : Node} (h : root.WellFormed) {place : List String}
    {name : String} (hn : root.at? (place ++ [name]) = some n) :
    (root.at? place).any (·.isDirectory) = true ∧ IsStoredName name := by
  rw [at?_append] at hn
  obtain ⟨parent, hparent, hchild⟩ := Option.bind_eq_some_iff.1 hn
  cases parent with
  | file text => cases hchild
  | directory entries =>
    rw [at?_cons_directory] at hchild
    obtain ⟨child, hlookup, -⟩ := Option.bind_eq_some_iff.1 hchild
    have hmem := (h.at? hparent).lookup_iff.1 hlookup
    rw [hparent]
    exact ⟨rfl, (h place entries hparent).2 _ hmem⟩

theorem wellFormed_file (text : Option String) : (file text).WellFormed := by
  intro place entries h
  cases place with
  | nil => cases h
  | cons name place => cases h

theorem wellFormed_directory {entries : List (String × Node)}
    (hsorted : entries.Pairwise fun a b => a.1 < b.1) (hnames : ∀ e ∈ entries, IsStoredName e.1)
    (h : ∀ e ∈ entries, e.2.WellFormed) : (directory entries).WellFormed := by
  intro place inner hinner
  cases place with
  | nil =>
    cases hinner
    exact ⟨hsorted, hnames⟩
  | cons name place =>
    rw [at?_cons_directory] at hinner
    obtain ⟨child, hlookup, hchild⟩ := Option.bind_eq_some_iff.1 hinner
    exact h _ (NameMap.mem_of_lookup_eq_some hlookup) place inner hchild

/-! ## Leaves -/

mutual

/-- **The leaves of a tree are its files.** -/
theorem mem_leaves_iff : ∀ (n : Node), n.WellFormed → ∀ place text,
    (place, text) ∈ n.leaves ↔ n.at? place = some (.file text)
  | .file t, _, place, text => by
    cases place with
    | nil => simp [leaves, Node.at?, eq_comm]
    | cons name place => simp [leaves, Node.at?]
  | .directory entries, h, place, text => by
    rw [leaves, mem_entryLeaves_iff entries h.entry]
    constructor
    · rintro ⟨name, rest, n, rfl, hmem, hn⟩
      rw [at?_cons_directory, h.lookup_iff.2 hmem]
      exact hn
    · intro hplace
      cases place with
      | nil => cases hplace
      | cons name rest =>
        rw [at?_cons_directory] at hplace
        obtain ⟨n, hlookup, hn⟩ := Option.bind_eq_some_iff.1 hplace
        exact ⟨name, rest, n, rfl, h.lookup_iff.1 hlookup, hn⟩

theorem mem_entryLeaves_iff : ∀ (entries : List (String × Node)), (∀ e ∈ entries, e.2.WellFormed) →
    ∀ place text, (place, text) ∈ entryLeaves entries ↔
      ∃ name rest n, place = name :: rest ∧ (name, n) ∈ entries ∧ n.at? rest = some (.file text)
  | [], _, place, text => by simp [entryLeaves]
  | (name, n) :: entries, h, place, text => by
    obtain ⟨hn, hentries⟩ := List.forall_mem_cons.1 h
    rw [entryLeaves, List.mem_append, mem_entryLeaves_iff entries hentries, List.mem_map]
    constructor
    · rintro (⟨⟨rest, t⟩, hmem, heq⟩ | ⟨name', rest, n', rfl, hmem, hfile⟩)
      · cases heq
        exact ⟨name, rest, n, rfl, List.mem_cons_self, (mem_leaves_iff n hn _ _).1 hmem⟩
      · exact ⟨name', rest, n', rfl, List.mem_cons_of_mem _ hmem, hfile⟩
    · rintro ⟨name', rest, n', rfl, hmem, hfile⟩
      rcases List.mem_cons.1 hmem with heq | hmem
      · cases heq
        exact Or.inl ⟨(rest, text), (mem_leaves_iff n hn _ _).2 hfile, rfl⟩
      · exact Or.inr ⟨name', rest, n', rfl, hmem, hfile⟩

end

mutual

/-- **The leaves of a tree are in the order of their places.** -/
theorem pairwise_leaves : ∀ (n : Node), n.WellFormed →
    n.leaves.Pairwise fun k l => placeBytes k.1 < placeBytes l.1
  | .file _, _ => List.pairwise_singleton _ _
  | .directory entries, h => pairwise_entryLeaves entries (h [] entries rfl).1 h.entry

theorem pairwise_entryLeaves : ∀ (entries : List (String × Node)),
    entries.Pairwise (fun a b => a.1 < b.1) → (∀ e ∈ entries, e.2.WellFormed) →
    (entryLeaves entries).Pairwise fun k l => placeBytes k.1 < placeBytes l.1
  | [], _, _ => List.Pairwise.nil
  | (name, n) :: entries, hsorted, h => by
    obtain ⟨hfirst, hsorted⟩ := List.pairwise_cons.1 hsorted
    obtain ⟨hn, hentries⟩ := List.forall_mem_cons.1 h
    refine List.pairwise_append.2 ⟨?_, pairwise_entryLeaves entries hsorted hentries, ?_⟩
    · -- what is below one entry is compared below it
      refine List.pairwise_map.2 ((pairwise_leaves n hn).imp ?_)
      intro k l hkl
      exact List.cons_lt_cons_iff.2 (Or.inr ⟨rfl, hkl⟩)
    · -- and before anything that is below a later one
      rintro k hk ⟨place, text⟩ hl
      obtain ⟨k', -, rfl⟩ := List.mem_map.1 hk
      obtain ⟨name', rest, n', rfl, hmem, -⟩ := (mem_entryLeaves_iff entries hentries _ _).1 hl
      exact List.cons_lt_cons_iff.2 (Or.inl (nameBytes_lt (hfirst _ hmem)))

end

end Node

/-! ## Paths of places -/

/-- The path of a place below a directory. -/
def pathAt (path : String) (place : List String) : String := place.foldl joinPath path

theorem pathAt_concat (path : String) (place : List String) (name : String) :
    pathAt path (place ++ [name]) = joinPath (pathAt path place) name := by
  rw [pathAt, List.foldl_append]
  rfl

theorem Step.eq_of_ofText {text name : String} (h : Step.ofText text = .down name) :
    text = name := by
  unfold Step.ofText at h
  split at h
  · cases h
  · split at h
    · cases h
    · exact Step.down.inj h

/-- The last name on the path to an entry is that of the entry. -/
theorem lastName_joinPath {directory name : String} (h : IsEntryName name) :
    lastName (joinPath directory name) = name := by
  have hparts : (slashParts (joinPath directory name).toList).map
      (fun part => Step.ofText (String.ofList part)) =
      entrySteps directory ++ [Step.ofText name] := slashParts_joinPath h.noSlash
  have hlast := congrArg List.getLast? hparts
  rw [List.getLast?_concat, List.getLast?_map, h.ofText] at hlast
  obtain ⟨part, hpart, hstep⟩ := Option.map_eq_some_iff.1 hlast
  rw [lastName, hpart, Option.getD_some]
  exact Step.eq_of_ofText hstep

/-- The path to an entry is that of the directory, with at most one slash, and the name. -/
theorem joinPath_eq {directory name : String} (h : IsEntryName name) (hne : directory ≠ "") :
    ∃ slash, (slash = [] ∨ slash = ['/']) ∧
      (joinPath directory name).toList = directory.toList ++ (slash ++ name.toList) := by
  unfold joinPath
  rw [head?_of_no_slash h.noSlash]
  by_cases hlast : directory.toList.getLast? = some '/'
  · exact ⟨[], Or.inl rfl, by simp [hne, hlast, String.toList_append]⟩
  · exact ⟨['/'], Or.inr rfl, by simp [hne, hlast, String.toList_append]⟩

theorem entrySteps_joinPath {directory name : String} (h : IsEntryName name)
    (hne : directory ≠ "") : entrySteps (joinPath directory name) =
      entrySteps directory ++ [Step.down name] := by
  obtain ⟨slash, -, hchars⟩ := joinPath_eq h hne
  obtain ⟨init, c, hname⟩ : ∃ init c, name.toList = init ++ [c] := by
    rcases List.eq_nil_or_concat name.toList with hnil | ⟨init, c, hconcat⟩
    · exact absurd (String.toList_eq_nil_iff.1 hnil) h.ne_empty
    · exact ⟨init, c, hconcat.trans List.concat_eq_append⟩
  have hc : c ≠ '/' := by
    rintro rfl
    exact h.noSlash (hname ▸ List.mem_append_right init List.mem_cons_self)
  have hempty : joinPath directory name ≠ "" := by
    intro heq
    simp [heq, hname] at hchars
  have hlast : ((joinPath directory name).toList.getLast? == some '/') = false := by
    simp [hchars, hname, hc]
  rw [← h.ofText, ← slashParts_joinPath h.noSlash]
  conv_lhs => unfold entrySteps
  dsimp only
  rw [if_neg hempty, hlast, if_neg Bool.false_ne_true]

namespace Node

/-- A path leads to a directory, whose place is the given one. -/
structure LeadsTo (root : Node) (here : List String) (path : String) (names : List String) :
    Prop where
  ne_empty : path ≠ ""
  noNul : '\x00' ∉ path.toList
  follows : root.follow? (start path here) (entrySteps path) = some names
  isDirectory : (root.at? names).any (·.isDirectory) = true

theorem exists_leadsTo {root : Node} {here : List String} {path : String}
    {entries : List (String × Node)} (h : root.find? path here = some (.directory entries)) :
    ∃ names, root.LeadsTo here path names ∧ root.at? names = some (.directory entries) := by
  unfold find? at h
  obtain ⟨steps, hsteps, h⟩ := Option.bind_eq_some_iff.1 h
  obtain ⟨names, hfollow, hnames⟩ := Option.bind_eq_some_iff.1 h
  have hdirectory : (root.at? names).any (·.isDirectory) = true := by
    rw [hnames]
    rfl
  unfold steps? at hsteps
  dsimp only at hsteps
  split at hsteps
  · cases hsteps
  · next hgood =>
    simp only [Bool.or_eq_true, not_or, decide_eq_true_eq] at hgood
    obtain ⟨⟨hempty, hnul⟩, -⟩ := hgood
    have hne : path ≠ "" := by
      rintro rfl
      exact hempty rfl
    refine ⟨names, ⟨hne, by simpa using hnul, ?_, hdirectory⟩, hnames⟩
    rw [← Option.some.inj hsteps] at hfollow
    unfold entrySteps
    dsimp only
    rw [if_neg hne]
    by_cases hlast : path.toList.getLast? = some '/'
    · -- a slash at the end adds a step that stays
      obtain ⟨cs, hcs⟩ := List.getLast?_eq_some_iff.1 hlast
      have hparts : slashParts path.toList = slashParts cs ++ [[]] := by
        rw [hcs]
        exact slashParts_append_slash cs []
      have hstay : Step.ofText (String.ofList []) = .stay := rfl
      rw [hparts, List.map_append, List.map_singleton, hstay, follow?_append] at hfollow
      obtain ⟨names', hfollow, hlaststep⟩ := Option.bind_eq_some_iff.1 hfollow
      have hnames' : names' = names := by
        unfold follow? at hlaststep
        split at hlaststep
        · exact Option.some.inj hlaststep
        · cases hlaststep
      rw [hlast, beq_self_eq_true, if_pos rfl, hparts, List.dropLast_concat, hfollow, hnames']
    · rw [beq_false_of_ne hlast, if_neg Bool.false_ne_true]
      exact hfollow

section

variable {root : Node} {here : List String} {path : String} {names : List String}

theorem LeadsTo.joinPath_chars (h : root.LeadsTo here path names) {name : String}
    (hname : IsStoredName name) :
    (joinPath path name).toList ≠ [] ∧ '\x00' ∉ (joinPath path name).toList := by
  obtain ⟨slash, hslash, hchars⟩ := joinPath_eq hname.1 h.ne_empty
  obtain ⟨c, cs, hpath⟩ :=
    List.exists_cons_of_ne_nil (mt String.toList_eq_nil_iff.1 h.ne_empty)
  constructor
  · rw [hchars, hpath]
    exact List.cons_ne_nil _ _
  · rw [hchars, List.mem_append, List.mem_append]
    rintro (hnul | hnul | hnul)
    · exact h.noNul hnul
    · rcases hslash with rfl | rfl <;> simp at hnul
    · exact hname.2 hnul

/-- The path to a directory in a directory leads there. -/
theorem LeadsTo.join (h : root.LeadsTo here path names) {name : String} (hname : IsStoredName name)
    (hdirectory : (root.at? (names ++ [name])).any (·.isDirectory) = true) :
    root.LeadsTo here (joinPath path name) (names ++ [name]) := by
  obtain ⟨hempty, hnul⟩ := h.joinPath_chars hname
  refine ⟨?_, hnul, ?_, hdirectory⟩
  · rintro heq
    exact hempty (by rw [heq]; rfl)
  · rw [start_joinPath path hname.1.noSlash, entrySteps_joinPath hname.1 h.ne_empty, follow?_append,
      h.follows, Option.bind_some, follow?, if_pos h.isDirectory]
    have hsome : (root.at? (names ++ [name])).isSome = true := by
      cases hn : root.at? (names ++ [name]) with
      | none => rw [hn] at hdirectory; cases hdirectory
      | some n => rfl
    exact if_pos hsome

/-- A path has steps unless it is too long. -/
theorem LeadsTo.steps?_isSome (h : root.LeadsTo here path names) {name : String}
    (hname : IsStoredName name)
    (hsize : (joinPath path name).utf8ByteSize ≤ maxPathSize) :
    (steps? (joinPath path name)).isSome = true := by
  obtain ⟨hempty, hnul⟩ := h.joinPath_chars hname
  have hlong : decide (maxPathSize < (joinPath path name).utf8ByteSize) = false :=
    decide_eq_false_iff_not.2 (Nat.not_lt.2 hsize)
  unfold steps?
  dsimp only
  rw [List.isEmpty_eq_false_iff.2 hempty, List.contains_eq_mem, decide_eq_false hnul, hlong]
  rfl

/-- **The path of a place leads to the file that stands there.** -/
theorem readText?_pathAt (hroot : root.WellFormed) (h : root.LeadsTo here path names)
    {place : List String} {text : Option String} (hne : place ≠ [])
    (hfile : root.at? (names ++ place) = some (.file text))
    (hsize : (pathAt path place).utf8ByteSize ≤ maxPathSize) :
    root.readText? (pathAt path place) here = text := by
  induction place generalizing path names with
  | nil => exact absurd rfl hne
  | cons name place ih =>
    have hsplit : names ++ name :: place = (names ++ [name]) ++ place := by simp
    by_cases hlast : place = []
    · subst hlast
      obtain ⟨hdirectory, hname⟩ := hroot.isStoredName hfile
      obtain ⟨steps, hsteps⟩ := Option.isSome_iff_exists.1 (h.steps?_isSome hname hsize)
      have hfind : root.find? (joinPath path name) here = some (.file text) := by
        rw [find?_joinPath h.follows hdirectory hname.1, hsteps, Option.bind_some, hfile]
      show root.readText? (joinPath path name) here = text
      rw [readText?, hfind]
    · rw [hsplit] at hfile
      -- what stands before the last name of the place is a directory
      obtain ⟨next, rest, rfl⟩ := List.exists_cons_of_ne_nil hlast
      obtain ⟨child, hchild, hbelow⟩ := Option.bind_eq_some_iff.1 (at?_append root _ _ ▸ hfile)
      have hdirectory : (root.at? (names ++ [name])).any (·.isDirectory) = true := by
        rw [hchild]
        cases child with
        | file text => cases hbelow
        | directory entries => rfl
      exact ih (h.join (hroot.isStoredName hchild).2 hdirectory) hlast hfile hsize

end

end Node

end Files

open Files

/-! ## Sources -/

/-- A name has the extension of sources if this and a dot stand behind something else. -/
theorem isSourceName_iff (name : String) :
    isSourceName name = true ↔ ∃ stem, stem ≠ "" ∧ name = stem ++ ".rs" := by
  have hending : ".rs".toList = ['.', 'r', 's'] := rfl
  unfold isSourceName
  rw [Bool.and_eq_true, List.isSuffixOf_iff_suffix, bne_iff_ne]
  constructor
  · rintro ⟨⟨stem, hstem⟩, hne⟩
    refine ⟨String.ofList stem, ?_, ?_⟩
    · intro hempty
      have hnil : stem = [] := by
        rw [← String.toList_ofList (l := stem), hempty]
        rfl
      rw [hnil] at hstem
      exact hne hstem.symm
    · rw [← String.toList_inj, String.toList_append, String.toList_ofList, hending, hstem]
  · rintro ⟨stem, hne, rfl⟩
    rw [String.toList_append, hending]
    refine ⟨List.suffix_append _ _, fun heq => hne ?_⟩
    exact String.toList_eq_nil_iff.1 (List.append_left_eq_self.1 heq)

/-- A place that ends in the name of a source. -/
def IsSourcePlace (place : List String) : Prop :=
  ∃ init stem, stem ≠ "" ∧ place = init ++ [stem ++ ".rs"]

/-- The places of the sources below a directory, in the order in which they are read. -/
def sourcePlaces (path : String) (n : Node) : List (List String) :=
  (n.leaves.map (·.1)).filter fun place => isSourceName (lastName (pathAt path place))

theorem sourcePaths?_eq {root n : Node} {path : String} {here : List String}
    (h : root.find? path here = some n) :
    sourcePaths? root path here = some ((sourcePlaces path n).map (pathAt path)) := by
  have hpaths : (n.leaves.map fun l => l.1.foldl joinPath path) =
      (n.leaves.map (·.1)).map (pathAt path) := by
    rw [List.map_map]
    exact List.map_congr_left fun l _ => rfl
  rw [sourcePaths?, h, Option.map_some, hpaths, List.filter_map, sourcePlaces, Function.comp_def]

/-- **The places of the sources below a directory are those of files with their extension.** -/
theorem mem_sourcePlaces_iff {entries : List (String × Node)}
    (h : (Node.directory entries).WellFormed) (path : String) (place : List String) :
    place ∈ sourcePlaces path (.directory entries) ↔ IsSourcePlace place ∧
      ∃ text, (Node.directory entries).at? place = some (.file text) := by
  have hleaf : place ∈ (Node.directory entries).leaves.map (·.1) ↔
      ∃ text, (Node.directory entries).at? place = some (.file text) := by
    simp only [List.mem_map, Prod.exists, exists_and_right, exists_eq_right,
      Node.mem_leaves_iff _ h]
  rw [sourcePlaces, List.mem_filter, hleaf, and_comm]
  refine and_congr_left ?_
  rintro ⟨text, hfile⟩
  rcases List.eq_nil_or_concat place with rfl | ⟨init, name, rfl⟩
  · cases hfile
  · rw [List.concat_eq_append] at hfile ⊢
    have hname := (h.isStoredName hfile).2
    rw [pathAt_concat, lastName_joinPath hname.1, isSourceName_iff]
    constructor
    · rintro ⟨stem, hstem, rfl⟩
      exact ⟨init, stem, hstem, rfl⟩
    · rintro ⟨init', stem, hstem, heq⟩
      exact ⟨stem, hstem, List.singleton_inj.1 (List.append_inj' heq rfl).2⟩

theorem pairwise_sourcePlaces {n : Node} (h : n.WellFormed) (path : String) :
    (sourcePlaces path n).Pairwise fun p q => placeBytes p < placeBytes q :=
  List.Pairwise.filter _ (List.pairwise_map.2 (Node.pairwise_leaves n h))

namespace Generator

/-- What is wrong with a file that cannot be read: its bytes are no text, or the text does not
parse. -/
inductive Unreadable (root : Node) (here : List String) (path : String) : Failure → Prop
  | noText : root.readText? path here = none → Unreadable root here path (.io path)
  | malformed {text : String} : root.readText? path here = some text →
    Source.items? text = none → Unreadable root here path (.parse path)

/-- Reading files one after the other: all of them are read, or those before the first one that
cannot be read. -/
inductive Scans (root : Node) (here : List String) (g : Generator) (paths : List String) :
    Generator × Option Failure → Prop
  | completed {g' : Generator} :
    paths.foldlM (fun g path => g.addFile root path here) g = .ok g' →
    Scans root here g paths (g', none)
  | stopped (before after : List String) {path : String} {g' : Generator} {e : Failure} :
    paths = before ++ path :: after →
    before.foldlM (fun g path => g.addFile root path here) g = .ok g' →
    g'.addFile root path here = .error e → Unreadable root here path e →
    Scans root here g paths (g', some e)

theorem unreadable_of_addFile {g : Generator} {root : Node} {here : List String} {path : String}
    {e : Failure} (h : g.addFile root path here = .error e) : Unreadable root here path e := by
  unfold addFile at h
  cases htext : root.readText? path here with
  | none =>
    rw [htext] at h
    cases h
    exact .noText htext
  | some text =>
    rw [htext] at h
    dsimp only at h
    unfold addSource Source.declarations? at h
    cases hitems : Source.items? text with
    | none =>
      rw [hitems] at h
      cases h
      exact .malformed htext hitems
    | some items =>
      rw [hitems] at h
      cases h

theorem addFiles_scans (g : Generator) (root : Node) (here paths : List String) :
    Scans root here g paths (g.addFiles root here paths) := by
  induction paths generalizing g with
  | nil => exact .completed rfl
  | cons path paths ih =>
    unfold addFiles
    cases hfile : g.addFile root path here with
    | error e => exact .stopped [] paths rfl rfl hfile (unreadable_of_addFile hfile)
    | ok g' =>
      dsimp only
      have hfirst : ∀ rest : List String,
          (path :: rest).foldlM (fun g path => g.addFile root path here) g =
            rest.foldlM (fun g path => g.addFile root path here) g' := by
        intro rest
        rw [List.foldlM_cons, hfile]
        rfl
      have hrest := ih g'
      generalize g'.addFiles root here paths = result at hrest ⊢
      cases hrest with
      | completed hfold => exact .completed ((hfirst paths).trans hfold)
      | stopped before after heq hfold herror hunreadable =>
        refine .stopped (path :: before) after ?_ ((hfirst before).trans hfold) herror hunreadable
        rw [heq, List.cons_append]

/-- **A scan of a directory**, with any working directory.  If nothing is there, nothing changes.
Otherwise the places of the sources below it are read, each once, in the order of the bytes of their
names, up to the first one that cannot be read; the path of each place reads the file that stands
there. -/
theorem addDirectory_scans (g : Generator) (root : Node) (here : List String) (path : String)
    (hroot : root.WellFormed) :
    (root.find? path here = none → g.addDirectory root path here = (g, some (.io path))) ∧
    ∀ entries, root.find? path here = some (.directory entries) →
      ∃ places : List (List String),
        places.Pairwise (fun p q => placeBytes p < placeBytes q) ∧
        (∀ place, place ∈ places ↔ IsSourcePlace place ∧
          ∃ text, (Node.directory entries).at? place = some (.file text)) ∧
        (∀ place ∈ places, (pathAt path place).utf8ByteSize ≤ maxPathSize → ∀ text,
          (Node.directory entries).at? place = some (.file text) →
            root.readText? (pathAt path place) here = text) ∧
        Scans root here g (places.map (pathAt path)) (g.addDirectory root path here) := by
  refine ⟨fun hnone => ?_, fun entries hfind => ?_⟩
  · rw [addDirectory, sourcePaths?, hnone]
    rfl
  · obtain ⟨names, hleads, hnames⟩ := Node.exists_leadsTo hfind
    have hentries : (Node.directory entries).WellFormed := hroot.at? hnames
    refine ⟨sourcePlaces path (.directory entries), pairwise_sourcePlaces hentries path,
      mem_sourcePlaces_iff hentries path, ?_, ?_⟩
    · intro place hplace hsize text hfile
      have hne : place ≠ [] := by
        rintro rfl
        cases hfile
      refine Node.readText?_pathAt hroot hleads hne ?_ hsize
      rw [Node.at?_append, hnames]
      exact hfile
    · rw [addDirectory, sourcePaths?_eq hfind]
      exact addFiles_scans g root here _

/-- A directory in which the order of places is not that of their paths, `src/a-b.rs` being less
than `src/a/z.rs`, and one of whose files is no text.  Beside it is an empty one. -/
def projectTree : Node := .directory [("bin", .directory []), ("src", .directory [
  ("a", .directory [("z.rs", .file (some "pub struct Deep { pub x: u8 }"))]),
  ("a-b.rs", .file (some "pub struct Flat { pub x: u8 }")),
  ("b.rs", .file none),
  ("c.rs", .file (some "pub struct Late { pub x: u8 }")),
  ("notes.txt", .file (some "no source"))])]

theorem wellFormed_projectTree : projectTree.WellFormed := by
  have hname : ∀ name ∈ ["bin", "src", "a", "z.rs", "a-b.rs", "b.rs", "c.rs", "notes.txt"],
      IsStoredName name := by
    have hchecked : ∀ name ∈ ["bin", "src", "a", "z.rs", "a-b.rs", "b.rs", "c.rs", "notes.txt"],
        ('/' ∉ name.toList ∧ name ≠ "" ∧ name ≠ "." ∧ name ≠ "..") ∧ '\x00' ∉ name.toList := by
      decide +kernel
    intro name hmem
    obtain ⟨⟨hslash, hempty, hdot, hdots⟩, hnul⟩ := hchecked name hmem
    exact ⟨⟨hslash, hempty, hdot, hdots⟩, hnul⟩
  have hfile := Node.wellFormed_file
  refine Node.wellFormed_directory (by decide +kernel) (by simp [hname]) ?_
  simp only [List.forall_mem_cons]
  refine ⟨Node.wellFormed_directory List.Pairwise.nil (by simp) (by simp), ?_, by simp⟩
  refine Node.wellFormed_directory (by decide +kernel) (by simp [hname]) ?_
  simp only [List.forall_mem_cons]
  refine ⟨?_, hfile _, hfile _, hfile _, hfile _, by simp⟩
  exact Node.wellFormed_directory (by decide +kernel) (by simp [hname]) (by simp [hfile])

/-- From the directory `bin`, a scan of `../src` and one of `/src` read the files before the one that
is no text, end there, and do not read the one after it. -/
theorem addDirectory_scans_project :
    (new.addDirectory projectTree "../src" ["bin"]).2 = some (.io "../src/b.rs") ∧
      (new.addDirectory projectTree "../src" ["bin"]).1.registry.types.entries.map (·.1) =
        ["Deep", "Flat"] ∧
      (new.addDirectory projectTree "/src" ["bin"]).2 = some (.io "/src/b.rs") ∧
      ∃ entries, projectTree.find? "/src" ["bin"] = some (.directory entries) ∧
        ∃ places : List (List String), places.Pairwise (fun p q => placeBytes p < placeBytes q) ∧
          (∀ place, place ∈ places ↔ IsSourcePlace place ∧
            ∃ text, (Node.directory entries).at? place = some (.file text)) ∧
          Scans projectTree ["bin"] new (places.map (pathAt "/src"))
            (new.addDirectory projectTree "/src" ["bin"]) := by
  have hdirectory : (projectTree.find? "/src" ["bin"]).any (·.isDirectory) = true := by
    decide +kernel
  obtain ⟨n, hfind, hn⟩ := (Option.any_eq_true _ _).1 hdirectory
  cases n with
  | file text => cases hn
  | directory entries =>
    obtain ⟨places, hsorted, hplaces, -, hscans⟩ :=
      (addDirectory_scans new projectTree ["bin"] "/src" wellFormed_projectTree).2 entries hfind
    exact ⟨by decide +kernel, by decide +kernel, by decide +kernel, entries, hfind, places, hsorted,
      hplaces, hscans⟩

end Generator

end Mapwright
