import Mathlib.Data.List.Nodup
import Mapwright.Files.Output
import Mapwright.Proofs.Casing
import Mapwright.Proofs.History
import Mapwright.Proofs.Meaning
import Mapwright.Proofs.Places

/-!
# What is written to a directory

Files are written one after the other, so that what an entry of the directory
holds in the end is what was written last under its name.  Units of different
names have one file if their names have one snake case, and then the file holds
the code of the last of them.  Names in plain camel case do not meet.

    an entry after writeFiles = the last text written to it, or what it held      (`readText?_writeFiles`)
    an entry after a report = the last unit that has this file, or what it held   (`readText?_writeToDirectory`)
    each unit is in its file ↔ units that have one file have one code             (`units_of_writeToDirectory`)
-/

namespace Mapwright

open Files Code

/-! ## Names of files -/

/-- The file of a unit is an entry of the directory it is written to. -/
theorem GeneratedUnit.isEntryName_fileName {u : GeneratedUnit} (h : IsName u.unit) :
    IsEntryName u.fileName := by
  have hchars : u.fileName.toList = (Text.snakeCase u.unit).toList ++ ['.', 'r', 's'] :=
    String.toList_append
  have hlength : 3 ≤ u.fileName.toList.length := by
    rw [hchars, List.length_append]
    exact Nat.le_add_left _ _
  refine ⟨?_, ?_, ?_, ?_⟩
  · rw [hchars, List.mem_append, not_or]
    exact ⟨Text.slash_not_mem_snakeCase h.no_slash, by decide⟩
  all_goals
    intro hname
    rw [hname] at hlength
    exact absurd hlength (by decide)

/-! ## Writing files -/

section

-- unfolded, it would count up to the size of the longest path
attribute [local irreducible] Node.writeFile?

theorem writeFiles_cons (directory : String) (here : List String) (root : Node)
    (f : String × String) (files : List (String × String)) :
    writeFiles directory here root (f :: files) =
      match root.writeFile? (joinPath directory f.1) (some f.2) here with
      | some root' => writeFiles directory here root' files
      | none => (root, some (.io (joinPath directory f.1))) := rfl

end

/-- **What the entries of a directory hold after files were written to it.** -/
theorem readText?_writeFiles {directory : String} {here : List String} {root root' : Node}
    {files : List (String × String)} (hnames : ∀ f ∈ files, IsEntryName f.1)
    (h : writeFiles directory here root files = (root', none)) {name : String}
    (hname : IsEntryName name) :
    root'.readText? (joinPath directory name) here =
      ((files.findRev? (·.1 == name)).map (·.2)).or
        (root.readText? (joinPath directory name) here) := by
  induction files generalizing root with
  | nil =>
    obtain ⟨rfl, -⟩ := Prod.mk.inj h
    rfl
  | cons f files ih =>
    rw [writeFiles_cons] at h
    cases hwrite : root.writeFile? (joinPath directory f.1) (some f.2) here with
    | none => simp [hwrite] at h
    | some root₁ =>
      rw [hwrite] at h
      have hfirst := Node.readText?_writeFile? (hnames f List.mem_cons_self) hwrite hname
      rw [ih (fun f hf => hnames f (List.mem_cons_of_mem _ hf)) h, hfirst,
        ← List.singleton_append, findRev?_append]
      cases files.findRev? (·.1 == name) with
      | some f => rfl
      | none =>
        by_cases heq : f.1 = name
        · simp [List.findRev?, heq]
        · simp [List.findRev?, heq]

/-! ## Writing a report -/

namespace Report

/-- The last unit whose code goes into a file. -/
def lastUnit? (r : Report) (name : String) : Option GeneratedUnit :=
  r.units.findRev? (·.fileName == name)

theorem map_findRev?_files (r : Report) (name : String) :
    (r.files.findRev? (·.1 == name)).map (·.2) =
      (r.lastUnit? name).map fun u => r.header ++ u.code := by
  rw [files, findRev?_map, Option.map_map]
  rfl

/-- The file of a unit has a last unit. -/
theorem exists_lastUnit? {r : Report} {u : GeneratedUnit} (hu : u ∈ r.units) :
    ∃ v ∈ r.units, v.fileName = u.fileName ∧ r.lastUnit? u.fileName = some v := by
  cases hv : r.lastUnit? u.fileName with
  | none =>
    have hnone := findRev?_eq_none_iff.1 hv u hu
    rw [beq_self_eq_true] at hnone
    cases hnone
  | some v =>
    have hfile : (v.fileName == u.fileName) = true :=
      prop_of_findRev? (p := fun v : GeneratedUnit => v.fileName == u.fileName) hv
    exact ⟨v, mem_of_findRev? hv, eq_of_beq hfile, rfl⟩

/-- Names in plain camel case do not meet in a file. -/
theorem unit_eq_of_fileName_eq {u v : GeneratedUnit} (hu : Text.IsPlainCamel u.unit)
    (hv : Text.IsPlainCamel v.unit) (h : u.fileName = v.fileName) : u.unit = v.unit := by
  refine Text.snakeCase_inj hu hv (String.toList_inj.1 ?_)
  have hchars := congrArg String.toList h
  simp only [GeneratedUnit.fileName, String.toList_append] at hchars
  exact List.append_cancel_right hchars

section

variable {r : Report} {root root' : Node} {directory : String} {here : List String}

/-- **What the entries of a directory hold after a report was written to it.** -/
theorem readText?_writeToDirectory (hnames : ∀ u ∈ r.units, IsName u.unit)
    (h : r.writeToDirectory root directory here = (root', none)) {name : String}
    (hname : IsEntryName name) :
    root'.readText? (joinPath directory name) here =
      ((r.lastUnit? name).map fun u => r.header ++ u.code).or
        ((root.makeDirectory directory here).1.readText? (joinPath directory name) here) := by
  have hfiles : ∀ f ∈ r.files, IsEntryName f.1 := by
    intro f hf
    obtain ⟨u, hu, rfl⟩ := List.mem_map.1 hf
    exact u.isEntryName_fileName (hnames u hu)
  unfold writeToDirectory at h
  cases hmake : root.makeDirectory directory here with
  | mk root₁ made =>
    rw [hmake] at h
    cases made with
    | false => cases h
    | true => rw [readText?_writeFiles hfiles h hname, map_findRev?_files]

/-- What the file of a unit holds is the code of its last unit. -/
theorem readText?_fileName (hnames : ∀ u ∈ r.units, IsName u.unit)
    (h : r.writeToDirectory root directory here = (root', none)) {u v : GeneratedUnit}
    (hu : u ∈ r.units) (hv : r.lastUnit? u.fileName = some v) :
    root'.readText? (joinPath directory u.fileName) here = some (r.header ++ v.code) := by
  rw [readText?_writeToDirectory hnames h (u.isEntryName_fileName (hnames u hu)), hv]
  rfl

/-- Two units that are both found in one file have one code. -/
theorem code_eq_of_readText? (hall : ∀ u ∈ r.units,
      root'.readText? (joinPath directory u.fileName) here = some (r.header ++ u.code))
    {u v : GeneratedUnit} (hu : u ∈ r.units) (hv : v ∈ r.units) (hfile : u.fileName = v.fileName) :
    u.code = v.code := by
  have hboth : some (r.header ++ u.code) = some (r.header ++ v.code) := by
    rw [← hall u hu, ← hall v hv, hfile]
  exact (String.append_right_inj _).1 (Option.some.inj hboth)

end

/-- **What is there after a report was written.**  An entry of the directory holds the code of the
last unit that has this file, under the header, or what it held before if there is no such unit.  So
each unit is in its file if and only if units that have one file have one code, which is so for
different names in plain camel case; their files are different, too. -/
theorem units_of_writeToDirectory (r : Report) (root root' : Node) (directory : String)
    (here : List String) (hnames : ∀ u ∈ r.units, IsName u.unit)
    (h : r.writeToDirectory root directory here = (root', none)) :
    (∀ name, IsEntryName name →
      root'.readText? (joinPath directory name) here =
        ((r.lastUnit? name).map fun u => r.header ++ u.code).or
          ((root.makeDirectory directory here).1.readText? (joinPath directory name) here)) ∧
    ((∀ u ∈ r.units,
        root'.readText? (joinPath directory u.fileName) here = some (r.header ++ u.code)) ↔
      ∀ u ∈ r.units, ∀ v ∈ r.units, u.fileName = v.fileName → u.code = v.code) ∧
    ((r.units.map (·.unit)).Nodup → (∀ u ∈ r.units, Text.IsPlainCamel u.unit) →
      (r.units.map (·.fileName)).Nodup ∧ ∀ u ∈ r.units,
        root'.readText? (joinPath directory u.fileName) here = some (r.header ++ u.code)) := by
  have hiff : (∀ u ∈ r.units,
        root'.readText? (joinPath directory u.fileName) here = some (r.header ++ u.code)) ↔
      ∀ u ∈ r.units, ∀ v ∈ r.units, u.fileName = v.fileName → u.code = v.code := by
    constructor
    · intro hall u hu v hv hfile
      exact code_eq_of_readText? hall hu hv hfile
    · intro hcodes u hu
      obtain ⟨v, hv, hfile, hlast⟩ := exists_lastUnit? hu
      rw [readText?_fileName hnames h hu hlast, hcodes v hv u hu hfile]
  refine ⟨fun name hname => readText?_writeToDirectory hnames h hname, hiff, ?_⟩
  intro hnodup hplain
  have hsame : ∀ u ∈ r.units, ∀ v ∈ r.units, u.fileName = v.fileName → u = v := by
    intro u hu v hv hfile
    exact List.inj_on_of_nodup_map hnodup hu hv
      (unit_eq_of_fileName_eq (hplain u hu) (hplain v hv) hfile)
  refine ⟨List.Nodup.map_on hsame hnodup.of_map, hiff.2 ?_⟩
  intro u hu v hv hfile
  rw [hsame u hu v hv hfile]

/-- Two mappers whose names have one snake case. -/
def packetActions : List Action := [
  .registerType (.record "Packet" "packet.rs" [⟨"size", .named "u32"⟩]),
  .registerType (.record "Frame" "frame.rs" [⟨"size", .named "u32"⟩]),
  .addUnit ⟨"IOMapper", "output.rs", "pub", false, none, none,
    [⟨"frame", some .ref, [⟨"packet", .named "Packet"⟩], some (.named "Frame"), .required⟩]⟩,
  .addUnit ⟨"IoMapper", "input.rs", "pub", false, none, none,
    [⟨"packet", some .ref, [⟨"frame", .named "Frame"⟩], some (.named "Packet"), .required⟩]⟩]

def packetReport : Report := (Generator.after packetActions).run.toOption.getD ⟨"", [], []⟩

/-- A directory with a file in it. -/
def packetRoot : Node := .directory [("out", .directory [("index.rs", .file (some "pub mod io;"))])]

theorem isName_packets : ∀ u ∈ packetReport.units, IsName u.unit := by decide +kernel

theorem written_packets :
    ∃ root', packetReport.writeToDirectory packetRoot "out" = (root', none) := by
  have hnone : (packetReport.writeToDirectory packetRoot "out").2 = none := by decide +kernel
  generalize packetReport.writeToDirectory packetRoot "out" = written at hnone
  exact ⟨written.1, Prod.ext rfl hnone⟩

/-- Of two mappers with one file, the last one is in it; what else is there stays. -/
theorem units_of_writeToDirectory_packets :
    ∃ root', packetReport.writeToDirectory packetRoot "out" = (root', none) ∧
      root'.readText? (joinPath "out" "io_mapper.rs") =
        (packetReport.unit? "IoMapper").map (fun u => packetReport.header ++ u.code) ∧
      root'.readText? (joinPath "out" "index.rs") = some "pub mod io;" := by
  obtain ⟨root', h⟩ := written_packets
  have hwritten := (units_of_writeToDirectory _ _ root' _ [] isName_packets h).1
  refine ⟨root', h, ?_, ?_⟩
  · rw [hwritten "io_mapper.rs" ⟨by decide, by decide, by decide, by decide⟩]
    decide +kernel
  · rw [hwritten "index.rs" ⟨by decide, by decide, by decide, by decide⟩]
    decide +kernel

/-- A unit is lost if its file is that of another one as well. -/
theorem not_forall_readText?_fileName :
    ¬ ∀ (actions : List Action) (report : Report) (root root' : Node) (directory : String),
      (Generator.after actions).run = .ok report →
      (report.units.map (·.unit)).Nodup → (∀ u ∈ report.units, IsName u.unit) →
      report.writeToDirectory root directory = (root', none) →
      ∀ u ∈ report.units,
        root'.readText? (joinPath directory u.fileName) = some (report.header ++ u.code) := by
  intro hclaim
  obtain ⟨root', h⟩ := written_packets
  have hrun : (Generator.after packetActions).run = .ok packetReport := by decide +kernel
  have hall := hclaim packetActions packetReport packetRoot root' "out" hrun (by decide +kernel)
    isName_packets h
  have hcodes : ¬ ∀ u ∈ packetReport.units, ∀ v ∈ packetReport.units,
      u.fileName = v.fileName → u.code = v.code := by decide +kernel
  refine hcodes fun u hu v hv hfile => ?_
  exact code_eq_of_readText? hall hu hv hfile

end Report

end Mapwright
