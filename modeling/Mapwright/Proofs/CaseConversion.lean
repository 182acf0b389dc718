import Mapwright.Proofs.Casing

/-!
# Case conversion

Of a text in ASCII, such as an identifier, both conversions keep the letters
but for their case.  Snake case makes all of them small and puts an underscore
where a word begins inside the text; camel case drops the underscores, and each
part between them begins with a capital.

    snakeCase name = the letters of name, small, with an underscore where a word begins   (`toList_snakeCase`)
    camelCase name = the parts of name between underscores, each with a capital           (`toList_camelCase`)

Neither conversion does anything to what it gave.
-/

namespace Mapwright.Text

/-! ## ASCII -/

/-- A text in ASCII. -/
def IsAscii (cs : List Char) : Prop := ∀ c ∈ cs, c.toNat < 0x80

instance (cs : List Char) : Decidable (IsAscii cs) := List.decidableBAll _ cs

theorem toList_toLower (name : String) : name.toLower.toList = name.toList.map Char.toLower :=
  String.toList_map

theorem toLower_of_isUpper_eq_false {c : Char} (h : c.isUpper = false) : c.toLower = c := by
  unfold Char.toLower
  exact dif_neg fun hrange => Bool.false_ne_true (h.symm.trans (decide_eq_true hrange))

theorem toUpper_ne_underscore {c : Char} (h : c.toNat < 0x80) (hc : c ≠ '_') : c.toUpper ≠ '_' :=
  ascii_forall (P := fun c => c ≠ '_' → c.toUpper ≠ '_') (by decide) c h hc

theorem isUpperCase_toLower {c : Char} (h : c.toNat < 0x80) : isUpperCase c.toLower = false :=
  ascii_forall (P := fun c => isUpperCase c.toLower = false) (by decide) c h

theorem upperCase_toUpper {c : Char} (h : c.toNat < 0x80) : upperCase c.toUpper = [c.toUpper] :=
  ascii_forall (P := fun c => upperCase c.toUpper = [c.toUpper]) (by decide) c h

/-- A text without its underscores. -/
def withoutUnderscores (cs : List Char) : List Char := cs.filter (· ≠ '_')

theorem withoutUnderscores_append (cs ds : List Char) :
    withoutUnderscores (cs ++ ds) = withoutUnderscores cs ++ withoutUnderscores ds :=
  List.filter_append cs ds

/-! ## Where words begin -/

/-- A word begins inside a text at a capital after a small letter or a digit, and at a capital
between another one and a small letter. -/
def WordBegins (cs : List Char) : Nat → Prop
  | 0 => False
  | i + 1 => cs[i + 1]?.any Char.isUpper = true ∧
      (cs[i]?.any (fun p => p.isLower || p.isDigit) = true ∨
        cs[i]?.any Char.isUpper = true ∧ cs[i + 2]?.any Char.isLower = true)

instance (cs : List Char) : DecidablePred (WordBegins cs)
  | 0 => inferInstanceAs (Decidable False)
  | _ + 1 => inferInstanceAs (Decidable (_ = true ∧ (_ = true ∨ _ = true ∧ _ = true)))

/-- No word begins at the start, and none next to an underscore. -/
theorem WordBegins.apart {cs : List Char} {i : Nat} (h : WordBegins cs i) :
    0 < i ∧ cs[i - 1]? ≠ some '_' ∧ cs[i]? ≠ some '_' := by
  cases i with
  | zero => cases h
  | succ i =>
    obtain ⟨hupper, hbefore⟩ := h
    refine ⟨Nat.succ_pos i, fun hunderscore => ?_, fun hunderscore => ?_⟩
    · rw [Nat.add_sub_cancel] at hunderscore
      rw [hunderscore] at hbefore
      rcases hbefore with hsmall | ⟨hcapital, -⟩
      · exact absurd hsmall (by decide)
      · exact absurd hcapital (by decide)
    · rw [hunderscore] at hupper
      exact absurd hupper (by decide)

/-- The conversion tells where a word begins by what it has come to, the last character before it,
and the next one after it. -/
theorem wordBegins_length_iff {done rest : List Char} {c : Char}
    (h : IsAscii (done ++ c :: rest)) :
    WordBegins (done ++ c :: rest) done.length ↔
      c.isUpper = true ∧ beginsWord done.getLast? rest.head? = true := by
  obtain ⟨hdone, hrest⟩ := List.forall_mem_append.1 h
  rcases List.eq_nil_or_concat' done with rfl | ⟨before, p, rfl⟩
  · simp [WordBegins, beginsWord]
  · have hp : p.toNat < 0x80 := hdone p (by simp)
    have hat : (before ++ [p] ++ c :: rest)[before.length]? = some p := by simp
    have hnext : (before ++ [p] ++ c :: rest)[before.length + 1]? = some c := by simp
    have hafter : (before ++ [p] ++ c :: rest)[before.length + 2]? = rest.head? := by
      rw [List.append_assoc, List.getElem?_append_right (Nat.le_add_right _ 2),
        Nat.add_sub_cancel_left, List.head?_eq_getElem?]
      rfl
    rw [List.length_append, List.length_singleton, List.getLast?_concat, WordBegins, hat, hnext,
      hafter]
    cases rest with
    | nil => simp [beginsWord, isLowerCase_of_ascii hp, isUpperCase_of_ascii hp]
    | cons n rest =>
      have hn : n.toNat < 0x80 := hrest n (by simp)
      simp [beginsWord, isLowerCase_of_ascii hp, isUpperCase_of_ascii hp, isLowerCase_of_ascii hn,
        or_assoc]

/-! ## Snake case -/

/-- A character and its place: at one of the places an underscore comes before the character. -/
def underscored (places : Nat → Prop) [DecidablePred places] (c : Char × Nat) : List Char :=
  if places c.2 then ['_', c.1] else [c.1]

theorem snakeAfter_cons {c : Char} (h : c.toNat < 0x80) (previous : Option Char) (cs : List Char) :
    snakeAfter previous (c :: cs) =
      (if c.isUpper = true ∧ beginsWord previous cs.head? = true then ['_', c.toLower]
        else [c.toLower]) ++ snakeAfter (some c) cs := by
  rw [snakeAfter, isUpperCase_of_ascii h, lowerCase_of_ascii h]
  cases hupper : c.isUpper with
  | true =>
    rw [if_pos rfl]
    cases beginsWord previous cs.head? <;> rfl
  | false =>
    rw [toLower_of_isUpper_eq_false hupper]
    rfl

/-- The rest of a text in snake case.  Places are counted from the start of the text, so they are
those of the rest after what is done. -/
theorem snakeAfter_getLast? (done : List Char) {rest : List Char} (h : IsAscii (done ++ rest)) :
    snakeAfter done.getLast? rest =
      ((rest.map Char.toLower).zipIdx done.length).flatMap
        (underscored (WordBegins (done ++ rest))) := by
  induction rest generalizing done with
  | nil => rfl
  | cons c rest ih =>
    have hc : c.toNat < 0x80 := (List.forall_mem_cons.1 (List.forall_mem_append.1 h).2).1
    have hrest := ih (done ++ [c]) (by rwa [← List.append_cons])
    rw [List.getLast?_concat, List.length_append, List.length_singleton,
      ← List.append_cons] at hrest
    rw [snakeAfter_cons hc, hrest, List.map_cons, List.zipIdx_cons, List.flatMap_cons]
    simp only [← wordBegins_length_iff h, underscored]

/-- **Snake case** makes letters small and puts an underscore where a word begins. -/
theorem toList_snakeCase {name : String} (h : IsAscii name.toList) :
    (snakeCase name).toList =
      name.toLower.toList.zipIdx.flatMap (underscored (WordBegins name.toList)) := by
  rw [snakeCase, String.toList_ofList, toList_toLower]
  exact snakeAfter_getLast? [] h

theorem withoutUnderscores_flatMap (places : Nat → Prop) [DecidablePred places]
    (cs : List (Char × Nat)) :
    withoutUnderscores (cs.flatMap (underscored places)) =
      withoutUnderscores (cs.map Prod.fst) := by
  induction cs with
  | nil => rfl
  | cons c cs ih =>
    -- with or without an underscore before it, the character is what is left
    have hhead : withoutUnderscores (underscored places c) = withoutUnderscores [c.1] := by
      unfold underscored
      split <;> rfl
    rw [List.flatMap_cons, withoutUnderscores_append, hhead, ih, ← withoutUnderscores_append]
    rfl

theorem withoutUnderscores_snakeCase {name : String} (h : IsAscii name.toList) :
    withoutUnderscores (snakeCase name).toList = withoutUnderscores name.toLower.toList := by
  rw [toList_snakeCase h, withoutUnderscores_flatMap, List.zipIdx_map_fst]

theorem eq_of_mem_underscored {places : Nat → Prop} [DecidablePred places] {c : Char × Nat}
    {d : Char} (h : d ∈ underscored places c) : d = '_' ∨ d = c.1 := by
  unfold underscored at h
  split at h
  · simpa using h
  · exact Or.inr (List.mem_singleton.1 h)

theorem isUpperCase_of_mem_snakeCase {name : String} (h : IsAscii name.toList) :
    ∀ c ∈ (snakeCase name).toList, isUpperCase c = false := by
  intro d hd
  rw [toList_snakeCase h] at hd
  obtain ⟨⟨c, i⟩, hc, hd⟩ := List.mem_flatMap.1 hd
  rcases eq_of_mem_underscored hd with rfl | rfl
  · decide
  · have hmem := List.fst_mem_of_mem_zipIdx hc
    rw [toList_toLower] at hmem
    obtain ⟨b, hb, rfl⟩ := List.mem_map.1 hmem
    exact isUpperCase_toLower (h b hb)

/-- Where nothing is a capital, nothing is done. -/
theorem snakeAfter_eq_self {cs : List Char} (h : ∀ c ∈ cs, isUpperCase c = false)
    (previous : Option Char) : snakeAfter previous cs = cs := by
  induction cs generalizing previous with
  | nil => rfl
  | cons c cs ih =>
    obtain ⟨hc, hcs⟩ := List.forall_mem_cons.1 h
    rw [snakeAfter, hc, ih hcs]
    rfl

theorem snakeCase_snakeCase {name : String} (h : IsAscii name.toList) :
    snakeCase (snakeCase name) = snakeCase name := by
  rw [snakeCase, snakeAfter_eq_self (isUpperCase_of_mem_snakeCase h), String.ofList_toList]

/-! ## Camel case -/

/-- The parts of a text between its underscores. -/
def underscoreParts (cs : List Char) : List (List Char) := cs.splitOn '_'

theorem underscoreParts_cons_underscore (cs : List Char) :
    underscoreParts ('_' :: cs) = [] :: underscoreParts cs := by
  simp [underscoreParts, List.splitOn_cons_eq_if_modifyHead]

theorem underscoreParts_cons {c : Char} {cs part : List Char} {more : List (List Char)}
    (hc : c ≠ '_') (h : underscoreParts cs = part :: more) :
    underscoreParts (c :: cs) = (c :: part) :: more := by
  rw [underscoreParts] at h ⊢
  simp [List.splitOn_cons_eq_if_modifyHead, hc, h]

theorem exists_underscoreParts (cs : List Char) : ∃ part more, underscoreParts cs = part :: more :=
  List.exists_cons_of_ne_nil (List.splitOn_ne_nil '_' cs)

theorem flatten_underscoreParts (cs : List Char) :
    (underscoreParts cs).flatten = withoutUnderscores cs := by
  induction cs with
  | nil => rfl
  | cons c cs ih =>
    by_cases hc : c = '_'
    · subst hc
      rw [underscoreParts_cons_underscore, List.flatten_cons, ih]
      rfl
    · obtain ⟨part, more, hparts⟩ := exists_underscoreParts cs
      rw [hparts] at ih
      rw [underscoreParts_cons hc hparts, withoutUnderscores,
        List.filter_cons_of_pos (by simpa using hc)]
      exact congrArg (c :: ·) ih

theorem camelAfter_of_underscoreParts {cs part : List Char} {more : List (List Char)}
    (h : IsAscii cs) (hparts : underscoreParts cs = part :: more) (partBegins : Bool) :
    camelAfter partBegins cs =
      (if partBegins then part.modifyHead Char.toUpper else part) ++
        more.flatMap (·.modifyHead Char.toUpper) := by
  induction cs generalizing part more partBegins with
  | nil =>
    cases hparts
    cases partBegins <;> rfl
  | cons c cs ih =>
    obtain ⟨hc, hcs⟩ := List.forall_mem_cons.1 h
    obtain ⟨next, others, hrest⟩ := exists_underscoreParts cs
    by_cases hunderscore : c = '_'
    · subst hunderscore
      rw [underscoreParts_cons_underscore, hrest] at hparts
      cases hparts
      rw [camelAfter, if_pos rfl, ih hcs hrest true]
      cases partBegins <;> rfl
    · rw [underscoreParts_cons hunderscore hrest] at hparts
      cases hparts
      rw [camelAfter, if_neg hunderscore, upperCase_of_ascii hc, ih hcs hrest false]
      cases partBegins <;> rfl

/-- **Camel case** puts the parts together, each with a capital. -/
theorem toList_camelCase {name : String} (h : IsAscii name.toList) :
    (camelCase name).toList =
      (underscoreParts name.toList).flatMap (·.modifyHead Char.toUpper) := by
  obtain ⟨part, more, hparts⟩ := exists_underscoreParts name.toList
  rw [camelCase, String.toList_ofList, camelAfter_of_underscoreParts h hparts true, hparts]
  rfl

theorem underscore_not_mem_camelAfter {cs : List Char} (h : IsAscii cs) (partBegins : Bool) :
    '_' ∉ camelAfter partBegins cs := by
  induction cs generalizing partBegins with
  | nil => exact List.not_mem_nil
  | cons c cs ih =>
    obtain ⟨hc, hcs⟩ := List.forall_mem_cons.1 h
    rw [camelAfter]
    split
    · exact ih hcs true
    · next hunderscore =>
      have hupper := toUpper_ne_underscore hc hunderscore
      rw [upperCase_of_ascii hc]
      split
      · simp [Ne.symm hupper, ih hcs false]
      · simp [Ne.symm hunderscore, ih hcs false]

/-- What begins a text in camel case is its own capital. -/
theorem upperCase_head_camelAfter {cs : List Char} (h : IsAscii cs) :
    ∀ c ∈ (camelAfter true cs).head?, upperCase c = [c] := by
  induction cs with
  | nil => simp [camelAfter]
  | cons c cs ih =>
    obtain ⟨hc, hcs⟩ := List.forall_mem_cons.1 h
    rw [camelAfter]
    split
    · exact ih hcs
    · rw [if_pos rfl, upperCase_of_ascii hc]
      rintro d ⟨⟩
      exact upperCase_toUpper hc

theorem camelAfter_false_eq_self {cs : List Char} (h : '_' ∉ cs) : camelAfter false cs = cs := by
  induction cs with
  | nil => rfl
  | cons c cs ih =>
    rw [List.mem_cons, not_or] at h
    rw [camelAfter, if_neg (Ne.symm h.1), ih h.2]
    rfl

/-- Where there is no underscore and the beginning is its own capital, nothing is done. -/
theorem camelAfter_eq_self {cs : List Char} (h : '_' ∉ cs)
    (hhead : ∀ c ∈ cs.head?, upperCase c = [c]) : camelAfter true cs = cs := by
  cases cs with
  | nil => rfl
  | cons c cs =>
    rw [List.mem_cons, not_or] at h
    rw [camelAfter, if_neg (Ne.symm h.1), if_pos rfl, hhead c rfl, camelAfter_false_eq_self h.2]
    rfl

theorem underscore_not_mem_camelCase {name : String} (h : IsAscii name.toList) :
    '_' ∉ (camelCase name).toList := by
  rw [camelCase, String.toList_ofList]
  exact underscore_not_mem_camelAfter h true

theorem upperCase_head_camelCase {name : String} (h : IsAscii name.toList) :
    ∀ c ∈ (camelCase name).toList.head?, upperCase c = [c] := by
  rw [camelCase, String.toList_ofList]
  exact upperCase_head_camelAfter h

theorem camelCase_camelCase {name : String} (h : IsAscii name.toList) :
    camelCase (camelCase name) = camelCase name := by
  rw [camelCase, camelAfter_eq_self (underscore_not_mem_camelCase h) (upperCase_head_camelCase h),
    String.ofList_toList]

/-! ## Both conversions -/

/-- **Both conversions keep the letters of a text in ASCII.**  Snake case makes them small and puts
an underscore where a word begins, which is neither at the start nor next to an underscore.  Camel
case drops the underscores and changes no letters but those that begin a part.  Neither changes what
it gave. -/
theorem snakeCase_camelCase_of_isAscii {name : String} (h : IsAscii name.toList) :
    (withoutUnderscores (snakeCase name).toList = withoutUnderscores name.toLower.toList ∧
      (snakeCase name).toList =
        name.toLower.toList.zipIdx.flatMap (underscored (WordBegins name.toList)) ∧
      (∀ i, WordBegins name.toList i →
        0 < i ∧ name.toList[i - 1]? ≠ some '_' ∧ name.toList[i]? ≠ some '_') ∧
      (∀ c ∈ (snakeCase name).toList, isUpperCase c = false) ∧
      snakeCase (snakeCase name) = snakeCase name) ∧
    '_' ∉ (camelCase name).toList ∧
      camelCase (camelCase name) = camelCase name ∧
      withoutUnderscores name.toList = (underscoreParts name.toList).flatten ∧
      (camelCase name).toList =
        (underscoreParts name.toList).flatMap (·.modifyHead Char.toUpper) :=
  ⟨⟨withoutUnderscores_snakeCase h, toList_snakeCase h, fun _ => WordBegins.apart,
      isUpperCase_of_mem_snakeCase h, snakeCase_snakeCase h⟩,
    underscore_not_mem_camelCase h, camelCase_camelCase h,
    (flatten_underscoreParts name.toList).symm, toList_camelCase h⟩

/-- Capitals in a row, digits, and underscores at both ends of a part. -/
theorem snakeCase_camelCase_of_isAscii_cards :
    IsAscii "HTTPMapper2_XMLCard__v2Dto_".toList ∧
      snakeCase "HTTPMapper2_XMLCard__v2Dto_" = "http_mapper2_xml_card__v2_dto_" ∧
      snakeCase "http_mapper2_xml_card__v2_dto_" = "http_mapper2_xml_card__v2_dto_" ∧
      camelCase "HTTPMapper2_XMLCard__v2Dto_" = "HTTPMapper2XMLCardV2Dto" ∧
      camelCase "HTTPMapper2XMLCardV2Dto" = "HTTPMapper2XMLCardV2Dto" ∧
      ((List.range 27).filter fun i => WordBegins "HTTPMapper2_XMLCard__v2Dto_".toList i) =
        [4, 15, 23] := by
  have hascii : IsAscii "HTTPMapper2_XMLCard__v2Dto_".toList := by decide +kernel
  have hsnake : snakeCase "HTTPMapper2_XMLCard__v2Dto_" = "http_mapper2_xml_card__v2_dto_" := by
    decide +kernel
  have hcamel : camelCase "HTTPMapper2_XMLCard__v2Dto_" = "HTTPMapper2XMLCardV2Dto" := by
    decide +kernel
  obtain ⟨⟨-, -, -, -, hsnakeAgain⟩, -, hcamelAgain, -⟩ := snakeCase_camelCase_of_isAscii hascii
  rw [hsnake] at hsnakeAgain
  rw [hcamel] at hcamelAgain
  exact ⟨hascii, hsnake, hsnakeAgain, hcamel, hcamelAgain, by decide +kernel⟩

end Mapwright.Text
