import Mapwright.Proofs.Lexing
import Mapwright.Report

/-!
# Headers are comments

A header is cut into lines at its line feeds, each of which becomes a comment.
So the lines can be read off the comments again, and whoever reads the code
skips the header as a whole: no character of it stands outside a comment.

    lines s = the pieces of s between line feeds, without carriage returns    (`lines_eq_linesOf`)
    the header is one plain comment for each line, and an empty line          (`splitOn_renderHeader`)
    skipSpace (header ++ cs) = skipSpace cs                                   (`skipSpace_renderHeader`)
-/

namespace Mapwright

open Text Source

/-! ## Lines -/

/-- A line without the carriage return before its line feed. -/
def withoutReturn (l : List Char) : List Char := if l.getLast? = some '\r' then l.dropLast else l

/-- The lines of a text that is cut at its line feeds: the last piece has no line feed after it, and
is no line if it is empty. -/
def linesOf : List (List Char) → List (List Char)
  | [] => []
  | [last] => if last = [] then [] else [last]
  | l :: next :: pieces => withoutReturn l :: linesOf (next :: pieces)

theorem linesOf_cons (l : List Char) {pieces : List (List Char)} (h : pieces ≠ []) :
    linesOf (l :: pieces) = withoutReturn l :: linesOf pieces := by
  cases pieces with
  | nil => exact absurd rfl h
  | cons next pieces => rfl

theorem linesAfter_cons (present : List Char) (c : Char) (cs : List Char) :
    linesAfter present (c :: cs) =
      if c = '\n' then withoutReturn present.reverse :: linesAfter [] cs
      else linesAfter (c :: present) cs := by
  rw [linesAfter.eq_def]
  cases present with
  | nil => rfl
  | cons d ds =>
    have hreturn : withoutReturn (d :: ds).reverse =
        if d = '\r' then ds.reverse else (d :: ds).reverse := by
      simp [withoutReturn]
    rw [hreturn]

theorem linesAfter_eq (present cs : List Char) :
    linesAfter present cs =
      linesOf ((cs.splitOn '\n').modifyHead (present.reverse ++ ·)) := by
  induction cs generalizing present with
  | nil =>
    rw [List.splitOn_nil, List.modifyHead_cons, List.append_nil, linesAfter, linesOf]
    simp only [List.isEmpty_iff, List.reverse_eq_nil_iff]
  | cons c cs ih =>
    obtain ⟨l, pieces, hpieces⟩ := List.exists_cons_of_ne_nil (List.splitOn_ne_nil '\n' cs)
    rw [linesAfter_cons, List.splitOn_cons_eq_if_modifyHead, ih, ih, hpieces]
    by_cases hc : c = '\n'
    · subst hc
      simp [linesOf_cons]
    · simp [hc]

/-- **The lines of a text** are what stands between its line feeds. -/
theorem lines_eq_linesOf (s : String) :
    lines s = (linesOf (s.toList.splitOn '\n')).map String.ofList := by
  rw [lines, linesAfter_eq]
  obtain ⟨l, pieces, hpieces⟩ := List.exists_cons_of_ne_nil (List.splitOn_ne_nil '\n' s.toList)
  rw [hpieces]
  rfl

theorem newline_not_mem_linesAfter {present cs : List Char} (h : '\n' ∉ present) :
    ∀ l ∈ linesAfter present cs, '\n' ∉ l := by
  have hpresent : '\n' ∉ present.reverse := fun hl => h (List.mem_reverse.1 hl)
  induction cs generalizing present with
  | nil =>
    rw [linesAfter]
    split
    · exact List.forall_mem_nil _
    · exact List.forall_mem_singleton.2 hpresent
  | cons c cs ih =>
    rw [linesAfter_cons]
    split
    · refine List.forall_mem_cons.2 ⟨?_, ih List.not_mem_nil List.not_mem_nil⟩
      unfold withoutReturn
      split
      · exact fun hl => hpresent (List.dropLast_subset _ hl)
      · exact hpresent
    · next hc =>
      have hmore := List.not_mem_cons_of_ne_of_not_mem (Ne.symm hc) h
      exact ih hmore fun hl => hmore (List.mem_reverse.1 hl)

theorem newline_not_mem_of_lines {s l : String} (h : l ∈ lines s) : '\n' ∉ l.toList := by
  obtain ⟨cs, hcs, rfl⟩ := List.mem_map.1 h
  rw [String.toList_ofList]
  exact newline_not_mem_linesAfter List.not_mem_nil cs hcs

/-! ## Comments -/

/-- A comment that is no documentation: two slashes, and neither a third nor an exclamation mark. -/
def IsPlainComment (comment : List Char) : Prop :=
  ∃ words, comment = '/' :: '/' :: words ∧ words.head? ≠ some '/' ∧ words.head? ≠ some '!' ∧
    '\n' ∉ words

/-- The comment that a line becomes. -/
def lineComment (l : List Char) : List Char := '/' :: '/' :: if l = [] then [] else ' ' :: l

/-- A comment without the slashes at its beginning and the space after them. -/
def uncomment : List Char → List Char
  | '/' :: '/' :: ' ' :: l => l
  | '/' :: '/' :: l => l
  | l => l

theorem isPlainComment_lineComment {l : List Char} (h : '\n' ∉ l) :
    IsPlainComment (lineComment l) := by
  refine ⟨_, rfl, ?_⟩
  split
  · simp
  · simp [h]

theorem uncomment_lineComment (l : List Char) : uncomment (lineComment l) = l := by
  unfold lineComment
  split
  · next hl =>
    rw [hl]
    rfl
  · rfl

theorem toList_commentLine (l : String) :
    (commentLine l).toList = lineComment l.toList ++ ['\n'] := by
  unfold commentLine lineComment
  by_cases hl : l = ""
  · rw [hl]
    rfl
  · rw [if_neg hl, if_neg (fun h => hl (String.toList_eq_nil_iff.1 h)), String.toList_append,
      String.toList_append]
    rfl

/-- The comments of a header. -/
def commentsOf (text : String) : List (List Char) := (lines text).map fun l => lineComment l.toList

theorem toList_renderHeader (text : String) :
    (renderHeader (some text)).toList = (commentsOf text).flatMap (· ++ ['\n']) ++ ['\n'] := by
  have hlines : ∀ ls : List String, (ls.map commentLine).flatMap String.toList =
      (ls.map fun l => lineComment l.toList).flatMap (· ++ ['\n']) := by
    intro ls
    rw [List.flatMap_map, List.flatMap_map]
    exact congrArg List.flatten (List.map_congr_left fun l _ => toList_commentLine l)
  rw [renderHeader, String.toList_append, String.toList_join, hlines]
  rfl

theorem isPlainComment_of_mem {text : String} {comment : List Char}
    (h : comment ∈ commentsOf text) : IsPlainComment comment := by
  obtain ⟨l, hl, rfl⟩ := List.mem_map.1 h
  exact isPlainComment_lineComment (newline_not_mem_of_lines hl)

theorem IsPlainComment.newline_not_mem {comment : List Char} (h : IsPlainComment comment) :
    '\n' ∉ comment := by
  obtain ⟨words, rfl, -, -, hwords⟩ := h
  simp [hwords]

theorem splitOn_flatMap {comments : List (List Char)} (h : ∀ c ∈ comments, '\n' ∉ c)
    (cs : List Char) :
    (comments.flatMap (· ++ ['\n']) ++ cs).splitOn '\n' = comments ++ cs.splitOn '\n' := by
  induction comments with
  | nil => rfl
  | cons comment comments ih =>
    obtain ⟨hcomment, hcomments⟩ := List.forall_mem_cons.1 h
    rw [List.flatMap_cons, List.append_assoc, List.append_assoc, List.singleton_append,
      List.splitOn_append_cons_self_of_not_mem hcomment, ih hcomments]
    rfl

/-- **A header is a comment for each line, and an empty line.** -/
theorem splitOn_renderHeader (text : String) :
    (renderHeader (some text)).toList.splitOn '\n' = commentsOf text ++ [[], []] := by
  rw [toList_renderHeader,
    splitOn_flatMap fun c hc => (isPlainComment_of_mem hc).newline_not_mem]
  rfl

theorem map_uncomment_commentsOf (text : String) :
    (commentsOf text).map uncomment = (lines text).map String.toList := by
  rw [commentsOf, List.map_map]
  exact List.map_congr_left fun l _ => uncomment_lineComment l.toList

/-! ## What is skipped -/

theorem length_blockRest? {cs rest : List Char} {depth : Nat} (h : blockRest? depth cs = some rest) :
    rest.length < cs.length := by
  fun_induction blockRest? depth cs with
  | case1 => cases h
  | case2 depth cs ih =>
    have hlt := ih h
    simp only [List.length_cons]
    omega
  | case3 depth cs hdepth =>
    cases h
    simp only [List.length_cons]
    omega
  | case4 depth cs hdepth ih =>
    have hlt := ih h
    simp only [List.length_cons]
    omega
  | case5 depth c cs hopening hclosing ih => exact Nat.lt_succ_of_lt (ih h)

theorem length_lineRest (cs : List Char) : (lineRest cs).length ≤ cs.length :=
  (List.dropWhile_sublist _).length_le

/-- More steps than characters are as good as any number of them. -/
theorem skipSpaceUpTo_congr {m n : Nat} {cs : List Char} (hm : cs.length < m) (hn : cs.length < n) :
    skipSpaceUpTo m cs = skipSpaceUpTo n cs := by
  induction m generalizing n cs with
  | zero => cases hm
  | succ m ih =>
    cases n with
    | zero => cases hn
    | succ n =>
      cases cs with
      | nil => rfl
      | cons c cs =>
        have hrest : ∀ {rest : List Char}, rest.length ≤ cs.length →
            skipSpaceUpTo m rest = skipSpaceUpTo n rest := fun hle =>
          ih (Nat.lt_of_le_of_lt hle (Nat.lt_of_succ_lt_succ hm))
            (Nat.lt_of_le_of_lt hle (Nat.lt_of_succ_lt_succ hn))
        rw [skipSpaceUpTo, skipSpaceUpTo, hrest (Nat.le_refl _), hrest (length_lineRest cs)]
        cases hblock : blockRest? 0 (c :: cs) with
        | none => rfl
        | some rest =>
          dsimp only
          rw [hrest (Nat.le_of_lt_succ (length_blockRest? hblock))]

theorem skipSpaceUpTo_of_lt {n : Nat} {cs : List Char} (h : cs.length < n) :
    skipSpaceUpTo n cs = skipSpace cs :=
  skipSpaceUpTo_congr h (Nat.lt_succ_self _)

/-- A comment and the line feed after it are skipped. -/
theorem skipSpace_comment {comment : List Char} (h : IsPlainComment comment) (cs : List Char) :
    skipSpace (comment ++ '\n' :: cs) = skipSpace cs := by
  obtain ⟨words, rfl, hslash, hmark, hwords⟩ := h
  have hdoc : isLineDoc ('/' :: '/' :: (words ++ '\n' :: cs)) = false := by
    cases words with
    | nil => rfl
    | cons w words =>
      have hs : w ≠ '/' := fun hw => hslash (by rw [hw]; rfl)
      have hm : w ≠ '!' := fun hw => hmark (by rw [hw]; rfl)
      simp [isLineDoc, hs, hm]
  have hline : lineRest ('/' :: (words ++ '\n' :: cs)) = '\n' :: cs := by
    have hdrop : ∀ c ∈ '/' :: words, (c != '\n') = true := by
      intro c hc
      rw [bne_iff_ne]
      rintro rfl
      rcases List.mem_cons.1 hc with hc | hc
      · cases hc
      · exact hwords hc
    rw [lineRest, ← List.cons_append, List.dropWhile_append_of_pos hdrop]
    rfl
  have hless : ('\n' :: cs).length < ('/' :: '/' :: (words ++ '\n' :: cs)).length := by
    simp only [List.length_cons, List.length_append]
    omega
  have hslashSpace : isSpace '/' = false := by decide
  rw [skipSpace, List.cons_append, List.cons_append, skipSpaceUpTo, hslashSpace, hdoc]
  simp only [Bool.false_eq_true, if_false, decide_true, List.head?_cons, beq_self_eq_true,
    Bool.not_false, Bool.and_self, if_true]
  rw [hline, skipSpaceUpTo_of_lt hless]
  rfl

theorem skipSpace_flatMap {comments : List (List Char)} (h : ∀ c ∈ comments, IsPlainComment c)
    (cs : List Char) : skipSpace (comments.flatMap (· ++ ['\n']) ++ cs) = skipSpace cs := by
  induction comments with
  | nil => rfl
  | cons comment comments ih =>
    obtain ⟨hcomment, hcomments⟩ := List.forall_mem_cons.1 h
    rw [List.flatMap_cons, List.append_assoc, List.append_assoc, List.singleton_append,
      skipSpace_comment hcomment, ih hcomments]

/-- **A header is skipped**, whatever comes after it. -/
theorem skipSpace_renderHeader (text : String) (cs : List Char) :
    skipSpace ((renderHeader (some text)).toList ++ cs) = skipSpace cs := by
  rw [toList_renderHeader, List.append_assoc, skipSpace_flatMap fun _ => isPlainComment_of_mem]
  rfl

theorem tokensUpTo_renderHeader (text : String) (fuel : Nat) (openings : List Delimiter)
    (cs : List Char) :
    tokensUpTo fuel openings ((renderHeader (some text)).toList ++ cs) =
      tokensUpTo fuel openings cs := by
  cases fuel with
  | zero => rfl
  | succ fuel => rw [tokensUpTo, tokensUpTo, skipSpace_renderHeader]

/-- Neither a byte order mark nor the line of an interpreter is at the beginning of a header. -/
theorem fileTokens?_renderHeader (text code : String) :
    fileTokens? (renderHeader (some text) ++ code) =
      tokens? ((renderHeader (some text)).toList ++ code.toList) := by
  rw [fileTokens?, String.toList_append, toList_renderHeader]
  cases hcomments : commentsOf text with
  | nil => rfl
  | cons comment comments =>
    obtain ⟨words, rfl, -⟩ :=
      isPlainComment_of_mem (hcomments ▸ List.mem_cons_self : comment ∈ commentsOf text)
    rfl

/-- A file with a header is read as its code. -/
theorem fileTokens?_of_tokens? (text : String) {code : String} {ts : List Token}
    (h : tokens? code.toList = some ts) : fileTokens? (renderHeader (some text) ++ code) = some ts := by
  rw [fileTokens?_renderHeader, tokens?, tokensUpTo_renderHeader]
  refine tokensUpTo_of_le h (Nat.succ_le_succ ?_)
  rw [List.length_append]
  exact Nat.le_add_left _ _

/-- **A header does not leak into code.**  It is one plain comment for each line of its text, and an
empty line; the lines can be read off the comments again.  Whoever reads the code skips the header
as blanks are skipped, and finds the tokens of the code alone. -/
theorem comments_renderHeader (text : String) :
    lines text = (linesOf (text.toList.splitOn '\n')).map String.ofList ∧
      (∃ comments, (renderHeader (some text)).toList.splitOn '\n' = comments ++ [[], []] ∧
        (∀ comment ∈ comments, IsPlainComment comment) ∧
        comments.map uncomment = (lines text).map String.toList) ∧
      (∀ cs, skipSpace ((renderHeader (some text)).toList ++ cs) = skipSpace cs) ∧
      ∀ code ts, tokens? code.toList = some ts →
        fileTokens? (renderHeader (some text) ++ code) = some ts :=
  ⟨lines_eq_linesOf text,
    ⟨commentsOf text, splitOn_renderHeader text, fun _ => isPlainComment_of_mem,
      map_uncomment_commentsOf text⟩,
    skipSpace_renderHeader text, fun _ _ => fileTokens?_of_tokens? text⟩

/-- Lines that begin like documentation, an empty one, and carriage returns of which one ends a
line. -/
theorem comments_renderHeader_marks :
    renderHeader (some "/ a\r\n! b\n\n\rc\r") = "// / a\n// ! b\n//\n// \rc\r\n\n" ∧
      lines "/ a\r\n! b\n\n\rc\r" = ["/ a", "! b", "", "\rc\r"] ∧
      tokens? "mod b;".toList = some [.ident "mod", .ident "b", .punct ';' false] ∧
      fileTokens? (renderHeader (some "/ a\r\n! b\n\n\rc\r") ++ "mod b;") =
        some [.ident "mod", .ident "b", .punct ';' false] := by
  have htokens : tokens? "mod b;".toList = some [.ident "mod", .ident "b", .punct ';' false] := by
    decide +kernel
  exact ⟨by decide +kernel, by decide +kernel, htokens,
    (comments_renderHeader _).2.2.2 _ _ htokens⟩

end Mapwright
