import CoreArray.Text.Pieces
set_option autoImplicit false

/-!
# Texts made of lines

`ofLines` ends every line of a list with a line feed.  The lines of such a text are the ones
that it is made of, but for a carriage return at the end of a line (`map_linesOf_ofLines`);
without the outer blanks they are the same (`trimmed_linesOf_ofLines`).
-/

namespace CoreArray.Text

/-- The text of lines, each ended by a line feed. -/
def ofLines (lines : List String) : String :=
  String.ofList (lines.flatMap fun line => line.toList ++ ['\n'])

/-! ## Words in lines -/

/-- A word occurs in a text that has it as a stretch. -/
theorem occurs_iff {mark text : List Char} : occurs mark text = true ↔ mark <:+: text := by
  unfold occurs
  induction text with
  | nil =>
      rw [cutAt, List.infix_nil]
      cases mark with
      | nil => simp
      | cons c mark => simp
  | cons c rest ih =>
      rw [cutAt, List.infix_cons_iff]
      split
      · next hprefix => exact iff_of_true rfl (.inl (List.isPrefixOf_iff_prefix.mp hprefix))
      · next hprefix =>
          rw [Option.isSome_map, ih]
          constructor
          · exact .inr
          · exact Or.rec (fun h => absurd (List.isPrefixOf_iff_prefix.mpr h) hprefix) id

theorem isInfix_trim (text : List Char) : trim text <:+: text := by
  have hstart : text.dropWhile isBlank <:+ text := List.dropWhile_suffix isBlank
  have hend : trim text <+: text.dropWhile isBlank := by
    unfold trim
    rw [← List.reverse_suffix, List.reverse_reverse]
    exact List.dropWhile_suffix isBlank
  exact hend.isInfix.trans hstart.isInfix

/-- A word that occurs in a line without its outer blanks occurs in the line. -/
theorem contains_of_trimmed {line mark : String} (h : contains (trimmed line) mark = true) :
    contains line mark = true := by
  unfold contains trimmed at *
  rw [String.toList_ofList, occurs_iff] at h
  exact occurs_iff.mpr (h.trans (isInfix_trim line.toList))

/-! ## Ends of lines -/

/-- A blank at the end of a text is an outer blank. -/
theorem trim_append_blank (text : List Char) {c : Char} (hc : isBlank c = true) :
    trim (text ++ [c]) = trim text := by
  unfold trim
  rw [List.dropWhile_append]
  split
  · next hnone =>
      have hnil : text.dropWhile isBlank = [] := List.isEmpty_iff.mp hnone
      rw [hnil, List.dropWhile_cons_of_pos hc, List.dropWhile_nil]
  · rw [List.reverse_append, List.reverse_singleton, List.singleton_append,
      List.dropWhile_cons_of_pos hc]

/-- What does not see a carriage return at the end of a line does not see that it is dropped. -/
theorem apply_dropReturn {α : Type} (f : List Char → α) (hf : ∀ text, f (text ++ ['\r']) = f text)
    (line : List Char) : f (dropReturn line) = f line := by
  unfold dropReturn
  split
  · next hreturn =>
      obtain ⟨front, rfl⟩ := List.getLast?_eq_some_iff.mp hreturn
      rw [List.dropLast_concat, hf front]
  · rfl

theorem trim_dropReturn (line : List Char) : trim (dropReturn line) = trim line :=
  apply_dropReturn trim (fun text => trim_append_blank text (by decide)) line

/-- Whether a text is empty or ends with a line feed. -/
def EndsLine (text : String) : Prop := text = "" ∨ ∃ front : String, text = front ++ "\n"

theorem ofLines_singleton (line : String) : ofLines [line] = line ++ "\n" := by
  rw [← String.toList_inj, String.toList_append]
  simp [ofLines]

theorem linesOfPieces_append (pieces : List (List Char)) {rest : List (List Char)}
    (h : rest ≠ []) :
    linesOfPieces (pieces ++ rest) = pieces.map dropReturn ++ linesOfPieces rest := by
  induction pieces with
  | nil => rfl
  | cons piece pieces ih =>
      rw [List.cons_append, List.map_cons, List.cons_append, ← ih]
      cases hrest : pieces ++ rest with
      | nil => exact absurd (List.append_eq_nil_iff.mp hrest).2 h
      | cons next others => rfl

/-- A text that ends a line and another text behind it have the lines of both. -/
theorem linesOf_append {before : String} (h : EndsLine before) (after : String) :
    linesOf (before ++ after) = linesOf before ++ linesOf after := by
  unfold linesOf Text.lines
  rw [← List.map_append]
  congr 1
  rcases h with rfl | ⟨front, rfl⟩
  · rw [String.empty_append]
    rfl
  · have hfeed : "\n".toList = ['\n'] := rfl
    rw [String.toList_append, String.toList_append, hfeed, List.append_assoc,
      List.singleton_append, cuts_append (by rfl), cuts_append (by rfl),
      linesOfPieces_append _ (cuts_ne_nil _ _), linesOfPieces_append _ (cuts_ne_nil _ _)]
    exact congrArg (· ++ _) (List.append_nil _).symm

/-- The first line of a text made of lines is the first one that it is made of. -/
theorem linesOf_ofLines_cons {line : String} {lines : List String} (h : '\n' ∉ line.toList) :
    linesOf (ofLines (line :: lines)) =
      String.ofList (dropReturn line.toList) :: linesOf (ofLines lines) := by
  have htext : (ofLines (line :: lines)).toList =
      line.toList ++ '\n' :: (ofLines lines).toList := by
    simp [ofLines]
  have hpiece : cuts (· == '\n') line.toList = [line.toList] := by
    refine cuts_of_none fun c hc => beq_eq_false_iff_ne.mpr ?_
    rintro rfl
    exact h hc
  unfold linesOf Text.lines
  rw [htext, cuts_append (by rfl), hpiece, List.singleton_append]
  cases hrest : cuts (· == '\n') (ofLines lines).toList with
  | nil => exact absurd hrest (cuts_ne_nil _ _)
  | cons piece pieces => rfl

/-- The lines of a text made of lines are these, for what does not see a carriage return at
the end of a line. -/
theorem map_linesOf_ofLines {α : Type} {f : String → α}
    (hf : ∀ text, f (String.ofList (text ++ ['\r'])) = f (String.ofList text))
    {lines : List String} (h : ∀ line ∈ lines, '\n' ∉ line.toList) :
    (linesOf (ofLines lines)).map f = lines.map f := by
  induction lines with
  | nil => rfl
  | cons line lines ih =>
      obtain ⟨hline, hlines⟩ := List.forall_mem_cons.mp h
      have hdrop : f (String.ofList (dropReturn line.toList)) = f (String.ofList line.toList) :=
        apply_dropReturn (fun text => f (String.ofList text)) hf line.toList
      rw [String.ofList_toList] at hdrop
      rw [linesOf_ofLines_cons hline, List.map_cons, List.map_cons, ih hlines, hdrop]

/-- Without their outer blanks, the lines of a text made of lines are these. -/
theorem trimmed_linesOf_ofLines {lines : List String} (h : ∀ line ∈ lines, '\n' ∉ line.toList) :
    (linesOf (ofLines lines)).map trimmed = lines.map trimmed := by
  refine map_linesOf_ofLines (fun text => ?_) h
  unfold trimmed
  rw [String.toList_ofList, String.toList_ofList, trim_append_blank text (by decide)]

end CoreArray.Text
