import CoreArray.Proofs.Text.Lines
set_option autoImplicit false

/-!
# Words of a text

A word is a text that is not empty and has no blanks.  A text is read as its words wherever a
blank parts it (`words_append`), so that words joined by blanks are read back
(`wordsOf_joined`), and it does not matter for the words of a line how the line ends
(`map_wordsOf_linesOf_ofLines`).
-/

namespace CoreArray.Text

/-- Whether a text is a single word. -/
structure IsWord (word : String) : Prop where
  ne_nil : word.toList ≠ []
  not_blank : ∀ c ∈ word.toList, isBlank c = false

/-- Whether a line has blanks only. -/
def IsBlankLine (line : String) : Prop := ∀ c ∈ line.toList, isBlank c = true ∧ c ≠ '\n'

-- Decided along the line: there are instances that would run through all characters there are.
instance (line : String) : Decidable (IsBlankLine line) :=
  List.decidableBAll (fun c => isBlank c = true ∧ c ≠ '\n') line.toList

theorem IsBlankLine.not_mem {line : String} (h : IsBlankLine line) : '\n' ∉ line.toList :=
  fun hfeed => (h '\n' hfeed).2 rfl

/-- The words around a blank. -/
theorem words_append {c : Char} (hc : isBlank c = true) (before after : List Char) :
    words (before ++ c :: after) = words before ++ words after := by
  unfold words
  rw [cuts_append hc, List.filter_append]

theorem words_nil : words [] = [] := rfl

theorem words_of_blank {text : List Char} (h : ∀ c ∈ text, isBlank c = true) : words text = [] := by
  induction text with
  | nil => rfl
  | cons c rest ih =>
      obtain ⟨hc, hrest⟩ := List.forall_mem_cons.mp h
      have hsplit := words_append hc [] rest
      rw [List.nil_append, words_nil, List.nil_append] at hsplit
      rw [hsplit, ih hrest]

/-- What a text is read as are words. -/
theorem isWord_of_mem_wordsOf {text word : String} (h : word ∈ wordsOf text) : IsWord word := by
  obtain ⟨piece, hpiece, rfl⟩ := List.mem_map.mp h
  obtain ⟨hcut, hne⟩ := List.mem_filter.mp hpiece
  rw [Bool.not_eq_true', List.isEmpty_eq_false_iff] at hne
  constructor
  · rw [String.toList_ofList]
    exact hne
  · rw [String.toList_ofList]
    exact fun c hc => not_of_mem_cuts hcut hc

theorem toList_dotted (before after : String) :
    (before ++ "." ++ after).toList = before.toList ++ '.' :: after.toList := by
  have hdot : ".".toList = ['.'] := rfl
  rw [String.toList_append, String.toList_append, hdot, List.append_assoc,
    List.singleton_append]

/-- A word is cut at its first dot. -/
theorem splitAt?_dot_eq_some_iff {word before after : String} :
    splitAt? '.' word = some (before, after) ↔
      word = before ++ "." ++ after ∧ '.' ∉ before.toList := by
  rw [splitAt?_eq_some_iff, ← String.toList_inj, toList_dotted]

/-- Pieces that are joined by a separator are cut apart again. -/
theorem cuts_intercalate {p : Char → Bool} {separator : Char} (hseparator : p separator = true)
    {pieces : List (List Char)} (hne : pieces ≠ [])
    (h : ∀ piece ∈ pieces, ∀ c ∈ piece, p c = false) :
    cuts p ([separator].intercalate pieces) = pieces := by
  induction pieces with
  | nil => exact absurd rfl hne
  | cons piece pieces ih =>
      obtain ⟨hpiece, hpieces⟩ := List.forall_mem_cons.mp h
      cases pieces with
      | nil => rw [List.intercalate_singleton, cuts_of_none hpiece]
      | cons next pieces =>
          rw [List.intercalate_cons_cons, List.append_assoc, List.singleton_append,
            cuts_append hseparator, cuts_of_none hpiece, ih (List.cons_ne_nil _ _) hpieces,
            List.singleton_append]

theorem words_intercalate {ws : List String} (h : ∀ word ∈ ws, IsWord word) :
    words ([' '].intercalate (ws.map String.toList)) = ws.map String.toList := by
  by_cases hnone : ws = []
  · rw [hnone]
    rfl
  · have hpieces : ∀ piece ∈ ws.map String.toList, ∀ c ∈ piece, isBlank c = false :=
      List.forall_mem_map.mpr fun word hword => (h word hword).not_blank
    unfold words
    rw [cuts_intercalate (by decide) (mt List.map_eq_nil_iff.mp hnone) hpieces, List.filter_eq_self]
    refine List.forall_mem_map.mpr fun word hword => ?_
    rw [List.isEmpty_eq_false_iff.mpr (h word hword).ne_nil, Bool.not_false]

/-- Words joined by single blanks are read back. -/
theorem wordsOf_joined {ws : List String} (h : ∀ word ∈ ws, IsWord word) :
    wordsOf (" ".intercalate ws) = ws := by
  unfold wordsOf
  rw [String.toList_intercalate]
  have hws := words_intercalate h
  have hblank : " ".toList = [' '] := rfl
  rw [hblank, hws, List.map_map]
  exact (List.map_congr_left fun word _ => String.ofList_toList).trans (List.map_id ws)

/-- Joined words have no other characters than theirs and blanks. -/
theorem not_mem_joined {c : Char} (hc : c ≠ ' ') {ws : List String}
    (h : ∀ word ∈ ws, c ∉ word.toList) : c ∉ (" ".intercalate ws).toList := by
  induction ws with
  | nil => simp
  | cons word ws ih =>
      obtain ⟨hword, hws⟩ := List.forall_mem_cons.mp h
      cases ws with
      | nil =>
          rw [String.intercalate_singleton]
          exact hword
      | cons next ws =>
          have hblank : " ".toList = [' '] := rfl
          rw [String.intercalate_cons_cons, String.toList_append, String.toList_append, hblank,
            List.mem_append, List.mem_append, List.mem_singleton]
          exact not_or.mpr ⟨not_or.mpr ⟨hword, hc⟩, ih hws⟩

theorem IsBlankLine.wordsOf_eq {line : String} (h : IsBlankLine line) : wordsOf line = [] := by
  unfold wordsOf
  rw [words_of_blank fun c hc => (h c hc).1, List.map_nil]

/-! ## Words of lines -/

/-- The lines of a text made of lines have the words of these lines. -/
theorem map_wordsOf_linesOf_ofLines {lines : List String}
    (h : ∀ line ∈ lines, '\n' ∉ line.toList) :
    (linesOf (ofLines lines)).map wordsOf = lines.map wordsOf := by
  refine map_linesOf_ofLines (fun text => ?_) h
  unfold wordsOf
  rw [String.toList_ofList, String.toList_ofList, words_append (by decide), words_nil,
    List.append_nil]

end CoreArray.Text
