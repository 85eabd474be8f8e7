set_option autoImplicit false

/-!
# Pieces of a text

A text is cut into pieces at the characters of a class: into lines at line
feeds, into fields at a separator, into words at blanks.  One function,
`cuts`, does the cutting, and its law is `cuts_append`: cutting `a ++ s :: b`
at the separator `s` gives the pieces of `a` followed by those of `b`.

Everything here works on lists of characters; the functions on `String` at the
end of the module only convert.
-/

namespace CoreArray.Text

/-! ## Cutting -/

/-- The pieces of a text between the characters of class `p`: one more than
there are such characters, so that the empty text is one empty piece. -/
def cuts (p : Char → Bool) : List Char → List (List Char)
  | [] => [[]]
  | c :: rest =>
      if p c then [] :: cuts p rest
      else
        match cuts p rest with
        | [] => [[c]]
        | piece :: pieces => (c :: piece) :: pieces

/-- The text before the first character of class `p` and the text after it,
if there is such a character. -/
def cutOnce (p : Char → Bool) : List Char → Option (List Char × List Char)
  | [] => none
  | c :: rest =>
      if p c then some ([], rest)
      else (cutOnce p rest).map fun (before, after) => (c :: before, after)

/-- The text before the first occurrence of the word `mark` and the text after
it, if it occurs. -/
def cutAt (mark : List Char) : List Char → Option (List Char × List Char)
  | [] => if mark.isEmpty then some ([], []) else none
  | c :: rest =>
      if mark.isPrefixOf (c :: rest) then some ([], (c :: rest).drop mark.length)
      else (cutAt mark rest).map fun (before, after) => (c :: before, after)

/-- Whether the word `mark` occurs in a text. -/
def occurs (mark text : List Char) : Bool := (cutAt mark text).isSome

/-! ## Blanks -/

/-- The white-space characters: the Unicode property White_Space. -/
def isBlank (c : Char) : Bool :=
  let n := c.toNat
  (9 ≤ n && n ≤ 13) || n == 0x20 || n == 0x85 || n == 0xA0 || n == 0x1680 ||
    (0x2000 ≤ n && n ≤ 0x200A) || n == 0x2028 || n == 0x2029 || n == 0x202F ||
    n == 0x205F || n == 0x3000

/-- The maximal blank-free stretches of a text. -/
def words (text : List Char) : List (List Char) :=
  (cuts isBlank text).filter fun piece => !piece.isEmpty

/-- A text without the blanks at its two ends. -/
def trim (text : List Char) : List Char :=
  ((text.dropWhile isBlank).reverse.dropWhile isBlank).reverse

/-- A text without any blank. -/
def squeeze (text : List Char) : List Char := text.filter fun c => !isBlank c

/-! ## Lines -/

/-- A line without the carriage return that ends it. -/
def dropReturn (line : List Char) : List Char :=
  if line.getLast? = some '\r' then line.dropLast else line

/-- The lines of pieces cut at line feeds: each piece but the last was ended by
a line feed, before which one carriage return belongs to the line end; the last
is a line of its own unless it is empty. -/
def linesOfPieces : List (List Char) → List (List Char)
  | [] => []
  | [last] => if last.isEmpty then [] else [last]
  | piece :: pieces => dropReturn piece :: linesOfPieces pieces

/-- The lines of a text. -/
def lines (text : List Char) : List (List Char) :=
  linesOfPieces (cuts (· == '\n') text)

/-- Number the members of a list, from `n` upwards. -/
def numberFrom {α : Type} (n : Nat) : List α → List (Nat × α)
  | [] => []
  | x :: xs => (n, x) :: numberFrom (n + 1) xs

/-- Numbering pairs each member with its place. -/
theorem mem_numberFrom {α : Type} {n i : Nat} {x : α} {xs : List α} :
    (i, x) ∈ numberFrom n xs ↔ n ≤ i ∧ xs[i - n]? = some x := by
  induction xs generalizing n with
  | nil => simp [numberFrom]
  | cons y ys ih =>
      rw [numberFrom, List.mem_cons, ih, Prod.mk.injEq]
      rcases Nat.lt_trichotomy n i with hlt | heq | hgt
      · have hsub : i - n = (i - (n + 1)) + 1 := by omega
        have hne : i ≠ n := by omega
        rw [hsub, List.getElem?_cons_succ]
        simp [hne, Nat.succ_le_of_lt hlt, Nat.le_of_lt hlt]
      · subst heq
        have hpast : ¬ n + 1 ≤ n := by omega
        simp [hpast, eq_comm]
      · have hne : i ≠ n := by omega
        have hbelow : ¬ n ≤ i := by omega
        have hbelow' : ¬ n + 1 ≤ i := by omega
        simp [hne, hbelow, hbelow']

/-! ## Laws of cutting -/

theorem cuts_ne_nil (p : Char → Bool) (text : List Char) : cuts p text ≠ [] := by
  cases text with
  | nil => simp [cuts]
  | cons c rest =>
      simp only [cuts]
      split
      · simp
      · split <;> simp

/-- A text without a character of the class is one piece. -/
theorem cuts_of_none {p : Char → Bool} {text : List Char} (h : ∀ c ∈ text, p c = false) :
    cuts p text = [text] := by
  induction text with
  | nil => rfl
  | cons c rest ih =>
      have hc : p c = false := h c (by simp)
      have hr : cuts p rest = [rest] := ih fun d hd => h d (by simp [hd])
      simp [cuts, hc, hr]

/-- Cutting at a separator separates the pieces. -/
theorem cuts_append {p : Char → Bool} {s : Char} (hs : p s = true) (a b : List Char) :
    cuts p (a ++ s :: b) = cuts p a ++ cuts p b := by
  induction a with
  | nil => simp [cuts, hs]
  | cons c rest ih =>
      simp only [List.cons_append, cuts, ih]
      split
      · rfl
      · cases h : cuts p rest with
        | nil => exact absurd h (cuts_ne_nil p rest)
        | cons piece pieces => rfl

/-- No piece holds a character of the class. -/
theorem not_of_mem_cuts {p : Char → Bool} {text piece : List Char} (h : piece ∈ cuts p text)
    {c : Char} (hc : c ∈ piece) : p c = false := by
  induction text generalizing piece with
  | nil =>
      simp only [cuts, List.mem_singleton] at h
      simp [h] at hc
  | cons d rest ih =>
      simp only [cuts] at h
      split at h
      · rcases List.mem_cons.mp h with rfl | h
        · simp at hc
        · exact ih h hc
      · rename_i hd
        cases hr : cuts p rest with
        | nil => exact absurd hr (cuts_ne_nil p rest)
        | cons first others =>
            rw [hr] at h
            rcases List.mem_cons.mp h with rfl | h
            · rcases List.mem_cons.mp hc with rfl | hc
              · simpa using hd
              · exact ih (by simp [hr]) hc
            · exact ih (by simp [hr, h]) hc

/-- A text is cut at a character of the class, and none stands before it. -/
theorem eq_of_cutOnce {p : Char → Bool} {text before after : List Char}
    (h : cutOnce p text = some (before, after)) :
    ∃ s, p s = true ∧ text = before ++ s :: after ∧ ∀ c ∈ before, p c = false := by
  induction text generalizing before with
  | nil => simp [cutOnce] at h
  | cons c rest ih =>
      rw [cutOnce] at h
      split at h
      · next hc =>
          cases h
          exact ⟨c, hc, rfl, by simp⟩
      · next hc =>
          obtain ⟨⟨found, others⟩, hrest, hsame⟩ := Option.map_eq_some_iff.mp h
          cases hsame
          obtain ⟨s, hs, rfl, hfound⟩ := ih hrest
          refine ⟨s, hs, rfl, fun d hd => ?_⟩
          rcases List.mem_cons.mp hd with rfl | hd
          · exact Bool.eq_false_iff.mpr hc
          · exact hfound d hd

/-- A text is cut at the first character of the class. -/
theorem cutOnce_append {p : Char → Bool} {s : Char} (hs : p s = true) {before : List Char}
    (h : ∀ c ∈ before, p c = false) (after : List Char) :
    cutOnce p (before ++ s :: after) = some (before, after) := by
  induction before with
  | nil => rw [List.nil_append, cutOnce, if_pos hs]
  | cons c before ih =>
      obtain ⟨hc, hbefore⟩ := List.forall_mem_cons.mp h
      rw [List.cons_append, cutOnce, if_neg (Bool.eq_false_iff.mp hc), ih hbefore, Option.map_some]

theorem squeeze_dropWhile (text : List Char) :
    squeeze (text.dropWhile isBlank) = squeeze text := by
  induction text with
  | nil => rfl
  | cons c rest ih =>
      rw [List.dropWhile_cons]
      split
      · next hc => rw [ih, squeeze, squeeze, List.filter_cons_of_neg (by simp [hc])]
      · rfl

theorem squeeze_reverse (text : List Char) : squeeze text.reverse = (squeeze text).reverse :=
  List.filter_reverse

/-- Without blanks it is the same whether the outer ones were gone before. -/
theorem squeeze_trim (text : List Char) : squeeze (trim text) = squeeze text := by
  unfold trim
  rw [squeeze_reverse, squeeze_dropWhile, squeeze_reverse, squeeze_dropWhile, List.reverse_reverse]

/-- The first piece of a text without blanks is what stands before its first cut, without
blanks. -/
theorem head?_cuts_squeeze {p : Char → Bool} {text before after : List Char}
    (hp : ∀ c, p c = true → isBlank c = false) (h : cutOnce p text = some (before, after)) :
    (cuts p (squeeze text)).head? = some (squeeze before) := by
  obtain ⟨s, hs, rfl, hbefore⟩ := eq_of_cutOnce h
  have hsplit : squeeze (before ++ s :: after) = squeeze before ++ s :: squeeze after := by
    unfold squeeze
    rw [List.filter_append, List.filter_cons_of_pos (by simp [hp s hs])]
  have hfirst : cuts p (squeeze before) = [squeeze before] :=
    cuts_of_none fun c hc => hbefore c (List.mem_filter.mp hc).1
  rw [hsplit, cuts_append hs, hfirst, List.singleton_append, List.head?_cons]

/-! ## The same on strings -/

/-- The words of a string. -/
def wordsOf (text : String) : List String := (words text.toList).map String.ofList

/-- The lines of a string. -/
def linesOf (text : String) : List String := (lines text.toList).map String.ofList

/-- The fields of a string between the separators `c`. -/
def fieldsOf (c : Char) (text : String) : List String :=
  (cuts (· == c) text.toList).map String.ofList

/-- A string without the blanks at its two ends. -/
def trimmed (text : String) : String := String.ofList (trim text.toList)

/-- A string without any blank. -/
def squeezed (text : String) : String := String.ofList (squeeze text.toList)

/-- Whether the word `mark` occurs in a string. -/
def contains (text mark : String) : Bool := occurs mark.toList text.toList

/-- A string cut at the first character `c`. -/
def splitAt? (c : Char) (text : String) : Option (String × String) :=
  (cutOnce (· == c) text.toList).map fun (before, after) =>
    (String.ofList before, String.ofList after)

/-- Whether a line without its outer blanks says nothing: it is empty, or begins
with the mark `//` of a comment. -/
def isRemark (line : String) : Bool := line.isEmpty || "//".isPrefixOf line

/-- A string is cut at the first `c` in it. -/
theorem splitAt?_eq_some_iff {c : Char} {text before after : String} :
    splitAt? c text = some (before, after) ↔
      text.toList = before.toList ++ c :: after.toList ∧ c ∉ before.toList := by
  unfold splitAt?
  rw [Option.map_eq_some_iff]
  constructor
  · rintro ⟨⟨first, rest⟩, hcut, hsame⟩
    cases hsame
    obtain ⟨s, hs, htext, hnone⟩ := eq_of_cutOnce hcut
    rw [String.toList_ofList, String.toList_ofList, htext, eq_of_beq hs]
    exact ⟨rfl, fun hmem => Bool.eq_false_iff.mp (hnone c hmem) (beq_self_eq_true c)⟩
  · rintro ⟨htext, hnone⟩
    have hbefore : ∀ d ∈ before.toList, (d == c) = false := by
      intro d hd
      refine beq_eq_false_iff_ne.mpr ?_
      rintro rfl
      exact hnone hd
    have hcut := cutOnce_append (p := (· == c)) (beq_self_eq_true c) hbefore after.toList
    rw [← htext] at hcut
    exact ⟨_, hcut, Prod.ext String.ofList_toList String.ofList_toList⟩

theorem squeezed_trimmed (text : String) : squeezed (trimmed text) = squeezed text := by
  unfold squeezed trimmed
  rw [String.toList_ofList, squeeze_trim]

/-- The first field of a string without blanks is what stands before its first separator. -/
theorem head?_fieldsOf_squeezed {c : Char} {text before after : String}
    (hc : isBlank c = false) (h : splitAt? c text = some (before, after)) :
    (fieldsOf c (squeezed text)).head? = some (squeezed before) := by
  unfold splitAt? at h
  obtain ⟨⟨first, rest⟩, hcut, hsame⟩ := Option.map_eq_some_iff.mp h
  cases hsame
  have hp : ∀ d, (d == c) = true → isBlank d = false := fun d hd => eq_of_beq hd ▸ hc
  unfold fieldsOf squeezed
  rw [String.toList_ofList, List.head?_map, head?_cuts_squeeze hp hcut, Option.map_some,
    String.toList_ofList]

/-! ## Lists in a text -/

/-- Texts between square brackets, as `[2, 3]`. -/
def bracketed (items : List String) : String :=
  "[" ++ ", ".intercalate items ++ "]"

/-- Texts between braces, as `{2, 3}`. -/
def braced (items : List String) : String :=
  "\x7b" ++ ", ".intercalate items ++ "\x7d"

end CoreArray.Text
