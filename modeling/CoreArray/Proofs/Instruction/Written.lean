import CoreArray.Instruction
import CoreArray.Proofs.Results
import CoreArray.Proofs.Text.Numerals
set_option autoImplicit false

/-!
# Instructions that are written and read back (SPEC §10.6)

The text of an instruction is a line of words: the head, the configuration and the operands.
The words are found again if there is no blank in any of them, the head is parted again if
there is no point in the unit, and the configuration is told from an operand if it is no
number.  These conditions make up `IsWellFormed`.

They are met by every instruction that was read (`isWellFormed_of_read`), and under them an
instruction reads back (`read_text`).  So they are also necessary: `text_reads_back`.
-/

namespace CoreArray.Instruction

/-- Whether the parts of an instruction are told apart in its text. -/
structure IsWellFormed (i : Instruction) : Prop where
  unit : Text.IsWord i.unit
  /-- The head is parted at its first point. -/
  point : '.' ∉ i.unit.toList
  opcode : Text.IsWord i.opcode
  config : ∀ word ∈ i.config, Text.IsWord word ∧ Text.signed? word = none

/-! ## Heads -/

section Heads

variable {word unit opcode : String}

/-- A head is read as the unit and the opcode of which it is made. -/
theorem readHead_eq_some_iff : readHead word = some (unit, opcode) ↔
    word = unit ++ "." ++ opcode ∧ '.' ∉ unit.toList ∧ unit.toList ≠ [] ∧ opcode.toList ≠ [] := by
  have hempty : ∀ text : String, text.isEmpty = false ↔ text.toList ≠ [] := by
    intro text
    rw [Bool.eq_false_iff, Ne, String.isEmpty_iff, ← String.toList_eq_nil_iff]
  rw [← and_assoc, ← Text.splitAt?_dot_eq_some_iff, ← hempty, ← hempty, ← Bool.or_eq_false_iff]
  unfold readHead
  cases Text.splitAt? '.' word with
  | none => simp
  | some parts =>
      obtain ⟨first, rest⟩ := parts
      dsimp only
      split
      · next hnone =>
          refine iff_of_false (fun h => nomatch h) ?_
          rintro ⟨hsame, hsome⟩
          cases hsame
          exact Bool.eq_false_iff.mp hsome hnone
      · next hsome =>
          refine ⟨fun hsame => ⟨hsame, ?_⟩, And.left⟩
          cases hsame
          exact Bool.eq_false_iff.mpr hsome

/-- A head is a word if both its parts are. -/
theorem isWord_head (hunit : Text.IsWord unit) (hopcode : Text.IsWord opcode) :
    Text.IsWord (unit ++ "." ++ opcode) := by
  constructor
  · rw [Text.toList_dotted]
    simp
  · rw [Text.toList_dotted]
    refine List.forall_mem_append.mpr ⟨hunit.not_blank, ?_⟩
    exact List.forall_mem_cons.mpr ⟨by decide, hopcode.not_blank⟩

/-- The parts of a word that is a head are words. -/
theorem isWord_of_readHead (h : readHead word = some (unit, opcode)) (hword : Text.IsWord word) :
    Text.IsWord unit ∧ Text.IsWord opcode := by
  obtain ⟨rfl, -, hunit, hopcode⟩ := readHead_eq_some_iff.mp h
  have hblank := hword.not_blank
  rw [Text.toList_dotted] at hblank
  obtain ⟨hleft, hright⟩ := List.forall_mem_append.mp hblank
  exact ⟨⟨hunit, hleft⟩, ⟨hopcode, (List.forall_mem_cons.mp hright).2⟩⟩

end Heads

/-! ## Arguments -/

section Arguments

variable {words : List String} {operands : List Int} {config : Option String}

/-- Operands in range are read back from their texts. -/
theorem readOperands_map_toString (h : ∀ operand ∈ operands, Text.IsSigned operand) :
    readOperands (operands.map toString) = .ok operands := by
  induction operands with
  | nil => rfl
  | cons operand operands ih =>
      obtain ⟨hoperand, hoperands⟩ := List.forall_mem_cons.mp h
      rw [List.map_cons, readOperands, Text.signed?_toString hoperand]
      dsimp only
      rw [ih hoperands]
      rfl

/-- Operands that are read are in range. -/
theorem isSigned_of_readOperands (h : readOperands words = .ok operands) :
    ∀ operand ∈ operands, Text.IsSigned operand := by
  induction words generalizing operands with
  | nil =>
      cases h
      exact fun operand hmem => absurd hmem List.not_mem_nil
  | cons word words ih =>
      rw [readOperands] at h
      split at h
      · nomatch h
      · next value hvalue =>
          obtain ⟨rest, hrest, rfl⟩ := ok_of_map h
          exact List.forall_mem_cons.mpr ⟨Text.isSigned_of_signed? hvalue, ih hrest⟩

/-- A configuration is told from the operands behind it if it is no number. -/
theorem readArguments_arguments {i : Instruction}
    (hconfig : ∀ word ∈ i.config, Text.signed? word = none)
    (hoperands : ∀ operand ∈ i.operands, Text.IsSigned operand) :
    readArguments i.arguments = .ok (i.config, i.operands) := by
  have hread := readOperands_map_toString hoperands
  unfold arguments
  cases hcase : i.config with
  | some word =>
      rw [Option.toList_some, List.singleton_append, readArguments,
        hconfig word hcase]
      dsimp only
      rw [hread]
      rfl
  | none =>
      rw [Option.toList_none, List.nil_append]
      cases hall : i.operands with
      | nil => rfl
      | cons operand operands =>
          rw [hall, List.map_cons, readOperands] at hread
          rw [List.map_cons, readArguments]
          rw [hall] at hoperands
          rw [Text.signed?_toString (hoperands operand List.mem_cons_self)] at hread ⊢
          dsimp only at hread ⊢
          obtain ⟨rest, hrest, hsame⟩ := ok_of_map hread
          rw [hrest, (List.cons.inj hsame).2]
          rfl

/-- A configuration that is read is one of the words and no number. -/
theorem of_readArguments (h : readArguments words = .ok (config, operands)) :
    (∀ word ∈ config, word ∈ words ∧ Text.signed? word = none) ∧
      ∀ operand ∈ operands, Text.IsSigned operand := by
  unfold readArguments at h
  split at h
  · cases h
    exact ⟨fun word hmem => absurd hmem (Option.not_mem_none word),
      fun operand hmem => absurd hmem List.not_mem_nil⟩
  · next word words =>
      split at h
      · next hnone =>
          obtain ⟨rest, hrest, hsame⟩ := ok_of_map h
          cases hsame
          refine ⟨fun other hmem => ?_, isSigned_of_readOperands hrest⟩
          rw [← Option.some.inj hmem]
          exact ⟨List.mem_cons_self, hnone⟩
      · next value hvalue =>
          obtain ⟨rest, hrest, hsame⟩ := ok_of_map h
          cases hsame
          refine ⟨fun word hmem => absurd hmem (Option.not_mem_none word), ?_⟩
          exact List.forall_mem_cons.mpr
            ⟨Text.isSigned_of_signed? hvalue, isSigned_of_readOperands hrest⟩

end Arguments

/-! ## Instructions -/

section Texts

variable {i : Instruction} {text : String}

/-- The words of the text of an instruction are its head and its arguments. -/
theorem IsWellFormed.wordsOf_text (h : i.IsWellFormed) :
    Text.wordsOf i.text = (i.unit ++ "." ++ i.opcode) :: i.arguments := by
  refine Text.wordsOf_joined (List.forall_mem_cons.mpr ⟨isWord_head h.unit h.opcode, ?_⟩)
  refine List.forall_mem_append.mpr ⟨fun word hmem => ?_, List.forall_mem_map.mpr fun operand _ =>
    Text.isWord_toString operand⟩
  exact (h.config word (Option.mem_toList.mp hmem)).1

/-- A well-formed instruction with operands in range reads back. -/
theorem read_text (h : i.IsWellFormed) (hoperands : ∀ operand ∈ i.operands, Text.IsSigned operand) :
    read i.text = .ok i := by
  have hhead : readHead (i.unit ++ "." ++ i.opcode) = some (i.unit, i.opcode) :=
    readHead_eq_some_iff.mpr ⟨rfl, h.point, h.unit.ne_nil, h.opcode.ne_nil⟩
  have harguments : readArguments i.arguments = .ok (i.config, i.operands) :=
    readArguments_arguments (fun word hmem => (h.config word hmem).2) hoperands
  unfold read
  rw [h.wordsOf_text]
  dsimp only
  rw [hhead]
  dsimp only
  rw [harguments]

/-- Whatever is read is well formed and has operands in range. -/
theorem isWellFormed_of_read (h : read text = .ok i) :
    i.IsWellFormed ∧ ∀ operand ∈ i.operands, Text.IsSigned operand := by
  have hwords : ∀ word ∈ Text.wordsOf text, Text.IsWord word :=
    fun word hmem => Text.isWord_of_mem_wordsOf hmem
  unfold read at h
  split at h
  · nomatch h
  · next head words hsplit =>
      rw [hsplit] at hwords
      obtain ⟨hword, hrest⟩ := List.forall_mem_cons.mp hwords
      split at h
      · nomatch h
      · next unit opcode hhead =>
          split at h
          · nomatch h
          · next config operands harguments =>
              cases h
              obtain ⟨hunit, hopcode⟩ := isWord_of_readHead hhead hword
              obtain ⟨-, hpoint, -⟩ := readHead_eq_some_iff.mp hhead
              obtain ⟨hconfig, hoperands⟩ := of_readArguments harguments
              refine ⟨⟨hunit, hpoint, hopcode, fun word hmem => ?_⟩, hoperands⟩
              obtain ⟨hin, hnumber⟩ := hconfig word hmem
              exact ⟨hrest word hin, hnumber⟩

end Texts

/-- An instruction whose operands are signed 64-bit numbers reads back from its text exactly
if it is well formed, and so does every instruction that was read from any text. -/
theorem text_reads_back :
    (∀ i : Instruction, (∀ operand ∈ i.operands, Text.IsSigned operand) →
      (read i.text = .ok i ↔ i.IsWellFormed)) ∧
    ∀ (text : String) (i : Instruction), read text = .ok i → read i.text = .ok i := by
  constructor
  · intro i hoperands
    exact ⟨fun hread => (isWellFormed_of_read hread).1, fun h => read_text h hoperands⟩
  · intro text i hread
    obtain ⟨hformed, hoperands⟩ := isWellFormed_of_read hread
    exact read_text hformed hoperands

/-- An instruction with a point in its opcode, and a configuration that has digits only but
is out of range. -/
def bigConfig : Instruction :=
  { unit := "ACC", opcode := "cal.sum", config := some "9223372036854775808",
    operands := [-9223372036854775808, 7] }

/-- The same with a configuration that is a number. -/
def numericConfig : Instruction := { bigConfig with config := some "+7" }

/-- The one reads back, also from a text with more blanks and signs; the other is read as an
instruction with one more operand. -/
theorem big_config_reads_back :
    ((∀ operand ∈ bigConfig.operands, Text.IsSigned operand) ∧ bigConfig.IsWellFormed ∧
      read " ACC.cal.sum\t9223372036854775808 -9223372036854775808\n+07" = .ok bigConfig ∧
      read bigConfig.text = .ok bigConfig) ∧
    (∀ operand ∈ numericConfig.operands, Text.IsSigned operand) ∧ ¬numericConfig.IsWellFormed := by
  have hsigned : ∀ operand ∈ bigConfig.operands, Text.IsSigned operand := by decide
  have hspaced : read " ACC.cal.sum\t9223372036854775808 -9223372036854775808\n+07" =
      .ok bigConfig := toOption_eq_some_iff.mp (by decide +kernel)
  have hback : read bigConfig.text = .ok bigConfig := text_reads_back.2 _ bigConfig hspaced
  refine ⟨⟨hsigned, (text_reads_back.1 bigConfig hsigned).mp hback, hspaced, hback⟩, hsigned,
    fun hformed => ?_⟩
  have hother : read numericConfig.text = .ok numericConfig :=
    (text_reads_back.1 numericConfig hsigned).mpr hformed
  exact absurd (toOption_eq_some_iff.mpr hother) (by decide +kernel)

end CoreArray.Instruction
