import CoreArray.Text.Numeral
import CoreArray.Proofs.Text.Words
set_option autoImplicit false

/-!
# Decimal integers that are written and read

An integer is written as its decimal digits, with `-` before those of a negative one.  Its
text is a word (`isWord_toString`) and reads back as the integer if it is in the signed range
(`signed?_toString`).
-/

namespace CoreArray.Text

/-- Whether an integer is in the range of the signed sort. -/
def IsSigned (i : Int) : Prop := -(maxSigned : Int) - 1 ≤ i ∧ i ≤ maxSigned

instance (i : Int) : Decidable (IsSigned i) := inferInstanceAs (Decidable (_ ∧ _))

theorem isSigned_natCast {n : Nat} (h : n ≤ maxSigned) : IsSigned n := by
  unfold IsSigned
  omega

theorem digitsFrom_of_isDigit {digits : List Char} (h : ∀ c ∈ digits, c.isDigit = true)
    (read : Nat) : digitsFrom read digits = some (Nat.ofDigitChars 10 digits read) := by
  induction digits generalizing read with
  | nil => rfl
  | cons c rest ih =>
      obtain ⟨hc, hrest⟩ := List.forall_mem_cons.mp h
      rw [digitsFrom, if_pos hc, ih hrest, Nat.ofDigitChars_cons]

theorem isDigit_toDigits (n : Nat) : ∀ c ∈ Nat.toDigits 10 n, c.isDigit = true :=
  fun _ hc => Nat.isDigit_of_mem_toDigits (by decide) (by decide) hc

theorem readDigits_toDigits (n : Nat) : readDigits (Nat.toDigits 10 n) = some n := by
  have hread := digitsFrom_of_isDigit (isDigit_toDigits n) 0
  rw [Nat.ofDigitChars_ten_toDigits] at hread
  unfold readDigits
  split
  · next hnil => exact absurd hnil Nat.toDigits_ne_nil
  · next hcons => rw [← hcons, hread]

/-- Digits without a sign are read as they are. -/
theorem readSigned_of_isDigit {digits : List Char} (h : ∀ c ∈ digits, c.isDigit = true) :
    readSigned digits = (readDigits digits).bind fun n => inSignedRange n := by
  unfold readSigned
  split
  · exact absurd (h '+' List.mem_cons_self) (by decide)
  · exact absurd (h '-' List.mem_cons_self) (by decide)
  · rfl

theorem toList_toString (i : Int) : (toString i).toList =
    if 0 ≤ i then Nat.toDigits 10 i.toNat else '-' :: Nat.toDigits 10 (-i).toNat := by
  rw [Int.toString_eq_repr, Int.repr_eq_if]
  split
  · exact Nat.toList_repr
  · rw [String.toList_append, Nat.toList_repr]
    rfl

/-- An integer in range is read back from its text. -/
theorem signed?_toString {i : Int} (h : IsSigned i) : signed? (toString i) = some i := by
  have hrange : inSignedRange i = some i := if_pos h
  unfold signed?
  rw [toList_toString]
  split
  · next hnonneg =>
      rw [readSigned_of_isDigit (isDigit_toDigits _), readDigits_toDigits, Option.bind_some,
        Int.toNat_of_nonneg hnonneg, hrange]
  · next hneg =>
      have hvalue : -((-i).toNat : Int) = i := by omega
      rw [readSigned, readDigits_toDigits, Option.bind_some, hvalue, hrange]

theorem isSigned_of_inSignedRange {i j : Int} (h : inSignedRange i = some j) : IsSigned j := by
  unfold inSignedRange at h
  split at h
  · next hrange => exact Option.some.inj h ▸ hrange
  · nomatch h

/-- Only integers in range are read. -/
theorem isSigned_of_signed? {text : String} {i : Int} (h : signed? text = some i) :
    IsSigned i := by
  unfold signed? readSigned at h
  split at h
  all_goals
    obtain ⟨n, -, hrange⟩ := Option.bind_eq_some_iff.mp h
    exact isSigned_of_inSignedRange hrange

theorem isBlank_of_isDigit {c : Char} (h : c.isDigit = true) : isBlank c = false := by
  have hrange : 48 ≤ c.toNat ∧ c.toNat ≤ 57 := by
    unfold Char.isDigit at h
    rw [Bool.and_eq_true, decide_eq_true_eq, decide_eq_true_eq] at h
    exact h
  unfold isBlank
  simp only [Bool.or_eq_false_iff, Bool.and_eq_false_iff, decide_eq_false_iff_not,
    beq_eq_false_iff_ne]
  omega

theorem isWord_toString (i : Int) : IsWord (toString i) := by
  have hdigits : ∀ n : Nat, ∀ c ∈ Nat.toDigits 10 n, isBlank c = false :=
    fun n c hc => isBlank_of_isDigit (isDigit_toDigits n c hc)
  constructor
  · rw [toList_toString]
    split
    · exact Nat.toDigits_ne_nil
    · exact List.cons_ne_nil _ _
  · rw [toList_toString]
    split
    · exact hdigits _
    · exact List.forall_mem_cons.mpr ⟨by decide, hdigits _⟩

end CoreArray.Text
