import Mathlib.Data.List.Nodup
import CoreArray.Contraction
import CoreArray.Proofs.Results
import CoreArray.Proofs.Words
set_option autoImplicit false

/-!
# Sizes of indices (SPEC §4.3)

An index has the size of the dimension that it stands for in the first operand that carries
it.  The sizes that a contraction multiplies are sizes of letters in this sense: those of the
output (`outputSizes_eq_ok_iff`) and, for two operands without repeated letters, those that
both carry and the output misses (`pairSizes_eq_ok_iff`).  `einsum_eq_ok_iff` says when a
contraction succeeds, and with what.
-/

namespace CoreArray

namespace Contraction

/-- The dimension for which an index stands in an operand. -/
def Operand.size? (operand : Operand) (index : Char) : Option Nat :=
  operand.tensor.dims[operand.indices.idxOf index]?

/-- The size of an index, if an operand carries it and has a dimension for it. -/
def size? (operands : List Operand) (index : Char) : Option Nat :=
  (operands.find? fun operand => operand.indices.contains index).bind (Operand.size? · index)

/-- The size of an index that has one. -/
def sizeOf (operands : List Operand) (index : Char) : Nat := (size? operands index).getD 0

/-- Letters beside a tensor with the shape that it has in a table. -/
def operandOf (table : TensorTable) (indices : List Char) (id : TensorId) : Operand :=
  ⟨indices, ⟨id, table.dimsOf id⟩⟩

/-- The operands of a contraction: the letters of the inputs beside the tensors. -/
def operandsOf (table : TensorTable) (config : Config) (inputs : List TensorId) : List Operand :=
  List.zipWith (operandOf table) config.inputs inputs

/-- Of some letters, those that an operand carries and the output misses. -/
def sharedLetters (output : List Char) (first : Operand) (letters : List Char) : List Char :=
  letters.filter fun index => index ∈ first.indices ∧ index ∉ output

theorem mem_sharedLetters {output letters : List Char} {first : Operand} {index : Char} :
    index ∈ sharedLetters output first letters ↔
      index ∈ letters ∧ index ∈ first.indices ∧ index ∉ output := by
  unfold sharedLetters
  rw [List.mem_filter, decide_eq_true_eq]

/-- Sizes are found for letters if every letter has one, and they are those of the letters. -/
theorem map_eq_map_some_iff {letters : List Char} {size : Char → Option Nat} {sizes : List Nat} :
    letters.map size = sizes.map some ↔
      (∀ index ∈ letters, (size index).isSome) ∧
        sizes = letters.map fun index => (size index).getD 0 := by
  constructor
  · intro h
    refine ⟨fun index hindex => ?_, ?_⟩
    · obtain ⟨found, -, hfound⟩ := List.mem_map.mp (h ▸ List.mem_map_of_mem hindex)
      rw [← hfound, Option.isSome_some]
    · have hget := congrArg (List.map fun found => Option.getD found 0) h
      rw [List.map_map, List.map_map] at hget
      exact (List.map_id sizes).symm.trans hget.symm
  · rintro ⟨hall, rfl⟩
    rw [List.map_map]
    refine List.map_congr_left fun index hindex => ?_
    obtain ⟨found, hfound⟩ := Option.isSome_iff_exists.mp (hall index hindex)
    rw [Function.comp_apply, hfound, Option.getD_some]

/-! ## Looking sizes up -/

theorem sizeAt_eq_ok_iff {operand : Operand} {position size : Nat} {index : Char} :
    operand.sizeAt position index = .ok size ↔ operand.tensor.dims[position]? = some size := by
  unfold Operand.sizeAt
  cases operand.tensor.dims[position]? <;> simp

/-- Letters that are different are numbered by their places. -/
theorem numberFrom_of_nodup {letters : List Char} (h : letters.Nodup) :
    Text.numberFrom 0 letters = letters.map fun index => (letters.idxOf index, index) := by
  suffices hfrom : ∀ rest before : List Char, letters = before ++ rest →
      Text.numberFrom before.length rest = rest.map fun index => (letters.idxOf index, index) from
    hfrom letters [] rfl
  intro rest
  induction rest with
  | nil => intro _ _; rfl
  | cons index rest ih =>
      intro before hletters
      have hfresh : index ∉ before := by
        rw [hletters, List.nodup_append] at h
        exact fun hmem => h.2.2 index hmem index List.mem_cons_self rfl
      have hplace : letters.idxOf index = before.length := by
        rw [hletters, List.idxOf_append, if_neg hfresh, List.idxOf_cons_self, Nat.zero_add]
      have hnext := ih (before ++ [index]) (by rw [hletters, List.append_assoc]; rfl)
      rw [List.length_append, List.length_singleton] at hnext
      rw [Text.numberFrom, List.map_cons, hplace, hnext]

theorem size?_eq_bind_carrier? (operands : List Operand) (index : Char) :
    size? operands index =
      (carrier? index operands).bind fun carrier => carrier.1.tensor.dims[carrier.2]? := by
  induction operands with
  | nil => rfl
  | cons operand operands ih =>
      have hfind : size? (operand :: operands) index =
          if operand.indices.contains index then operand.size? index
          else size? operands index := by
        unfold size?
        rw [List.find?_cons]
        split
        · next hcarried => rw [hcarried, if_pos rfl, Option.bind_some]
        · next habsent => rw [habsent, if_neg Bool.false_ne_true]
      rw [hfind, carrier?]
      cases hfound : operand.indices.idxOf? index with
      | none =>
          have habsent : index ∉ operand.indices := List.idxOf?_eq_none_iff.mp hfound
          rw [if_neg (by rw [List.contains_iff_mem]; exact habsent), ih]
      | some position =>
          have hcarried : index ∈ operand.indices :=
            List.isSome_idxOf?.mp (by rw [hfound, Option.isSome_some])
          rw [if_pos (List.contains_iff_mem.mpr hcarried), Option.bind_some, Operand.size?,
            List.idxOf_eq_getD_idxOf?, hfound, Option.getD_some]

/-- The sizes of the output letters are found if every one of them has a size. -/
theorem outputSizes_eq_ok_iff {text : String} {operands : List Operand} {letters : List Char}
    {sizes : List Nat} :
    outputSizes text operands letters = .ok sizes ↔
      letters.map (size? operands) = sizes.map some := by
  induction letters generalizing sizes with
  | nil => cases sizes <;> simp [outputSizes]
  | cons index letters ih =>
      rw [outputSizes, List.map_cons, size?_eq_bind_carrier?]
      cases carrier? index operands with
      | none => cases sizes <;> simp
      | some carrier =>
          rw [Option.bind_some]
          constructor
          · intro h
            obtain ⟨size, hsize, h⟩ := ok_of_bind h
            obtain ⟨rest, hrest, h⟩ := ok_of_bind h
            cases h
            rw [List.map_cons, ← ih.mp hrest, sizeAt_eq_ok_iff.mp hsize]
          · intro h
            obtain ⟨size, rest, rfl, hsize, hrest⟩ := List.map_eq_cons_iff.mp h.symm
            have hfound : carrier.1.sizeAt carrier.2 index = .ok size :=
              sizeAt_eq_ok_iff.mpr hsize.symm
            dsimp only
            rw [hfound, ih.mpr hrest.symm]
            rfl

/-- A letter that the first operand misses or the output carries is passed over. -/
theorem pairSizes_cons_of_not_shared {output : List Char} {first second : Operand} {index : Char}
    (h : ¬(index ∈ first.indices ∧ index ∉ output)) (position : Nat)
    (letters : List (Nat × Char)) :
    pairSizes output first second ((position, index) :: letters) =
      pairSizes output first second letters := by
  rw [pairSizes]
  cases hfound : first.indices.idxOf? index with
  | none => rfl
  | some place =>
      have hcarried : index ∈ first.indices :=
        List.isSome_idxOf?.mp (by rw [hfound, Option.isSome_some])
      have hout : index ∈ output := Decidable.not_not.mp fun hmisses => h ⟨hcarried, hmisses⟩
      exact if_pos (List.contains_iff_mem.mpr hout)

/-- A contracted letter needs a size in both operands, and the same one. -/
theorem pairSizes_cons_eq_ok_iff {output : List Char} {first second : Operand} {index : Char}
    (hcarried : index ∈ first.indices) (hout : index ∉ output) {letters : List (Nat × Char)}
    {sizes : List Nat} :
    pairSizes output first second ((second.indices.idxOf index, index) :: letters) = .ok sizes ↔
      ∃ size others, first.size? index = some size ∧ second.size? index = some size ∧
        pairSizes output first second letters = .ok others ∧ sizes = size :: others := by
  obtain ⟨position, hfound⟩ :=
    Option.isSome_iff_exists.mp (List.isSome_idxOf?.mpr hcarried)
  have hfirst (size : Nat) :
      first.sizeAt position index = .ok size ↔ first.size? index = some size := by
    rw [sizeAt_eq_ok_iff, Operand.size?, List.idxOf_eq_getD_idxOf?, hfound, Option.getD_some]
  have hsecond (size : Nat) :
      second.sizeAt (second.indices.idxOf index) index = .ok size ↔
        second.size? index = some size := sizeAt_eq_ok_iff
  rw [pairSizes, hfound]
  dsimp only
  rw [if_neg fun hin => hout (List.contains_iff_mem.mp hin)]
  constructor
  · intro h
    obtain ⟨size, hsize, h⟩ := ok_of_bind h
    obtain ⟨other, hother, h⟩ := ok_of_bind h
    split at h
    · next hsame =>
        obtain ⟨others, hothers, h⟩ := ok_of_bind h
        exact ⟨size, others, (hfirst size).mp hsize, (hsecond size).mp (hsame ▸ hother), hothers,
          (Except.ok.inj h).symm⟩
    · simp at h
  · rintro ⟨size, others, hsize, hother, hothers, rfl⟩
    rw [(hfirst size).mpr hsize, (hsecond size).mpr hother, hothers]
    exact if_pos rfl

/-- The sizes contracted between two operands, for some letters of the second. -/
theorem pairSizes_map_eq_ok_iff {output letters : List Char} {first second : Operand}
    {sizes : List Nat} :
    pairSizes output first second
        (letters.map fun index => (second.indices.idxOf index, index)) = .ok sizes ↔
      (sharedLetters output first letters).map first.size? = sizes.map some ∧
        (sharedLetters output first letters).map second.size? = sizes.map some := by
  induction letters generalizing sizes with
  | nil => cases sizes <;> simp [pairSizes, sharedLetters]
  | cons index letters ih =>
      rw [List.map_cons]
      by_cases hshared : index ∈ first.indices ∧ index ∉ output
      · have hkeep : sharedLetters output first (index :: letters) =
            index :: sharedLetters output first letters :=
          List.filter_cons_of_pos (decide_eq_true hshared)
        rw [pairSizes_cons_eq_ok_iff hshared.1 hshared.2, hkeep, List.map_cons, List.map_cons]
        constructor
        · rintro ⟨size, others, hsize, hother, hothers, rfl⟩
          obtain ⟨hmap, hmapSecond⟩ := ih.mp hothers
          rw [List.map_cons, hsize, hother, hmap, hmapSecond]
          exact ⟨rfl, rfl⟩
        · rintro ⟨hmap, hmapSecond⟩
          obtain ⟨size, others, rfl, hsize, hothers⟩ := List.map_eq_cons_iff.mp hmap.symm
          rw [List.map_cons, List.cons.injEq] at hmapSecond
          exact ⟨size, others, hsize.symm, hmapSecond.1, ih.mpr ⟨hothers.symm, hmapSecond.2⟩, rfl⟩
      · have hskip : sharedLetters output first (index :: letters) =
            sharedLetters output first letters :=
          List.filter_cons_of_neg (by simpa using hshared)
        rw [pairSizes_cons_of_not_shared hshared, hskip]
        exact ih

/-- The sizes contracted between two operands are found if both give the same size to each
letter that they share and the output misses. -/
theorem pairSizes_eq_ok_iff {output : List Char} {first second : Operand}
    (hnodup : second.indices.Nodup) {sizes : List Nat} :
    pairSizes output first second (Text.numberFrom 0 second.indices) = .ok sizes ↔
      (sharedLetters output first second.indices).map first.size? = sizes.map some ∧
        (sharedLetters output first second.indices).map second.size? = sizes.map some := by
  rw [numberFrom_of_nodup hnodup]
  exact pairSizes_map_eq_ok_iff

/-! ## Contractions that succeed -/

theorem einsum_eq_ok_iff {table after : TensorTable} {text : String} {config : Config}
    {output : TensorId} {inputs : List TensorId} {macs : Nat}
    (hread : Config.read text = .ok config) :
    einsum table text output inputs = (.ok macs, after) ↔
      config.inputs.length = inputs.length ∧ ∃ contracted sizes,
        contractedSizes config.output (operandsOf table config inputs) = .ok contracted ∧
        config.output.map (size? (operandsOf table config inputs)) = sizes.map some ∧
        macs = wordProduct (contracted ++ sizes) ∧
        after = table.allocate output (outputDims sizes) := by
  constructor
  · intro h
    unfold einsum at h
    rw [hread] at h
    dsimp only at h
    split at h
    · simp at h
    · next hlength =>
        split at h
        · simp at h
        · next contracted hcontracted =>
            split at h
            · simp at h
            · next sizes hsizes =>
                rw [Prod.mk.injEq, Except.ok.injEq] at h
                obtain ⟨rfl, rfl⟩ := h
                exact ⟨Decidable.not_not.mp hlength, contracted, sizes, hcontracted,
                  outputSizes_eq_ok_iff.mp hsizes, rfl, rfl⟩
  · rintro ⟨hlength, contracted, sizes, hcontracted, hsizes, rfl, rfl⟩
    have hfound : outputSizes text _ _ = .ok sizes := outputSizes_eq_ok_iff.mpr hsizes
    unfold operandsOf operandOf at hcontracted hfound
    unfold einsum
    rw [hread]
    dsimp only
    rw [if_neg (Decidable.not_not.mpr hlength), hcontracted]
    dsimp only
    rw [hfound]

end Contraction

end CoreArray
