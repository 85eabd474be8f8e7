import Mathlib.Algebra.BigOperators.Group.Finset.Basic
import Mathlib.Algebra.Order.BigOperators.Ring.Finset
import CoreArray.Proofs.Contraction.Sizes
set_option autoImplicit false

/-!
# What a contraction counts (SPEC §4.3)

A contraction of several inputs goes from each input to the next one and multiplies the sizes
of the letters that the two share and the output misses.  An index that runs through three
inputs is shared twice, and its size is multiplied twice.

`einsum_count` says what the count is, as a word has it: each contracted index comes in to the
power of the number of neighbouring inputs that share it.  So, where the product fits its word,
it is the count in which every contracted index is taken once only if no index of another size
than one is shared by more than two inputs in a row, or one of the sizes is zero.
-/

namespace CoreArray

namespace Contraction

/-- Each operand, but the last, with the one that follows it. -/
def neighbours (operands : List Operand) : List (Operand × Operand) := operands.zip operands.tail

/-- How many neighbours share an index. -/
def sharings (operands : List Operand) (index : Char) : Nat :=
  (neighbours operands).countP fun pair => index ∈ pair.1.indices ∧ index ∈ pair.2.indices

/-- The indices of all operands. -/
def indicesOf (operands : List Operand) : Finset Char :=
  (operands.flatMap Operand.indices).toFinset

/-- The contracted indices: those that neighbours share and the output misses. -/
def contracted (output : List Char) (operands : List Operand) : Finset Char :=
  (indicesOf operands).filter fun index => index ∉ output ∧ sharings operands index ≠ 0

/-- Whether all operands that carry one of some indices give it the same size. -/
def Agree (operands : List Operand) (indices : Finset Char) : Prop :=
  ∀ operand ∈ operands, ∀ index ∈ indices, index ∈ operand.indices →
    operand.size? index = size? operands index

-- Decided along the indices: there are instances that would run through all characters.
instance (operands : List Operand) (indices : Finset Char) : Decidable (Agree operands indices) :=
  letI (operand : Operand) : Decidable (∀ index ∈ indices, index ∈ operand.indices →
      operand.size? index = size? operands index) := Finset.decidableDforallFinset
  List.decidableBAll _ operands

/-- The elements of an output of distinct indices. -/
def outputCount (output : List Char) (operands : List Operand) : Nat :=
  ∏ index ∈ output.toFinset, sizeOf operands index

/-- The count in which every contracted index is taken once. -/
def countOnce (output : List Char) (operands : List Operand) : Nat :=
  outputCount output operands * ∏ index ∈ contracted output operands, sizeOf operands index

/-! ## The letters that are multiplied -/

/-- The letters that are multiplied, neighbours after neighbours. -/
def multiplied (output : List Char) (operands : List Operand) : List Char :=
  (neighbours operands).flatMap fun pair => sharedLetters output pair.1 pair.2.indices

theorem mem_of_mem_neighbours {operands : List Operand} {pair : Operand × Operand}
    (h : pair ∈ neighbours operands) : pair.1 ∈ operands ∧ pair.2 ∈ operands :=
  ⟨(List.of_mem_zip h).1, List.mem_of_mem_tail (List.of_mem_zip h).2⟩

theorem sharings_ne_zero_iff {operands : List Operand} {index : Char} :
    sharings operands index ≠ 0 ↔
      ∃ pair ∈ neighbours operands, index ∈ pair.1.indices ∧ index ∈ pair.2.indices := by
  unfold sharings
  rw [← Nat.pos_iff_ne_zero, List.countP_pos_iff]
  simp only [decide_eq_true_eq]

/-- The contracted indices are the letters that are multiplied. -/
theorem toFinset_multiplied (output : List Char) (operands : List Operand) :
    (multiplied output operands).toFinset = contracted output operands := by
  ext index
  unfold multiplied contracted indicesOf
  rw [List.mem_toFinset, List.mem_flatMap, Finset.mem_filter, List.mem_toFinset,
    List.mem_flatMap, sharings_ne_zero_iff]
  constructor
  · rintro ⟨pair, hpair, hmem⟩
    obtain ⟨hsecond, hfirst, hout⟩ := mem_sharedLetters.mp hmem
    exact ⟨⟨pair.1, (mem_of_mem_neighbours hpair).1, hfirst⟩, hout, pair, hpair, hfirst, hsecond⟩
  · rintro ⟨-, hout, pair, hpair, hfirst, hsecond⟩
    exact ⟨pair, hpair, mem_sharedLetters.mpr ⟨hsecond, hfirst, hout⟩⟩

/-- Letters that are different are shared once or not at all. -/
theorem count_sharedLetters {output letters : List Char} {first : Operand} {index : Char}
    (hnodup : letters.Nodup) (hout : index ∉ output) :
    (sharedLetters output first letters).count index =
      if index ∈ first.indices ∧ index ∈ letters then 1 else 0 := by
  have hiff : index ∈ sharedLetters output first letters ↔
      index ∈ first.indices ∧ index ∈ letters := by
    rw [mem_sharedLetters]
    tauto
  have hkept : (sharedLetters output first letters).Nodup := hnodup.filter _
  split
  · next hshared => exact List.count_eq_one_of_mem hkept (hiff.mpr hshared)
  · next habsent => exact List.count_eq_zero_of_not_mem (mt hiff.mp habsent)

/-- A contracted index is multiplied once for all neighbours that share it. -/
theorem count_multiplied {output : List Char} {operands : List Operand}
    (hnodup : ∀ operand ∈ operands, operand.indices.Nodup) {index : Char} (hout : index ∉ output) :
    (multiplied output operands).count index = sharings operands index := by
  have hsecond : ∀ pair ∈ neighbours operands, pair.2.indices.Nodup :=
    fun pair hpair => hnodup pair.2 (mem_of_mem_neighbours hpair).2
  unfold multiplied sharings
  generalize neighbours operands = pairs at hsecond
  induction pairs with
  | nil => rfl
  | cons pair pairs ih =>
      obtain ⟨hpair, hpairs⟩ := List.forall_mem_cons.mp hsecond
      rw [List.flatMap_cons, List.count_append, ih hpairs, count_sharedLetters hpair hout,
        List.countP_cons, Nat.add_comm]
      simp only [decide_eq_true_eq]

/-! ## The sizes that are multiplied -/

/-- What is multiplied for two neighbours. -/
def pairCount (output : List Char) (pair : Operand × Operand) : Nat :=
  ∏ index ∈ (pair.1.indices.toFinset ∩ pair.2.indices.toFinset) \ output.toFinset,
    (pair.1.size? index).getD 0

theorem prod_sharedLetters {output : List Char} {pair : Operand × Operand}
    (hnodup : pair.2.indices.Nodup) :
    ((sharedLetters output pair.1 pair.2.indices).map fun index =>
      (pair.1.size? index).getD 0).prod = pairCount output pair := by
  have hkept : (sharedLetters output pair.1 pair.2.indices).Nodup := hnodup.filter _
  have hshared : (sharedLetters output pair.1 pair.2.indices).toFinset =
      (pair.1.indices.toFinset ∩ pair.2.indices.toFinset) \ output.toFinset := by
    ext index
    simp only [List.mem_toFinset, Finset.mem_sdiff, Finset.mem_inter, mem_sharedLetters]
    tauto
  unfold pairCount
  rw [← hshared, List.prod_toFinset _ hkept]

/-- Neighbours give the same size to the letters that they share and the output misses, and
these sizes are multiplied. -/
theorem chainSizes_pairwise {output : List Char} {operands : List Operand} {sizes : List Nat}
    (hnodup : ∀ operand ∈ operands, operand.indices.Nodup)
    (h : chainSizes output operands = .ok sizes) :
    (sizes = (neighbours operands).flatMap fun pair =>
      (sharedLetters output pair.1 pair.2.indices).map fun index =>
        (pair.1.size? index).getD 0) ∧
    ∀ pair ∈ neighbours operands, ∀ index ∈ sharedLetters output pair.1 pair.2.indices,
      ∃ size, pair.1.size? index = some size ∧ pair.2.size? index = some size := by
  induction operands generalizing sizes with
  | nil =>
      rw [chainSizes.eq_def] at h
      cases h
      exact ⟨rfl, by simp [neighbours]⟩
  | cons first operands ih =>
      cases operands with
      | nil =>
          rw [chainSizes.eq_def] at h
          cases h
          exact ⟨rfl, by simp [neighbours]⟩
      | cons second rest =>
          obtain ⟨-, hrest⟩ := List.forall_mem_cons.mp hnodup
          rw [chainSizes] at h
          obtain ⟨shared, hshared, h⟩ := ok_of_bind h
          obtain ⟨others, hothers, h⟩ := ok_of_bind h
          cases h
          obtain ⟨hfirst, hsecond⟩ :=
            (pairSizes_eq_ok_iff (hrest second List.mem_cons_self)).mp hshared
          obtain ⟨hsizes, hagreed⟩ := ih hrest hothers
          have hneighbours : neighbours (first :: second :: rest) =
              (first, second) :: neighbours (second :: rest) := rfl
          rw [hneighbours]
          have hsame := List.map_inj_left.mp (hfirst.trans hsecond.symm)
          obtain ⟨hsome, hfound⟩ := map_eq_map_some_iff.mp hfirst
          refine ⟨by rw [List.flatMap_cons, hfound, hsizes], ?_⟩
          refine List.forall_mem_cons.mpr ⟨fun index hindex => ?_, hagreed⟩
          obtain ⟨size, hsize⟩ := Option.isSome_iff_exists.mp (hsome index hindex)
          exact ⟨size, hsize, (hsame index hindex).symm.trans hsize⟩

/-- Without any agreement, neighbours are counted after neighbours. -/
theorem prod_chainSizes {output : List Char} {operands : List Operand} {sizes : List Nat}
    (hnodup : ∀ operand ∈ operands, operand.indices.Nodup)
    (h : chainSizes output operands = .ok sizes) :
    sizes.prod = ((neighbours operands).map (pairCount output)).prod := by
  rw [(chainSizes_pairwise hnodup h).1, List.flatMap_def, List.prod_flatten, List.map_map]
  refine congrArg List.prod (List.map_congr_left fun pair hpair => ?_)
  exact prod_sharedLetters (hnodup pair.2 (mem_of_mem_neighbours hpair).2)

/-- Where all operands agree, a contracted index comes in once for all neighbours that share
it. -/
theorem prod_chainSizes_of_agree {output : List Char} {operands : List Operand}
    {sizes : List Nat} (hnodup : ∀ operand ∈ operands, operand.indices.Nodup)
    (hagree : Agree operands (contracted output operands))
    (h : chainSizes output operands = .ok sizes) :
    sizes.prod =
      ∏ index ∈ contracted output operands, sizeOf operands index ^ sharings operands index := by
  have hsizes : sizes = (multiplied output operands).map (sizeOf operands) := by
    rw [(chainSizes_pairwise hnodup h).1]
    unfold multiplied
    rw [List.map_flatMap]
    refine List.flatMap_congr fun pair hpair => List.map_congr_left fun index hindex => ?_
    have hcontracted : index ∈ contracted output operands := by
      rw [← toFinset_multiplied, List.mem_toFinset]
      exact List.mem_flatMap.mpr ⟨pair, hpair, hindex⟩
    have hcarried : index ∈ pair.1.indices := (mem_sharedLetters.mp hindex).2.1
    rw [hagree pair.1 (mem_of_mem_neighbours hpair).1 index hcontracted hcarried]
    rfl
  rw [hsizes, Finset.prod_list_map_count, toFinset_multiplied]
  refine Finset.prod_congr rfl fun index hindex => ?_
  rw [count_multiplied hnodup (Finset.mem_filter.mp hindex).2.1]

/-! ## Counting once -/

/-- Powers multiply to more than their bases do, unless one of the bases is zero. -/
theorem prod_pow_eq_prod_iff {indices : Finset Char} {size power : Char → Nat} (factor : Nat)
    (hpower : ∀ index ∈ indices, power index ≠ 0) :
    factor * ∏ index ∈ indices, size index ^ power index = factor * ∏ index ∈ indices, size index ↔
      factor * ∏ index ∈ indices, size index = 0 ∨
        ∀ index ∈ indices, size index = 1 ∨ power index = 1 := by
  constructor
  · intro hsame
    by_contra hmore
    obtain ⟨hnonzero, hindex⟩ := not_or.mp hmore
    obtain ⟨hfactor, hbases⟩ := Nat.mul_ne_zero_iff.mp hnonzero
    have hpos : ∀ index ∈ indices, 0 < size index := fun index hmem =>
      Nat.pos_of_ne_zero (Finset.prod_ne_zero_iff.mp hbases index hmem)
    have hlt : ∏ index ∈ indices, size index < ∏ index ∈ indices, size index ^ power index := by
      refine Finset.prod_lt_prod hpos (fun index hmem => ?_) ?_
      · exact Nat.le_self_pow (hpower index hmem) _
      · push Not at hindex
        obtain ⟨index, hmem, hsize, hmany⟩ := hindex
        have hbase := hpos index hmem
        have hexponent := hpower index hmem
        exact ⟨index, hmem, lt_self_pow₀ (by omega) (by omega)⟩
    exact hlt.ne' (Nat.eq_of_mul_eq_mul_left (Nat.pos_of_ne_zero hfactor) hsame)
  · rintro (hzero | hall)
    · rw [hzero, Nat.mul_eq_zero]
      refine (Nat.mul_eq_zero.mp hzero).imp_right fun hbases => ?_
      obtain ⟨index, hmem, hsize⟩ := Finset.prod_eq_zero_iff.mp hbases
      exact Finset.prod_eq_zero hmem (by rw [hsize, zero_pow (hpower index hmem)])
    · congr 1
      refine Finset.prod_congr rfl fun index hmem => ?_
      rcases hall index hmem with hsize | hone
      · rw [hsize, one_pow]
      · rw [hone, pow_one]

/-! ## The count of a contraction -/

theorem nodup_operandsOf {table : TensorTable} {config : Config} {inputs : List TensorId}
    (h : ∀ letters ∈ config.inputs, letters.Nodup) :
    ∀ operand ∈ operandsOf table config inputs, operand.indices.Nodup := by
  intro operand hmem
  unfold operandsOf at hmem
  rw [← List.map_uncurry_zip_eq_zipWith] at hmem
  obtain ⟨pair, hpair, rfl⟩ := List.mem_map.mp hmem
  exact h pair.1 (List.of_mem_zip hpair).1

theorem length_operandsOf {table : TensorTable} {config : Config} {inputs : List TensorId}
    (h : config.inputs.length = inputs.length) :
    (operandsOf table config inputs).length = inputs.length := by
  unfold operandsOf
  rw [List.length_zipWith, h, Nat.min_self]

/-- The sizes of an output of distinct indices multiply to its elements. -/
theorem prod_outputSizes {output : List Char} {operands : List Operand} {sizes : List Nat}
    (hnodup : output.Nodup) (h : output.map (size? operands) = sizes.map some) :
    sizes.prod = outputCount output operands := by
  unfold outputCount
  rw [(map_eq_map_some_iff.mp h).2, List.prod_toFinset _ hnodup]
  rfl

/-- Several operands are contracted neighbour by neighbour. -/
theorem contractedSizes_eq_chainSizes (output : List Char) {operands : List Operand}
    (h : 2 ≤ operands.length) : contractedSizes output operands = chainSizes output operands := by
  unfold contractedSizes
  split
  · simp at h
  · rfl

/-- The count in which a contracted index is taken once for all neighbours that share it. -/
def countShared (output : List Char) (operands : List Operand) : Nat :=
  outputCount output operands *
    ∏ index ∈ contracted output operands, sizeOf operands index ^ sharings operands index

/-- What the count of a contraction of several operands is. -/
structure IsCountOf (output : List Char) (operands : List Operand) (macs : Nat) : Prop where
  /-- Every output index has a size. -/
  sized : ∀ index ∈ output, (size? operands index).isSome
  /-- Neighbours agree on the letters that they share and the output misses. -/
  agreed : ∀ pair ∈ neighbours operands, ∀ index ∈ sharedLetters output pair.1 pair.2.indices,
    ∃ size, pair.1.size? index = some size ∧ pair.2.size? index = some size
  /-- The sizes of these letters are multiplied in words, neighbours after neighbours. -/
  pairwise : macs =
    wrap (outputCount output operands * ((neighbours operands).map (pairCount output)).prod)
  /-- So a contracted index comes in once for all neighbours that share it. -/
  powers : Agree operands (contracted output operands) → macs = wrap (countShared output operands)
  /-- Unless the count wraps, such an index comes in only once if it is shared only once, if
  its size is one, or if there is nothing to count. -/
  once_iff : Agree operands (contracted output operands) →
    FitsWord (countShared output operands) →
    (macs = countOnce output operands ↔ countOnce output operands = 0 ∨
      ∀ index ∈ contracted output operands,
        sizeOf operands index = 1 ∨ sharings operands index = 1)

/-- A contraction of several inputs without repeated letters multiplies the sizes of the
output indices and, for each input and the next one, of the indices that they share and the
output misses. -/
theorem einsum_count {table after : TensorTable} {text : String} {config : Config}
    {output : TensorId} {inputs : List TensorId} {macs : Nat}
    (hread : Config.read text = .ok config) (hseveral : 2 ≤ inputs.length)
    (hinputs : ∀ letters ∈ config.inputs, letters.Nodup) (houtput : config.output.Nodup)
    (h : einsum table text output inputs = (.ok macs, after)) :
    IsCountOf config.output (operandsOf table config inputs) macs := by
  obtain ⟨hlength, shared, sizes, hshared, hsizes, rfl, -⟩ := (einsum_eq_ok_iff hread).mp h
  have hmany : 2 ≤ (operandsOf table config inputs).length := by
    rw [length_operandsOf hlength]
    exact hseveral
  have hnodup : ∀ operand ∈ operandsOf table config inputs, operand.indices.Nodup :=
    nodup_operandsOf hinputs
  rw [contractedSizes_eq_chainSizes _ hmany] at hshared
  rw [wordProduct_eq, List.prod_append, prod_outputSizes houtput hsizes, Nat.mul_comm]
  refine ⟨(map_eq_map_some_iff.mp hsizes).1, (chainSizes_pairwise hnodup hshared).2, ?_,
    fun hagree => ?_, fun hagree hfits => ?_⟩
  · rw [prod_chainSizes hnodup hshared]
  · rw [prod_chainSizes_of_agree hnodup hagree hshared, countShared]
  · rw [prod_chainSizes_of_agree hnodup hagree hshared, ← countShared, wrap_of_fitsWord hfits]
    exact prod_pow_eq_prod_iff _ fun index hindex => (Finset.mem_filter.mp hindex).2.2

/-- Three matrices of which the first two are multiplied letter by letter. -/
def threeMatrices : TensorTable := .ofList [⟨1, [2, 3]⟩, ⟨2, [2, 3]⟩, ⟨3, [3, 5]⟩]

/-- Of the two contracted indices, one runs through all three inputs and comes in twice. -/
theorem index_shared_twice_squared :
    einsum threeMatrices "ij,ij,jk->k" 9 [1, 2, 3] =
        (.ok 90, threeMatrices.allocate 9 [5]) ∧
      ∃ config, Config.read "ij,ij,jk->k" = .ok config ∧
        contracted config.output (operandsOf threeMatrices config [1, 2, 3]) = {'i', 'j'} ∧
        Agree (operandsOf threeMatrices config [1, 2, 3])
          (contracted config.output (operandsOf threeMatrices config [1, 2, 3])) ∧
        countOnce config.output (operandsOf threeMatrices config [1, 2, 3]) = 30 ∧
        IsCountOf config.output (operandsOf threeMatrices config [1, 2, 3]) 90 := by
  have hfacts : einsum threeMatrices "ij,ij,jk->k" 9 [1, 2, 3] =
      (.ok 90, threeMatrices.allocate 9 [5]) := by decide +kernel
  have hread : Config.read "ij,ij,jk->k" =
      .ok ⟨["ij".toList, "ij".toList, "jk".toList], "k".toList⟩ := by decide +kernel
  exact ⟨hfacts, _, hread, by decide +kernel, by decide +kernel, by decide +kernel,
    einsum_count hread (by decide) (by decide) (by decide) hfacts⟩

/-- Three vectors of two elements. -/
def vectorTable : TensorTable := .ofList [⟨1, [2]⟩, ⟨2, [2]⟩, ⟨3, [2]⟩]

/-- An index that runs through three inputs is counted twice, although all agree on its size
and no word is too short. -/
theorem relayed_index_counted_twice :
    ¬ ∀ (table after : TensorTable) (text : String) (config : Config) (output : TensorId)
        (inputs : List TensorId) (macs : Nat),
      Config.read text = .ok config → 2 ≤ inputs.length →
      (∀ letters ∈ config.inputs, letters.Nodup) → config.output.Nodup →
      Agree (operandsOf table config inputs) (indicesOf (operandsOf table config inputs)) →
      FitsWord (countShared config.output (operandsOf table config inputs)) →
      einsum table text output inputs = (.ok macs, after) →
        macs = countOnce config.output (operandsOf table config inputs) := by
  intro hall
  have hread : Config.read "i,i,i->" = .ok ⟨[['i'], ['i'], ['i']], []⟩ := by decide +kernel
  have heinsum : einsum vectorTable "i,i,i->" 9 [1, 2, 3] =
      (.ok 4, vectorTable.allocate 9 [1]) := by decide +kernel
  have honce : countOnce [] (operandsOf vectorTable ⟨[['i'], ['i'], ['i']], []⟩ [1, 2, 3]) = 2 := by
    decide +kernel
  have hagree : Agree (operandsOf vectorTable ⟨[['i'], ['i'], ['i']], []⟩ [1, 2, 3])
      (indicesOf (operandsOf vectorTable ⟨[['i'], ['i'], ['i']], []⟩ [1, 2, 3])) := by
    decide +kernel
  have hfits : FitsWord
      (countShared [] (operandsOf vectorTable ⟨[['i'], ['i'], ['i']], []⟩ [1, 2, 3])) := by
    decide +kernel
  have hcount := hall _ _ _ _ _ _ _ hread (by decide) (by decide) (by decide) hagree hfits heinsum
  rw [honce] at hcount
  simp at hcount

end Contraction

end CoreArray
