import CoreArray.Proofs.Datapath.Footprint
set_option autoImplicit false

/-!
# Elements under reshapes (SPEC §4.3)

A reshape gives a tensor new dimensions and compares two counts before, both kept in words:
the product of the new dimensions and the elements that the tensor has.  The counts agree for
every shape but one.  The product of no dimensions is one, while a tensor without dimensions
has no elements.  So a reshape that names no dimensions takes a tensor of one element and
leaves it with none, and nothing gives the element back.

`elements_accounted` says that this is the only way in which the processor changes a number
of elements, for each instruction of a sequence and for the whole of it.
-/

namespace CoreArray

/-- A tensor with dimensions has as many elements as their product says. -/
theorem Tensor.size_of_ne_nil {tensor : Tensor} (h : tensor.dims ≠ []) :
    tensor.size = wordProduct tensor.dims := by
  unfold size
  rw [if_neg (by rw [List.isEmpty_iff]; exact h)]

namespace TensorTable

/-- The elements after a tensor has been entered. -/
theorem sizeOf_insert (table : TensorTable) (tensor : Tensor) (id : TensorId) :
    (table.insert tensor).sizeOf id = if tensor.id = id then tensor.size else table.sizeOf id := by
  unfold sizeOf get?
  rw [dims?_insert]
  split
  · rfl
  · rfl

theorem sizeOf_of_get? {table : TensorTable} {id : TensorId} {tensor : Tensor}
    (h : table.get? id = some tensor) : table.sizeOf id = tensor.size := by
  unfold sizeOf
  rw [h]
  rfl

/-- A new shape for a known tensor brings no tensor into the table. -/
theorem contains_insert_of_known {table : TensorTable} {tensor : Tensor}
    (h : table.get? tensor.id = some tensor) (dims : List Nat) (id : TensorId) :
    (table.insert { tensor with dims }).contains id = table.contains id := by
  unfold contains
  rw [dims?_insert]
  split
  · next hid =>
      have hknown : (table.get? tensor.id).isSome = true := by rw [h]; rfl
      rw [get?, Option.isSome_map] at hknown
      rw [← hid, hknown]
      rfl
  · rfl

theorem exists_of_sizeOf_ne_zero {table : TensorTable} {id : TensorId}
    (h : table.sizeOf id ≠ 0) : ∃ tensor, table.get? id = some tensor ∧ tensor.size ≠ 0 := by
  unfold sizeOf at h
  cases hget : table.get? id with
  | none => rw [hget] at h; exact absurd rfl h
  | some tensor => rw [hget] at h; exact ⟨tensor, rfl, h⟩

end TensorTable

/-- Whether an instruction takes all dimensions from a tensor. -/
def Instruction.flattens (instr : Instruction) (id : TensorId) : Bool :=
  instr.opcode == "reshape" && instr.operands == [id]

theorem Instruction.flattens_iff {instr : Instruction} {id : TensorId} :
    instr.flattens id = true ↔ instr.opcode = "reshape" ∧ instr.operands = [id] := by
  unfold flattens
  rw [Bool.and_eq_true, beq_iff_eq, beq_iff_eq]

/-- Whether a core has a cost for reshapes, without which it refuses them all. -/
def CoreSpec.canReshape (spec : CoreSpec) : Bool := (spec.latencies.cost? .cpu "reshape").isSome

namespace Datapath

/-! ## Reshapes -/

/-- Operands are dimensions if none is negative. -/
theorem newDims_eq_ok_iff {id : TensorId} {values : List Int} {dims : List Nat} :
    newDims id values = .ok dims ↔ values = dims.map Int.ofNat := by
  induction values generalizing dims with
  | nil => simp [newDims, eq_comm]
  | cons value values ih =>
      rw [newDims]
      constructor
      · intro h
        split at h
        · simp at h
        · next hnonneg =>
            obtain ⟨rest, hrest, rfl⟩ := ok_of_map h
            rw [List.map_cons, ← ih.mp hrest, Int.ofNat_eq_natCast, Int.toNat_of_nonneg (by omega)]
      · intro h
        cases dims with
        | nil => simp at h
        | cons dim dims =>
            rw [List.map_cons, List.cons.injEq] at h
            obtain ⟨rfl, hrest⟩ := h
            rw [if_neg (by simp), ih.mpr hrest]
            rfl

/-- A reshape is accepted for a known tensor if the product of the new dimensions is the
number of its elements, and then enters them. -/
theorem reshapePlan_eq_ok_iff {tensors after : TensorTable} {instr : Instruction}
    {tensor : Tensor} {dims : List Nat} :
    reshapePlan tensors instr = (.ok (tensor, dims), after) ↔
      (tensors.get? tensor.id = some tensor ∧
        instr.operands = tensor.id :: dims.map Int.ofNat ∧ wordProduct dims = tensor.size) ∧
      after = tensors.insert { tensor with dims } := by
  constructor
  · intro h
    obtain ⟨hid, hafter⟩ := of_reshapePlan h
    refine ⟨?_, hafter⟩
    obtain ⟨rest, hoperands⟩ : ∃ rest, instr.operands = tensor.id :: rest := by
      cases hlist : instr.operands with
      | nil => rw [hlist] at hid; simp at hid
      | cons first rest =>
          rw [hlist, List.getElem?_cons_zero, Option.some.injEq] at hid
          exact ⟨rest, by rw [hid]⟩
    unfold reshapePlan at h
    rw [operandOf_of_getElem? hid, hoperands, List.drop_one, List.tail_cons] at h
    dsimp only at h
    split at h
    · simp at h
    · next named hdims =>
        split at h
        · simp at h
        · next found hfound =>
            split at h
            · next hsize =>
                obtain ⟨rfl, rfl⟩ := Prod.mk.inj (Except.ok.inj (Prod.mk.inj h).1)
                exact ⟨hfound, by rw [hoperands, newDims_eq_ok_iff.mp hdims], hsize⟩
            · simp at h
  · rintro ⟨⟨hfound, hoperands, hsize⟩, rfl⟩
    have hoperand : operandOf instr 0 = .ok tensor.id :=
      operandOf_of_getElem? (by rw [hoperands, List.getElem?_cons_zero])
    have hdims : newDims tensor.id (dims.map Int.ofNat) = .ok dims := newDims_eq_ok_iff.mpr rfl
    unfold reshapePlan
    rw [hoperand, hoperands, List.drop_one, List.tail_cons]
    dsimp only
    rw [hdims]
    dsimp only
    rw [hfound]
    dsimp only
    rw [if_pos hsize]

section Steps

variable {watch : Watch} {spec : CoreSpec} {credits : CreditBoard} {path : Datapath}
  {instr : Instruction} {cycle : Cycle}

/-- What the processor makes of the tensors: what a reshape makes of them. -/
theorem tensors_runCpu :
    (path.run watch spec credits .cpu instr cycle).path.tensors =
      if instr.opcode = "reshape" ∧ spec.canReshape = true then
        (reshapePlan path.tensors instr).2
      else path.tensors := by
  by_cases hopcode : instr.opcode = "reshape"
  · cases hcost : spec.latencies.cost? .cpu "reshape" with
    | none =>
        rw [if_neg (by simp [CoreSpec.canReshape, hcost])]
        unfold run runCpu CoreSpec.costOf
        rw [hopcode, hcost]
        rfl
    | some cost =>
        rw [if_pos ⟨hopcode, by simp [CoreSpec.canReshape, hcost]⟩]
        unfold run runCpu CoreSpec.costOf
        rw [hopcode, hcost]
        dsimp only
        rw [if_pos rfl]
        obtain ⟨plan, tensors⟩ := reshapePlan path.tensors instr
        cases plan <;> rfl
  · rw [if_neg fun h => hopcode h.1]
    unfold run runCpu
    dsimp only
    split
    · rfl
    · rw [if_neg hopcode]
      split
      · rfl
      · split
        · split
          · rfl
          · rfl
        · rfl

/-- An instruction of the processor keeps the elements of every tensor, but for a tensor of
one element from which it takes all dimensions. -/
theorem sizeOf_runCpu (id : TensorId) :
    (path.run watch spec credits .cpu instr cycle).path.tensors.sizeOf id =
      if path.tensors.sizeOf id = 1 ∧ spec.canReshape = true ∧ instr.flattens id = true then 0
      else path.tensors.sizeOf id := by
  rw [tensors_runCpu]
  simp only [Instruction.flattens_iff]
  by_cases hreshape : instr.opcode = "reshape" ∧ spec.canReshape = true
  · rw [if_pos hreshape]
    obtain ⟨hopcode, hcan⟩ := hreshape
    rcases hplan : reshapePlan path.tensors instr with ⟨fault | plan, tensors⟩
    · -- A tensor of one element would have lost it.
      dsimp only
      rw [reshapePlan_of_error hplan, if_neg]
      rintro ⟨hone, -, -, hoperands⟩
      have hsome : path.tensors.sizeOf id ≠ 0 := by omega
      obtain ⟨tensor, htensor, -⟩ := TensorTable.exists_of_sizeOf_ne_zero hsome
      have hid := TensorTable.id_of_get? htensor
      have hsize := TensorTable.sizeOf_of_get? htensor
      have hnone : wordProduct [] = tensor.size := by
        rw [← hsize, hone]
        rfl
      have haccepted : reshapePlan path.tensors instr =
          (.ok (tensor, []), path.tensors.insert { tensor with dims := [] }) :=
        reshapePlan_eq_ok_iff.mpr ⟨⟨hid ▸ htensor, by rw [hoperands, hid]; rfl, hnone⟩, rfl⟩
      rw [hplan] at haccepted
      simp at haccepted
    · obtain ⟨tensor, dims⟩ := plan
      obtain ⟨⟨hfound, hoperands, hproduct⟩, rfl⟩ := reshapePlan_eq_ok_iff.mp hplan
      dsimp only
      rw [TensorTable.sizeOf_insert]
      dsimp only
      by_cases hid : tensor.id = id
      · rw [if_pos hid, ← hid, TensorTable.sizeOf_of_get? hfound, ← hproduct]
        cases dims with
        | nil => rw [if_pos ⟨rfl, hcan, hopcode, hoperands⟩]; rfl
        | cons dim dims =>
            rw [if_neg]
            · exact Tensor.size_of_ne_nil (List.cons_ne_nil dim dims)
            · rintro ⟨-, -, -, hnone⟩
              rw [hoperands] at hnone
              simp at hnone
      · rw [if_neg hid, if_neg]
        rintro ⟨-, -, -, hnone⟩
        rw [hoperands, List.cons.injEq] at hnone
        exact hid hnone.1
  · rw [if_neg hreshape, if_neg]
    rintro ⟨-, hcan, hopcode, -⟩
    exact hreshape ⟨hopcode, hcan⟩

/-- What an instruction of the processor that is taken up leaves of the tensors. -/
structure KeepsElements (before after : TensorTable) (instr : Instruction) : Prop where
  known : ∀ id, after.contains id = before.contains id
  /-- Only a reshape changes a shape, that of its first operand, and to dimensions whose
  product is the number of elements before, both counted in words. -/
  shapes : ∀ id, after.dims? id ≠ before.dims? id →
    instr.opcode = "reshape" ∧ ∃ dims : List Nat, instr.operands = id :: dims.map Int.ofNat ∧
      after.dims? id = some dims ∧ wordProduct dims = before.sizeOf id
  /-- Only a tensor of one element loses it, if all its dimensions are taken. -/
  elements : ∀ id, after.sizeOf id =
    if before.sizeOf id = 1 ∧ instr.flattens id = true then 0 else before.sizeOf id

theorem keepsElements_runCpu
    (h : isTaken (path.run watch spec credits .cpu instr cycle).reply = true) :
    KeepsElements path.tensors (path.run watch spec credits .cpu instr cycle).path.tensors
      instr := by
  -- A reshape that is taken up has a cost.
  have hcost : instr.opcode = "reshape" → spec.canReshape = true := by
    intro hopcode
    unfold run runCpu CoreSpec.costOf at h
    rw [hopcode] at h
    unfold CoreSpec.canReshape
    cases hcost : spec.latencies.cost? .cpu "reshape" with
    | none => rw [hcost] at h; simp [Execution.refused] at h
    | some cost => rfl
  refine ⟨fun id => ?_, fun id hchanged => ?_, fun id => ?_⟩
  · rw [tensors_runCpu]
    split
    · rcases hplan : reshapePlan path.tensors instr with ⟨fault | ⟨tensor, dims⟩, tensors⟩
      · rw [reshapePlan_of_error hplan]
      · obtain ⟨⟨hfound, -, -⟩, rfl⟩ := reshapePlan_eq_ok_iff.mp hplan
        exact TensorTable.contains_insert_of_known hfound dims id
    · rfl
  · rw [tensors_runCpu] at hchanged ⊢
    split at hchanged
    · next hreshape =>
        rw [if_pos hreshape]
        rcases hplan : reshapePlan path.tensors instr with ⟨fault | ⟨tensor, dims⟩, tensors⟩
        · rw [hplan, reshapePlan_of_error hplan] at hchanged
          exact absurd rfl hchanged
        · rw [hplan] at hchanged
          obtain ⟨⟨hfound, hoperands, hproduct⟩, rfl⟩ := reshapePlan_eq_ok_iff.mp hplan
          have hid : tensor.id = id :=
            Decidable.byContradiction fun hne => hchanged (TensorTable.dims?_insert_of_ne hne)
          rw [← hid]
          refine ⟨hreshape.1, dims, hoperands, TensorTable.dims?_insert_self _ _ _, ?_⟩
          rw [TensorTable.sizeOf_of_get? hfound, hproduct]
    · exact absurd rfl hchanged
  · rw [sizeOf_runCpu]
    by_cases hflat : instr.flattens id = true
    · rw [hcost (Instruction.flattens_iff.mp hflat).1]
      simp [hflat]
    · simp [hflat]

end Steps

/-! ## Sequences of instructions -/

/-- What a sequence of instructions of the processor, each handed over at its cycle, makes of
a datapath. -/
def performOnCpu (watch : Watch) (spec : CoreSpec) (credits : CreditBoard) (path : Datapath)
    (work : List (Instruction × Cycle)) : Datapath :=
  work.foldl (fun path entry => (path.run watch spec credits .cpu entry.1 entry.2).path) path

section Sequences

variable {watch : Watch} {spec : CoreSpec} {credits : CreditBoard}

/-- A tensor of one element loses it to the first reshape that takes all its dimensions. -/
theorem sizeOf_performOnCpu (path : Datapath) (work : List (Instruction × Cycle))
    (id : TensorId) :
    (path.performOnCpu watch spec credits work).tensors.sizeOf id =
      if path.tensors.sizeOf id = 1 ∧ spec.canReshape = true ∧
          (work.any fun entry => entry.1.flattens id) = true then 0
      else path.tensors.sizeOf id := by
  induction work generalizing path with
  | nil => simp [performOnCpu]
  | cons entry work ih =>
      have hrest := ih (path.run watch spec credits .cpu entry.1 entry.2).path
      rw [sizeOf_runCpu] at hrest
      have hcons : path.performOnCpu watch spec credits (entry :: work) =
          (path.run watch spec credits .cpu entry.1 entry.2).path.performOnCpu watch spec credits
            work := rfl
      rw [hcons, hrest, List.any_cons]
      -- The element is lost now, or later, or not at all.
      by_cases hnow : path.tensors.sizeOf id = 1 ∧ spec.canReshape = true ∧
          entry.1.flattens id = true
      · rw [if_pos hnow, hnow.2.2, Bool.true_or, if_neg (by simp), if_pos ⟨hnow.1, hnow.2.1, rfl⟩]
      · rw [if_neg hnow]
        cases hflat : entry.1.flattens id with
        | false => rw [Bool.false_or]
        | true =>
            have hnever : ¬(path.tensors.sizeOf id = 1 ∧ spec.canReshape = true) :=
              fun h => hnow ⟨h.1, h.2, hflat⟩
            rw [if_neg fun h => hnever ⟨h.1, h.2.1⟩, if_neg fun h => hnever ⟨h.1, h.2.1⟩]

end Sequences

/-- In every sequence of instructions of the processor, one that is refused leaves all as it
is; one that is taken up keeps the number of elements of every tensor, unless it takes all
dimensions from a tensor of one element.  So after the whole sequence all numbers of elements
are what they were, but for the tensors of one element that lost it. -/
theorem elements_accounted (watch : Watch) (spec : CoreSpec) (credits : CreditBoard)
    (path : Datapath) (work : List (Instruction × Cycle)) :
    (∀ (done rest : List (Instruction × Cycle)) (instr : Instruction) (cycle : Cycle),
      work = done ++ (instr, cycle) :: rest →
      let now := path.performOnCpu watch spec credits done
      let e := now.run watch spec credits .cpu instr cycle
      if isTaken e.reply then KeepsElements now.tensors e.path.tensors instr
      else (∃ fault, e.reply = .error fault) ∧ e.path = now) ∧
    ∀ id, (path.performOnCpu watch spec credits work).tensors.sizeOf id =
      if path.tensors.sizeOf id = 1 ∧ spec.canReshape = true ∧
          (work.any fun entry => entry.1.flattens id) = true then 0
      else path.tensors.sizeOf id := by
  refine ⟨?_, sizeOf_performOnCpu path work⟩
  intro done rest instr cycle hwork now e
  have hcase := now.run_case watch spec credits instr cycle .cpu
  split
  · next htaken => exact keepsElements_runCpu htaken
  · next htaken =>
      have hrefused := Bool.eq_false_iff.mpr htaken
      refine ⟨?_, hcase.path_of_not_taken hrefused⟩
      cases hcase with
      | refused fault hreply _ _ => exact ⟨fault, hreply⟩
      | worked _ doneAt hreply _ _ => rw [hreply] at hrefused; simp at hrefused
      | waited hunit _ _ _ => simp at hunit
      | kept hunit _ _ _ _ _ _ _ _ => simp at hunit
      | sent hunit _ _ _ _ _ _ _ _ _ _ _ _ => simp at hunit
      | received hunit _ _ _ _ _ _ _ _ => simp at hunit

/-- A core that can reshape. -/
def reshapeSpec : CoreSpec :=
  { (default : CoreSpec) with latencies := LatencyTable.empty.set .cpu "reshape" (.ofNat 1) }

/-- A tensor of one element and a larger one. -/
def oneAndTwelve : Datapath := .ofTensors (.ofList [⟨1, [1]⟩, ⟨2, [12]⟩])

/-- What reshapes make of these tensors. -/
def afterReshapes (work : List (Instruction × Cycle)) : Datapath :=
  oneAndTwelve.performOnCpu .silent reshapeSpec (.allOpened 1) work

/-- Two reshapes of the larger tensor, of which the second is refused. -/
def twoReshapes : List (Instruction × Cycle) :=
  [(.plain "CPU" "reshape" [2, 3, 4], 0), (.plain "CPU" "reshape" [2, 5], 1)]

/-- A reshape that takes all dimensions from the smaller tensor. -/
def dropDims : Instruction := .plain "CPU" "reshape" [1]

/-- The larger tensor keeps its elements, the smaller one loses its own with its dimensions. -/
theorem reshapes_accounted :
    KeepsElements (afterReshapes twoReshapes).tensors
        ((afterReshapes twoReshapes).run .silent reshapeSpec (.allOpened 1) .cpu
          dropDims 2).path.tensors dropDims ∧
      (afterReshapes (twoReshapes ++ [(dropDims, 2)])).tensors.sizeOf 2 = 12 ∧
      (afterReshapes (twoReshapes ++ [(dropDims, 2)])).tensors.sizeOf 1 = 0 := by
  have haccounted := elements_accounted .silent reshapeSpec (.allOpened 1) oneAndTwelve
    (twoReshapes ++ [(dropDims, 2)])
  have hlast := haccounted.1 twoReshapes [] dropDims 2 rfl
  dsimp only at hlast
  rw [if_pos (by decide +kernel)] at hlast
  exact ⟨hlast, (haccounted.2 2).trans (by decide +kernel),
    (haccounted.2 1).trans (by decide +kernel)⟩

/-- Not every instruction that is taken up keeps the number of elements of every tensor. -/
theorem single_element_lost :
    ¬ ∀ (watch : Watch) (spec : CoreSpec) (credits : CreditBoard) (path : Datapath)
      (instr : Instruction) (cycle doneAt : Cycle) (id : TensorId),
      (path.run watch spec credits .cpu instr cycle).reply = .ok (.complete doneAt) →
        (path.run watch spec credits .cpu instr cycle).path.tensors.sizeOf id =
          path.tensors.sizeOf id := by
  intro hall
  have hreply : (oneAndTwelve.run .silent reshapeSpec (.allOpened 1) .cpu dropDims 0).reply =
      .ok (.complete 1) := by decide +kernel
  have hkept := hall .silent reshapeSpec (.allOpened 1) oneAndTwelve dropDims 0 1 1 hreply
  have hlost : (oneAndTwelve.run .silent reshapeSpec (.allOpened 1) .cpu
      dropDims 0).path.tensors.sizeOf 1 ≠
      oneAndTwelve.tensors.sizeOf 1 := by decide +kernel
  exact hlost hkept

end Datapath

end CoreArray
