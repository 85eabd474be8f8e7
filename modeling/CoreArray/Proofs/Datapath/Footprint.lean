import CoreArray.Proofs.Datapath.Refusals
set_option autoImplicit false

/-!
# What an execution leaves alone (SPEC §4.3)

An instruction that is refused, or that has to wait, leaves tensors, port and counters as
they are; only the network interface writes to the credit board, and only the flag of its
own node.  An instruction that completes does so no earlier than it was handed over, and
the only shape that it may change is that of its first operand: by a reshape, by a receive,
or by a calculation whose output had no shape (`MayReshape`).

`executions_are_confined` says this of every unit, instruction and state.
-/

namespace CoreArray

/-! ## Shapes -/

namespace TensorTable

/-- Allocating changes the shape of no tensor but the one that is named, and that only if
it has none. -/
theorem allocate_footprint {table : TensorTable} {id other : TensorId} {dims : List Nat}
    (h : (table.allocate id dims).dims? other ≠ table.dims? other) :
    id = other ∧ table.dimsOf id = [] := by
  unfold allocate at h
  split at h
  · next hempty =>
      refine ⟨Decidable.byContradiction fun hne => ?_, List.isEmpty_iff.mp hempty⟩
      exact h (dims?_insert_of_ne hne)
  · exact absurd rfl h

end TensorTable

namespace Datapath

/-- Whether an instruction on a unit may change the shape of a tensor, given the tensors
before. -/
def MayReshape (tensors : TensorTable) (unit : UnitName) (instr : Instruction)
    (id : TensorId) : Prop :=
  instr.operands[0]? = some id ∧
    match unit with
    | .cpu => instr.opcode = "reshape"
    | .ni => instr.opcode = "recv"
    | .acc => tensors.dimsOf id = []
    | .bus | .buffer => False

section Shapes

variable {watch : Watch} {spec : CoreSpec} {credits : CreditBoard} {path : Datapath}
  {instr : Instruction} {cycle : Cycle} {id : TensorId}

theorem mayReshape_runCpu
    (h : (path.runCpu watch spec credits instr cycle).path.tensors.dims? id ≠
      path.tensors.dims? id) : MayReshape path.tensors .cpu instr id := by
  unfold runCpu at h
  split at h
  · exact absurd rfl h
  · split at h
    · next hopcode =>
        split at h
        · next hplan =>
            rw [reshapePlan_of_error hplan] at h
            exact absurd rfl h
        · next tensor dims tensors hplan =>
            obtain ⟨hid, rfl⟩ := of_reshapePlan hplan
            have hsame : tensor.id = id :=
              Decidable.byContradiction fun hne => h (TensorTable.dims?_insert_of_ne hne)
            exact ⟨hsame ▸ hid, hopcode⟩
    · split at h
      · exact absurd rfl h
      · split at h
        · split at h
          · exact absurd rfl h
          · exact absurd rfl h
        · exact absurd rfl h

theorem mayReshape_runAcc
    (h : (path.runAcc watch spec credits instr cycle).path.tensors.dims? id ≠
      path.tensors.dims? id) : MayReshape path.tensors .acc instr id := by
  unfold runAcc at h
  split at h
  · next hplan =>
      rw [accPlan_of_error hplan] at h
      exact absurd rfl h
  · next rate macs tensors hplan =>
      obtain ⟨output, dims, houtput, rfl⟩ := exists_allocate_of_accPlan hplan
      obtain ⟨rfl, hempty⟩ := TensorTable.allocate_footprint h
      exact ⟨houtput, hempty⟩

theorem mayReshape_runInterface
    (h : (path.runInterface watch spec credits instr cycle).path.tensors.dims? id ≠
      path.tensors.dims? id) : MayReshape path.tensors .ni instr id := by
  cases path.runInterface_case watch spec credits instr cycle with
  | refused _ _ hpath _ => rw [hpath] at h; exact absurd rfl h
  | waited _ _ hpath _ => rw [hpath] at h; exact absurd rfl h
  | worked hunit _ _ _ _ => simp at hunit
  | kept _ _ _ _ _ _ _ hpath _ => rw [hpath] at h; exact absurd rfl h
  | sent _ _ _ _ _ _ _ _ _ _ _ hpath _ => rw [hpath] at h; exact absurd rfl h
  | received _ hopcode named hid packet _ _ hpath _ =>
      rw [hpath] at h
      have hsame : named = id :=
        Decidable.byContradiction fun hne => h (TensorTable.dims?_insert_of_ne hne)
      exact ⟨hsame ▸ hid, hopcode⟩

/-- A shape that an execution changes is one that its instruction may change. -/
theorem mayReshape_run {unit : UnitName}
    (h : (path.run watch spec credits unit instr cycle).path.tensors.dims? id ≠
      path.tensors.dims? id) : MayReshape path.tensors unit instr id := by
  cases unit with
  | bus =>
      unfold run runBus at h
      dsimp only at h
      split at h
      · exact absurd rfl h
      · exact absurd rfl h
  | cpu => exact mayReshape_runCpu h
  | acc => exact mayReshape_runAcc h
  | buffer =>
      unfold run runBuffer at h
      dsimp only at h
      split at h
      · exact absurd rfl h
      · exact absurd rfl h
  | ni => exact mayReshape_runInterface h

end Shapes

/-! ## Completions -/

section Completions

variable {watch : Watch} {spec : CoreSpec} {credits : CreditBoard} {path : Datapath}
  {unit : UnitName} {instr : Instruction} {cycle doneAt : Cycle}

theorem le_sleepEnd (h : sleepEnd instr cycle = .ok doneAt) : cycle ≤ doneAt := by
  unfold sleepEnd at h
  split at h
  · simp at h
  · split at h
    · simp at h
    · split at h
      · simp at h
      · rw [Except.ok.injEq] at h
        rw [← h]
        exact Nat.le_add_right _ _

theorem le_after {work : Binary64}
    (h : (.ok (.after cycle work) : Except ExecFault Outcome) = .ok (.complete doneAt)) :
    cycle ≤ doneAt := by
  unfold Outcome.after at h
  rw [Except.ok.injEq, Outcome.complete.injEq] at h
  rw [← h]
  exact Nat.le_add_right _ _

theorem le_runCpu (h : (path.runCpu watch spec credits instr cycle).reply = .ok (.complete doneAt)) :
    cycle ≤ doneAt := by
  unfold runCpu at h
  split at h
  · simp [Execution.refused] at h
  · split at h
    · split at h
      · simp [Execution.refused] at h
      · exact le_after h
    · split at h
      · exact le_after h
      · split at h
        · split at h
          · simp [Execution.refused] at h
          · next ending hend =>
              rw [Except.ok.injEq, Outcome.complete.injEq] at h
              exact h ▸ le_sleepEnd hend
        · simp [Execution.refused] at h

/-- No instruction completes before it is handed to its unit. -/
theorem le_of_complete
    (h : (path.run watch spec credits unit instr cycle).reply = .ok (.complete doneAt)) :
    cycle ≤ doneAt := by
  cases unit with
  | bus =>
      unfold run runBus at h
      dsimp only at h
      split at h
      · simp [Execution.refused] at h
      · exact le_after h
  | cpu => exact le_runCpu h
  | acc =>
      unfold run runAcc at h
      dsimp only at h
      split at h
      · simp [Execution.refused] at h
      · exact le_after h
  | buffer =>
      unfold run runBuffer at h
      dsimp only at h
      split at h
      · simp [Execution.refused] at h
      · exact le_after h
  | ni =>
      have hnext (hreply : (path.run watch spec credits .ni instr cycle).reply =
          .ok (.complete (cycle + 1))) : cycle ≤ doneAt := by
        rw [h, Except.ok.injEq, Outcome.complete.injEq] at hreply
        rw [hreply]
        exact Nat.le_succ cycle
      cases path.run_case watch spec credits instr cycle .ni with
      | refused fault hreply _ _ => rw [h] at hreply; simp at hreply
      | waited _ hreply _ _ => rw [h] at hreply; simp at hreply
      | worked hunit _ _ _ _ => exact absurd rfl hunit
      | kept _ _ _ _ _ _ hreply _ _ => exact hnext hreply
      | sent _ _ _ _ _ _ _ _ _ _ hreply _ _ => exact hnext hreply
      | received _ _ _ _ _ _ hreply _ _ => exact hnext hreply

end Completions

/-! ## Credit -/

/-- Only the network interface writes to the credit board. -/
theorem credits_run_of_ne {watch : Watch} {spec : CoreSpec} {credits : CreditBoard}
    {path : Datapath} {unit : UnitName} {instr : Instruction} {cycle : Cycle} (h : unit ≠ .ni) :
    (path.run watch spec credits unit instr cycle).credits = credits := by
  cases unit with
  | bus =>
      unfold run runBus
      dsimp only
      split
      · rfl
      · rfl
  | cpu =>
      unfold run runCpu
      dsimp only
      split
      · rfl
      · split
        · split
          · rfl
          · rfl
        · split
          · rfl
          · split
            · split
              · rfl
              · rfl
            · rfl
  | acc =>
      unfold run runAcc
      dsimp only
      split
      · rfl
      · rfl
  | buffer =>
      unfold run runBuffer
      dsimp only
      split
      · rfl
      · rfl
  | ni => exact absurd rfl h

/-- Whatever a unit makes of an instruction, only the network interface writes to the credit
board, to the flag of its own node.  If the instruction is refused or has to wait, tensors,
port and counters stay as they are.  If it completes, it does so no earlier than now, every
tensor stays known, and no shape changes but one that the instruction may change. -/
theorem executions_are_confined (watch : Watch) (spec : CoreSpec) (credits : CreditBoard)
    (path : Datapath) (unit : UnitName) (instr : Instruction) (cycle : Cycle) :
    let e := path.run watch spec credits unit instr cycle
    (unit ≠ .ni → e.credits = credits) ∧
      e.credits.size = credits.size ∧
      (∀ node, node ≠ spec.node → e.credits.flags[node]? = credits.flags[node]?) ∧
      match e.reply with
      | .error _ | .ok .notYet => e.path = path
      | .ok (.complete doneAt) =>
          cycle ≤ doneAt ∧
            (∀ id, path.tensors.contains id = true → e.path.tensors.contains id = true) ∧
            ∀ id, e.path.tensors.dims? id ≠ path.tensors.dims? id →
              MayReshape path.tensors unit instr id := by
  have hcase := path.run_case watch spec credits instr cycle unit
  obtain ⟨hsize, hflags⟩ := hcase.credits_frame
  refine ⟨credits_run_of_ne, hsize, hflags, ?_⟩
  cases hreply : (path.run watch spec credits unit instr cycle).reply with
  | error fault => exact hcase.path_of_not_taken (by rw [hreply]; rfl)
  | ok outcome =>
      cases outcome with
      | notYet => exact hcase.path_of_not_taken (by rw [hreply]; rfl)
      | complete doneAt =>
          refine ⟨le_of_complete hreply, ?_, ?_⟩
          · intro id hknown
            exact contains_run hknown unit
          · intro id hchanged
            exact mayReshape_run hchanged

end Datapath

end CoreArray
