import CoreArray.Datapath.Units
import CoreArray.Proofs.Log.Excerpt
set_option autoImplicit false

/-!
# What is told of an execution (SPEC §4.3, §10.2)

A unit tells of what it does under the watch that it is given.  The watch decides nothing
but what is told: under every watch an instruction is executed in the same way, and the
events are an excerpt of those that there are, all of them of the unit (`isExcerpt_run`).
-/

namespace CoreArray

/-- The number of a unit as an entity. -/
def CoreIds.ofUnit (ids : CoreIds) : UnitName → EntityId
  | .bus => ids.bus
  | .cpu => ids.cpu
  | .acc => ids.acc
  | .buffer => ids.buffer
  | .ni => ids.ni

namespace Execution

/-- An execution without what is told of it. -/
def muted (execution : Execution) : Execution := { execution with events := [] }

/-- Whether two executions do the same, and what is told of the one under a watch is an
excerpt of what is told of the other. -/
structure IsExcerpt (ids : List EntityId) (watch : Watch) (execution full : Execution) :
    Prop where
  same : execution.muted = full.muted
  events : Excerpt ids watch execution.events full.events

variable {ids : List EntityId} {watch : Watch}

theorem isExcerpt_refused {source : EntityId} (h : source ∈ ids) (path : Datapath)
    (credits : CreditBoard) (fault : ExecFault) :
    (refused watch source path credits fault).IsExcerpt ids watch
      (refused .everything source path credits fault) := by
  refine ⟨rfl, ?_⟩
  change Excerpt ids watch (fault.events watch source) (fault.events .everything source)
  unfold ExecFault.events
  split
  · exact .say h .error _
  · exact .nil

theorem IsExcerpt.after {execution full : Execution} {events fullEvents : List Event}
    (h : execution.IsExcerpt ids watch full) (hevents : Excerpt ids watch events fullEvents) :
    (execution.after events).IsExcerpt ids watch (full.after fullEvents) :=
  ⟨h.same, hevents.append h.events⟩

end Execution

section Interface

variable {ids : List EntityId} {watch : Watch} {spec : CoreSpec}

theorem excerpt_paddingEvents (h : spec.ids.ni ∈ ids) (tensor : Tensor) :
    Excerpt ids watch (spec.paddingEvents watch tensor) (spec.paddingEvents .everything tensor) := by
  unfold CoreSpec.paddingEvents
  split
  · exact .say h .warn _
  · exact .nil

theorem excerpt_bypassEvents (h : spec.ids.ni ∈ ids) (id : TensorId) (dests : List Node) :
    Excerpt ids watch (spec.bypassEvents watch id dests) (spec.bypassEvents .everything id dests) := by
  unfold CoreSpec.bypassEvents
  split
  · exact .say h .warn _
  · exact .nil

theorem excerpt_ownSendEvents (h : spec.ids.ni ∈ ids) (id : TensorId) (operands : List Int) :
    Excerpt ids watch (spec.ownSendEvents watch id operands)
      (spec.ownSendEvents .everything id operands) :=
  .flatMap fun _ _ => .say h .warn _

end Interface

namespace Datapath

open Execution

variable {ids : List EntityId} {spec : CoreSpec}
  (watch : Watch) (credits : CreditBoard) (path : Datapath) (instr : Instruction) (cycle : Cycle)

section Interface

variable (h : spec.ids.ni ∈ ids)

include h

theorem isExcerpt_dispatch (tensor : Tensor) (dests : List Node) :
    (path.dispatch watch spec credits tensor dests cycle).IsExcerpt ids watch
      (path.dispatch .everything spec credits tensor dests cycle) := by
  unfold dispatch
  cases spec.paths tensor.id dests with
  | error fault => exact isExcerpt_refused h path credits fault
  | ok paths =>
      refine ⟨rfl, ?_⟩
      exact ((excerpt_bypassEvents h tensor.id dests).append
        (.flatMap fun _ _ => excerpt_paddingEvents h tensor)).append
        (.flatMap fun packet _ => .say h .debug _)

theorem isExcerpt_sendTo (id : TensorId) (dests : List Node) :
    (path.sendTo watch spec credits instr id dests cycle).IsExcerpt ids watch
      (path.sendTo .everything spec credits instr id dests cycle) := by
  unfold sendTo
  cases path.tensors.get? id with
  | none => exact isExcerpt_refused h path credits _
  | some tensor =>
      cases credits.allOpen dests with
      | error fault => exact isExcerpt_refused h path credits _
      | ok allOpen =>
          cases allOpen with
          | true => exact isExcerpt_dispatch watch credits path cycle h tensor dests
          | false => exact ⟨rfl, .say h .trace _⟩

theorem isExcerpt_send :
    (path.send watch spec credits instr cycle).IsExcerpt ids watch
      (path.send .everything spec credits instr cycle) := by
  unfold send
  cases operandOf instr 0 with
  | error fault => exact isExcerpt_refused h path credits fault
  | ok id =>
      have hwarnings : Excerpt ids watch (spec.ownSendEvents watch id (instr.operands.drop 1))
          (spec.ownSendEvents .everything id (instr.operands.drop 1)) :=
        excerpt_ownSendEvents h id _
      dsimp only
      split
      · exact (isExcerpt_refused h path credits _).after hwarnings
      · split
        · exact ⟨rfl, hwarnings⟩
        · exact (isExcerpt_sendTo watch credits path instr cycle h id _).after hwarnings

theorem isExcerpt_recv :
    (path.recv watch spec credits instr cycle).IsExcerpt ids watch
      (path.recv .everything spec credits instr cycle) := by
  unfold recv
  cases operandOf instr 0 with
  | error fault => exact isExcerpt_refused h path credits fault
  | ok id =>
      dsimp only
      split
      · exact ⟨rfl, .say h .trace _⟩
      · exact ⟨rfl, .say h .debug _⟩

theorem isExcerpt_runInterface :
    (path.runInterface watch spec credits instr cycle).IsExcerpt ids watch
      (path.runInterface .everything spec credits instr cycle) := by
  unfold runInterface
  cases path.refreshCredit spec credits with
  | error fault => exact isExcerpt_refused h path credits _
  | ok credits =>
      dsimp only
      split
      · exact isExcerpt_send watch credits path instr cycle h
      · split
        · exact isExcerpt_recv watch credits path instr cycle h
        · exact isExcerpt_refused h path credits _

end Interface

theorem isExcerpt_runBus (h : spec.ids.bus ∈ ids) :
    (path.runBus watch spec credits instr cycle).IsExcerpt ids watch
      (path.runBus .everything spec credits instr cycle) := by
  unfold runBus
  cases spec.costOf .bus instr with
  | error fault => exact isExcerpt_refused h path credits fault
  | ok cost => exact ⟨rfl, .nil⟩

theorem isExcerpt_runCpu (h : spec.ids.cpu ∈ ids) :
    (path.runCpu watch spec credits instr cycle).IsExcerpt ids watch
      (path.runCpu .everything spec credits instr cycle) := by
  unfold runCpu
  cases spec.costOf .cpu instr with
  | error fault => exact isExcerpt_refused h path credits fault
  | ok cost =>
      dsimp only
      split
      · obtain ⟨plan, tensors⟩ := reshapePlan path.tensors instr
        cases plan with
        | error fault => exact isExcerpt_refused h { path with tensors } credits fault
        | ok plan => exact ⟨rfl, .say h .debug _⟩
      · split
        · exact ⟨rfl, .nil⟩
        · split
          · cases sleepEnd instr cycle with
            | error fault => exact isExcerpt_refused h path credits fault
            | ok doneAt => exact ⟨rfl, .nil⟩
          · exact isExcerpt_refused h path credits _

theorem isExcerpt_runAcc (h : spec.ids.acc ∈ ids) :
    (path.runAcc watch spec credits instr cycle).IsExcerpt ids watch
      (path.runAcc .everything spec credits instr cycle) := by
  unfold runAcc
  obtain ⟨plan, tensors⟩ := accPlan spec path.tensors instr
  cases plan with
  | error fault => exact isExcerpt_refused h { path with tensors } credits fault
  | ok plan => exact ⟨rfl, .say h .debug _⟩

theorem isExcerpt_runBuffer (h : spec.ids.buffer ∈ ids) :
    (path.runBuffer watch spec credits instr cycle).IsExcerpt ids watch
      (path.runBuffer .everything spec credits instr cycle) := by
  unfold runBuffer
  cases bufferPlan spec path.tensors instr with
  | error fault => exact isExcerpt_refused h path credits fault
  | ok plan => exact ⟨rfl, .nil⟩

/-- Every unit executes an instruction in the same way under every watch, and what is told
is an excerpt of its events. -/
theorem isExcerpt_run {unit : UnitName} (h : spec.ids.ofUnit unit ∈ ids) :
    (path.run watch spec credits unit instr cycle).IsExcerpt ids watch
      (path.run .everything spec credits unit instr cycle) := by
  cases unit with
  | bus => exact isExcerpt_runBus watch credits path instr cycle h
  | cpu => exact isExcerpt_runCpu watch credits path instr cycle h
  | acc => exact isExcerpt_runAcc watch credits path instr cycle h
  | buffer => exact isExcerpt_runBuffer watch credits path instr cycle h
  | ni => exact isExcerpt_runInterface watch credits path instr cycle h

end Datapath

end CoreArray
