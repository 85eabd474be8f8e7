import CoreArray.Proofs.Core.Traffic
import CoreArray.Proofs.Machine.Reachable
set_option autoImplicit false

/-!
# No packet is lost (SPEC §4.4, §10.9)

The copies that completed sends ask for at a node are those that completed receives
have taken there, those that have arrived and wait, and those in flight: none is
lost, doubled or altered, in either kind of delivery, whatever the arbiter and
however the cores take turns.

`exchange_stepWith` is the balance of one step.  What a step sends comes into
flight, what is delivered passes from flight to the queue of its node, and what is
received leaves that queue.  A `History` keeps the steps behind a machine, and the
balance of a machine is the sum over its history.

A copy has the shape that the tensor had at its send, or the shape of a single element if the
tensor had none.  Elements are counted in words, so this happens to a tensor that has too many
as well (`full_word_received_as_one`).
-/

namespace CoreArray.Machine

/-! ## The copies of a flow -/

/-- The copies for a node that the completed sends of a step ask for. -/
def sentIn (machine : Machine) (step : Step) (dest : Node) (flow : TensorId) : List Copy :=
  (machine.cores.zip step.ticks).flatMap fun (core, tick) => core.sentCopies tick dest flow

/-- The copies that the completed receives of a node take in a step. -/
def consumedIn (machine : Machine) (step : Step) (dest : Node) (flow : TensorId) : List Copy :=
  match machine.cores[dest]?, step.ticks[dest]? with
  | some core, some tick => core.consumedCopies tick flow
  | _, _ => []

/-- The copies that have arrived at a node and wait there. -/
def queuedCopies (machine : Machine) (dest : Node) (flow : TensorId) : List Copy :=
  (machine.cores[dest]?).toList.flatMap fun core => copiesOfFlow flow core.path.port.inbound

theorem tickOf_pathCase (arbiter : Arbiter) (watch : Watch) (machine : Machine) (core : Core) :
    core.PathCase machine.shownCredits machine.cycle (machine.tickOf arbiter watch core) :=
  tickOf_case.path_case

section Steps

variable {arbiter : Arbiter} {watch : Watch} {machine : Machine} {step : Step}
  {delivered rest : List Flight}

/-- What waits at a node is what a step receives there and what it leaves, and behind
that comes what is delivered. -/
theorem StepDone.queued (h : StepDone arbiter watch machine step delivered rest)
    (hlength : step.machine.cores.length = machine.cores.length) (dest : Node)
    (flow : TensorId) :
    ∃ left, machine.queuedCopies dest flow = machine.consumedIn step dest flow ++ left ∧
      step.machine.queuedCopies dest flow =
        left ++ copiesOfFlow flow (Network.packetsFor dest delivered) := by
  unfold queuedCopies consumedIn
  cases hget : machine.cores[dest]? with
  | none =>
      have hout : machine.cores.length ≤ dest := List.getElem?_eq_none_iff.mp hget
      have hafter : step.machine.cores[dest]? = none :=
        List.getElem?_eq_none_iff.mpr (by rw [hlength]; exact hout)
      have hnone : Network.packetsFor dest delivered = [] := by
        apply Network.packetsFor_eq_nil
        intro flight hmem heq
        have hlt := (h.due flight hmem).2
        rw [heq] at hlt
        exact absurd hlt (Nat.not_lt.mpr hout)
      rw [hafter, hnone]
      exact ⟨[], rfl, rfl⟩
  | some core =>
      have hticks : step.ticks[dest]? = some (machine.tickOf arbiter watch core) := by
        rw [h.ticks]
        exact getElem?_ticks arbiter watch hget
      have hcopies := (tickOf_pathCase arbiter watch machine core).consumed flow
      rw [hticks, h.core dest core hget]
      refine ⟨copiesOfFlow flow (machine.tickOf arbiter watch core).core.path.port.inbound, ?_, ?_⟩
      · simpa using hcopies
      · simp [withPort, copiesOfFlow_append]

end Steps

/-! ## Histories -/

/-- The steps that lead from one machine to another, under any arbiter in each and
with looks for a deadlock at any time; the last step comes first, each with the
machine as it was. -/
inductive History (start : Machine) : List (Machine × Step) → Machine → Prop
  | start : History start [] start
  | step {past : List (Machine × Step)} {machine : Machine} (h : History start past machine)
      (arbiter : Arbiter) (watch : Watch)
      (hok : (machine.stepWith arbiter watch).result = .ok ()) :
      History start ((machine, machine.stepWith arbiter watch) :: past)
        (machine.stepWith arbiter watch).machine
  | look {past : List (Machine × Step)} {machine : Machine} (h : History start past machine) :
      History start past machine.keepSnapshot

/-- The steps of a machine under one arbiter, the last first. -/
def pastSteps (arbiter : Arbiter) (watch : Watch) (machine : Machine) :
    Nat → List (Machine × Step)
  | 0 => []
  | count + 1 =>
      (machine.afterSteps arbiter watch count,
          (machine.afterSteps arbiter watch count).stepWith arbiter watch) ::
        machine.pastSteps arbiter watch count

/-- The copies for a node that all completed sends have asked for. -/
def sentCopies (past : List (Machine × Step)) (dest : Node) (flow : TensorId) : List Copy :=
  past.flatMap fun (machine, step) => machine.sentIn step dest flow

/-- The copies that all completed receives of a node have taken. -/
def consumedCopies (past : List (Machine × Step)) (dest : Node) (flow : TensorId) : List Copy :=
  past.flatMap fun (machine, step) => machine.consumedIn step dest flow

namespace History

variable {start machine : Machine} {past : List (Machine × Step)}

theorem reachable (h : History start past machine) (hstart : start.Reachable) :
    machine.Reachable := by
  induction h with
  | start => exact hstart
  | step _ arbiter watch hok ih => exact ih.step arbiter watch hok
  | look _ ih => exact ih.look

/-- The steps of a machine that all succeed are a history. -/
theorem ofSteps (arbiter : Arbiter) (watch : Watch) {count : Nat}
    (hok : ∀ index < count,
      ((start.afterSteps arbiter watch index).stepWith arbiter watch).result = .ok ()) :
    History start (start.pastSteps arbiter watch count)
      (start.afterSteps arbiter watch count) := by
  induction count with
  | zero => exact .start
  | succ count ih =>
      have hpast := ih fun index hlt => hok index (Nat.lt_succ_of_lt hlt)
      exact hpast.step arbiter watch (hok count (Nat.lt_succ_self count))

end History

end CoreArray.Machine
