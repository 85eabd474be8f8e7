import CoreArray.Proofs.Core.Excerpt
import CoreArray.Proofs.Network.Excerpt
import CoreArray.Machine.Run
set_option autoImplicit false

/-!
# What is told of a machine (SPEC §10.2, §10.10)

Under every watch a machine takes the same steps and has the same runs, and what is told is
an excerpt of all that there is to tell (`isExcerpt_stepWith`, `isExcerpt_runFrom`).  The
events concern the entities of the machine, which stay the same.
-/

namespace CoreArray

/-- Whether a core and its units have their numbers among some. -/
def Core.IsNumbered (ids : List EntityId) (core : Core) : Prop := ∀ id ∈ core.spec.ids.all, id ∈ ids

/-- Whether a machine and its parts have their numbers among some. -/
structure Machine.IsNumbered (ids : List EntityId) (machine : Machine) : Prop where
  array : machine.id ∈ ids
  network : machine.network.id ∈ ids
  cores : ∀ core ∈ machine.cores, core.IsNumbered ids

namespace Round

/-- A round without what is told of it. -/
def muted (round : Round) : Round := { round with ticks := round.ticks.map Tick.muted }

/-- Whether in two rounds the same is done, and what is told of the one under a watch is an
excerpt of what is told of the other. -/
structure IsExcerpt (ids : List EntityId) (watch : Watch) (round full : Round) : Prop where
  same : round.muted = full.muted
  events : Excerpt ids watch round.events full.events
  numbered : ∀ core ∈ full.cores, core.IsNumbered ids

variable {ids : List EntityId} {watch : Watch} {round full : Round}

theorem IsExcerpt.cores_eq (h : round.IsExcerpt ids watch full) : round.cores = full.cores := by
  have hcores : round.muted.cores = full.muted.cores := by rw [h.same]
  exact hcores

theorem IsExcerpt.credits_eq (h : round.IsExcerpt ids watch full) :
    round.credits = full.credits := by
  have hcredits : round.muted.credits = full.muted.credits := by rw [h.same]
  exact hcredits

theorem IsExcerpt.ticks_eq (h : round.IsExcerpt ids watch full) :
    round.ticks.map Tick.muted = full.ticks.map Tick.muted := by
  have hticks : round.muted.ticks = full.muted.ticks := by rw [h.same]
  exact hticks

theorem IsExcerpt.result_eq (h : round.IsExcerpt ids watch full) : round.result = full.result := by
  have hresult : round.muted.result = full.muted.result := by rw [h.same]
  exact hresult

end Round

namespace Step

/-- A step without what is told of it. -/
def muted (step : Step) : Step :=
  { step with ticks := step.ticks.map Tick.muted, events := [] }

/-- Whether in two steps the same is done, and what is told of the one under a watch is an
excerpt of what is told of the other. -/
structure IsExcerpt (ids : List EntityId) (watch : Watch) (step full : Step) : Prop where
  same : step.muted = full.muted
  events : Excerpt ids watch step.events full.events
  numbered : full.machine.IsNumbered ids

variable {ids : List EntityId} {watch : Watch} {step full : Step}

theorem IsExcerpt.machine_eq (h : step.IsExcerpt ids watch full) : step.machine = full.machine := by
  have hmachine : step.muted.machine = full.muted.machine := by rw [h.same]
  exact hmachine

theorem IsExcerpt.result_eq (h : step.IsExcerpt ids watch full) : step.result = full.result := by
  have hresult : step.muted.result = full.muted.result := by rw [h.same]
  exact hresult

end Step

namespace Machine

/-! ## Steps -/

section Steps

variable {ids : List EntityId} (arbiter : Arbiter) (watch : Watch)

theorem isExcerpt_tickCores (cycle : Cycle) (credits : CreditBoard) {cores : List Core}
    (h : ∀ core ∈ cores, core.IsNumbered ids) :
    (tickCores arbiter watch cycle credits cores).IsExcerpt ids watch
      (tickCores arbiter .everything cycle credits cores) := by
  induction cores generalizing credits with
  | nil => exact ⟨rfl, .nil, h⟩
  | cons core cores ih =>
      obtain ⟨hcore, hcores⟩ := List.forall_mem_cons.mp h
      have htick := core.isExcerpt_tickWith watch credits cycle arbiter
      have hevents := htick.events.mono hcore
      have hafter : (core.tickWith arbiter .everything credits cycle).core.IsNumbered ids := by
        unfold Core.IsNumbered
        rw [Core.tickWith_spec]
        exact hcore
      unfold tickCores
      dsimp only
      rw [htick.result_eq, htick.core_eq, htick.credits_eq]
      cases (core.tickWith arbiter .everything credits cycle).result with
      | error fault =>
          refine ⟨?_, ?_, List.forall_mem_cons.mpr ⟨hafter, hcores⟩⟩
          · unfold Round.muted
            dsimp only
            rw [List.map_singleton, List.map_singleton, htick.same]
          · unfold Round.events
            rw [List.flatMap_singleton, List.flatMap_singleton]
            exact hevents
      | ok done =>
          have hrest := ih (core.tickWith arbiter .everything credits cycle).credits hcores
          refine ⟨?_, ?_, List.forall_mem_cons.mpr ⟨hafter, hrest.numbered⟩⟩
          · unfold Round.muted
            dsimp only
            rw [List.map_cons, List.map_cons, htick.same, hrest.cores_eq, hrest.credits_eq,
              hrest.ticks_eq, hrest.result_eq]
          · exact hevents.append hrest.events

/-- Packets are moved in the same way under every watch. -/
theorem movePackets_excerpt {machine : Machine} (h : machine.IsNumbered ids) :
    (machine.movePackets watch).1 = (machine.movePackets .everything).1 ∧
      Excerpt ids watch (machine.movePackets watch).2.1 (machine.movePackets .everything).2.1 ∧
      (machine.movePackets watch).2.2 = (machine.movePackets .everything).2.2 ∧
      (machine.movePackets .everything).1.IsNumbered ids := by
  have hstep := Network.isExcerpt_step watch machine.cycle h.network machine.ports
  have hcores : ∀ core ∈ List.zipWith withPort machine.cores
      (machine.network.step .everything machine.cycle machine.ports).ports,
      core.IsNumbered ids := by
    intro core hmem
    rw [← List.map_uncurry_zip_eq_zipWith] at hmem
    obtain ⟨⟨before, port⟩, hpair, rfl⟩ := List.mem_map.mp hmem
    exact h.cores before (List.of_mem_zip hpair).1
  unfold movePackets
  dsimp only
  rw [hstep.network_eq, hstep.ports_eq]
  exact ⟨rfl, hstep.events, hstep.result_eq, h.array, hstep.source, hcores⟩

theorem isExcerpt_endCycle {machine : Machine} (h : machine.IsNumbered ids) {round full : Round}
    (hround : round.IsExcerpt ids watch full) :
    (machine.endCycle watch round).IsExcerpt ids watch (machine.endCycle .everything full) := by
  have hticked : ({ machine with cores := full.cores, credits := full.credits } :
      Machine).IsNumbered ids := ⟨h.array, h.network, hround.numbered⟩
  obtain ⟨hmachine, hevents, hresult, hnumbered⟩ := movePackets_excerpt watch hticked
  unfold endCycle
  dsimp only
  rw [hround.cores_eq, hround.credits_eq, hround.result_eq]
  cases full.result with
  | error fault =>
      refine ⟨?_, hround.events, hticked⟩
      unfold Step.muted
      dsimp only
      rw [hround.ticks_eq]
  | ok done =>
      generalize ({ machine with cores := full.cores, credits := full.credits } :
        Machine).movePackets watch = moved at hmachine hevents hresult
      generalize ({ machine with cores := full.cores, credits := full.credits } :
        Machine).movePackets .everything = movedFull at hmachine hevents hresult hnumbered
      obtain ⟨after, events, result⟩ := moved
      obtain ⟨afterFull, eventsFull, resultFull⟩ := movedFull
      dsimp only at hmachine hevents hresult hnumbered
      subst hmachine hresult
      cases result with
      | error fault =>
          refine ⟨?_, hround.events.append hevents, hnumbered⟩
          unfold Step.muted
          dsimp only
          rw [hround.ticks_eq]
      | ok moved =>
          refine ⟨?_, hround.events.append hevents, ⟨hnumbered.array, hnumbered.network,
            hnumbered.cores⟩⟩
          unfold Step.muted
          dsimp only
          rw [hround.ticks_eq]

/-- Under every watch a machine takes the same step, and what is told is an excerpt. -/
theorem isExcerpt_stepWith {machine : Machine} (h : machine.IsNumbered ids) :
    (machine.stepWith arbiter watch).IsExcerpt ids watch
      (machine.stepWith arbiter .everything) := by
  unfold stepWith stepBy
  split
  · exact ⟨rfl, .nil, ⟨h.array, h.network, h.cores⟩⟩
  · next credits _ =>
      have hround := isExcerpt_tickCores arbiter watch machine.cycle credits h.cores
      exact isExcerpt_endCycle watch h hround

end Steps

end Machine

/-! ## Runs -/

namespace Run

variable {α : Type}

/-- A run without what is told of it. -/
def muted (run : Run α) : Run α := { run with events := #[] }

/-- Whether two runs come to the same, and what is told of the one under a watch is an
excerpt of what is told of the other. -/
structure IsExcerpt (ids : List EntityId) (watch : Watch) (run full : Run α) : Prop where
  same : run.muted = full.muted
  events : Excerpt ids watch run.events.toList full.events.toList
  numbered : full.machine.IsNumbered ids

variable {ids : List EntityId} {watch : Watch} {run full : Run α}

theorem IsExcerpt.machine_eq (h : run.IsExcerpt ids watch full) : run.machine = full.machine := by
  have hmachine : run.muted.machine = full.muted.machine := by rw [h.same]
  exact hmachine

theorem IsExcerpt.seen_eq (h : run.IsExcerpt ids watch full) : run.seen = full.seen := by
  have hseen : run.muted.seen = full.muted.seen := by rw [h.same]
  exact hseen

theorem IsExcerpt.tell (h : run.IsExcerpt ids watch full) {events fullEvents : List Event}
    (hevents : Excerpt ids watch events fullEvents) :
    (run.tell events).IsExcerpt ids watch (full.tell fullEvents) := by
  refine ⟨h.same, ?_, h.numbered⟩
  unfold Run.tell
  dsimp only
  rw [Array.toList_appendList, Array.toList_appendList]
  exact h.events.append hevents

theorem isExcerpt_ofMachine {machine : Machine} (h : machine.IsNumbered ids) :
    (ofMachine machine : Run α).IsExcerpt ids watch (ofMachine machine) :=
  ⟨rfl, .nil, h⟩

end Run

namespace Machine

section Runs

variable {α : Type} {ids : List EntityId} (arbiter : Arbiter) (watch : Watch)
  (observe : Machine → List α) {run full : Run α}

theorem excerpt_deadlockEvents {machine : Machine} (h : machine.IsNumbered ids) :
    Excerpt ids watch (machine.deadlockEvents watch) (machine.deadlockEvents .everything) :=
  .append (.say h.array .error _) (.flatMap fun _ _ => .say h.array .error _)

theorem isExcerpt_lookForDeadlock (h : run.IsExcerpt ids watch full) :
    (lookForDeadlock watch run).1.IsExcerpt ids watch (lookForDeadlock .everything full).1 ∧
      (lookForDeadlock watch run).2 = (lookForDeadlock .everything full).2 := by
  have hkept : ({ run with machine := full.machine.keepSnapshot } : Run α).IsExcerpt ids watch
      { full with machine := full.machine.keepSnapshot } := by
    refine ⟨?_, h.events, ⟨h.numbered.array, h.numbered.network, h.numbered.cores⟩⟩
    unfold Run.muted
    dsimp only
    rw [h.seen_eq]
  unfold lookForDeadlock
  dsimp only
  rw [h.machine_eq]
  split
  · split
    · exact ⟨hkept.tell (excerpt_deadlockEvents watch h.numbered), rfl⟩
    · exact ⟨hkept, rfl⟩
  · exact ⟨h, rfl⟩

theorem isExcerpt_runCycle (h : run.IsExcerpt ids watch full) :
    (runCycle (stepWith arbiter watch) watch observe run).1.IsExcerpt ids watch
        (runCycle (stepWith arbiter .everything) .everything observe full).1 ∧
      (runCycle (stepWith arbiter watch) watch observe run).2 =
        (runCycle (stepWith arbiter .everything) .everything observe full).2 := by
  have hstep := isExcerpt_stepWith arbiter watch h.numbered
  have htold := h.tell hstep.events
  unfold runCycle
  rw [h.machine_eq]
  dsimp only
  rw [hstep.machine_eq, hstep.result_eq]
  cases (full.machine.stepWith arbiter .everything).result with
  | error fault =>
      refine ⟨⟨?_, htold.events, hstep.numbered⟩, rfl⟩
      unfold Run.muted Run.tell
      dsimp only
      rw [h.seen_eq]
  | ok done =>
      apply isExcerpt_lookForDeadlock
      refine ⟨?_, htold.events, hstep.numbered⟩
      unfold Run.muted Run.tell
      dsimp only
      rw [h.seen_eq]

/-- Under every watch runs come to the same, and what is told is an excerpt. -/
theorem isExcerpt_runFrom (cycles : Nat) {run full : Run α} (h : run.IsExcerpt ids watch full) :
    (runFrom (stepWith arbiter watch) watch observe cycles run).1.IsExcerpt ids watch
        (runFrom (stepWith arbiter .everything) .everything observe cycles full).1 ∧
      (runFrom (stepWith arbiter watch) watch observe cycles run).2 =
        (runFrom (stepWith arbiter .everything) .everything observe cycles full).2 := by
  induction cycles generalizing run full with
  | zero => exact ⟨h, rfl⟩
  | succ cycles ih =>
      obtain ⟨hcycle, hfault⟩ := isExcerpt_runCycle arbiter watch observe h
      unfold runFrom
      dsimp only
      rw [h.machine_eq]
      split
      · exact ⟨h.tell (.say h.numbered.array .info _), rfl⟩
      · split
        · exact ⟨h.tell (.say h.numbered.array .warn _), rfl⟩
        · generalize runCycle (stepWith arbiter watch) watch observe run = cycled at hcycle hfault
          generalize runCycle (stepWith arbiter .everything) .everything observe full = cycledFull
            at hcycle hfault
          obtain ⟨after, fault?⟩ := cycled
          obtain ⟨afterFull, faultFull?⟩ := cycledFull
          dsimp only at hcycle hfault
          subst hfault
          cases fault? with
          | none => exact ih hcycle
          | some fault => exact ⟨hcycle, rfl⟩

end Runs

end Machine

end CoreArray
