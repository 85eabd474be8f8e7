import CoreArray.Proofs.Core.Ports
import CoreArray.Proofs.Machine.Conservation
set_option autoImplicit false

/-!
# Credit bounds the queues (SPEC §4.4, §10.9)

A flag shows what has arrived and not what is on the way, and every core may pass it in
the same step, so a queue may well exceed the threshold.  But not by much: if no copy
travels longer than some limit, then of the copies for a node at most one for each other
core and each cycle of the limit is in flight, and once the flag is closed nothing is
added to what has arrived and what is in flight.

`IsPaced` says this of a machine.  It counts the copies that are due late, for these are
the ones that were put in late; `IsPaced.stepWith` is the step lemma and `isPaced_of_history`
the sum over a history.  That the cycle at which a copy is due wraps makes it due earlier only,
so the bound holds without a limit to the clock.
-/

namespace CoreArray.Machine

/-- The copies that a step puts into the network. -/
def injectedIn (machine : Machine) (step : Step) : List Flight :=
  machine.network.waitingCopies machine.cycle (step.ticks.map fun tick => tick.core.path.port)

/-- Number of the copies for a node that are not due before so many cycles have passed.
Without delay all copies count, also those that are overdue. -/
def lateFor (machine : Machine) (dest : Node) (delay : Nat) : Nat :=
  machine.network.flights.countP fun flight =>
    flight.dest == dest && (delay == 0 || decide (machine.cycle + delay ≤ flight.due))

/-- What holds of a machine in which no copy travels longer than the limit. -/
structure IsPaced (threshold limit : Nat) (machine : Machine) : Prop where
  late : ∀ dest < machine.cores.length, ∀ delay,
    machine.lateFor dest delay ≤ (machine.cores.length - 1) * (limit - delay)
  shown : ∀ core ∈ machine.cores, core.spec.threshold = threshold
  queued : ∀ (dest : Node) (core : Core), machine.cores[dest]? = some core →
    core.path.port.inbound.length + machine.lateFor dest 0 ≤
      threshold + (machine.cores.length - 1) * (limit + 1)

section Steps

variable {arbiter : Arbiter} {watch : Watch} {machine : Machine} {step : Step}
  {delivered rest : List Flight}

/-! ## What a step puts in -/

/-- All cores together make at most one copy for a node per other core, and none unless
it is open. -/
theorem countP_waitingCopies_le {cores : List Core} (dest : Node)
    (hcase : ∀ core ∈ cores, core.PortCase machine.shownCredits
      (machine.tickOf arbiter watch core).core.path.port)
    (hdrained : ∀ core ∈ cores, core.path.port.outbound = []) :
    (machine.network.waitingCopies machine.cycle
        ((cores.map (machine.tickOf arbiter watch)).map fun tick => tick.core.path.port)).countP
          (fun flight => flight.dest == dest) ≤
      cores.countP fun core =>
        decide (dest ≠ core.node ∧ machine.shownCredits.flags[dest]? = some true) := by
  induction cores with
  | nil => exact Nat.le_refl 0
  | cons core cores ih =>
      have hfirst := (hcase core List.mem_cons_self).countP_le (hdrained core List.mem_cons_self)
        machine.network machine.cycle dest
      have hothers := ih (fun other hmem => hcase other (List.mem_cons_of_mem core hmem))
        fun other hmem => hdrained other (List.mem_cons_of_mem core hmem)
      unfold Network.waitingCopies at hothers ⊢
      rw [List.map_cons, List.map_cons, List.flatMap_cons, List.countP_append, List.countP_cons]
      simp only [decide_eq_true_eq]
      omega

theorem tickOf_portCase (arbiter : Arbiter) (watch : Watch) (machine : Machine) (core : Core) :
    core.PortCase machine.shownCredits (machine.tickOf arbiter watch core).core.path.port :=
  (tickOf_pathCase arbiter watch machine core).port_case

/-- A step puts in at most one copy for a node per other core, and none if the node is
closed. -/
theorem StepDone.injected_le (h : StepDone arbiter watch machine step delivered rest)
    (hsound : machine.IsSound) {dest : Node} {core : Core}
    (hget : machine.cores[dest]? = some core) :
    (machine.injectedIn step).countP (fun flight => flight.dest == dest) ≤
      if core.hasRoom = true then machine.cores.length - 1 else 0 := by
  have hflag : machine.shownCredits.flags[dest]? = some core.hasRoom := by
    have hshown := shownCredits_flag hsound.laid hget
    rwa [hsound.laid.node dest core hget] at hshown
  have hle := countP_waitingCopies_le dest
    (fun other _ => tickOf_portCase arbiter watch machine other) hsound.drained
  unfold injectedIn
  rw [h.ticks]
  refine Nat.le_trans hle ?_
  by_cases hroom : core.hasRoom = true
  · rw [if_pos hroom]
    -- The core of the node itself makes none.
    have hsplit := List.length_eq_countP_add_countP (fun other : Core =>
      decide (dest ≠ other.node ∧ machine.shownCredits.flags[dest]? = some true))
      (l := machine.cores)
    have hown : 0 < machine.cores.countP fun other : Core =>
        decide ¬ decide (dest ≠ other.node ∧ machine.shownCredits.flags[dest]? = some true) =
          true := by
      apply List.countP_pos_iff.mpr
      refine ⟨core, List.mem_of_getElem? hget, ?_⟩
      simp [hsound.laid.node dest core hget]
    omega
  · rw [if_neg hroom, Nat.le_zero, List.countP_eq_zero]
    intro other _
    rw [hflag]
    simp [hroom]

/-! ## The copies in flight -/

/-- The copies that a step leaves in flight are not due in it. -/
theorem StepDone.lt_due (h : StepDone arbiter watch machine step delivered rest)
    {flight : Flight} (hmem : flight ∈ rest) : machine.cycle < flight.due := by
  have hordered := machine.network.isOrdered_flights
  rw [h.split] at hordered
  have hrest : Network.IsOrdered rest := (List.pairwise_append.mp hordered).2.1
  exact hrest.late h.early flight hmem

/-- The copies that are in flight after a step and late are new ones, or were in flight
before and a cycle later. -/
theorem StepDone.lateFor_eq (h : StepDone arbiter watch machine step delivered rest)
    (dest : Node) (delay : Nat) :
    step.machine.lateFor dest delay =
      (machine.injectedIn step).countP (fun flight =>
        flight.dest == dest &&
          (delay == 0 || decide (machine.cycle + (delay + 1) ≤ flight.due))) +
      rest.countP (fun flight =>
        flight.dest == dest && decide (machine.cycle + (delay + 1) ≤ flight.due)) := by
  unfold lateFor injectedIn
  rw [h.taken.countP_eq, List.countP_append, h.cycle, Nat.add_right_comm machine.cycle 1 delay]
  congr 1
  apply List.countP_congr
  intro flight hmem
  have hlate := h.lt_due hmem
  by_cases hdelay : delay = 0
  · subst hdelay
    have hnext : machine.cycle + (0 + 1) ≤ flight.due := hlate
    simp [hnext]
  · simp [hdelay, Nat.add_assoc]

/-- A copy that is put in travels, and is due within the limit. -/
theorem StepDone.due_of_injected (h : StepDone arbiter watch machine step delivered rest)
    (hsound : machine.IsSound) {limit : Nat}
    (hlimit : ∀ flight ∈ machine.injectedIn step,
      machine.network.travel flight.packet flight.dest ≤ limit)
    {flight : Flight} (hmem : flight ∈ machine.injectedIn step) :
    0 < limit ∧ flight.due ≤ machine.cycle + limit := by
  have htravel := hlimit flight hmem
  obtain ⟨hdue, port, hport, hpacket⟩ := Network.due_of_waiting hmem
  rw [h.ticks] at hport
  obtain ⟨tick, htick, rfl⟩ := List.mem_map.mp hport
  obtain ⟨core, hcore, rfl⟩ := List.mem_map.mp htick
  have hsize := (tickOf_portCase arbiter watch machine core).size_pos
    (hsound.drained core hcore) _ hpacket
  have hpositive : 0 < machine.network.travel flight.packet flight.dest :=
    Nat.lt_of_lt_of_le hsize (Nat.le_add_left _ _)
  rw [hdue]
  exact ⟨Nat.lt_of_lt_of_le hpositive htravel,
    Nat.le_trans (wrap_le _) (Nat.add_le_add_left htravel _)⟩

/-- Copies that are put in late within the limit come from this step. -/
theorem IsPaced.late_step {threshold limit : Nat} (h : IsPaced threshold limit machine)
    (hsound : machine.IsSound) (hdone : StepDone arbiter watch machine step delivered rest)
    (hlimit : ∀ flight ∈ machine.injectedIn step,
      machine.network.travel flight.packet flight.dest ≤ limit)
    {dest : Node} {core : Core} (hget : machine.cores[dest]? = some core) (delay : Nat) :
    step.machine.lateFor dest delay ≤ (machine.cores.length - 1) * (limit - delay) := by
  obtain ⟨hlt, -⟩ := List.getElem?_eq_some_iff.mp hget
  have hearlier := h.late dest hlt (delay + 1)
  have hrest : rest.countP (fun flight =>
      flight.dest == dest && decide (machine.cycle + (delay + 1) ≤ flight.due)) ≤
        machine.lateFor dest (delay + 1) := by
    unfold lateFor
    rw [hdone.split]
    exact (List.sublist_append_right delivered rest).countP_le
  rw [hdone.lateFor_eq]
  by_cases hdelay : delay < limit
  · have hnew : (machine.injectedIn step).countP (fun flight =>
        flight.dest == dest &&
          (delay == 0 || decide (machine.cycle + (delay + 1) ≤ flight.due))) ≤
          machine.cores.length - 1 := by
      refine Nat.le_trans (List.countP_mono_left ?_) (Nat.le_trans
        (hdone.injected_le hsound hget) ?_)
      · intro flight _ hflight
        exact (Bool.and_eq_true_iff.mp hflight).1
      · split
        · exact Nat.le_refl _
        · exact Nat.zero_le _
    have hstep : limit - delay = limit - (delay + 1) + 1 := by omega
    rw [hstep, Nat.mul_succ]
    omega
  · have hnew : (machine.injectedIn step).countP (fun flight =>
        flight.dest == dest &&
          (delay == 0 || decide (machine.cycle + (delay + 1) ≤ flight.due))) = 0 := by
      rw [List.countP_eq_zero]
      intro flight hmem hflight
      obtain ⟨hpositive, hdue⟩ := hdone.due_of_injected hsound hlimit hmem
      rcases Bool.or_eq_true_iff.mp (Bool.and_eq_true_iff.mp hflight).2 with hzero | hlate
      · rw [beq_iff_eq] at hzero
        omega
      · have hwithin := Nat.le_trans (of_decide_eq_true hlate) hdue
        exact hdelay (Nat.le_of_add_le_add_left hwithin)
    have hzero : limit - (delay + 1) = 0 := by omega
    rw [hzero, Nat.mul_zero] at hearlier
    omega

/-! ## The queues -/

/-- All copies in flight for a node are late by nothing. -/
theorem lateFor_zero (machine : Machine) (dest : Node) :
    machine.lateFor dest 0 = machine.network.flights.countP fun flight => flight.dest == dest := by
  unfold lateFor
  apply List.countP_congr
  intro flight _
  rw [beq_self_eq_true, Bool.true_or, Bool.and_true]

/-- What has arrived at a node and what is on the way to it grow by what is put in. -/
theorem StepDone.arrived_le (hdone : StepDone arbiter watch machine step delivered rest)
    {dest : Node} {core after : Core} (hget : machine.cores[dest]? = some core)
    (hafter : step.machine.cores[dest]? = some after) :
    after.path.port.inbound.length + step.machine.lateFor dest 0 ≤
      core.path.port.inbound.length + machine.lateFor dest 0 +
        (machine.injectedIn step).countP (fun flight => flight.dest == dest) := by
  have hinbound : after.path.port.inbound.length =
      (machine.tickOf arbiter watch core).core.path.port.inbound.length +
        delivered.countP (fun flight => flight.dest == dest) := by
    rw [hdone.core dest core hget, Option.some.injEq] at hafter
    rw [← hafter]
    unfold withPort Network.packetsFor
    dsimp only
    rw [List.length_append, List.length_map, List.countP_eq_length_filter]
  have htaken := (tickOf_portCase arbiter watch machine core).inbound_le
  have hflights : machine.lateFor dest 0 =
      delivered.countP (fun flight => flight.dest == dest) +
        rest.countP (fun flight => flight.dest == dest) := by
    rw [lateFor_zero, hdone.split, List.countP_append]
  have hlate : step.machine.lateFor dest 0 ≤
      (machine.injectedIn step).countP (fun flight => flight.dest == dest) +
        rest.countP (fun flight => flight.dest == dest) := by
    rw [hdone.lateFor_eq]
    apply Nat.add_le_add
    · exact List.countP_mono_left fun flight _ hflight => (Bool.and_eq_true_iff.mp hflight).1
    · exact List.countP_mono_left fun flight _ hflight => (Bool.and_eq_true_iff.mp hflight).1
  omega

/-- The bound on a queue survives a step: an open flag stands for few packets, and a
closed one lets nothing in. -/
theorem IsPaced.queued_step {threshold limit : Nat} (h : IsPaced threshold limit machine)
    (hsound : machine.IsSound) (hdone : StepDone arbiter watch machine step delivered rest)
    {dest : Node} {core after : Core} (hget : machine.cores[dest]? = some core)
    (hafter : step.machine.cores[dest]? = some after) :
    after.path.port.inbound.length + step.machine.lateFor dest 0 ≤
      threshold + (machine.cores.length - 1) * (limit + 1) := by
  obtain ⟨hlt, -⟩ := List.getElem?_eq_some_iff.mp hget
  have hgrown := hdone.arrived_le hget hafter
  have hinjected := hdone.injected_le hsound hget
  by_cases hroom : core.hasRoom = true
  · rw [if_pos hroom] at hinjected
    have hfew : core.path.port.inbound.length ≤ threshold := by
      rw [← h.shown core (List.mem_of_getElem? hget)]
      exact of_decide_eq_true hroom
    have hflying := h.late dest hlt 0
    rw [Nat.sub_zero] at hflying
    rw [Nat.mul_succ]
    omega
  · rw [if_neg hroom] at hinjected
    have hbefore := h.queued dest core hget
    omega

/-- A step in which no copy travels longer than the limit keeps a machine paced. -/
theorem IsPaced.stepWith {threshold limit : Nat} (h : IsPaced threshold limit machine)
    (hsound : machine.IsSound) (hok : (machine.stepWith arbiter watch).result = .ok ())
    (hlimit : ∀ flight ∈ machine.injectedIn (machine.stepWith arbiter watch),
      machine.network.travel flight.packet flight.dest ≤ limit) :
    IsPaced threshold limit (machine.stepWith arbiter watch).machine := by
  obtain ⟨delivered, rest, hdone⟩ := stepWith_done arbiter watch hsound.laid hok
  have hlength := length_stepWith arbiter watch hsound.laid
  have hbefore {dest : Node} {after : Core}
      (hget : (machine.stepWith arbiter watch).machine.cores[dest]? = some after) :
      ∃ core, machine.cores[dest]? = some core ∧ after.spec = core.spec := by
    obtain ⟨core, hcore, hcase⟩ := exists_before_stepWith arbiter watch hsound.laid hget
    exact ⟨core, hcore, hcase.spec_eq⟩
  refine ⟨?_, ?_, ?_⟩
  · intro dest hlt delay
    rw [hlength] at hlt ⊢
    exact h.late_step hsound hdone hlimit (List.getElem?_eq_getElem hlt) delay
  · intro after hmem
    obtain ⟨dest, hget⟩ := List.mem_iff_getElem?.mp hmem
    obtain ⟨core, hcore, hspec⟩ := hbefore hget
    rw [hspec]
    exact h.shown core (List.mem_of_getElem? hcore)
  · intro dest after hget
    obtain ⟨core, hcore, -⟩ := hbefore hget
    rw [hlength]
    exact h.queued_step hsound hdone hcore hget

end Steps

/-! ## Histories -/

theorem IsNew.isPaced {machine : Machine} (h : machine.IsNew) (limit : Nat) :
    IsPaced machine.config.threshold limit machine := by
  have hlate (dest : Node) (delay : Nat) : machine.lateFor dest delay = 0 := by
    unfold lateFor
    rw [h.flights]
    rfl
  refine ⟨?_, ?_, ?_⟩
  · intro dest _ delay
    rw [hlate]
    exact Nat.zero_le _
  · intro core hmem
    obtain ⟨place, hget⟩ := List.mem_iff_getElem?.mp hmem
    obtain ⟨tables, ids, tracks, tensors, seed, heq⟩ := (h.core place core hget).made
    rw [heq]
    rfl
  · intro dest core hget
    rw [hlate, h.port hget]
    exact Nat.zero_le _

theorem isPaced_of_history {start machine : Machine} {past : List (Machine × Step)} {limit : Nat}
    (hbuilt : start.IsBuilt) (hpast : History start past machine)
    (hlimit : ∀ entry ∈ past, ∀ flight ∈ entry.1.injectedIn entry.2,
      entry.1.network.travel flight.packet flight.dest ≤ limit) :
    IsPaced start.config.threshold limit machine ∧
      machine.cores.length = start.cores.length := by
  induction hpast with
  | start => exact ⟨hbuilt.isNew.isPaced limit, rfl⟩
  | step h arbiter watch hok ih =>
      obtain ⟨hpaced, hlength⟩ := ih fun entry hmem => hlimit entry (List.mem_cons_of_mem _ hmem)
      have hsound := (h.reachable (.built hbuilt)).isSound
      refine ⟨hpaced.stepWith hsound hok (hlimit _ List.mem_cons_self), ?_⟩
      exact (length_stepWith arbiter watch hsound.laid).trans hlength
  | look _ ih =>
      obtain ⟨⟨hlate, hshown, hqueued⟩, hlength⟩ := ih hlimit
      exact ⟨⟨hlate, hshown, hqueued⟩, hlength⟩

/-- Credit bounds every queue.  In every history of a machine that is built, if no copy
that is put in travels longer than the limit, then no more packets wait at a node than
the threshold and, for each other core, one for each cycle of the limit and one more. -/
theorem queues_bounded {start machine : Machine} {past : List (Machine × Step)} {limit : Nat}
    (hbuilt : start.IsBuilt) (hpast : History start past machine)
    (hlimit : ∀ entry ∈ past, ∀ flight ∈ entry.1.injectedIn entry.2,
      entry.1.network.travel flight.packet flight.dest ≤ limit) :
    ∀ core ∈ machine.cores, core.path.port.inbound.length ≤
      start.config.threshold + (start.cores.length - 1) * (limit + 1) := by
  intro core hmem
  obtain ⟨hpaced, hlength⟩ := isPaced_of_history hbuilt hpast hlimit
  obtain ⟨dest, hget⟩ := List.mem_iff_getElem?.mp hmem
  have hqueued := hpaced.queued dest core hget
  rw [hlength] at hqueued
  exact Nat.le_trans (Nat.le_add_right _ _) hqueued

/-- The files of a core that sleeps while others send to it. -/
def twoSenderFiles : TextReader
  | "latency.txt" => .ok "CPU.sleep 1\n"
  | "tasks/sleeper" => .ok "operators:\nassemble #CPU.sleep 9\n"
  | "tasks/sender" =>
      .ok ("operators:\nassemble #NI.send 1 0\nassemble #NI.send 1 0\n" ++
        "assemble #NI.send 1 0\nassemble #NI.send 1 0\ndata:\n1#0#1\n")
  | _ => .error .notFound

/-- A core with a flag that is open only while nothing has arrived, and two that send to
it. -/
def twoSenders : Machine :=
  ofFiles twoSenderFiles { Config.default with
    arraySize := 3
    taskFiles := ["sleeper", "sender", "sender"]
    threshold := 0 }

/-- After five steps the queue of the first core has reached the bound. -/
theorem two_senders_reach_the_bound :
    twoSenders.IsBuilt ∧
      History twoSenders (twoSenders.pastSteps .seeded Watch.silent 5)
        (twoSenders.afterSteps .seeded Watch.silent 5) ∧
      (∀ entry ∈ twoSenders.pastSteps .seeded Watch.silent 5,
        ∀ flight ∈ entry.1.injectedIn entry.2,
          entry.1.network.travel flight.packet flight.dest ≤ 2) ∧
      (twoSenders.afterSteps .seeded Watch.silent 5).cores.map
          (fun core => core.path.port.inbound.length) =
        [twoSenders.config.threshold + (twoSenders.cores.length - 1) * (2 + 1), 0, 0] ∧
      ∀ core ∈ (twoSenders.afterSteps .seeded Watch.silent 5).cores,
        core.path.port.inbound.length ≤
          twoSenders.config.threshold + (twoSenders.cores.length - 1) * (2 + 1) := by
  have hfacts :
      (∀ index < 5, ((twoSenders.afterSteps .seeded Watch.silent index).stepWith .seeded
        Watch.silent).result.isOk = true) ∧
      (∀ entry ∈ twoSenders.pastSteps .seeded Watch.silent 5,
        ∀ flight ∈ entry.1.injectedIn entry.2,
          entry.1.network.travel flight.packet flight.dest ≤ 2) ∧
      (twoSenders.afterSteps .seeded Watch.silent 5).cores.map
          (fun core => core.path.port.inbound.length) =
        [twoSenders.config.threshold + (twoSenders.cores.length - 1) * (2 + 1), 0, 0] := by
    decide +kernel
  obtain ⟨hok, hlimit, hfull⟩ := hfacts
  have hbuilt : twoSenders.IsBuilt := isBuilt_ofFiles (by decide +kernel)
  have hpast : History twoSenders (twoSenders.pastSteps .seeded Watch.silent 5)
      (twoSenders.afterSteps .seeded Watch.silent 5) :=
    .ofSteps .seeded Watch.silent fun index hlt => eq_ok_of_isOk (hok index hlt)
  exact ⟨hbuilt, hpast, hlimit, hfull, queues_bounded hbuilt hpast hlimit⟩

end CoreArray.Machine
