import CoreArray.Proofs.Machine.Reachable
set_option autoImplicit false

/-!
# Steps that change nothing (SPEC §10.10)

A step that succeeds does some of the work that is left, or delivers a packet, or
else the machine stands still: but for the counts of ticks and the random words
that are drawn, only the clock moves on.
-/

namespace CoreArray.Machine

/-- Whether the cores of a machine have the tracks and the datapaths that they had. -/
structure SameCores (machine after : Machine) : Prop where
  core : ∀ (place : Nat) (core : Core), machine.cores[place]? = some core →
    ∃ later, after.cores[place]? = some later ∧ later.spec = core.spec ∧
      later.tracks = core.tracks ∧ later.path = core.path
  length : after.cores.length = machine.cores.length

/-- Whether a machine is as it was before a step at which no copy was due, the clock
apart. -/
structure StandsStill (machine after : Machine) : Prop extends SameCores machine after where
  network : after.network = machine.network
  credits : after.credits = machine.shownCredits
  cycle : after.cycle = machine.cycle + 1
  early : ∀ flight ∈ machine.network.flights.head?, machine.cycle < flight.due

section Standstill

variable {machine after : Machine}

/-- Where a core of the later machine comes from. -/
theorem SameCores.before (h : machine.SameCores after) {place : Nat} {later : Core}
    (hlater : after.cores[place]? = some later) :
    ∃ core, machine.cores[place]? = some core ∧ later.spec = core.spec ∧
      later.tracks = core.tracks ∧ later.path = core.path := by
  obtain ⟨hlt, -⟩ := List.getElem?_eq_some_iff.mp hlater
  rw [h.length] at hlt
  have hget : machine.cores[place]? = some machine.cores[place] := List.getElem?_eq_getElem hlt
  obtain ⟨found, hfound, hspec, htracks, hpath⟩ := h.core place _ hget
  rw [hlater, Option.some.injEq] at hfound
  subst hfound
  exact ⟨_, hget, hspec, htracks, hpath⟩

/-- What is read off the tracks, the datapaths and what never changes of cores stays
the same with them. -/
theorem SameCores.map_eq {β : Type} {read : Core → β} (h : machine.SameCores after)
    (hread : ∀ core later : Core, later.spec = core.spec → later.tracks = core.tracks →
      later.path = core.path → read later = read core) :
    after.cores.map read = machine.cores.map read := by
  apply List.ext_getElem?
  intro place
  rw [List.getElem?_map, List.getElem?_map]
  cases hcore : machine.cores[place]? with
  | none =>
      have hlength := List.getElem?_eq_none_iff.mp hcore
      rw [← h.length] at hlength
      rw [List.getElem?_eq_none hlength]
  | some core =>
      obtain ⟨later, hlater, hspec, htracks, hpath⟩ := h.core place core hcore
      rw [hlater, Option.map_some, Option.map_some, hread core later hspec htracks hpath]

theorem SameCores.shownCredits (h : machine.SameCores after) :
    after.shownCredits = machine.shownCredits := by
  unfold Machine.shownCredits
  rw [h.map_eq]
  intro core later hspec _ hpath
  unfold Core.hasRoom
  rw [hspec, hpath]

/-- The snapshot of a machine with credit that is up to date. -/
def shownSnapshot (machine : Machine) : Snapshot :=
  { machine.snapshot with credits := machine.shownCredits }

theorem StandsStill.snapshot (h : machine.StandsStill after) :
    after.snapshot = machine.shownSnapshot := by
  have hcores : after.cores.map Core.snapshot = machine.cores.map Core.snapshot := by
    apply h.map_eq
    intro core later _ htracks _
    unfold Core.snapshot
    rw [htracks]
  have hports : after.ports = machine.ports := by
    apply h.map_eq
    intro core later _ _ hpath
    rw [hpath]
  unfold shownSnapshot Machine.snapshot
  rw [hcores, hports, h.network, h.credits]

theorem StandsStill.shownSnapshot (h : machine.StandsStill after) :
    after.shownSnapshot = machine.shownSnapshot := by
  have hsnapshot := h.snapshot
  have hcredits := h.shownCredits
  unfold Machine.shownSnapshot at hsnapshot ⊢
  rw [hsnapshot, hcredits]

end Standstill

section Steps

variable {machine : Machine} {arbiter : Arbiter} {watch : Watch}

/-- In a step without progress the cores keep their tracks and datapaths, so that no
packet waits when the network moves. -/
theorem tick_of_idle (h : machine.IsSound)
    (hprogress : (machine.stepWith arbiter watch).progresses = false)
    (hticks : (machine.stepWith arbiter watch).ticks = machine.ticks arbiter watch) {core : Core}
    (hmem : core ∈ machine.cores) :
    (machine.tickOf arbiter watch core).core.tracks = core.tracks ∧
      (machine.tickOf arbiter watch core).core.path = core.path ∧
      (machine.tickOf arbiter watch core).core.path.port.outbound = [] := by
  have htick : (machine.tickOf arbiter watch core).progresses = false := by
    refine Bool.eq_false_iff.mpr (List.any_eq_false.mp hprogress _ ?_)
    rw [hticks]
    exact List.mem_map_of_mem hmem
  obtain ⟨htracks, hpath⟩ := tickOf_case.stays htick
  refine ⟨htracks, hpath, ?_⟩
  rw [hpath]
  exact h.drained core hmem

/-- Without progress, no packet waits after the ticks. -/
theorem outbound_of_idle (h : machine.IsSound)
    (hprogress : (machine.stepWith arbiter watch).progresses = false)
    {delivered rest : List Flight}
    (hdone : StepDone arbiter watch machine (machine.stepWith arbiter watch) delivered rest) :
    ∀ tick ∈ (machine.stepWith arbiter watch).ticks, tick.core.path.port.outbound = [] := by
  intro tick hmem
  rw [hdone.ticks] at hmem
  obtain ⟨core, hcore, rfl⟩ := List.mem_map.mp hmem
  exact (tick_of_idle h hprogress hdone.ticks hcore).2.2

/-- A step without progress and without a delivery leaves the machine as it is. -/
theorem standsStill_of_idle (h : machine.IsSound)
    (hprogress : (machine.stepWith arbiter watch).progresses = false) {rest : List Flight}
    (hdone : StepDone arbiter watch machine (machine.stepWith arbiter watch) [] rest) :
    machine.StandsStill (machine.stepWith arbiter watch).machine := by
  have hflights : machine.network.flights = rest := hdone.split
  refine ⟨⟨?_, length_stepWith arbiter watch h.laid⟩, ?_,
    (stepWith_frame arbiter watch h.laid).2.2, hdone.cycle, ?_⟩
  · intro place core hget
    have hmem := List.mem_of_getElem? hget
    obtain ⟨htracks, hpath, -⟩ := tick_of_idle h hprogress hdone.ticks hmem
    refine ⟨_, hdone.core place core hget, ?_, htracks, ?_⟩
    · exact core.tickWith_spec arbiter watch machine.shownCredits machine.cycle
    · have harrived : Network.packetsFor place [] = [] := rfl
      rw [harrived, List.append_nil]
      unfold withPort
      dsimp only
      rw [hpath, ← h.drained core hmem]
  · exact hdone.still (outbound_of_idle h hprogress hdone) rfl
  · rw [hflights]
    exact hdone.early

/-- A delivery lengthens the queue of a port. -/
theorem inbound_of_delivery (h : machine.IsSound)
    (hprogress : (machine.stepWith arbiter watch).progresses = false)
    {flight : Flight} {others rest : List Flight}
    (hdone : StepDone arbiter watch machine (machine.stepWith arbiter watch)
      (flight :: others) rest) :
    ∃ (place : Nat) (core later : Core), machine.cores[place]? = some core ∧
      (machine.stepWith arbiter watch).machine.cores[place]? = some later ∧
      core.path.port.inbound.length < later.path.port.inbound.length := by
  have hdest : flight.dest < machine.cores.length := (hdone.due flight List.mem_cons_self).2
  have hget : machine.cores[flight.dest]? = some machine.cores[flight.dest] :=
    List.getElem?_eq_getElem hdest
  obtain ⟨-, hpath, -⟩ := tick_of_idle h hprogress hdone.ticks (List.mem_of_getElem? hget)
  refine ⟨flight.dest, _, _, hget, hdone.core _ _ hget, ?_⟩
  unfold withPort
  dsimp only
  rw [hpath, List.length_append]
  unfold Network.packetsFor
  rw [List.filter_cons_of_pos (by simp), List.map_cons, List.length_cons]
  omega

/-- A step that succeeds does work, or delivers a packet, or leaves the machine as it
is. -/
theorem stepWith_advances (h : machine.IsSound)
    (hok : (machine.stepWith arbiter watch).result = .ok ()) :
    (machine.stepWith arbiter watch).machine.work < machine.work ∨
    ((machine.stepWith arbiter watch).machine.work = machine.work ∧
      (machine.stepWith arbiter watch).machine.network.inFlight < machine.network.inFlight ∧
      ∃ (place : Nat) (core later : Core), machine.cores[place]? = some core ∧
        (machine.stepWith arbiter watch).machine.cores[place]? = some later ∧
        core.path.port.inbound.length < later.path.port.inbound.length) ∨
    ((machine.stepWith arbiter watch).machine.work = machine.work ∧
      machine.StandsStill (machine.stepWith arbiter watch).machine) := by
  cases hprogress : (machine.stepWith arbiter watch).progresses with
  | true => exact .inl (work_stepWith_lt arbiter watch h.laid hprogress)
  | false =>
      have hwork := work_stepWith_eq arbiter watch h.laid hprogress
      obtain ⟨delivered, rest, hdone⟩ := stepWith_done arbiter watch h.laid hok
      cases delivered with
      | nil => exact .inr (.inr ⟨hwork, standsStill_of_idle h hprogress hdone⟩)
      | cons flight others =>
          refine .inr (.inl ⟨hwork, ?_, inbound_of_delivery h hprogress hdone⟩)
          have hidle := hdone.idle (outbound_of_idle h hprogress hdone)
          rw [Network.inFlight_eq_length, Network.inFlight_eq_length, hidle.flights, hdone.split,
            List.length_append, List.length_cons]
          omega

end Steps

end CoreArray.Machine
