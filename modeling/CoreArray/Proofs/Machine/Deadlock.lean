import CoreArray.Proofs.Core.Blocked
import CoreArray.Proofs.Machine.Standstill
set_option autoImplicit false

/-!
# What the report of a deadlock means (SPEC §5, §10.10)

A machine is dead if no number of further steps, under whatever arbiters, makes any
progress.  A report of a deadlock does not mean that much: the look compares what
two moments show, and an instruction may complete, or a track have its turn, just
after the second.  A reported machine is dead exactly if all of its cores are
blocked, which one look at its state decides.
-/

namespace CoreArray.Machine

/-- Whether all cores of a machine are blocked when the credit is up to date. -/
def isBlocked (machine : Machine) : Bool :=
  machine.cores.all fun core => core.isBlocked machine.shownCredits machine.cycle

/-- The machines to which further steps lead, under any arbiters and whether or not
they succeed. -/
inductive Onward (machine : Machine) : Machine → Prop
  | refl : Onward machine machine
  | step {later : Machine} (h : Onward machine later) (arbiter : Arbiter) (watch : Watch) :
      Onward machine (later.stepWith arbiter watch).machine

/-- Whether no further step makes progress. -/
def IsDead (machine : Machine) : Prop :=
  ∀ later, Onward machine later → ∀ (arbiter : Arbiter) (watch : Watch),
    (later.stepWith arbiter watch).progresses = false

/-! ## Blocked machines are dead -/

/-- Whether all cores of a machine are blocked and no packet is about. -/
structure IsStalled (machine : Machine) : Prop where
  laid : machine.IsLaidOut
  blocked : machine.isBlocked = true
  flights : machine.network.flights = []
  drained : ∀ core ∈ machine.cores, core.path.port.outbound = []

section Stalled

variable {machine : Machine} (arbiter : Arbiter) (watch : Watch)

theorem IsStalled.not_progresses (h : machine.IsStalled) :
    (machine.stepWith arbiter watch).progresses = false := by
  refine List.any_eq_false.mpr ?_
  intro tick hmem
  obtain ⟨place, hplace⟩ := List.mem_iff_getElem?.mp hmem
  obtain ⟨core, hcore, rfl⟩ := exists_core_of_tick arbiter watch h.laid hplace
  have hblocked := List.all_eq_true.mp h.blocked core (List.mem_of_getElem? hcore)
  rw [tickOf_case.not_progresses hblocked]
  exact Bool.false_ne_true

/-- A stalled machine keeps its tracks and its packets where they are. -/
theorem IsStalled.sameCores (h : machine.IsStalled) :
    machine.SameCores (machine.stepWith arbiter watch).machine := by
  refine ⟨?_, length_stepWith arbiter watch h.laid⟩
  intro place core hget
  obtain ⟨after, hafter, hcase⟩ := getElem?_stepWith arbiter watch h.laid hget
  obtain ⟨outbound, delivered, hkeeps, hdelivered, houtbound⟩ :=
    hcase.keeps (h.not_progresses arbiter watch)
  refine ⟨after, hafter, hkeeps.spec, hkeeps.tracks, ?_⟩
  have hdrained := h.drained core (List.mem_of_getElem? hget)
  rw [h.flights, List.prefix_nil] at hdelivered
  have harrived : Network.packetsFor place [] = [] := rfl
  have hsame : outbound = core.path.port.outbound := by
    rcases houtbound with hsame | hempty
    · exact hsame
    · rw [hempty, hdrained]
  rw [hkeeps.path, hdelivered, harrived, List.append_nil, hsame]

/-- In a stalled machine nothing is put into the network. -/
theorem IsStalled.flights_step (h : machine.IsStalled) :
    (machine.stepWith arbiter watch).machine.network.flights = [] := by
  have htransit (hticks : (machine.stepWith arbiter watch).ticks = machine.ticks arbiter watch) :
      (machine.transit arbiter watch).network.flights = [] := by
    unfold transit
    rw [Network.step_idle h.flights]
    · exact h.flights
    intro port hport
    obtain ⟨tick, htick, rfl⟩ := List.mem_map.mp hport
    obtain ⟨core, hcore, rfl⟩ := List.mem_map.mp htick
    rw [← hticks] at htick
    have hidle := Bool.eq_false_iff.mpr
      (List.any_eq_false.mp (h.not_progresses arbiter watch) _ htick)
    rw [(tickOf_case.stays hidle).2]
    exact h.drained core hcore
  cases stepWith_case arbiter watch h.laid with
  | tickFailed fault _ _ hmachine => rw [hmachine]; exact h.flights
  | networkFailed fault _ hticks hmachine => rw [hmachine]; exact htransit hticks
  | done _ hticks _ _ hmachine => rw [hmachine]; exact htransit hticks

theorem cycle_stepWith_le (h : machine.IsLaidOut) :
    machine.cycle ≤ (machine.stepWith arbiter watch).machine.cycle := by
  cases stepWith_case arbiter watch h with
  | tickFailed fault _ _ hmachine => exact Nat.le_of_eq (congrArg Machine.cycle hmachine).symm
  | networkFailed fault _ _ hmachine =>
      exact Nat.le_of_eq (congrArg Machine.cycle hmachine).symm
  | done _ _ _ _ hmachine => rw [hmachine]; exact Nat.le_succ _

/-- A stalled machine stays stalled, whatever comes of a step. -/
theorem IsStalled.step (h : machine.IsStalled) :
    (machine.stepWith arbiter watch).machine.IsStalled := by
  have hsame := h.sameCores arbiter watch
  refine ⟨isLaidOut_stepWith arbiter watch h.laid, ?_, h.flights_step arbiter watch, ?_⟩
  · refine List.all_eq_true.mpr ?_
    intro later hmem
    obtain ⟨place, hget⟩ := List.mem_iff_getElem?.mp hmem
    obtain ⟨core, hcore, hspec, htracks, hpath⟩ := hsame.before hget
    have hblocked := List.all_eq_true.mp h.blocked core (List.mem_of_getElem? hcore)
    rw [hsame.shownCredits]
    exact Core.isBlocked_later hspec htracks hpath (cycle_stepWith_le arbiter watch h.laid) hblocked
  · intro later hmem
    obtain ⟨place, hget⟩ := List.mem_iff_getElem?.mp hmem
    obtain ⟨core, hcore, -, -, hpath⟩ := hsame.before hget
    rw [hpath]
    exact h.drained core (List.mem_of_getElem? hcore)

/-- A stalled machine is dead. -/
theorem IsStalled.isDead (h : machine.IsStalled) : machine.IsDead := by
  have hlater : ∀ later, Onward machine later → later.IsStalled := by
    intro later honward
    induction honward with
    | refl => exact h
    | step _ arbiter watch ih => exact ih.step arbiter watch
  intro later honward arbiter watch
  exact (hlater later honward).not_progresses arbiter watch

end Stalled

/-! ## A report comes at a standstill -/

section Reported

variable {machine : Machine} {arbiter : Arbiter} {watch : Watch}

theorem isStuck_eq_true (h : machine.isStuck = true) :
    machine.isFinished = false ∧ machine.network.flights = [] ∧ machine.isBusy = false ∧
      machine.lastSnapshot = some machine.snapshot := by
  unfold isStuck isWaiting at h
  simp only [Bool.and_eq_true, Bool.not_eq_true', beq_iff_eq] at h
  obtain ⟨⟨⟨hfinished, hflights⟩, hbusy⟩, hlast⟩ := h
  rw [Network.inFlight_eq_length] at hflights
  exact ⟨hfinished, List.eq_nil_of_length_eq_zero hflights, hbusy, hlast⟩

/-- The step before a report has left the machine as it was. -/
theorem standsStill_of_isStuck (h : machine.IsSound)
    (hok : (machine.stepWith arbiter watch).result = .ok ())
    (hstuck : (machine.stepWith arbiter watch).machine.isStuck = true) :
    machine.StandsStill (machine.stepWith arbiter watch).machine ∧
      (machine.stepWith arbiter watch).progresses = false := by
  obtain ⟨-, -, -, hlast⟩ := isStuck_eq_true hstuck
  rw [(stepWith_frame arbiter watch h.laid).2.1] at hlast
  obtain ⟨hwork, harrived⟩ := h.bounds _ hlast
  rw [work_snapshot] at hwork harrived
  refine ⟨?_, progresses_of_work_le h.laid hwork⟩
  rcases stepWith_advances h hok with hless | ⟨heq, -, place, core, later, hcore, hlater, hlonger⟩ |
    ⟨-, hstill⟩
  · exact absurd hwork (Nat.not_le_of_lt hless)
  · -- A packet that has arrived since shows in the length of its queue.
    obtain ⟨waiting, arrived, hqueue, hle⟩ := harrived heq.symm place core hcore
    rw [queues_snapshot hlater] at hqueue
    simp only [Option.some.injEq, Prod.mk.injEq] at hqueue
    obtain ⟨-, hlength⟩ := hqueue
    rw [← hlength] at hle
    exact absurd hlonger (Nat.not_lt_of_le hle)
  · exact hstill

/-! ## What a reported machine could do -/

theorem ticks_endCycle (machine : Machine) (round : Round) :
    (machine.endCycle watch round).ticks = round.ticks := by
  unfold endCycle
  cases round.result with
  | error fault => rfl
  | ok done =>
      dsimp only
      generalize ({ machine with cores := round.cores, credits := round.credits } :
        Machine).movePackets watch = moved
      obtain ⟨after, events, result⟩ := moved
      cases result <;> rfl

/-- The turn comes to a core if the cores before it can tick. -/
theorem tickOf_mem_ticks (h : machine.IsLaidOut) {before after : List Core} {core : Core}
    (hcores : machine.cores = before ++ core :: after)
    (hok : ∀ other ∈ before, (machine.tickOf arbiter watch other).result = .ok ()) :
    machine.tickOf arbiter watch core ∈ (machine.stepWith arbiter watch).ticks := by
  have hflags := shownCredits_flags h
  rw [stepWith_eq arbiter watch h, ticks_endCycle]
  rw [hcores] at hflags ⊢
  exact mem_ticks_of_ok arbiter watch machine.cycle hflags hok

/-- A blocked core of a reported machine can tick if the right track is favoured: the
instruction that has waited in the step before waits again. -/
theorem exists_waiting_track (h : machine.IsSound)
    (hok : (machine.stepWith arbiter watch).result = .ok ())
    (hstuck : (machine.stepWith arbiter watch).machine.isStuck = true) (place : Nat) (core : Core)
    (hget : (machine.stepWith arbiter watch).machine.cores[place]? = some core)
    (hblocked : core.isBlocked (machine.stepWith arbiter watch).machine.shownCredits
      (machine.stepWith arbiter watch).machine.cycle = true) :
    ∃ index, ∀ pick : Node → Nat, pick core.node = index →
      ((machine.stepWith arbiter watch).machine.tickOf (.favouring pick) watch core).result =
        .ok () := by
  obtain ⟨hstill, hprogress⟩ := standsStill_of_isStuck h hok hstuck
  obtain ⟨-, -, hidle, -⟩ := isStuck_eq_true hstuck
  obtain ⟨earlier, hearlier, hspec, htracks, hpath⟩ := hstill.before hget
  have hbusy : core.isBusy (machine.stepWith arbiter watch).machine.cycle = false :=
    Bool.eq_false_iff.mpr (List.any_eq_false.mp hidle core (List.mem_of_getElem? hget))
  cases hfinished : core.isFinished (machine.stepWith arbiter watch).machine.cycle with
  | true => exact ⟨0, fun pick _ => Core.tick_ok_of_finished _ watch hfinished⟩
  | false =>
      have hmem := List.mem_of_getElem? hearlier
      obtain ⟨delivered, rest, hdone⟩ := stepWith_done arbiter watch h.laid hok
      have htick :
          machine.tickOf arbiter watch earlier ∈ (machine.stepWith arbiter watch).ticks := by
        rw [hdone.ticks]
        exact List.mem_map_of_mem hmem
      have hquiet : (machine.tickOf arbiter watch earlier).progresses = false :=
        Bool.eq_false_iff.mpr (List.any_eq_false.mp hprogress _ htick)
      have hcycle : machine.cycle ≤ (machine.stepWith arbiter watch).machine.cycle :=
        cycle_stepWith_le arbiter watch h.laid
      have hearlierBlocked := Core.isBlocked_later hspec.symm htracks.symm hpath.symm
        (Nat.le_refl _) hblocked
      have hearlierFinished : earlier.isFinished
          (machine.stepWith arbiter watch).machine.cycle = false := by
        unfold Core.isFinished at hfinished ⊢
        rw [← htracks]
        exact hfinished
      obtain ⟨index, track, instr, htrack, hready, hhead, hwaits⟩ :=
        tickOf_case.exists_waiting (hdone.results _ htick) hquiet (h.rested earlier hmem) hcycle
          hearlierBlocked hearlierFinished
      refine ⟨index, ?_⟩
      rintro pick rfl
      rw [← htracks] at htrack
      refine Core.tick_ok_of_waiting hblocked hbusy htrack hready hhead ?_
      rw [hstill.shownCredits, Core.handing_congr watch _ _ hspec hpath]
      exact Core.handing_waits hwaits

/-- Whether a track is rightly favoured in a step of a machine: of a blocked core it
lets the tick succeed, of any other core it brings progress. -/
def IsFavourite (machine : Machine) (watch : Watch) (core : Core) (index : Nat) : Prop :=
  ∀ pick : Node → Nat, pick core.node = index →
    if core.isBlocked machine.shownCredits machine.cycle then
      (machine.tickOf (.favouring pick) watch core).result = .ok ()
    else (machine.tickOf (.favouring pick) watch core).progresses = true

/-- Every core of a reported machine has a track that is rightly favoured. -/
theorem exists_favourite (h : machine.IsSound)
    (hok : (machine.stepWith arbiter watch).result = .ok ())
    (hstuck : (machine.stepWith arbiter watch).machine.isStuck = true) {place : Nat} {core : Core}
    (hget : (machine.stepWith arbiter watch).machine.cores[place]? = some core) :
    ∃ index, IsFavourite (machine.stepWith arbiter watch).machine watch core index := by
  obtain ⟨-, -, hidle, -⟩ := isStuck_eq_true hstuck
  have hbusy : core.isBusy (machine.stepWith arbiter watch).machine.cycle = false :=
    Bool.eq_false_iff.mpr (List.any_eq_false.mp hidle core (List.mem_of_getElem? hget))
  unfold IsFavourite
  cases hblocked : core.isBlocked (machine.stepWith arbiter watch).machine.shownCredits
      (machine.stepWith arbiter watch).machine.cycle with
  | true => exact exists_waiting_track h hok hstuck place core hget hblocked
  | false =>
      obtain ⟨index, hindex⟩ := Core.exists_progress hbusy hblocked
      exact ⟨index, fun pick => hindex pick watch⟩

/-- If every core has a track that is rightly favoured and not all cores are blocked,
a step makes progress: the first core that is not blocked has its turn. -/
theorem progresses_of_favourites (h : machine.IsLaidOut) {pick : Node → Nat}
    (hpick : ∀ (place : Nat) (core : Core), machine.cores[place]? = some core →
      IsFavourite machine watch core (pick place))
    (hblocked : machine.isBlocked = false) :
    (machine.stepWith (.favouring pick) watch).progresses = true := by
  have hfavourite : ∀ core ∈ machine.cores,
      if core.isBlocked machine.shownCredits machine.cycle then
        (machine.tickOf (.favouring pick) watch core).result = .ok ()
      else (machine.tickOf (.favouring pick) watch core).progresses = true := by
    intro core hmem
    obtain ⟨place, hget⟩ := List.mem_iff_getElem?.mp hmem
    exact hpick place core hget pick (by rw [h.node place core hget])
  cases hfind : machine.cores.find? fun core =>
      !core.isBlocked machine.shownCredits machine.cycle with
  | none =>
      obtain ⟨core, hmem, hcore⟩ := List.all_eq_false.mp hblocked
      have hnone := List.find?_eq_none.mp hfind core hmem
      simp [hcore] at hnone
  | some core =>
      obtain ⟨hcore, before, rest, hcores, hbefore⟩ := List.find?_eq_some_iff_append.mp hfind
      have hticks : ∀ other ∈ before,
          (machine.tickOf (.favouring pick) watch other).result = .ok () := by
        intro other hmem
        have hheld : other.isBlocked machine.shownCredits machine.cycle = true := by
          simpa using hbefore other hmem
        have hother := hfavourite other (by rw [hcores]; exact List.mem_append_left _ hmem)
        rw [if_pos hheld] at hother
        exact hother
      have hturn := hfavourite core (List.mem_of_find?_eq_some hfind)
      rw [if_neg (by simpa using hcore)] at hturn
      exact List.any_eq_true.mpr ⟨_, tickOf_mem_ticks h hcores hticks, hturn⟩

/-- A reported machine of which not all cores are blocked can make progress. -/
theorem exists_progress_of_not_blocked (h : machine.IsSound)
    (hok : (machine.stepWith arbiter watch).result = .ok ())
    (hstuck : (machine.stepWith arbiter watch).machine.isStuck = true)
    (hblocked : (machine.stepWith arbiter watch).machine.isBlocked = false) :
    ∃ pick : Node → Nat, ((machine.stepWith arbiter watch).machine.stepWith
      (.favouring pick) watch).progresses = true := by
  have hchoice : ∀ place : Nat, ∃ index : Nat, ∀ core : Core,
      (machine.stepWith arbiter watch).machine.cores[place]? = some core →
        IsFavourite (machine.stepWith arbiter watch).machine watch core index := by
    intro place
    cases hget : (machine.stepWith arbiter watch).machine.cores[place]? with
    | none => exact ⟨0, by simp⟩
    | some core =>
        obtain ⟨index, hindex⟩ := exists_favourite h hok hstuck hget
        refine ⟨index, ?_⟩
        rintro other ⟨⟩
        exact hindex
  obtain ⟨pick, hpick⟩ := Classical.skolem.mp hchoice
  exact ⟨pick, progresses_of_favourites (isLaidOut_stepWith arbiter watch h.laid) hpick hblocked⟩

end Reported

/-- The machine of a reported deadlock is dead exactly if all of its cores are
blocked: if no track has a completed instruction at its head, and no unit would take
up an instruction there. -/
theorem deadlock_report_iff {α : Type} (arbiter : Arbiter) (watch : Watch)
    (observe : Machine → List α) (cycles : Nat) {machine : Machine} {run : Run α} {cycle : Cycle}
    (h : machine.Reachable)
    (hrun : machine.runForWith arbiter watch observe cycles =
      (run, .failed (.deadlock cycle))) :
    run.machine.IsDead ↔ run.machine.isBlocked = true := by
  obtain ⟨before, hreach, hok, hstuck, hmachine⟩ := exists_step_of_deadlock h hrun
  have hsound := hreach.isSound
  have hafter := hsound.step hok
  obtain ⟨-, hflights, -, -⟩ := isStuck_eq_true hstuck
  rw [hmachine]
  constructor
  · intro hdead
    cases hblocked : (before.stepWith arbiter watch).machine.isBlocked with
    | true => exact hblocked
    | false =>
        obtain ⟨pick, hpick⟩ := exists_progress_of_not_blocked hsound hok hstuck hblocked
        have hquiet := hdead _ .refl (.favouring pick) watch
        unfold keepSnapshot at hquiet
        rw [stepWith_lastSnapshot] at hquiet
        unfold Step.progresses at hquiet hpick
        rw [hquiet] at hpick
        simp at hpick
  · intro hblocked
    have hstalled : (before.stepWith arbiter watch).machine.keepSnapshot.IsStalled :=
      ⟨⟨hafter.laid.node, hafter.laid.size⟩, hblocked, hflights, hafter.drained⟩
    exact hstalled.isDead

/-- A core alone with one instruction, looked at every ten cycles. -/
def lone (instr : String) : Machine :=
  ofFiles
    (fun path =>
      if path = "latency.txt" then .ok "CPU.sleep 1\n"
      else if path = "tasks/lone" then .ok ("operators:\nassemble # " ++ instr ++ "\n")
      else .error .notFound)
    { Config.default with arraySize := 1, taskFiles := ["lone"], deadlockInterval := 10 }

/-- A core that waits for a tensor that nobody sends is dead when it is reported. -/
theorem lone_receiver_dead :
    (lone "NI.recv 9").Reachable ∧
      ∃ run : Run Unit, (lone "NI.recv 9").runForWith .seeded Watch.silent (fun _ => []) 20 =
          (run, .failed (.deadlock 20)) ∧ run.machine.IsDead := by
  have hreach : (lone "NI.recv 9").Reachable := .built (isBuilt_ofFiles (by decide +kernel))
  have hrun : (lone "NI.recv 9").runForWith .seeded Watch.silent (fun _ => ([] : List Unit)) 20 =
      (((lone "NI.recv 9").runForWith .seeded Watch.silent (fun _ => []) 20).1,
        .failed (.deadlock 20)) :=
    Prod.ext rfl (by decide +kernel)
  refine ⟨hreach, _, hrun, ?_⟩
  exact (deadlock_report_iff .seeded Watch.silent (fun _ => []) 20 hreach hrun).mpr
    (by decide +kernel)

/-- A core that sleeps for twenty cycles is reported at the twentieth, although the
sleep ends in the very next step. -/
theorem lone_sleeper_reported_alive :
    (lone "CPU.sleep 20").IsBuilt ∧
      ∃ run : Run Unit, (lone "CPU.sleep 20").runFor Watch.silent (fun _ => []) 20 =
          (run, .failed (.deadlock 20)) ∧ ¬ run.machine.IsDead := by
  have hrun : (lone "CPU.sleep 20").runFor Watch.silent (fun _ => ([] : List Unit)) 20 =
      (((lone "CPU.sleep 20").runFor Watch.silent (fun _ => []) 20).1,
        .failed (.deadlock 20)) :=
    Prod.ext rfl (by decide +kernel)
  refine ⟨isBuilt_ofFiles (by decide +kernel), _, hrun, ?_⟩
  intro hdead
  have hquiet := hdead _ .refl .seeded Watch.silent
  have hprogress : (((lone "CPU.sleep 20").runFor Watch.silent (fun _ => ([] : List Unit))
      20).1.machine.stepWith .seeded Watch.silent).progresses = true := by decide +kernel
  rw [hprogress] at hquiet
  simp at hquiet

end CoreArray.Machine
