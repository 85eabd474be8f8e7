import CoreArray.Proofs.Machine.Standstill
set_option autoImplicit false

/-!
# Every run ends (SPEC §5, §10.10)

What a machine has ahead of it is ranked by four numbers, the former before the
latter: the work that is left, the copies in flight, the cycles until the last
instruction has completed and the last copy is due, and the cycles until a look for
a deadlock finds the machine as the look before has left it.  Each cycle of a run
that neither fails nor finishes lowers the rank, whatever the arbiter chooses, so
that every run ends if looks for a deadlock are made.
-/

namespace CoreArray

/-- The cycle that a marker names. -/
def Marker.cycle : Marker → Cycle
  | .unset => 0
  | .at doneAt => doneAt

/-- The cycles that the markers of a core name. -/
def Core.markedCycles (core : Core) : List Nat := core.tracks.map fun track => track.marker.cycle

/-- The last of several cycles. -/
def lastOf (cycles : List Nat) : Nat := cycles.foldr max 0

theorem le_lastOf {cycles : List Nat} {cycle : Nat} (h : cycle ∈ cycles) :
    cycle ≤ lastOf cycles := by
  induction cycles with
  | nil => simp at h
  | cons first rest ih =>
      have hlast : lastOf (first :: rest) = max first (lastOf rest) := rfl
      rw [hlast]
      rcases List.mem_cons.mp h with rfl | hrest
      · exact Nat.le_max_left _ _
      · exact Nat.le_trans (ih hrest) (Nat.le_max_right _ _)

namespace Machine

/-! ## The rank of a machine -/

/-- The last cycle at which an instruction completes or a copy is due. -/
def horizon (machine : Machine) : Nat :=
  lastOf ((machine.cores.map Core.markedCycles).flatten ++ machine.network.flights.map Flight.due)

/-- Cycles until the next look for a deadlock. -/
def untilLook (machine : Machine) : Nat :=
  machine.config.deadlockInterval - machine.cycle % machine.config.deadlockInterval

/-- Cycles until a look finds a machine that stands still as the look before has left
it. -/
def countdown (machine : Machine) : Nat :=
  if machine.lastSnapshot = some machine.shownSnapshot then machine.untilLook
  else machine.config.deadlockInterval + machine.untilLook

/-- What a machine has ahead of it. -/
def rank (machine : Machine) : Nat × Nat × Nat × Nat :=
  (machine.work, machine.network.inFlight, machine.horizon + 1 - machine.cycle,
    machine.countdown)

/-- Whether a machine has less ahead of it than another. -/
def HasLess (after machine : Machine) : Prop :=
  Prod.Lex (· < ·) (Prod.Lex (· < ·) (Prod.Lex (· < ·) (· < ·))) after.rank machine.rank

theorem hasLess_wf : WellFounded HasLess :=
  InvImage.wf rank
    (Prod.lex Nat.lt_wfRel (Prod.lex Nat.lt_wfRel (Prod.lex Nat.lt_wfRel Nat.lt_wfRel))).wf

section Horizon

variable {machine : Machine}

theorem due_le_horizon {flight : Flight} (h : flight ∈ machine.network.flights) :
    flight.due ≤ machine.horizon :=
  le_lastOf (List.mem_append_right _ (List.mem_map_of_mem h))

/-- After its horizon a machine executes nothing. -/
theorem isBusy_of_horizon_lt (h : machine.horizon < machine.cycle) : machine.isBusy = false := by
  refine Bool.eq_false_iff.mpr ?_
  intro hbusy
  obtain ⟨core, hcore, hbusy⟩ := List.any_eq_true.mp hbusy
  obtain ⟨track, htrack, hafter⟩ := List.any_eq_true.mp hbusy
  have hmarked : track.marker.cycle ≤ machine.horizon := by
    refine le_lastOf (List.mem_append_left _ (List.mem_flatten.mpr ⟨core.markedCycles, ?_, ?_⟩))
    · exact List.mem_map_of_mem hcore
    · exact List.mem_map_of_mem htrack
  unfold Track.isBusy at hafter
  cases hmarker : track.marker with
  | unset =>
      rw [hmarker] at hafter
      simp [Marker.isAfter] at hafter
  | «at» doneAt =>
      rw [hmarker] at hafter hmarked
      have hlt : machine.cycle < doneAt := of_decide_eq_true hafter
      have hle : doneAt ≤ machine.horizon := hmarked
      exact absurd (Nat.lt_of_lt_of_le hlt hle) (Nat.lt_asymm h)

end Horizon

/-! ## Standing still lowers the rank -/

section Standstill

variable {machine after : Machine}

theorem StandsStill.horizon (h : machine.StandsStill after) : after.horizon = machine.horizon := by
  have hmarked : after.cores.map Core.markedCycles = machine.cores.map Core.markedCycles := by
    apply h.map_eq
    intro core later _ htracks _
    unfold Core.markedCycles
    rw [htracks]
  unfold Machine.horizon
  rw [hmarked, h.network]

/-- The next look comes nearer with every cycle that passes without one. -/
theorem untilLook_passed {interval cycle : Nat} (hinterval : interval ≠ 0)
    (h : (cycle + 1) % interval ≠ 0) :
    interval - (cycle + 1) % interval < interval - cycle % interval := by
  have hrest : cycle % interval < interval := Nat.mod_lt _ (Nat.pos_of_ne_zero hinterval)
  have hnext : (cycle + 1) % interval = (cycle % interval + 1) % interval :=
    (Nat.mod_add_mod cycle interval 1).symm
  rcases Nat.lt_or_ge (cycle % interval + 1) interval with hlt | hge
  · rw [hnext, Nat.mod_eq_of_lt hlt]
    omega
  · have heq : cycle % interval + 1 = interval := by omega
    rw [hnext, heq, Nat.mod_self] at h
    exact absurd rfl h

theorem StandsStill.countdown_passed (h : machine.StandsStill after)
    (hconfig : after.config = machine.config)
    (hlast : after.lastSnapshot = machine.lastSnapshot)
    (hinterval : machine.config.deadlockInterval ≠ 0) (hdue : after.isCheckDue = false) :
    after.countdown < machine.countdown := by
  have hpassed : after.untilLook < machine.untilLook := by
    unfold untilLook
    unfold isCheckDue at hdue
    rw [hconfig, h.cycle] at hdue ⊢
    apply untilLook_passed hinterval
    simpa [hinterval] using hdue
  unfold countdown
  rw [hlast, h.shownSnapshot, hconfig]
  split
  · exact hpassed
  · exact Nat.add_lt_add_left hpassed _

theorem StandsStill.countdown_looked (h : machine.StandsStill after)
    (hconfig : after.config = machine.config)
    (hlast : after.lastSnapshot = machine.lastSnapshot)
    (hinterval : machine.config.deadlockInterval ≠ 0) (hwaiting : after.isWaiting = true)
    (hstuck : after.isStuck = false) : after.keepSnapshot.countdown < machine.countdown := by
  have hnew : machine.lastSnapshot ≠ some machine.shownSnapshot := by
    intro hold
    unfold isStuck at hstuck
    rw [hwaiting, hlast, h.snapshot, hold] at hstuck
    simp at hstuck
  have hkept : after.keepSnapshot.lastSnapshot = some after.keepSnapshot.shownSnapshot :=
    congrArg some (h.snapshot.trans h.shownSnapshot.symm)
  have huntil : after.keepSnapshot.untilLook ≤ machine.config.deadlockInterval := by
    unfold untilLook keepSnapshot
    dsimp only
    rw [hconfig]
    exact Nat.sub_le _ _
  have hrest : 0 < machine.untilLook :=
    Nat.sub_pos_of_lt (Nat.mod_lt _ (Nat.pos_of_ne_zero hinterval))
  unfold countdown
  rw [if_pos hkept, if_neg hnew]
  omega

/-- At a standstill the machine waits once its horizon has passed. -/
theorem StandsStill.isWaiting (h : machine.StandsStill after)
    (hpassed : machine.horizon < machine.cycle) (hunfinished : after.isFinished = false) :
    after.isWaiting = true := by
  have hflights : machine.network.flights = [] := by
    cases hflights : machine.network.flights with
    | nil => rfl
    | cons flight rest =>
        have hdue : flight.due ≤ machine.horizon :=
          due_le_horizon (by rw [hflights]; exact List.mem_cons_self)
        have hearly := h.early flight (by rw [hflights]; rfl)
        exact absurd (Nat.lt_of_lt_of_le hearly hdue) (Nat.lt_asymm hpassed)
  have hbusy : after.isBusy = false := by
    apply isBusy_of_horizon_lt
    rw [h.horizon, h.cycle]
    exact Nat.lt_succ_of_lt hpassed
  unfold Machine.isWaiting
  rw [hunfinished, hbusy, h.network, Network.inFlight_eq_length, hflights]
  rfl

end Standstill

/-! ## Every cycle of a run lowers the rank -/

section Rank

variable {machine after : Machine}

theorem hasLess_of_work (h : after.work < machine.work) : HasLess after machine :=
  Prod.Lex.left _ _ h

theorem hasLess_of_flights (hwork : after.work = machine.work)
    (h : after.network.inFlight < machine.network.inFlight) : HasLess after machine := by
  unfold HasLess rank
  rw [hwork]
  exact Prod.Lex.right _ (Prod.Lex.left _ _ h)

theorem hasLess_of_horizon (hwork : after.work = machine.work)
    (hflights : after.network.inFlight = machine.network.inFlight)
    (h : after.horizon + 1 - after.cycle < machine.horizon + 1 - machine.cycle) :
    HasLess after machine := by
  unfold HasLess rank
  rw [hwork, hflights]
  exact Prod.Lex.right _ (Prod.Lex.right _ (Prod.Lex.left _ _ h))

theorem hasLess_of_countdown (hwork : after.work = machine.work)
    (hflights : after.network.inFlight = machine.network.inFlight)
    (hhorizon : after.horizon + 1 - after.cycle = machine.horizon + 1 - machine.cycle)
    (h : after.countdown < machine.countdown) : HasLess after machine := by
  unfold HasLess rank
  rw [hwork, hflights, hhorizon]
  exact Prod.Lex.right _ (Prod.Lex.right _ (Prod.Lex.right _ h))

end Rank

section Cycles

variable {α : Type} {arbiter : Arbiter} {watch : Watch} {run after : Run α}

/-- Whether a machine is the one after a step, a look for a deadlock apart. -/
theorem CycleCase.machine_eq (h : CycleCase (stepWith arbiter watch) run after none) :
    (run.machine.stepWith arbiter watch).result = .ok () ∧
      ((after.machine = (run.machine.stepWith arbiter watch).machine ∧
          (run.machine.stepWith arbiter watch).machine.isCheckDue = false) ∨
        (after.machine = (run.machine.stepWith arbiter watch).machine.keepSnapshot ∧
          (run.machine.stepWith arbiter watch).machine.isStuck = false)) := by
  cases h with
  | failed fault _ hfault _ => simp at hfault
  | passed hstep hdue _ hmachine => exact ⟨hstep, .inl ⟨hmachine, hdue⟩⟩
  | looked hstep _ hstuck _ hmachine => exact ⟨hstep, .inr ⟨hmachine, hstuck⟩⟩
  | stuck _ _ _ hfault _ => simp at hfault

/-- A cycle of a run that neither fails nor finishes lowers the rank. -/
theorem CycleCase.hasLess (h : CycleCase (stepWith arbiter watch) run after none)
    (hsound : run.machine.IsSound) (hinterval : run.machine.config.deadlockInterval ≠ 0)
    (hunfinished : after.machine.isFinished = false) : HasLess after.machine run.machine := by
  obtain ⟨hstep, hafter⟩ := h.machine_eq
  obtain ⟨hconfig, hlast, -⟩ := stepWith_frame arbiter watch hsound.laid
  -- A look for a deadlock changes neither of the first three numbers.
  have hlook : ∃ snapshot?, after.machine =
      { (run.machine.stepWith arbiter watch).machine with lastSnapshot := snapshot? } := by
    rcases hafter with ⟨hmachine, -⟩ | ⟨hmachine, -⟩
    · exact ⟨_, hmachine⟩
    · exact ⟨_, hmachine⟩
  obtain ⟨snapshot?, hlook⟩ := hlook
  have hwork : after.machine.work = (run.machine.stepWith arbiter watch).machine.work :=
    (congrArg Machine.work hlook).trans rfl
  have hnetwork : after.machine.network =
      (run.machine.stepWith arbiter watch).machine.network :=
    (congrArg Machine.network hlook).trans rfl
  have hhorizon : after.machine.horizon =
      (run.machine.stepWith arbiter watch).machine.horizon :=
    (congrArg Machine.horizon hlook).trans rfl
  have hcycle : after.machine.cycle = (run.machine.stepWith arbiter watch).machine.cycle :=
    (congrArg Machine.cycle hlook).trans rfl
  rcases stepWith_advances hsound hstep with hless | ⟨heq, hless, -⟩ | ⟨heq, hstill⟩
  · exact hasLess_of_work (by rw [hwork]; exact hless)
  · exact hasLess_of_flights (hwork.trans heq) (by rw [hnetwork]; exact hless)
  · have hflights : after.machine.network.inFlight = run.machine.network.inFlight := by
      rw [hnetwork, hstill.network]
    rw [hstill.horizon] at hhorizon
    rw [hstill.cycle] at hcycle
    rcases Nat.lt_or_ge run.machine.horizon run.machine.cycle with hpassed | hahead
    · have hsame : after.machine.horizon + 1 - after.machine.cycle =
          run.machine.horizon + 1 - run.machine.cycle := by
        rw [hhorizon, hcycle, Nat.sub_eq_zero_of_le hpassed,
          Nat.sub_eq_zero_of_le (Nat.le_succ_of_le hpassed)]
      refine hasLess_of_countdown (hwork.trans heq) hflights hsame ?_
      rcases hafter with ⟨hmachine, hdue⟩ | ⟨hmachine, hstuck⟩
      · rw [hmachine]
        exact hstill.countdown_passed hconfig hlast hinterval hdue
      · rw [hmachine] at hunfinished ⊢
        have hwaiting := hstill.isWaiting hpassed hunfinished
        exact hstill.countdown_looked hconfig hlast hinterval hwaiting hstuck
    · refine hasLess_of_horizon (hwork.trans heq) hflights ?_
      rw [hhorizon, hcycle, Nat.succ_sub hahead, Nat.add_sub_add_right]
      exact Nat.lt_succ_self _

theorem CycleCase.config (h : CycleCase (stepWith arbiter watch) run after none)
    (hlaid : run.machine.IsLaidOut) : after.machine.config = run.machine.config := by
  obtain ⟨hconfig, -, -⟩ := stepWith_frame arbiter watch hlaid
  rcases h.machine_eq.2 with ⟨hmachine, -⟩ | ⟨hmachine, -⟩
  · rw [hmachine, hconfig]
  · rw [hmachine]
    exact hconfig

end Cycles

/-! ## Runs end -/

section Runs

variable {α : Type} {watch : Watch} {observe : Machine → List α}

/-- Whether a run comes to an end within some cycles: it finishes or it fails. -/
def Ends (take : Machine → Step) (watch : Watch) (observe : Machine → List α) (run : Run α) :
    Prop :=
  ∃ bound final ending,
    (∀ cycles, bound ≤ cycles → runFrom take watch observe cycles run = (final, ending)) ∧
      ((ending = .finished ∧ final.machine.isFinished = true) ∨
        ∃ fault, ending = .failed fault)

theorem ends_of_finished {take : Machine → Step} {run : Run α}
    (h : run.machine.isFinished = true) : Ends take watch observe run := by
  refine ⟨1, run.tell (watch.say run.machine.id .info
    s!"all cores finished at cycle {run.machine.cycle}"), .finished, ?_, .inl ⟨rfl, h⟩⟩
  intro cycles hbound
  obtain ⟨cycles, rfl⟩ := Nat.exists_eq_add_of_le' hbound
  unfold runFrom
  dsimp only
  rw [if_pos h]

theorem ends_of_cycle {take : Machine → Step} {run : Run α}
    (hmax : run.machine.config.maxCycles = 0) (hunfinished : run.machine.isFinished = false)
    (hnext : (runCycle take watch observe run).2 = none →
      Ends take watch observe (runCycle take watch observe run).1) :
    Ends take watch observe run := by
  have hlimit : run.machine.isAtLimit = false := by
    unfold isAtLimit
    rw [hmax]
    rfl
  rcases hcycle : runCycle take watch observe run with ⟨after, fault?⟩
  rw [hcycle] at hnext
  cases fault? with
  | some fault =>
      refine ⟨1, after, .failed fault, ?_, .inr ⟨fault, rfl⟩⟩
      intro cycles hbound
      obtain ⟨cycles, rfl⟩ := Nat.exists_eq_add_of_le' hbound
      rw [runFrom, hunfinished, hlimit, hcycle]
      rfl
  | none =>
      obtain ⟨bound, final, ending, hends, hending⟩ := hnext rfl
      refine ⟨bound + 1, final, ending, ?_, hending⟩
      intro cycles hbound
      obtain ⟨cycles, rfl⟩ :=
        Nat.exists_eq_add_of_le' (Nat.le_trans (Nat.le_add_left 1 bound) hbound)
      rw [runFrom, hunfinished, hlimit, hcycle]
      exact hends cycles (Nat.le_of_succ_le_succ hbound)

theorem ends_of_reachable (arbiter : Arbiter) {run : Run α} (h : run.machine.Reachable)
    (hinterval : run.machine.config.deadlockInterval ≠ 0)
    (hmax : run.machine.config.maxCycles = 0) :
    Ends (stepWith arbiter watch) watch observe run := by
  obtain ⟨machine, hmachine⟩ : ∃ machine, run.machine = machine := ⟨_, rfl⟩
  -- The induction is on the rank of the machine; every cycle but the last lowers it.
  induction machine using hasLess_wf.induction generalizing run with
  | _ machine ih =>
      subst hmachine
      cases hfinished : run.machine.isFinished with
      | true => exact ends_of_finished hfinished
      | false =>
          apply ends_of_cycle hmax hfinished
          intro hnone
          have hcase := runCycle_case (stepWith arbiter watch) watch observe run
          rw [hnone] at hcase
          cases hafter : (runCycle (stepWith arbiter watch) watch observe run).1.machine.isFinished
            with
          | true => exact ends_of_finished hafter
          | false =>
              have hconfig := hcase.config h.isSound.laid
              refine ih _ (hcase.hasLess h.isSound hinterval hafter) (hcase.reachable h) ?_ ?_ rfl
              · rw [hconfig]
                exact hinterval
              · rw [hconfig]
                exact hmax

end Runs

/-! ## Machines that go on for ever -/

section Live

variable {α : Type} {arbiter : Arbiter} {watch : Watch}

/-- Whether a run has come to the machine after some steps, the last look apart. -/
def IsAfter (arbiter : Arbiter) (watch : Watch) (machine : Machine) (run : Run α) : Prop :=
  ∃ count snapshot?,
    run.machine = { machine.afterSteps arbiter watch count with lastSnapshot := snapshot? }

theorem CycleCase.isAfter {machine : Machine} {run after : Run α}
    (h : CycleCase (stepWith arbiter watch) run after none)
    (hrun : IsAfter arbiter watch machine run) : IsAfter arbiter watch machine after := by
  obtain ⟨count, snapshot?, heq⟩ := hrun
  have hstep : (run.machine.stepWith arbiter watch).machine =
      { machine.afterSteps arbiter watch (count + 1) with lastSnapshot := snapshot? } := by
    rw [heq, stepWith_lastSnapshot]
    rfl
  rcases h.machine_eq.2 with ⟨hmachine, -⟩ | ⟨hmachine, -⟩
  · exact ⟨count + 1, snapshot?, hmachine.trans hstep⟩
  · refine ⟨count + 1, some (run.machine.stepWith arbiter watch).machine.snapshot, ?_⟩
    rw [hmachine, hstep]
    rfl

/-- A machine of which no step fails and that never finishes has no run that fails in
a step or finishes. -/
theorem runFrom_of_live (observe : Machine → List α) {machine : Machine}
    (hlive : ∀ count, ((machine.afterSteps arbiter watch count).stepWith arbiter watch).result =
      .ok () ∧ (machine.afterSteps arbiter watch count).isFinished = false)
    (cycles : Nat) {run : Run α} (hrun : IsAfter arbiter watch machine run) :
    (runFrom (stepWith arbiter watch) watch observe cycles run).2 = .outOfCycles ∨
      (runFrom (stepWith arbiter watch) watch observe cycles run).2 = .limited ∨
      ∃ cycle, (runFrom (stepWith arbiter watch) watch observe cycles run).2 =
        .failed (.deadlock cycle) := by
  induction cycles generalizing run with
  | zero => exact .inl rfl
  | succ cycles ih =>
      have hplace := hrun
      obtain ⟨count, snapshot?, heq⟩ := hplace
      have hfinished : run.machine.isFinished = false := by
        rw [heq]
        exact (hlive count).2
      have hstep : (run.machine.stepWith arbiter watch).result = .ok () := by
        rw [heq, stepWith_lastSnapshot]
        exact (hlive count).1
      have hcase := runCycle_case (stepWith arbiter watch) watch observe run
      unfold runFrom
      dsimp only
      rw [hfinished]
      split
      · next hfalse => simp at hfalse
      · split
        · exact .inr (.inl rfl)
        · generalize runCycle (stepWith arbiter watch) watch observe run = cycled at hcase
          obtain ⟨after, fault?⟩ := cycled
          cases fault? with
          | none => exact ih (hcase.isAfter hrun)
          | some fault =>
              cases hcase with
              | failed stepFault hfailed _ _ => rw [hstep] at hfailed; simp at hfailed
              | passed _ _ hnone _ => simp at hnone
              | looked _ _ _ hnone _ => simp at hnone
              | stuck _ _ _ hfault _ =>
                  simp only [Option.some.injEq] at hfault
                  rw [hfault]
                  exact .inr (.inr ⟨_, rfl⟩)

end Live

/-- Every run ends if looks for a deadlock are made and there is no limit of cycles:
from some number of cycles on, all runs of a machine are one and the same, and it
finishes or fails, whatever the arbiter chooses.  A machine of which no step would
ever fail and that would never finish is reported as deadlocked. -/
theorem every_run_ends {α : Type} (arbiter : Arbiter) (watch : Watch)
    (observe : Machine → List α) (machine : Machine) (h : machine.Reachable)
    (hinterval : machine.config.deadlockInterval ≠ 0) (hmax : machine.config.maxCycles = 0) :
    ∃ bound run ending,
      (∀ cycles, bound ≤ cycles →
        machine.runForWith arbiter watch observe cycles = (run, ending)) ∧
      ((ending = .finished ∧ run.machine.isFinished = true) ∨
        ∃ fault, ending = .failed fault) ∧
      ((∀ count,
          ((machine.afterSteps arbiter watch count).stepWith arbiter watch).result = .ok () ∧
            (machine.afterSteps arbiter watch count).isFinished = false) →
        ∃ cycle, ending = .failed (.deadlock cycle)) := by
  have hbound : Ends (stepWith arbiter watch) watch observe (.ofMachine machine) :=
    ends_of_reachable arbiter h hinterval hmax
  obtain ⟨bound, run, ending, hends, hending⟩ := hbound
  refine ⟨bound, run, ending, hends, hending, ?_⟩
  intro hlive
  have hstart : IsAfter arbiter watch machine (Run.ofMachine machine : Run α) :=
    ⟨0, machine.lastSnapshot, rfl⟩
  have hlast := runFrom_of_live observe hlive bound hstart
  rw [hends bound (Nat.le_refl bound)] at hlast
  dsimp only at hlast
  rcases hlast with hout | hlimited | hdeadlock
  · subst hout
    rcases hending with ⟨hfinished, -⟩ | ⟨fault, hfault⟩
    · simp at hfinished
    · simp at hfault
  · subst hlimited
    rcases hending with ⟨hfinished, -⟩ | ⟨fault, hfault⟩
    · simp at hfinished
    · simp at hfault
  · exact hdeadlock

/-- Every run of the pair ends. -/
theorem pair_run_ends :
    pair.Reachable ∧ pair.config.deadlockInterval ≠ 0 ∧ pair.config.maxCycles = 0 ∧
      ∃ bound run ending,
        (∀ cycles, bound ≤ cycles →
          pair.runForWith .seeded Watch.silent (fun _ => ([] : List Unit)) cycles =
            (run, ending)) ∧
          ((ending = .finished ∧ run.machine.isFinished = true) ∨
            ∃ fault, ending = .failed fault) := by
  have hreach : pair.Reachable := .built isBuilt_pair
  have hinterval : pair.config.deadlockInterval ≠ 0 := by decide +kernel
  have hmax : pair.config.maxCycles = 0 := by decide +kernel
  obtain ⟨bound, run, ending, hends, hending, -⟩ :=
    every_run_ends .seeded Watch.silent (fun _ => ([] : List Unit)) pair hreach hinterval hmax
  exact ⟨hreach, hinterval, hmax, bound, run, ending, hends, hending⟩

end Machine

end CoreArray
