import CoreArray.Proofs.Core.Choice
import CoreArray.Proofs.Machine.TickOrder
set_option autoImplicit false

/-!
# Machines that differ in their seed (SPEC §10.4, §10.10)

The seed of a configuration goes into the generators of the cores and nowhere else: the
machine that is built with another seed is the same machine with other generators.  While
its cores have one working track each, they never have a choice, and so two such machines
stay the same but for their generators, and their runs end alike.

`seedless` forgets the generators and the seed.  All that a step reads of a machine, the
choices of its cores apart, is the same for the seedless machine.
-/

namespace CoreArray

/-! ## Forgetting the seed -/

namespace Tick

theorem core_seedless (tick : Tick) : tick.seedless.core = tick.core.seedless := rfl

theorem credits_seedless (tick : Tick) : tick.seedless.credits = tick.credits := rfl

theorem result_seedless (tick : Tick) : tick.seedless.result = tick.result := rfl

end Tick

/-- A round with the generators of its cores forgotten. -/
def Round.seedless (round : Round) : Round :=
  { round with
    cores := round.cores.map Core.seedless
    ticks := round.ticks.map Tick.seedless }

theorem Round.events_seedless (round : Round) : round.seedless.events = round.events := by
  unfold events seedless
  rw [List.flatMap_map]
  rfl

/-- A machine with its seed and the generators of its cores forgotten. -/
def Machine.seedless (machine : Machine) : Machine :=
  { machine with
    config := { machine.config with seed := 0 }
    cores := machine.cores.map Core.seedless }

/-- A step with the generators forgotten. -/
def Step.seedless (step : Step) : Step :=
  { step with machine := step.machine.seedless, ticks := step.ticks.map Tick.seedless }

/-- A run with the generators forgotten. -/
def Run.seedless {α : Type} (run : Run α) : Run α := { run with machine := run.machine.seedless }

namespace Machine

section Readings

variable (machine : Machine)

theorem ports_seedless : machine.seedless.ports = machine.ports := by
  unfold ports seedless
  rw [List.map_map]
  rfl

theorem isFinished_seedless : machine.seedless.isFinished = machine.isFinished := by
  unfold isFinished isDrained seedless
  rw [List.all_map, List.all_map]
  rfl

theorem isBusy_seedless : machine.seedless.isBusy = machine.isBusy := by
  unfold isBusy seedless
  rw [List.any_map]
  rfl

theorem snapshot_seedless : machine.seedless.snapshot = machine.snapshot := by
  unfold snapshot
  rw [ports_seedless]
  unfold seedless
  rw [List.map_map]
  rfl

theorem isStuck_seedless : machine.seedless.isStuck = machine.isStuck := by
  unfold isStuck isWaiting
  rw [isFinished_seedless, isBusy_seedless, snapshot_seedless]
  rfl

theorem keepSnapshot_seedless : machine.seedless.keepSnapshot = machine.keepSnapshot.seedless := by
  unfold keepSnapshot
  rw [snapshot_seedless]
  rfl

theorem deadlockEvents_seedless (watch : Watch) :
    machine.seedless.deadlockEvents watch = machine.deadlockEvents watch := by
  unfold deadlockEvents seedless
  rw [List.flatMap_map]
  rfl

end Readings

/-! ## Steps -/

section Steps

variable {arbiter otherArbiter : Arbiter} {watch : Watch}

theorem refreshCredits_seedless (credits : CreditBoard) (cores : List Core) :
    refreshCredits credits (cores.map Core.seedless) = refreshCredits credits cores := by
  induction cores generalizing credits with
  | nil => rfl
  | cons core cores ih =>
      have hsame : core.seedless.refreshCredit credits = core.refreshCredit credits := rfl
      rw [List.map_cons]
      unfold refreshCredits
      rw [hsame]
      cases core.refreshCredit credits with
      | error fault => rfl
      | ok refreshed => exact ih refreshed

/-- Cores without a choice tick alike, whatever their generators. -/
theorem tickCores_congr {cycle : Cycle} {cores others : List Core}
    (h : cores.map Core.seedless = others.map Core.seedless)
    (hcores : ∀ core ∈ cores, core.IsDecided cycle)
    (hothers : ∀ other ∈ others, other.IsDecided cycle) (credits : CreditBoard) :
    (tickCores arbiter watch cycle credits cores).seedless =
      (tickCores otherArbiter watch cycle credits others).seedless := by
  induction cores generalizing others credits with
  | nil =>
      have hnil : others = [] := List.map_eq_nil_iff.mp h.symm
      subst hnil
      rfl
  | cons core cores ih =>
      cases others with
      | nil => simp at h
      | cons other others =>
          rw [List.map_cons, List.map_cons, List.cons.injEq] at h
          obtain ⟨hcore, hrest⟩ := h
          have htick := Core.tickWith_congr hcore (hcores core List.mem_cons_self)
            (hothers other List.mem_cons_self) arbiter otherArbiter watch credits
          unfold tickCores
          generalize core.tickWith arbiter watch credits cycle = tick at htick
          generalize other.tickWith otherArbiter watch credits cycle = otherTick at htick
          have hafter : tick.core.seedless = otherTick.core.seedless := by
            rw [← Tick.core_seedless, htick, Tick.core_seedless]
          have hcredits : tick.credits = otherTick.credits := by
            rw [← Tick.credits_seedless, htick, Tick.credits_seedless]
          have hresult : tick.result = otherTick.result := by
            rw [← Tick.result_seedless, htick, Tick.result_seedless]
          dsimp only
          rw [hresult, hcredits]
          cases otherTick.result with
          | error fault =>
              unfold Round.seedless
              simp [htick, hafter, hrest]
          | ok done =>
              have hround := ih hrest
                (fun found hmem => hcores found (List.mem_cons_of_mem core hmem))
                (fun found hmem => hothers found (List.mem_cons_of_mem other hmem))
                otherTick.credits
              unfold Round.seedless at hround ⊢
              rw [Round.mk.injEq] at hround ⊢
              obtain ⟨hcoresAfter, hboard, hticks, hdone⟩ := hround
              refine ⟨?_, hboard, ?_, hdone⟩
              · rw [List.map_cons, List.map_cons, hafter, hcoresAfter]
              · rw [List.map_cons, List.map_cons, htick, hticks]

theorem movePackets_seedless (watch : Watch) (machine : Machine) :
    machine.seedless.movePackets watch =
      ((machine.movePackets watch).1.seedless, (machine.movePackets watch).2) := by
  have hcores (ports : List Port) :
      List.zipWith withPort (machine.cores.map Core.seedless) ports =
        (List.zipWith withPort machine.cores ports).map Core.seedless := by
    rw [List.zipWith_map_left, List.map_zipWith]
    rfl
  unfold movePackets
  rw [ports_seedless]
  dsimp only
  unfold seedless
  dsimp only
  rw [hcores]

theorem endCycle_seedless (watch : Watch) (machine : Machine) (round : Round) :
    machine.seedless.endCycle watch round.seedless = (machine.endCycle watch round).seedless := by
  have hmachine : { machine.seedless with
      cores := round.seedless.cores, credits := round.seedless.credits } =
        ({ machine with cores := round.cores, credits := round.credits } : Machine).seedless :=
    rfl
  have hresult : round.seedless.result = round.result := rfl
  unfold endCycle
  dsimp only
  rw [hmachine, hresult, round.events_seedless]
  cases round.result with
  | error fault => rfl
  | ok done =>
      rw [movePackets_seedless]
      generalize ({ machine with cores := round.cores, credits := round.credits } :
        Machine).movePackets watch = moved
      obtain ⟨after, events, result⟩ := moved
      cases result with
      | error fault => rfl
      | ok moved => rfl

/-- Machines that differ in their generators only, with one working track a core at most. -/
structure Twins (machine other : Machine) : Prop where
  seedless : machine.seedless = other.seedless
  laid : machine.IsLaidOut
  single : ∀ core ∈ machine.cores, core.working ≤ 1

namespace Twins

variable {machine other : Machine}

theorem cores_eq (h : Twins machine other) :
    machine.cores.map Core.seedless = other.cores.map Core.seedless :=
  congrArg (fun seedless => seedless.cores) h.seedless

theorem credits_eq (h : Twins machine other) : machine.credits = other.credits :=
  congrArg (fun seedless => seedless.credits) h.seedless

theorem cycle_eq (h : Twins machine other) : machine.cycle = other.cycle :=
  congrArg (fun seedless => seedless.cycle) h.seedless

theorem id_eq (h : Twins machine other) : machine.id = other.id :=
  congrArg (fun seedless => seedless.id) h.seedless

theorem maxCycles_eq (h : Twins machine other) :
    machine.config.maxCycles = other.config.maxCycles :=
  congrArg (fun seedless => seedless.config.maxCycles) h.seedless

theorem isAtLimit_eq (h : Twins machine other) : machine.isAtLimit = other.isAtLimit := by
  unfold isAtLimit
  rw [h.maxCycles_eq, h.cycle_eq]

theorem isFinished_eq (h : Twins machine other) : machine.isFinished = other.isFinished := by
  rw [← isFinished_seedless, h.seedless, isFinished_seedless]

/-- Twins have the same cores but for the generators. -/
theorem exists_core (h : Twins machine other) {place : Nat} {core : Core}
    (hget : other.cores[place]? = some core) :
    ∃ twin, machine.cores[place]? = some twin ∧ twin.seedless = core.seedless := by
  have hplace : (machine.cores.map Core.seedless)[place]? = some core.seedless := by
    rw [h.cores_eq, List.getElem?_map, hget]
    rfl
  rw [List.getElem?_map, Option.map_eq_some_iff] at hplace
  exact hplace

theorem symm (h : Twins machine other) : Twins other machine := by
  refine ⟨h.seedless.symm, ⟨?_, ?_⟩, ?_⟩
  · intro place core hget
    obtain ⟨twin, htwin, hsame⟩ := h.exists_core hget
    have hnode : twin.node = core.node := congrArg (fun seedless => seedless.node) hsame
    rw [← hnode]
    exact h.laid.node place twin htwin
  · have hlength := congrArg List.length h.cores_eq
    rw [List.length_map, List.length_map] at hlength
    rw [← h.credits_eq, ← hlength]
    exact h.laid.size
  · intro core hmem
    obtain ⟨place, hget⟩ := List.mem_iff_getElem?.mp hmem
    obtain ⟨twin, htwin, hsame⟩ := h.exists_core hget
    have hworking : twin.working = core.working :=
      congrArg (fun seedless => seedless.working) hsame
    rw [← hworking]
    exact h.single twin (List.mem_of_getElem? htwin)

/-- Steps of twins come to the same but for the generators. -/
theorem stepWith (h : Twins machine other) :
    (machine.stepWith arbiter watch).seedless = (other.stepWith otherArbiter watch).seedless := by
  have hcredits : refreshCredits machine.credits machine.cores =
      refreshCredits other.credits other.cores := by
    rw [← refreshCredits_seedless, h.cores_eq, refreshCredits_seedless, h.credits_eq]
  have hround (credits : CreditBoard) :
      (tickCores arbiter watch machine.cycle credits machine.cores).seedless =
        (tickCores otherArbiter watch other.cycle credits other.cores).seedless := by
    rw [h.cycle_eq]
    apply tickCores_congr h.cores_eq
    · intro core hmem
      exact Core.isDecided_of_working (h.single core hmem) other.cycle
    · intro core hmem
      exact Core.isDecided_of_working (h.symm.single core hmem) other.cycle
  unfold Machine.stepWith stepBy
  rw [hcredits]
  generalize refreshCredits other.credits other.cores = refreshed
  obtain ⟨result, credits⟩ := refreshed
  cases result with
  | error fault =>
      have hmachine := congrArg (fun seedless : Machine => { seedless with credits }) h.seedless
      exact congrArg (fun seedless : Machine =>
        (⟨seedless, [], [], .error (.credit fault)⟩ : Step)) hmachine
  | ok done =>
      dsimp only
      rw [← endCycle_seedless, ← endCycle_seedless, h.seedless, hround]

end Twins

/-- A step keeps one working track a core at most. -/
theorem working_stepWith (arbiter : Arbiter) (watch : Watch) {machine : Machine}
    (hlaid : machine.IsLaidOut)
    (h : ∀ core ∈ machine.cores, core.working ≤ 1) :
    ∀ core ∈ (machine.stepWith arbiter watch).machine.cores, core.working ≤ 1 := by
  intro after hmem
  obtain ⟨place, hget⟩ := List.mem_iff_getElem?.mp hmem
  obtain ⟨core, hcore, hcase⟩ := exists_before_stepWith arbiter watch hlaid hget
  have hworking := h core (List.mem_of_getElem? hcore)
  cases hcase with
  | waited _ hafter =>
      rw [hafter]
      exact hworking
  | ticked _ outbound delivered _ hafter _ =>
      have htick := (core.tickWith_case arbiter watch machine.shownCredits
        machine.cycle).working_le
      rw [hafter]
      exact Nat.le_trans htick hworking

end Steps

/-! ## Runs -/

/-- A run and what is said of it, with the generators forgotten. -/
def unseeded {α β : Type} (outcome : Run α × β) : Run α × β := (outcome.1.seedless, outcome.2)

section Runs

variable {α : Type} {arbiter otherArbiter : Arbiter} {watch : Watch}
  {observe : Machine → List α} {run other : Run α}

theorem lookForDeadlock_seedless (watch : Watch) (run : Run α) :
    lookForDeadlock watch run.seedless = unseeded (lookForDeadlock watch run) := by
  have hdue : run.machine.seedless.isCheckDue = run.machine.isCheckDue := rfl
  unfold lookForDeadlock unseeded Run.seedless
  dsimp only
  rw [hdue, isStuck_seedless, keepSnapshot_seedless, deadlockEvents_seedless]
  split
  · split
    · rfl
    · rfl
  · rfl

/-- A cycle of two runs comes to the same but for the generators if the step does. -/
theorem runCycle_seedless (take takeOther : Machine → Step) (watch : Watch)
    (hobserve : ∀ machine, observe machine = observe machine.seedless)
    (h : run.seedless = other.seedless)
    (hstep : (take run.machine).seedless = (takeOther other.machine).seedless) :
    unseeded (runCycle take watch observe run) =
      unseeded (runCycle takeOther watch observe other) := by
  unfold runCycle
  generalize take run.machine = step at hstep
  generalize takeOther other.machine = otherStep at hstep
  obtain ⟨before, events, seen⟩ := run
  obtain ⟨otherBefore, otherEvents, otherSeen⟩ := other
  obtain ⟨machine, ticks, told, result⟩ := step
  obtain ⟨otherMachine, otherTicks, otherTold, otherResult⟩ := otherStep
  unfold Run.seedless at h
  unfold Step.seedless at hstep
  rw [Run.mk.injEq] at h
  rw [Step.mk.injEq] at hstep
  obtain ⟨-, hevents, hseen⟩ := h
  obtain ⟨hmachine, -, htold, hresult⟩ := hstep
  dsimp only at hevents hseen hmachine htold hresult
  subst hevents hseen htold hresult
  cases result with
  | error fault =>
      unfold unseeded Run.seedless
      dsimp only
      rw [hmachine]
      rfl
  | ok done =>
      have hnoted : observe machine = observe otherMachine := by
        rw [hobserve machine, hmachine, ← hobserve otherMachine]
      dsimp only
      rw [← lookForDeadlock_seedless, ← lookForDeadlock_seedless, hnoted]
      unfold Run.seedless
      dsimp only
      rw [hmachine]
      rfl

/-- A cycle of a run that does not fail keeps one working track a core at most. -/
theorem CycleCase.working {after : Run α} (h : CycleCase (stepWith arbiter watch) run after none)
    (hlaid : run.machine.IsLaidOut) (hsingle : ∀ core ∈ run.machine.cores, core.working ≤ 1) :
    ∀ core ∈ after.machine.cores, core.working ≤ 1 := by
  have hnext := working_stepWith arbiter watch hlaid hsingle
  cases h with
  | failed fault _ hfault _ => simp at hfault
  | passed _ _ _ hmachine => rw [hmachine]; exact hnext
  | looked _ _ _ _ hmachine => rw [hmachine]; exact hnext
  | stuck _ _ _ hfault _ => simp at hfault

/-- Runs of twins come to the same but for the generators. -/
theorem runFrom_seedless (hobserve : ∀ machine, observe machine = observe machine.seedless)
    (cycles : Nat) {run other : Run α} (h : run.seedless = other.seedless)
    (htwins : Twins run.machine other.machine) :
    unseeded (runFrom (stepWith arbiter watch) watch observe cycles run) =
      unseeded (runFrom (stepWith otherArbiter watch) watch observe cycles other) := by
  induction cycles generalizing run other with
  | zero =>
      unfold runFrom unseeded
      rw [h]
  | succ cycles ih =>
      have htell (events : List Event) :
          (run.tell events).seedless = (other.tell events).seedless :=
        congrArg (fun seedless : Run α => seedless.tell events) h
      have hcycle := runCycle_seedless (stepWith arbiter watch) (stepWith otherArbiter watch) watch
        hobserve h htwins.stepWith
      have hcase := runCycle_case (stepWith arbiter watch) watch observe run
      unfold runFrom
      dsimp only
      rw [htwins.isFinished_eq, htwins.isAtLimit_eq, htwins.id_eq, htwins.maxCycles_eq,
        htwins.cycle_eq]
      split
      · unfold unseeded
        rw [htell]
      · split
        · unfold unseeded
          rw [htell]
        · generalize runCycle (stepWith arbiter watch) watch observe run = cycled at hcycle hcase
          generalize runCycle (stepWith otherArbiter watch) watch observe other = otherCycled
            at hcycle
          obtain ⟨after, fault?⟩ := cycled
          obtain ⟨otherAfter, otherFault?⟩ := otherCycled
          unfold unseeded at hcycle
          rw [Prod.mk.injEq] at hcycle
          obtain ⟨hafter, hfault⟩ := hcycle
          dsimp only at hafter hfault
          subst hfault
          cases fault? with
          | none =>
              refine ih hafter ⟨?_, hcase.isLaidOut arbiter watch htwins.laid, ?_⟩
              · exact congrArg (fun seedless => seedless.machine) hafter
              · exact hcase.working htwins.laid htwins.single
          | some fault =>
              unfold unseeded
              rw [hafter]

end Runs

/-! ## Building with another seed -/

end Machine

/-- A core with the generator that a seed gives it. -/
def Core.reseed (seed : Nat) (core : Core) : Core :=
  { core with generator := .ofSeed (seed + core.node) }

/-- A machine with another seed. -/
def Machine.reseed (seed : Nat) (machine : Machine) : Machine :=
  { machine with
    config := { machine.config with seed }
    cores := machine.cores.map (Core.reseed seed) }

theorem Core.openingEvents_seedless (watch : Watch) (core : Core) :
    core.seedless.openingEvents watch = core.openingEvents watch := rfl

/-- What a core says when it is made does not depend on its seed. -/
theorem Core.start_reseed (seed : Nat) (spec : CoreSpec) (tracks : List (List Instruction))
    (tensors : TensorTable) (otherSeed : Nat) :
    Core.start spec tracks tensors (seed + spec.node) =
      Core.reseed seed <$> Core.start spec tracks tensors otherSeed := by
  have hsame : (ofTracks spec tracks tensors (seed + spec.node)).seedless =
      (ofTracks spec tracks tensors otherSeed).seedless := by
    rw [seedless_ofTracks, seedless_ofTracks]
  have hevents (watch : Watch) :
      (ofTracks spec tracks tensors (seed + spec.node)).openingEvents watch =
        (ofTracks spec tracks tensors otherSeed).openingEvents watch := by
    rw [← openingEvents_seedless, hsame, openingEvents_seedless]
  unfold Core.start
  simp only [map_bind, map_pure, hevents]
  rfl

namespace Machine

section Builds

open Build

variable (read : TextReader) (config : Config) (seed : Nat) (array network : Entity)

theorem buildCore_reseed (tables : Tables) (credits : CreditBoard) (node : Node) :
    buildCore read { config with seed } tables credits array node =
      Core.reseed seed <$> buildCore read config tables credits array node := by
  have hcompile : compileTask read { config with seed } node = compileTask read config node := rfl
  have hspec : specOf { config with seed } tables node = specOf config tables node := rfl
  unfold buildCore CoreSpec.enterUnits
  rw [hcompile, hspec]
  simp only [map_bind, bind_assoc, pure_bind]
  apply bind_congr
  intro entity
  apply bind_congr
  intro task
  apply bind_congr
  intro checked
  apply bind_congr
  intro ids
  exact Core.start_reseed seed { specOf config tables node with ids } task.tracks task.tensors
    (config.seed + node)

theorem buildCores_reseed (tables : Tables) (credits : CreditBoard) (nodes : List Node) :
    buildCores read { config with seed } tables credits array nodes =
      List.map (Core.reseed seed) <$> buildCores read config tables credits array nodes := by
  induction nodes with
  | nil =>
      unfold buildCores
      rw [map_pure]
      rfl
  | cons node nodes ih =>
      unfold buildCores
      rw [buildCore_reseed, ih]
      simp only [map_bind, bind_map_left, map_pure, List.map_cons]

theorem buildOn_reseed :
    buildOn read { config with seed } array network =
      reseed seed <$> buildOn read config array network := by
  have htables : readTables read { config with seed } array.id = readTables read config array.id :=
    rfl
  unfold buildOn
  dsimp only
  rw [htables]
  simp only [buildCores_reseed, bind_map_left]
  split
  · simp only [map_bind, map_pure]
    rfl
  · simp only [map_bind, map_pure]
    rfl

/-- The machine that is built with another seed is the same but for its generators. -/
theorem build_reseed (parent : Entity) :
    build read { config with seed } parent = reseed seed <$> build read config parent ∧
      buildWithNetwork read { config with seed } parent =
        reseed seed <$> buildWithNetwork read config parent := by
  constructor
  · unfold build
    simp only [buildOn_reseed, map_bind]
  · unfold buildWithNetwork
    simp only [buildOn_reseed, map_bind]

end Builds

theorem seedless_reseed (seed : Nat) (machine : Machine) :
    (machine.reseed seed).seedless = machine.seedless := by
  have hcore (core : Core) (generator : Generator) :
      ({ core with generator } : Core).seedless = core.seedless := rfl
  have hcores : machine.cores.map (Core.seedless ∘ Core.reseed seed) =
      machine.cores.map Core.seedless := by
    apply List.map_congr_left
    intro core _
    exact hcore core (.ofSeed (seed + core.node))
  unfold seedless reseed
  dsimp only
  rw [List.map_map, hcores]

/-- A seed matters only where a choice is to be made.  Cores that are made with different
seeds and driven alike, through their ticks, the packets put on and taken from their ports
and the writes to the credit board, do the same but for their generators until a tick at
which several tracks are ready and none of these has a marker; so do cores that differ
in their generators only, whatever they have done before.  The machine that is built with
another seed is the same but for its generators, and if no core has more than one track
that is not empty, its runs are the same. -/
theorem seed_matters_only_at_choices :
    (∀ (spec : CoreSpec) (tracks : List (List Instruction)) (tensors : TensorTable)
        (seed otherSeed : Nat),
      (Core.ofTracks spec tracks tensors seed).AgreesUntilChoice
        (Core.ofTracks spec tracks tensors otherSeed)) ∧
    (∀ (spec : CoreSpec) (tracks : List (List Instruction)) (tensors : TensorTable) (seed : Nat)
        (past : List PastTick) (core : Core),
      Past (.ofTracks spec tracks tensors seed) past core →
        ∀ generator : Generator, core.AgreesUntilChoice { core with generator }) ∧
    (∀ (read : TextReader) (config : Config) (seed : Nat) (parent : Entity),
      build read { config with seed } parent = reseed seed <$> build read config parent ∧
        buildWithNetwork read { config with seed } parent =
          reseed seed <$> buildWithNetwork read config parent) ∧
    ∀ machine : Machine, machine.IsBuilt → (∀ core ∈ machine.cores, core.working ≤ 1) →
      ∀ (seed : Nat) (watch : Watch) {α : Type} (observe : Machine → List α),
        (∀ other, observe other = observe other.seedless) → ∀ cycles : Nat,
          unseeded ((machine.reseed seed).runFor watch observe cycles) =
            unseeded (machine.runFor watch observe cycles) := by
  refine ⟨?_, ?_, build_reseed, ?_⟩
  · intro spec tracks tensors seed otherSeed
    exact Core.agreesUntilChoice_ofTracks otherSeed
  · intro spec tracks tensors seed past core hpast generator
    exact Core.agreesUntilChoice_of_past hpast generator
  · intro machine hbuilt hsingle seed watch α observe hobserve cycles
    have hseedless := (seedless_reseed seed machine).symm
    have hrun : (Run.ofMachine machine : Run α).seedless =
        (Run.ofMachine (machine.reseed seed)).seedless := by
      unfold Run.ofMachine Run.seedless
      dsimp only
      rw [hseedless]
    exact (runFrom_seedless hobserve cycles hrun
      ⟨hseedless, hbuilt.isNew.isLaidOut, hsingle⟩).symm

/-- A core that can sleep but not poll. -/
def sleeper (tracks : List (List Instruction)) (seed : Nat) : Core :=
  .ofTracks { (default : CoreSpec) with latencies := LatencyTable.empty.set .cpu "sleep" (.ofNat 1) }
    tracks .empty seed

/-- A core with two tracks, of which the seed chooses one, after its first tick. -/
def chosen : Core := ((sleeper Core.pollAmongSleeps 1).tick .silent (.allOpened 1) 3).core

/-- The seed decides which of two tracks begins, but it has nothing to decide on a single track,
nor once a track has begun, nor on the pair. -/
theorem sleeper_chooses_once :
    (([1, 2].map fun seed => (sleeper Core.pollAmongSleeps seed).tick .silent (.allOpened 1) 3).map
        fun tick => tick.attempt.map Attempt.track) = [some 0, some 1] ∧
      chosen.candidates 5 = [0, 1] ∧
      (Driven.after .silent ⟨sleeper (Core.pollAmongSleeps.take 1) 1, .allOpened 1, []⟩
          [.tick 3, .write fun _ => ⟨[false]⟩, .tick 5]).seedless =
        (Driven.after .silent ⟨sleeper (Core.pollAmongSleeps.take 1) 2, .allOpened 1, []⟩
          [.tick 3, .write fun _ => ⟨[false]⟩, .tick 5]).seedless ∧
      (Driven.after .silent ⟨chosen, .allOpened 1, []⟩ [.tick 5]).seedless =
        (Driven.after .silent ⟨{ chosen with generator := .ofSeed 2 }, .allOpened 1, []⟩
          [.tick 5]).seedless ∧
      unseeded ((pair.reseed 7).runFor .silent (fun machine => [machine.pending]) 100) =
        unseeded (pair.runFor .silent (fun machine => [machine.pending]) 100) := by
  obtain ⟨hmade, hpasts, -, hruns⟩ := seed_matters_only_at_choices
  have hpast : Past (sleeper Core.pollAmongSleeps 1) [_] chosen :=
    Past.start.tick .seeded .silent (.allOpened 1) 3
  refine ⟨by decide +kernel, by decide +kernel, ?_, ?_, ?_⟩
  · exact hmade _ _ _ 1 2 .silent (.allOpened 1) _ ⟨by decide +kernel, rfl, by decide +kernel, trivial⟩
  · exact hpasts _ _ _ 1 _ _ hpast (.ofSeed 2) .silent (.allOpened 1) _ ⟨by decide +kernel, trivial⟩
  · refine hruns pair isBuilt_pair (by decide +kernel) 7 .silent _ ?_ 100
    intro other
    unfold pending seedless
    rw [List.foldl_map]
    rfl

end Machine

end CoreArray
