import CoreArray.Machine.Build
import CoreArray.Machine.Run
import CoreArray.Proofs.Machine.Progress
set_option autoImplicit false

/-!
# The machines that runs lead to (SPEC §10.10)

A machine that is built has work to do but no packets, and it is laid out.
`Reachable` follows it through successful steps, under any arbiter, and through
looks for a deadlock.  Three things hold of every reachable machine: it is laid
out, no packet waits to be sent, and no more work is left than the last look has
seen; if as much is left, nothing has been received since.
-/

namespace CoreArray

namespace Build

/-- Whether a build may give a result. -/
def Gives {α : Type} (build : Build α) (a : α) : Prop :=
  ∃ journal after, build.run.run journal = (.ok a, after)

theorem gives_bind {α β : Type} {build : Build α} {next : α → Build β} {b : β}
    (h : (build >>= next).Gives b) : ∃ a, build.Gives a ∧ (next a).Gives b := by
  obtain ⟨journal, after, hrun⟩ := h
  rw [ExceptT.run_bind] at hrun
  simp only [StateT.run_bind] at hrun
  cases hbuild : build.run.run journal with
  | mk result between =>
      rw [hbuild] at hrun
      cases result with
      | error fault => cases hrun
      | ok a => exact ⟨a, ⟨journal, between, hbuild⟩, between, after, hrun⟩

theorem gives_pure {α : Type} {a b : α} (h : (pure a : Build α).Gives b) : a = b := by
  obtain ⟨journal, after, hrun⟩ := h
  cases hrun
  rfl

theorem not_gives_throw {α : Type} {fault : BuildFault} {a : α} :
    ¬ (throw fault : Build α).Gives a := by
  rintro ⟨journal, after, hrun⟩
  cases hrun

theorem gives_require {ε α : Type} {fault : ε → BuildFault} {result : Except ε α} {a : α}
    (h : (require fault result).Gives a) : result = .ok a := by
  cases result with
  | error cause => exact absurd h not_gives_throw
  | ok value => rw [gives_pure h]

end Build

namespace Machine

open Build

/-! ## Machines that are built -/

/-- A core at a node that has not begun. -/
structure IsNewCore (config : Config) (node : Node) (core : Core) : Prop where
  made : ∃ (tables : Tables) (ids : CoreIds) (tracks : List (List Instruction))
    (tensors : TensorTable) (seed : Nat),
    core = Core.ofTracks { specOf config tables node with ids } tracks tensors seed
  width : core.spec.channelWidth ≠ 0

/-- A machine that has not begun. -/
structure IsNew (machine : Machine) : Prop where
  core : ∀ (place : Nat) (core : Core), machine.cores[place]? = some core →
    IsNewCore machine.config place core
  size : machine.credits.size = machine.cores.length
  flights : machine.network.flights = []
  cycle : machine.cycle = 0
  lastSnapshot : machine.lastSnapshot = none

theorem isNewCore_of_buildCore {read : TextReader} {config : Config} {tables : Tables}
    {credits : CreditBoard} {array : Entity} {node : Node} {core : Core}
    (h : (buildCore read config tables credits array node).Gives core) :
    IsNewCore config node core := by
  obtain ⟨entity, -, h⟩ := gives_bind h
  obtain ⟨task, -, h⟩ := gives_bind h
  obtain ⟨spec, hspec, h⟩ := gives_bind h
  obtain ⟨told, -, h⟩ := gives_bind h
  obtain ⟨checked, hcheck, hspec⟩ := gives_bind hspec
  obtain ⟨ids, -, hspec⟩ := gives_bind hspec
  have hmade := gives_pure h
  have hids := gives_pure hspec
  have hok := gives_require hcheck
  subst hmade hids
  refine ⟨⟨tables, ids, task.tracks, task.tensors, _, rfl⟩, ?_⟩
  exact (CoreSpec.of_check hok).1

theorem isNewCore_of_buildCores {read : TextReader} {config : Config} {tables : Tables}
    {credits : CreditBoard} {array : Entity} {nodes : List Node} {cores : List Core}
    (h : (buildCores read config tables credits array nodes).Gives cores) :
    cores.length = nodes.length ∧
      ∀ (place : Nat) (core : Core), cores[place]? = some core →
        ∃ node, nodes[place]? = some node ∧ IsNewCore config node core := by
  induction nodes generalizing cores with
  | nil =>
      have hcores := gives_pure h
      subst hcores
      exact ⟨rfl, by simp⟩
  | cons node nodes ih =>
      obtain ⟨first, hfirst, h⟩ := gives_bind h
      obtain ⟨others, hothers, h⟩ := gives_bind h
      have hcores := gives_pure h
      subst hcores
      obtain ⟨hlength, hnew⟩ := ih hothers
      refine ⟨congrArg Nat.succ hlength, ?_⟩
      intro place core hget
      cases place with
      | zero =>
          rw [List.getElem?_cons_zero, Option.some.injEq] at hget
          subst hget
          exact ⟨node, rfl, isNewCore_of_buildCore hfirst⟩
      | succ place => exact hnew place core hget

theorem isNew_of_buildOn {read : TextReader} {config : Config} {array network : Entity}
    {machine : Machine} (h : (buildOn read config array network).Gives machine) :
    machine.IsNew := by
  unfold buildOn at h
  dsimp only at h
  split at h
  · obtain ⟨passed, hthrow, -⟩ := gives_bind h
    exact absurd hthrow not_gives_throw
  · obtain ⟨tables, -, h⟩ := gives_bind h
    obtain ⟨cores, hcores, h⟩ := gives_bind h
    obtain ⟨told, -, h⟩ := gives_bind h
    have hmachine := gives_pure h
    subst hmachine
    obtain ⟨hlength, hnew⟩ := isNewCore_of_buildCores hcores
    refine ⟨?_, ?_, rfl, rfl, rfl⟩
    · intro place core hget
      obtain ⟨node, hnode, hcore⟩ := hnew place core hget
      obtain ⟨hlt, hrange⟩ := List.getElem?_eq_some_iff.mp hnode
      rw [List.getElem_range] at hrange
      rw [hrange]
      exact hcore
    · rw [List.length_range] at hlength
      unfold CreditBoard.size CreditBoard.allOpened
      dsimp only
      rw [List.length_replicate, hlength]

/-- Whether a machine is built from a configuration and the files that it names,
with a network of its own or on one that is made first. -/
def IsBuilt (machine : Machine) : Prop :=
  ∃ (read : TextReader) (config : Config) (parent : Entity) (tracker : Tracker)
    (journal : Journal),
    (build read config parent).start tracker = (.ok machine, journal) ∨
      (buildWithNetwork read config parent).start tracker = (.ok machine, journal)

/-- Both ways to build a machine end alike. -/
theorem IsBuilt.exists_buildOn {machine : Machine} (h : machine.IsBuilt) :
    ∃ (read : TextReader) (config : Config) (array network : Entity),
      (buildOn read config array network).Gives machine := by
  obtain ⟨read, config, parent, tracker, journal, hbuild | hbuild⟩ := h
  · have hgives : (build read config parent).Gives machine := ⟨⟨tracker, []⟩, journal, hbuild⟩
    obtain ⟨array, -, hgives⟩ := gives_bind hgives
    obtain ⟨network, -, hgives⟩ := gives_bind hgives
    exact ⟨read, config, array, network, hgives⟩
  · have hgives : (buildWithNetwork read config parent).Gives machine :=
      ⟨⟨tracker, []⟩, journal, hbuild⟩
    obtain ⟨network, -, hgives⟩ := gives_bind hgives
    obtain ⟨array, -, hgives⟩ := gives_bind hgives
    exact ⟨read, config, array, network, hgives⟩

/-- A machine that is built has not begun. -/
theorem IsBuilt.isNew {machine : Machine} (h : machine.IsBuilt) : machine.IsNew := by
  obtain ⟨read, config, array, network, hgives⟩ := h.exists_buildOn
  exact isNew_of_buildOn hgives

/-- The machine that a configuration and the files that it names build, told to
nobody. -/
def ofFiles (read : TextReader) (config : Config) : Machine :=
  match ((build read config (.top 0 "top")).start .silent).1 with
  | .ok machine => machine
  | .error _ => default

theorem isBuilt_ofFiles {read : TextReader} {config : Config}
    (h : ((build read config (.top 0 "top")).start .silent).1.isOk = true) :
    (ofFiles read config).IsBuilt := by
  unfold ofFiles
  cases hbuild : (build read config (.top 0 "top")).start .silent with
  | mk result journal =>
      rw [hbuild] at h
      cases result with
      | error fault => simp [Except.isOk, Except.toBool] at h
      | ok machine => exact ⟨read, config, .top 0 "top", .silent, journal, .inl hbuild⟩

theorem eq_ok_of_isOk {ε : Type} {result : Except ε Unit} (h : result.isOk = true) :
    result = .ok () := by
  cases result with
  | error fault => simp [Except.isOk, Except.toBool] at h
  | ok done => rfl

/-- The files of a pair of cores, of which the first sends a tensor to the second. -/
def pairFiles : TextReader
  | "latency.txt" => .ok "CPU.poll 1\n"
  | "tasks/sender" => .ok "operators:\nassemble # NI.send 1 1\ndata:\n1 # 1 # 4, 4\n"
  | "tasks/receiver" => .ok "operators:\nassemble # NI.recv 1\n"
  | _ => .error .notFound

/-- A pair of cores, of which the first sends a tensor to the second. -/
def pair : Machine :=
  ofFiles pairFiles { Config.default with
    arraySize := 2
    taskFiles := ["sender", "receiver"]
    deadlockInterval := 10 }

set_option maxRecDepth 4096 in
theorem isBuilt_pair : pair.IsBuilt := isBuilt_ofFiles (by decide +kernel)

theorem IsNew.isLaidOut {machine : Machine} (h : machine.IsNew) : machine.IsLaidOut := by
  refine ⟨?_, h.size⟩
  intro place core hget
  obtain ⟨tables, ids, tracks, tensors, seed, heq⟩ := (h.core place core hget).made
  rw [heq]
  rfl

theorem IsNew.port {machine : Machine} (h : machine.IsNew) {place : Nat} {core : Core}
    (hget : machine.cores[place]? = some core) : core.path.port = Port.empty := by
  obtain ⟨tables, ids, tracks, tensors, seed, heq⟩ := (h.core place core hget).made
  rw [heq]
  rfl

/-! ## Reachable machines -/

/-- The machines to which successful steps lead, under any arbiter, with looks for a
deadlock at any time. -/
inductive Reachable : Machine → Prop
  | built {machine : Machine} (h : machine.IsBuilt) : Reachable machine
  | step {machine : Machine} (h : Reachable machine) (arbiter : Arbiter) (watch : Watch)
      (hok : (machine.stepWith arbiter watch).result = .ok ()) :
      Reachable (machine.stepWith arbiter watch).machine
  | look {machine : Machine} (h : Reachable machine) : Reachable machine.keepSnapshot

/-- The machine after some steps under one arbiter. -/
def afterSteps (arbiter : Arbiter) (watch : Watch) (machine : Machine) : Nat → Machine
  | 0 => machine
  | count + 1 => ((machine.afterSteps arbiter watch count).stepWith arbiter watch).machine

/-- Whether a snapshot bounds what has happened since: no more work is left, and if
as much is left, no port has lost a packet that had arrived. -/
structure Bounds (machine : Machine) (snapshot : Snapshot) : Prop where
  work : machine.work ≤ (snapshot.cores.map fun outlines => (outlines.map outlineWork).sum).sum
  arrived : machine.work =
      (snapshot.cores.map fun outlines => (outlines.map outlineWork).sum).sum →
    ∀ (place : Nat) (core : Core), machine.cores[place]? = some core →
      ∃ waiting arrived, snapshot.queues[place]? = some (waiting, arrived) ∧
        arrived ≤ core.path.port.inbound.length

theorem work_snapshot (machine : Machine) :
    (machine.snapshot.cores.map fun outlines => (outlines.map outlineWork).sum).sum =
      machine.work := by
  unfold snapshot work
  dsimp only
  rw [List.map_map]
  have hwork : (fun outlines => (outlines.map outlineWork).sum) ∘ Core.snapshot =
      Core.work := by
    funext core
    unfold Core.snapshot Core.work
    dsimp only [Function.comp_apply]
    rw [List.map_map]
    rfl
  rw [hwork]

theorem queues_snapshot {machine : Machine} {place : Nat} {core : Core}
    (hget : machine.cores[place]? = some core) :
    machine.snapshot.queues[place]? =
      some (core.path.port.outbound.length, core.path.port.inbound.length) := by
  unfold snapshot ports
  rw [List.getElem?_map, List.getElem?_map, hget]
  rfl

/-- What holds of every reachable machine. -/
structure IsSound (machine : Machine) : Prop where
  laid : machine.IsLaidOut
  width : ∀ core ∈ machine.cores, core.spec.channelWidth ≠ 0
  drained : ∀ core ∈ machine.cores, core.path.port.outbound = []
  rested : ∀ core ∈ machine.cores, core.IsRested machine.cycle
  bounds : ∀ snapshot, machine.lastSnapshot = some snapshot → machine.Bounds snapshot

theorem IsNew.isSound {machine : Machine} (h : machine.IsNew) : machine.IsSound := by
  refine ⟨h.isLaidOut, ?_, ?_, ?_, ?_⟩
  · intro core hmem
    obtain ⟨place, hget⟩ := List.mem_iff_getElem?.mp hmem
    exact (h.core place core hget).width
  · intro core hmem
    obtain ⟨place, hget⟩ := List.mem_iff_getElem?.mp hmem
    rw [h.port hget]
    rfl
  · intro core hmem track htrack _
    obtain ⟨place, hget⟩ := List.mem_iff_getElem?.mp hmem
    obtain ⟨tables, ids, tracks, tensors, seed, heq⟩ := (h.core place core hget).made
    rw [heq] at htrack
    obtain ⟨instructions, -, rfl⟩ := List.mem_map.mp htrack
    rfl
  · intro snapshot hlast
    rw [h.lastSnapshot] at hlast
    simp at hlast

theorem IsSound.look {machine : Machine} (h : machine.IsSound) :
    machine.keepSnapshot.IsSound := by
  obtain ⟨⟨hnode, hsize⟩, hwidth, hdrained, hrested, -⟩ := h
  refine ⟨⟨hnode, hsize⟩, hwidth, hdrained, hrested, ?_⟩
  intro snapshot hlast
  have hsnapshot : machine.snapshot = snapshot := Option.some.inj hlast
  subst hsnapshot
  constructor
  · exact Nat.le_of_eq machine.work_snapshot.symm
  · intro _ place core hget
    exact ⟨_, _, queues_snapshot hget, Nat.le_refl _⟩

section Steps

variable {machine : Machine} {arbiter : Arbiter} {watch : Watch}

/-- If no less work is left after a step, no tick has made progress. -/
theorem progresses_of_work_le (h : machine.IsLaidOut)
    (hwork : machine.work ≤ (machine.stepWith arbiter watch).machine.work) :
    (machine.stepWith arbiter watch).progresses = false := by
  cases hprogress : (machine.stepWith arbiter watch).progresses with
  | false => rfl
  | true =>
      have hlt := work_stepWith_lt arbiter watch h hprogress
      exact absurd hwork (Nat.not_le_of_lt hlt)

theorem Bounds.stepWith {snapshot : Snapshot} (h : machine.Bounds snapshot)
    (hlaid : machine.IsLaidOut) : (machine.stepWith arbiter watch).machine.Bounds snapshot := by
  have hle := work_stepWith_le arbiter watch hlaid
  refine ⟨Nat.le_trans hle h.work, ?_⟩
  intro heq place after hafter
  have hsame : machine.work ≤ (machine.stepWith arbiter watch).machine.work := by
    rw [heq]
    exact h.work
  have hprogress := progresses_of_work_le hlaid hsame
  have hbefore := Nat.le_antisymm h.work (by rw [← heq]; exact hle)
  obtain ⟨core, hcore, hcase⟩ := exists_before_stepWith arbiter watch hlaid hafter
  obtain ⟨waiting, arrived, hqueue, hlength⟩ := h.arrived hbefore place core hcore
  obtain ⟨outbound, delivered, hkeeps, -, -⟩ := hcase.keeps hprogress
  refine ⟨waiting, arrived, hqueue, ?_⟩
  rw [hkeeps.path]
  dsimp only
  rw [List.length_append]
  exact Nat.le_add_right_of_le hlength

theorem IsSound.step (h : machine.IsSound)
    (hok : (machine.stepWith arbiter watch).result = .ok ()) :
    (machine.stepWith arbiter watch).machine.IsSound := by
  obtain ⟨delivered, rest, hdone⟩ := stepWith_done arbiter watch h.laid hok
  refine ⟨isLaidOut_stepWith arbiter watch h.laid, ?_, ?_, ?_, ?_⟩
  · intro after hmem
    obtain ⟨place, hget⟩ := List.mem_iff_getElem?.mp hmem
    obtain ⟨core, hcore, hcase⟩ := exists_before_stepWith arbiter watch h.laid hget
    rw [hcase.spec_eq]
    exact h.width core (List.mem_of_getElem? hcore)
  · intro after hmem
    obtain ⟨place, hget⟩ := List.mem_iff_getElem?.mp hmem
    obtain ⟨core, hcore, -⟩ := exists_before_stepWith arbiter watch h.laid hget
    have hafter := hdone.core place core hcore
    rw [hget, Option.some.injEq] at hafter
    rw [hafter]
    rfl
  · intro after hmem
    obtain ⟨place, hget⟩ := List.mem_iff_getElem?.mp hmem
    obtain ⟨core, hcore, -⟩ := exists_before_stepWith arbiter watch h.laid hget
    have hafter := hdone.core place core hcore
    rw [hget, Option.some.injEq] at hafter
    have hticked : (machine.tickOf arbiter watch core).core.IsRested machine.cycle :=
      tickOf_case.isRested (h.rested core (List.mem_of_getElem? hcore))
    rw [hafter, hdone.cycle]
    exact hticked.mono (Nat.le_succ _)
  · intro snapshot hlast
    rw [(stepWith_frame arbiter watch h.laid).2.1] at hlast
    exact (h.bounds snapshot hlast).stepWith h.laid

end Steps

/-- Every reachable machine is sound. -/
theorem Reachable.isSound {machine : Machine} (h : machine.Reachable) : machine.IsSound := by
  induction h with
  | built h => exact h.isNew.isSound
  | step _ arbiter watch hok ih => exact ih.step hok
  | look _ ih => exact ih.look

/-! ## Runs -/

/-- What may come of one cycle of a run. -/
inductive CycleCase {α : Type} (take : Machine → Step) (run : Run α) (after : Run α)
    (fault? : Option RunFault) : Prop
  /-- The step fails. -/
  | failed (fault : StepFault) (hstep : (take run.machine).result = .error fault)
      (hfault : fault? = some (.step fault))
      (hmachine : after.machine = (take run.machine).machine)
  /-- It is not time to look for a deadlock. -/
  | passed (hstep : (take run.machine).result = .ok ())
      (hdue : (take run.machine).machine.isCheckDue = false) (hfault : fault? = none)
      (hmachine : after.machine = (take run.machine).machine)
  /-- There is no deadlock. -/
  | looked (hstep : (take run.machine).result = .ok ())
      (hdue : (take run.machine).machine.isCheckDue = true)
      (hstuck : (take run.machine).machine.isStuck = false) (hfault : fault? = none)
      (hmachine : after.machine = (take run.machine).machine.keepSnapshot)
  /-- A deadlock is reported. -/
  | stuck (hstep : (take run.machine).result = .ok ())
      (hdue : (take run.machine).machine.isCheckDue = true)
      (hstuck : (take run.machine).machine.isStuck = true)
      (hfault : fault? = some (.deadlock (take run.machine).machine.cycle))
      (hmachine : after.machine = (take run.machine).machine.keepSnapshot)

section Runs

variable {α : Type} (take : Machine → Step) (watch : Watch) (observe : Machine → List α)

theorem runCycle_case (run : Run α) :
    CycleCase take run (runCycle take watch observe run).1
      (runCycle take watch observe run).2 := by
  unfold runCycle
  dsimp only
  cases hstep : (take run.machine).result with
  | error fault => exact .failed fault hstep rfl rfl
  | ok done =>
      dsimp only
      unfold lookForDeadlock
      dsimp only
      cases hdue : (take run.machine).machine.isCheckDue with
      | false => exact .passed hstep hdue rfl rfl
      | true =>
          cases hstuck : (take run.machine).machine.isStuck with
          | false => exact .looked hstep hdue hstuck rfl rfl
          | true => exact .stuck hstep hdue hstuck rfl rfl

end Runs

section Reports

variable {α : Type} {arbiter : Arbiter} {watch : Watch} {observe : Machine → List α}

/-- A cycle of a run that does not fail leads from reachable machines to reachable
machines. -/
theorem CycleCase.reachable {run after : Run α}
    (h : CycleCase (stepWith arbiter watch) run after none) (hrun : run.machine.Reachable) :
    after.machine.Reachable := by
  cases h with
  | failed fault _ hfault _ => simp at hfault
  | passed hstep _ _ hmachine => rw [hmachine]; exact hrun.step arbiter watch hstep
  | looked hstep _ _ _ hmachine => rw [hmachine]; exact (hrun.step arbiter watch hstep).look
  | stuck _ _ _ hfault _ => simp at hfault

/-- A report of a deadlock comes after a step, of a machine that is stuck then. -/
theorem exists_step_of_deadlock {cycles : Nat} {run final : Run α} {cycle : Cycle}
    (hrun : run.machine.Reachable)
    (h : runFrom (stepWith arbiter watch) watch observe cycles run =
      (final, .failed (.deadlock cycle))) :
    ∃ before : Machine, before.Reachable ∧ (before.stepWith arbiter watch).result = .ok () ∧
      (before.stepWith arbiter watch).machine.isStuck = true ∧
      final.machine = (before.stepWith arbiter watch).machine.keepSnapshot := by
  induction cycles generalizing run with
  | zero =>
      unfold runFrom at h
      simp at h
  | succ cycles ih =>
      unfold runFrom at h
      dsimp only at h
      split at h
      · simp at h
      · split at h
        · simp at h
        · have hcase := runCycle_case (stepWith arbiter watch) watch observe run
          generalize runCycle (stepWith arbiter watch) watch observe run = cycled at h hcase
          obtain ⟨after, fault?⟩ := cycled
          cases fault? with
          | none => exact ih (hcase.reachable hrun) h
          | some fault =>
              simp only [Prod.mk.injEq, Ending.failed.injEq] at h
              obtain ⟨hfinal, hfault⟩ := h
              subst hfinal hfault
              cases hcase with
              | failed other _ hother _ => simp at hother
              | passed _ _ hnone _ => simp at hnone
              | looked _ _ _ hnone _ => simp at hnone
              | stuck hstep _ hstuck _ hmachine =>
                  exact ⟨run.machine, hrun, hstep, hstuck, hmachine⟩

end Reports

end Machine

end CoreArray
