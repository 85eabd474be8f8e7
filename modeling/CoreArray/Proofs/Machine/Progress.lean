import CoreArray.Proofs.Machine.Layout
set_option autoImplicit false

/-!
# Progress in a step (SPEC §10.10)

The work that is left on a machine is that of its cores.  It falls in every step
in which a tick makes progress, whether or not the step succeeds; a step in which
none does leaves all tracks and tensors as they are, and at the ports packets have
only arrived or been taken.
-/

namespace CoreArray

/-- Whether a tick of a step makes progress. -/
def Step.progresses (step : Step) : Bool := step.ticks.any Tick.progresses

namespace Machine

/-- The work that is left on a machine. -/
def work (machine : Machine) : Nat := (machine.cores.map Core.work).sum

/-! ## One core -/

section Core

variable {arbiter : Arbiter} {watch : Watch} {machine : Machine} {step : Step}
  {place : Nat} {core after : Core}

theorem tickOf_case :
    core.TickCase watch machine.shownCredits machine.cycle
      (machine.tickOf arbiter watch core) :=
  core.tickWith_case arbiter watch machine.shownCredits machine.cycle

/-- What a core keeps in a step without progress. -/
structure Keeps (core after : Core) (outbound arrived : List Packet) : Prop where
  spec : after.spec = core.spec
  tracks : after.tracks = core.tracks
  path : after.path =
    { core.path with port := ⟨outbound, core.path.port.inbound ++ arrived⟩ }

theorem CoreCase.keeps (h : CoreCase arbiter watch machine step place core after)
    (hprogress : step.progresses = false) :
    ∃ outbound delivered, Keeps core after outbound (Network.packetsFor place delivered) ∧
      delivered <+: machine.network.flights ∧
      (outbound = core.path.port.outbound ∨ outbound = []) := by
  have hspec := h.spec_eq
  cases h with
  | waited _ hafter =>
      subst hafter
      refine ⟨_, [], ⟨rfl, rfl, ?_⟩, List.nil_prefix, .inl rfl⟩
      have harrived : Network.packetsFor place [] = [] := rfl
      rw [harrived, List.append_nil]
  | ticked hplace outbound delivered hdelivered hafter houtbound =>
      have htick : (machine.tickOf arbiter watch core).progresses = false :=
        Bool.eq_false_iff.mpr (List.any_eq_false.mp hprogress _ (List.mem_of_getElem? hplace))
      obtain ⟨htracks, hpath⟩ := tickOf_case.stays htick
      subst hafter
      refine ⟨outbound, delivered, ⟨hspec, htracks, ?_⟩, hdelivered, ?_⟩
      · unfold withPort
        rw [hpath]
      · rw [hpath] at houtbound
        exact houtbound

theorem CoreCase.work_le (h : CoreCase arbiter watch machine step place core after) :
    after.work ≤ core.work := by
  cases h with
  | waited _ hafter => exact Nat.le_of_eq (congrArg Core.work hafter)
  | ticked _ outbound delivered _ hafter _ => rw [hafter]; exact tickOf_case.work_le

end Core

/-! ## The machine -/

section Steps

variable (arbiter : Arbiter) (watch : Watch) {machine : Machine}

theorem map_work_stepWith (h : machine.IsLaidOut) (place x y : Nat)
    (hx : ((machine.stepWith arbiter watch).machine.cores.map Core.work)[place]? = some x)
    (hy : (machine.cores.map Core.work)[place]? = some y) : x ≤ y := by
  rw [List.getElem?_map, Option.map_eq_some_iff] at hx hy
  obtain ⟨after, hafter, rfl⟩ := hx
  obtain ⟨core, hcore, rfl⟩ := hy
  obtain ⟨before, hbefore, hcase⟩ := exists_before_stepWith arbiter watch h hafter
  rw [hcore, Option.some.injEq] at hbefore
  subst hbefore
  exact hcase.work_le

theorem length_map_work (h : machine.IsLaidOut) :
    ((machine.stepWith arbiter watch).machine.cores.map Core.work).length =
      (machine.cores.map Core.work).length := by
  rw [List.length_map, List.length_map, length_stepWith arbiter watch h]

/-- The work that is left never grows. -/
theorem work_stepWith_le (h : machine.IsLaidOut) :
    (machine.stepWith arbiter watch).machine.work ≤ machine.work :=
  sum_le_of_getElem? (length_map_work arbiter watch h) (map_work_stepWith arbiter watch h)

/-- The core of a tick. -/
theorem exists_core_of_tick (h : machine.IsLaidOut) {place : Nat} {tick : Tick}
    (hplace : (machine.stepWith arbiter watch).ticks[place]? = some tick) :
    ∃ core, machine.cores[place]? = some core ∧ tick = machine.tickOf arbiter watch core := by
  have hprefix : (machine.stepWith arbiter watch).ticks <+: machine.ticks arbiter watch := by
    cases stepWith_case arbiter watch h with
    | tickFailed fault _ hticks _ => exact hticks
    | networkFailed fault _ hticks _ => exact ⟨[], by rw [hticks, List.append_nil]⟩
    | done _ hticks _ _ _ => exact ⟨[], by rw [hticks, List.append_nil]⟩
  obtain ⟨rest, hrest⟩ := hprefix
  obtain ⟨hlt, -⟩ := List.getElem?_eq_some_iff.mp hplace
  have htick : (machine.ticks arbiter watch)[place]? = some tick := by
    rw [← hrest, List.getElem?_append_left hlt, hplace]
  unfold ticks at htick
  rw [List.getElem?_map, Option.map_eq_some_iff] at htick
  obtain ⟨core, hcore, heq⟩ := htick
  exact ⟨core, hcore, heq.symm⟩

/-- The work that is left falls in every step that makes progress. -/
theorem work_stepWith_lt (h : machine.IsLaidOut)
    (hprogress : (machine.stepWith arbiter watch).progresses = true) :
    (machine.stepWith arbiter watch).machine.work < machine.work := by
  obtain ⟨tick, hmem, htick⟩ := List.any_eq_true.mp hprogress
  obtain ⟨place, hplace⟩ := List.mem_iff_getElem?.mp hmem
  obtain ⟨core, hcore, heq⟩ := exists_core_of_tick arbiter watch h hplace
  subst heq
  obtain ⟨after, hafter, hcase⟩ := getElem?_stepWith arbiter watch h hcore
  have hlt : after.work < core.work := by
    cases hcase with
    | waited hlength _ =>
        obtain ⟨hshort, -⟩ := List.getElem?_eq_some_iff.mp hplace
        omega
    | ticked _ outbound delivered _ hafter _ =>
        rw [hafter]
        exact tickOf_case.work_lt htick
  have hless : ((machine.stepWith arbiter watch).machine.cores.map Core.work)[place]? =
      some after.work := by
    rw [List.getElem?_map, hafter]
    rfl
  have hmore : (machine.cores.map Core.work)[place]? = some core.work := by
    rw [List.getElem?_map, hcore]
    rfl
  exact sum_lt_of_getElem? (length_map_work arbiter watch h) (map_work_stepWith arbiter watch h)
    hless hmore hlt

/-- In a step without progress no work is done. -/
theorem work_stepWith_eq (h : machine.IsLaidOut)
    (hprogress : (machine.stepWith arbiter watch).progresses = false) :
    (machine.stepWith arbiter watch).machine.work = machine.work := by
  unfold work
  congr 1
  apply List.ext_getElem?
  intro place
  rw [List.getElem?_map, List.getElem?_map]
  cases hcore : machine.cores[place]? with
  | none =>
      have hlength := List.getElem?_eq_none_iff.mp hcore
      rw [← length_stepWith arbiter watch h] at hlength
      rw [List.getElem?_eq_none hlength]
  | some core =>
      obtain ⟨after, hafter, hcase⟩ := getElem?_stepWith arbiter watch h hcore
      obtain ⟨outbound, delivered, hkeeps, -, -⟩ := hcase.keeps hprogress
      rw [hafter, Option.map_some, Option.map_some]
      unfold Core.work
      rw [hkeeps.tracks]

end Steps

end Machine

end CoreArray
