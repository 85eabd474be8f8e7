import CoreArray.Proofs.Machine.Reachable
set_option autoImplicit false

/-!
# The order in which cores tick (SPEC §5, §10.10)

The cores of a machine share the credit board, and every tick of a network
interface writes to it.  Yet no flag ever changes its value while the cores tick:
each shows whether the packets that had arrived when the step began leave room,
although a tick may take one of them.  So no tick depends on another, and cores
may tick in any order: the steps, and with them whole runs, come to the same but
for the order of the events.
-/

namespace CoreArray.Machine

/-- Let the cores at some places tick in a given order, up to the first tick that
fails. -/
def tickOrder (arbiter : Arbiter) (watch : Watch) (cycle : Cycle) :
    (order : List Nat) → CreditBoard → List Core → Round
  | [], credits, cores => ⟨cores, credits, [], .ok ()⟩
  | place :: order, credits, cores =>
      match cores[place]? with
      | none => tickOrder arbiter watch cycle order credits cores
      | some core =>
          let tick := core.tickWith arbiter watch credits cycle
          let cores := cores.set place tick.core
          match tick.result with
          | .error fault => ⟨cores, tick.credits, [tick], .error fault⟩
          | .ok () =>
              let round := tickOrder arbiter watch cycle order tick.credits cores
              { round with ticks := tick :: round.ticks }

/-- Simulate one cycle in which the cores tick in a given order. -/
def stepInOrder (arbiter : Arbiter) (watch : Watch) (order : List Nat) (machine : Machine) :
    Step :=
  machine.stepBy
    (fun cycle credits cores => tickOrder arbiter watch cycle order credits cores) watch

/-! ## Rounds -/

section Rounds

variable (arbiter : Arbiter) (watch : Watch) (cycle : Cycle) {credits : CreditBoard}

/-- The ticks of the cores at some places. -/
def ticksAt (arbiter : Arbiter) (watch : Watch) (cycle : Cycle) (credits : CreditBoard)
    (order : List Nat) (cores : List Core) : List Tick :=
  (order.filterMap fun place => cores[place]?).map fun core =>
    core.tickWith arbiter watch credits cycle

/-- The flags of the cores at some places show the packets that have arrived. -/
def ShowsAt (credits : CreditBoard) (order : List Nat) (cores : List Core) : Prop :=
  ∀ place ∈ order, ∀ core, cores[place]? = some core →
    credits.flags[core.node]? = some core.hasRoom

/-- A change at one place does not concern the places that are left. -/
theorem ShowsAt.set {place : Nat} {order : List Nat} {cores : List Core}
    (h : ShowsAt credits (place :: order) cores) (hplace : place ∉ order) (core : Core) :
    ShowsAt credits order (cores.set place core) := by
  intro other hmem found hget
  have hne : place ≠ other := by
    rintro rfl
    exact hplace hmem
  rw [List.getElem?_set_ne hne] at hget
  exact h other (List.mem_cons_of_mem place hmem) found hget

theorem filterMap_set {place : Nat} {order : List Nat} {cores : List Core}
    (hplace : place ∉ order) (core : Core) :
    (order.filterMap fun other => (cores.set place core)[other]?) =
      order.filterMap fun other => cores[other]? := by
  induction order with
  | nil => rfl
  | cons other order ih =>
      rw [List.mem_cons, not_or] at hplace
      rw [List.filterMap_cons, List.filterMap_cons, List.getElem?_set_ne hplace.1, ih hplace.2]

/-- No tick changes the value of a flag, whether or not a tick fails. -/
theorem tickOrder_credits {order : List Nat} {cores : List Core} (hnodup : order.Nodup)
    (hflags : ShowsAt credits order cores) :
    (tickOrder arbiter watch cycle order credits cores).credits = credits := by
  induction order generalizing cores with
  | nil => rfl
  | cons place order ih =>
      obtain ⟨hplace, hrest⟩ := List.nodup_cons.mp hnodup
      unfold tickOrder
      cases hget : cores[place]? with
      | none =>
          exact ih hrest fun other hmem => hflags other (List.mem_cons_of_mem place hmem)
      | some core =>
          have hcredits : (core.tickWith arbiter watch credits cycle).credits = credits :=
            tickWith_credits arbiter watch cycle (hflags place List.mem_cons_self core hget)
          dsimp only
          rw [hcredits]
          cases (core.tickWith arbiter watch credits cycle).result with
          | error fault => rfl
          | ok done => exact ih hrest (hflags.set hplace _)

/-- If the ticks at all places succeed, each acts on the core as it was. -/
theorem tickOrder_ok {order : List Nat} {cores : List Core} (hnodup : order.Nodup)
    (hflags : ShowsAt credits order cores)
    (hok : ∀ tick ∈ ticksAt arbiter watch cycle credits order cores, tick.result = .ok ()) :
    (tickOrder arbiter watch cycle order credits cores).result = .ok () ∧
      (tickOrder arbiter watch cycle order credits cores).ticks =
        ticksAt arbiter watch cycle credits order cores ∧
      ∀ place, (tickOrder arbiter watch cycle order credits cores).cores[place]? =
        if place ∈ order then
          cores[place]?.map fun core => (core.tickWith arbiter watch credits cycle).core
        else cores[place]? := by
  induction order generalizing cores with
  | nil => exact ⟨rfl, rfl, fun place => by simp [tickOrder]⟩
  | cons place order ih =>
      obtain ⟨hplace, hrest⟩ := List.nodup_cons.mp hnodup
      unfold ticksAt at hok ⊢
      unfold tickOrder
      cases hget : cores[place]? with
      | none =>
          rw [List.filterMap_cons_none hget] at hok ⊢
          obtain ⟨hresult, hticks, hcores⟩ :=
            ih hrest (fun other hmem => hflags other (List.mem_cons_of_mem place hmem)) hok
          refine ⟨hresult, hticks, ?_⟩
          intro other
          dsimp only
          rw [hcores]
          by_cases heq : other = place
          · subst heq
            simp [hget]
          · simp [heq]
      | some core =>
          rw [List.filterMap_cons_some hget, List.map_cons] at hok ⊢
          have hcredits : (core.tickWith arbiter watch credits cycle).credits = credits :=
            tickWith_credits arbiter watch cycle (hflags place List.mem_cons_self core hget)
          have hfirst := hok _ List.mem_cons_self
          have hothers : ∀ tick ∈ ticksAt arbiter watch cycle credits order
              (cores.set place (core.tickWith arbiter watch credits cycle).core),
              tick.result = .ok () := by
            unfold ticksAt
            rw [filterMap_set hplace]
            exact fun tick hmem => hok tick (List.mem_cons_of_mem _ hmem)
          obtain ⟨hresult, hticks, hcores⟩ := ih hrest (hflags.set hplace _) hothers
          unfold ticksAt at hticks
          rw [filterMap_set hplace] at hticks
          dsimp only
          rw [hfirst, hcredits]
          refine ⟨hresult, congrArg _ hticks, ?_⟩
          intro other
          dsimp only
          rw [hcores]
          by_cases heq : other = place
          · subst heq
            obtain ⟨hlt, -⟩ := List.getElem?_eq_some_iff.mp hget
            rw [if_neg hplace, if_pos List.mem_cons_self, List.getElem?_set_self hlt, hget]
            rfl
          · rw [List.getElem?_set_ne (Ne.symm heq)]
            simp [heq]

/-- Ticks in an order succeed only if the ticks at all places do. -/
theorem ticksAt_of_ok {order : List Nat} {cores : List Core} (hnodup : order.Nodup)
    (hflags : ShowsAt credits order cores)
    (hok : (tickOrder arbiter watch cycle order credits cores).result = .ok ()) :
    ∀ tick ∈ ticksAt arbiter watch cycle credits order cores, tick.result = .ok () := by
  induction order generalizing cores with
  | nil => simp [ticksAt]
  | cons place order ih =>
      obtain ⟨hplace, hrest⟩ := List.nodup_cons.mp hnodup
      unfold tickOrder at hok
      unfold ticksAt
      cases hget : cores[place]? with
      | none =>
          rw [hget] at hok
          rw [List.filterMap_cons_none hget]
          exact ih hrest (fun other hmem => hflags other (List.mem_cons_of_mem place hmem)) hok
      | some core =>
          have hcredits : (core.tickWith arbiter watch credits cycle).credits = credits :=
            tickWith_credits arbiter watch cycle (hflags place List.mem_cons_self core hget)
          rw [hget] at hok
          dsimp only at hok
          rw [List.filterMap_cons_some hget, List.map_cons]
          cases hfirst : (core.tickWith arbiter watch credits cycle).result with
          | error fault => rw [hfirst] at hok; simp at hok
          | ok done =>
              rw [hfirst, hcredits] at hok
              intro tick hmem
              rcases List.mem_cons.mp hmem with rfl | hmem
              · exact hfirst
              · have hothers := ih hrest (hflags.set hplace _) hok
                unfold ticksAt at hothers
                rw [filterMap_set hplace] at hothers
                exact hothers tick hmem

/-- Cores all of which can tick do so in the order of their nodes. -/
theorem tickCores_ok {cores : List Core}
    (hflags : ∀ core ∈ cores, credits.flags[core.node]? = some core.hasRoom)
    (hok : ∀ core ∈ cores, (core.tickWith arbiter watch credits cycle).result = .ok ()) :
    (tickCores arbiter watch cycle credits cores).result = .ok () := by
  induction cores with
  | nil => rfl
  | cons core cores ih =>
      have hcredits : (core.tickWith arbiter watch credits cycle).credits = credits :=
        tickWith_credits arbiter watch cycle (hflags core List.mem_cons_self)
      unfold tickCores
      dsimp only
      rw [hok core List.mem_cons_self, hcredits]
      exact ih (fun other hmem => hflags other (List.mem_cons_of_mem core hmem))
        (fun other hmem => hok other (List.mem_cons_of_mem core hmem))

theorem filterMap_range (cores : List Core) :
    ((List.range cores.length).filterMap fun place => cores[place]?) = cores := by
  have hmap : (List.range cores.length).map (fun place => cores[place]?) = cores.map some := by
    apply List.ext_getElem?
    intro place
    by_cases hlt : place < cores.length
    · simp [hlt]
    · simp [hlt]
  calc (List.range cores.length).filterMap (fun place => cores[place]?)
      = ((List.range cores.length).map fun place => cores[place]?).filterMap
          (fun core? => core?) := by
        rw [List.filterMap_map]
        rfl
    _ = (cores.map some).filterMap (fun core? => core?) := by rw [hmap]
    _ = cores := by
        rw [List.filterMap_map]
        exact List.filterMap_some

/-- The order of the nodes is one of the orders. -/
theorem tickOrder_range' (before cores : List Core) (credits : CreditBoard) :
    tickOrder arbiter watch cycle (List.range' before.length cores.length) credits
        (before ++ cores) =
      { tickCores arbiter watch cycle credits cores with
        cores := before ++ (tickCores arbiter watch cycle credits cores).cores } := by
  induction cores generalizing before credits with
  | nil => rfl
  | cons core cores ih =>
      have hget : (before ++ core :: cores)[before.length]? = some core := by
        rw [List.getElem?_append_right (Nat.le_refl _), Nat.sub_self]
        rfl
      have hset (other : Core) : (before ++ core :: cores).set before.length other =
          before ++ [other] ++ cores := by
        rw [List.set_append_right _ _ (Nat.le_refl _), Nat.sub_self, List.append_assoc]
        rfl
      have hlength (other : Core) : before.length + 1 = (before ++ [other]).length := by
        rw [List.length_append]
        rfl
      rw [List.length_cons, List.range'_succ]
      unfold tickOrder tickCores
      rw [hget]
      dsimp only
      rw [hset]
      cases (core.tickWith arbiter watch credits cycle).result with
      | error fault =>
          dsimp only
          rw [List.append_assoc]
          rfl
      | ok done =>
          dsimp only
          rw [hlength (core.tickWith arbiter watch credits cycle).core, ih]
          dsimp only
          rw [List.append_assoc]
          rfl

theorem tickOrder_range (cores : List Core) (credits : CreditBoard) :
    tickOrder arbiter watch cycle (List.range cores.length) credits cores =
      tickCores arbiter watch cycle credits cores := by
  rw [List.range_eq_range']
  exact tickOrder_range' arbiter watch cycle [] cores credits

/-- In whatever order all places are taken, the ticks are those of all cores. -/
theorem ticksAt_perm {order : List Nat} {cores : List Core}
    (hperm : order.Perm (List.range cores.length)) :
    (ticksAt arbiter watch cycle credits order cores).Perm
      (cores.map fun core => core.tickWith arbiter watch credits cycle) := by
  unfold ticksAt
  have hcores := hperm.filterMap fun place => cores[place]?
  rw [filterMap_range] at hcores
  exact hcores.map _

/-- The round in the order of the nodes and the round in another order. -/
structure SameRound (round other : Round) : Prop where
  cores : other.cores = round.cores
  credits : other.credits = round.credits
  ticks : other.ticks.Perm round.ticks

theorem tickOrder_same {order : List Nat} {cores : List Core}
    (hperm : order.Perm (List.range cores.length))
    (hflags : ∀ core ∈ cores, credits.flags[core.node]? = some core.hasRoom)
    (hok : (tickCores arbiter watch cycle credits cores).result = .ok ()) :
    (tickOrder arbiter watch cycle order credits cores).result = .ok () ∧
      SameRound (tickCores arbiter watch cycle credits cores)
        (tickOrder arbiter watch cycle order credits cores) := by
  obtain ⟨-, hdone, hcores, hcredits⟩ := tickCores_spec arbiter watch cycle hflags
  obtain ⟨hticks, hresults⟩ := hdone hok
  have hnodup : order.Nodup := hperm.symm.nodup List.nodup_range
  have hshows : ShowsAt credits order cores :=
    fun place _ core hget => hflags core (List.mem_of_getElem? hget)
  have hall : (ticksAt arbiter watch cycle credits order cores).Perm
      (cores.map fun core => core.tickWith arbiter watch credits cycle) :=
    ticksAt_perm arbiter watch cycle hperm
  obtain ⟨hresult, hotherTicks, hotherCores⟩ := tickOrder_ok arbiter watch cycle hnodup hshows
    (fun tick hmem => hresults tick (by rw [hticks]; exact hall.mem_iff.mp hmem))
  refine ⟨hresult, ?_, ?_, ?_⟩
  · rw [hcores, hticks, List.length_map, List.drop_length, List.append_nil, List.map_map]
    apply List.ext_getElem?
    intro place
    rw [hotherCores, List.getElem?_map]
    by_cases hlt : place < cores.length
    · rw [if_pos (hperm.mem_iff.mpr (List.mem_range.mpr hlt))]
      rfl
    · rw [List.getElem?_eq_none (Nat.le_of_not_lt hlt)]
      simp
  · rw [hcredits, tickOrder_credits arbiter watch cycle hnodup hshows]
  · rw [hotherTicks, hticks]
    exact hall

/-- A round in another order fails if the round in the order of the nodes does. -/
theorem tickOrder_fails {order : List Nat} {cores : List Core}
    (hperm : order.Perm (List.range cores.length))
    (hflags : ∀ core ∈ cores, credits.flags[core.node]? = some core.hasRoom)
    (hok : (tickOrder arbiter watch cycle order credits cores).result = .ok ()) :
    (tickCores arbiter watch cycle credits cores).result = .ok () := by
  have hshows : ShowsAt credits order cores :=
    fun place _ core hget => hflags core (List.mem_of_getElem? hget)
  have hresults := ticksAt_of_ok arbiter watch cycle (hperm.symm.nodup List.nodup_range) hshows hok
  refine tickCores_ok arbiter watch cycle hflags ?_
  intro core hmem
  refine hresults _ ((ticksAt_perm arbiter watch cycle hperm).mem_iff.mpr ?_)
  exact List.mem_map_of_mem hmem

end Rounds

/-! ## Steps -/

/-- Whether two steps come to the same but for the order of the events, or both fail
in a tick. -/
inductive SameStep (step other : Step) : Prop
  | same (hmachine : other.machine = step.machine) (hresult : other.result = step.result)
      (hevents : other.events.Perm step.events)
  | failed (fault : TickFault) (hstep : step.result = .error (.tick fault))
      (otherFault : TickFault) (hother : other.result = .error (.tick otherFault))
      (hcycle : other.machine.cycle = step.machine.cycle)

section Steps

variable (arbiter : Arbiter) (watch : Watch) {machine : Machine} {order : List Nat}

theorem endCycle_same {round other : Round} (hround : round.result = .ok ())
    (hother : other.result = .ok ()) (hsame : SameRound round other) :
    SameStep (machine.endCycle watch round) (machine.endCycle watch other) := by
  obtain ⟨cores, credits, ticks, result⟩ := round
  obtain ⟨otherCores, otherCredits, otherTicks, otherResult⟩ := other
  obtain ⟨hcores, hcredits, hticks⟩ := hsame
  dsimp only at hround hother hcores hcredits hticks
  subst hround hother hcores hcredits
  have hevents : (otherTicks.flatMap Tick.events).Perm (ticks.flatMap Tick.events) :=
    hticks.flatMap_right _
  unfold endCycle
  dsimp only
  generalize ({ machine with cores := otherCores, credits := otherCredits } : Machine).movePackets
    watch = moved
  obtain ⟨after, events, result⟩ := moved
  cases result with
  | error fault => exact .same rfl rfl (hevents.append_right events)
  | ok done => exact .same rfl rfl (hevents.append_right events)

theorem stepInOrder_eq (h : machine.IsLaidOut) :
    machine.stepInOrder arbiter watch order = machine.endCycle watch
      (tickOrder arbiter watch machine.cycle order machine.shownCredits machine.cores) := by
  unfold stepInOrder stepBy
  rw [refreshCredits_eq h]

theorem endCycle_failed (machine : Machine) {round : Round} {fault : TickFault}
    (h : round.result = .error fault) :
    (machine.endCycle watch round).result = .error (.tick fault) ∧
      (machine.endCycle watch round).machine.cycle = machine.cycle := by
  unfold endCycle
  rw [h]
  exact ⟨rfl, rfl⟩

/-- In the order of the nodes a step is the step of the machine, also if a tick fails. -/
theorem stepInOrder_range (machine : Machine) :
    machine.stepInOrder arbiter watch (List.range machine.cores.length) =
      machine.stepWith arbiter watch := by
  unfold stepInOrder stepWith stepBy
  simp only [tickOrder_range]

/-- Steps come to the same in every order of the cores. -/
theorem stepInOrder_same (h : machine.IsLaidOut)
    (hperm : order.Perm (List.range machine.cores.length)) :
    SameStep (machine.stepWith arbiter watch) (machine.stepInOrder arbiter watch order) := by
  have hflags := shownCredits_flags h
  rw [stepWith_eq arbiter watch h, stepInOrder_eq arbiter watch h]
  cases hround : (tickCores arbiter watch machine.cycle machine.shownCredits
      machine.cores).result with
  | ok done =>
      obtain ⟨hother, hsame⟩ := tickOrder_same arbiter watch machine.cycle hperm hflags hround
      exact endCycle_same watch hround hother hsame
  | error fault =>
      cases hother : (tickOrder arbiter watch machine.cycle order machine.shownCredits
          machine.cores).result with
      | ok done =>
          have hok := tickOrder_fails arbiter watch machine.cycle hperm hflags hother
          rw [hround] at hok
          simp at hok
      | error otherFault =>
          obtain ⟨hresult, hcycle⟩ := endCycle_failed watch machine hround
          obtain ⟨hotherResult, hotherCycle⟩ := endCycle_failed watch machine hother
          exact .failed fault hresult otherFault hotherResult (hotherCycle.trans hcycle.symm)

end Steps

/-! ## Runs -/

/-- Whether two runs have come to the same but for the order of the events. -/
structure SameRun {α : Type} (run other : Run α) : Prop where
  machine : other.machine = run.machine
  seen : other.seen = run.seen
  events : other.events.toList.Perm run.events.toList

/-- Whether two runs end alike: at the same machine but for the order of the events,
or after the same cycles in a tick that fails. -/
inductive SameOutcome {α : Type} (outcome other : Run α × Ending) : Prop
  | same (hrun : SameRun outcome.1 other.1) (hending : other.2 = outcome.2)
  | failed (fault : TickFault) (houtcome : outcome.2 = .failed (.step (.tick fault)))
      (otherFault : TickFault) (hother : other.2 = .failed (.step (.tick otherFault)))
      (hcycle : other.1.machine.cycle = outcome.1.machine.cycle)
      (hseen : other.1.seen = outcome.1.seen)

section Runs

variable {α : Type} (arbiter : Arbiter) (watch : Watch) (observe : Machine → List α)

theorem SameRun.tell {run other : Run α} (h : SameRun run other) {events others : List Event}
    (hperm : others.Perm events) : SameRun (run.tell events) (other.tell others) := by
  refine ⟨h.machine, h.seen, ?_⟩
  unfold Run.tell
  dsimp only
  rw [Array.toList_appendList, Array.toList_appendList]
  exact h.events.append hperm

theorem lookForDeadlock_same {run other : Run α} (h : SameRun run other) :
    SameRun (lookForDeadlock watch run).1 (lookForDeadlock watch other).1 ∧
      (lookForDeadlock watch other).2 = (lookForDeadlock watch run).2 := by
  unfold lookForDeadlock
  rw [h.machine]
  dsimp only
  have hkept : SameRun { run with machine := run.machine.keepSnapshot }
      { other with machine := run.machine.keepSnapshot } := ⟨rfl, h.seen, h.events⟩
  split
  · split
    · exact ⟨hkept.tell (List.Perm.refl _), rfl⟩
    · exact ⟨hkept, rfl⟩
  · exact ⟨h, rfl⟩

/-- Whether a cycle of two runs comes to the same, or both fail in a tick. -/
inductive SameCycle (cycled other : Run α × Option RunFault) : Prop
  | same (hrun : SameRun cycled.1 other.1) (hfault : other.2 = cycled.2)
  | failed (fault : TickFault) (hcycled : cycled.2 = some (.step (.tick fault)))
      (otherFault : TickFault) (hother : other.2 = some (.step (.tick otherFault)))
      (hcycle : other.1.machine.cycle = cycled.1.machine.cycle)
      (hseen : other.1.seen = cycled.1.seen)

theorem runCycle_same (take takeOther : Machine → Step) {run other : Run α}
    (h : SameRun run other) (hstep : SameStep (take run.machine) (takeOther run.machine)) :
    SameCycle (runCycle take watch observe run) (runCycle takeOther watch observe other) := by
  unfold runCycle
  rw [h.machine]
  generalize take run.machine = step at hstep
  generalize takeOther run.machine = otherStep at hstep
  obtain ⟨machine, ticks, events, result⟩ := step
  obtain ⟨otherMachine, otherTicks, otherEvents, otherResult⟩ := otherStep
  cases hstep with
  | same hmachine hresult hevents =>
      dsimp only at hmachine hresult hevents
      subst hmachine hresult
      have htold := h.tell hevents
      dsimp only
      cases otherResult with
      | error fault => exact .same ⟨rfl, h.seen, htold.events⟩ rfl
      | ok done =>
          dsimp only
          have hseen : SameRun
              { run.tell events with
                machine := otherMachine, seen := run.seen ++ observe otherMachine }
              { other.tell otherEvents with
                machine := otherMachine, seen := other.seen ++ observe otherMachine } :=
            ⟨rfl, by rw [h.seen], htold.events⟩
          obtain ⟨hrun, hfault⟩ := lookForDeadlock_same watch hseen
          exact .same hrun hfault
  | failed fault hfault otherFault hotherFault hcycle =>
      dsimp only at hfault hotherFault hcycle
      subst hfault hotherFault
      exact .failed fault rfl otherFault rfl hcycle h.seen

/-- A cycle of a run that does not fail keeps its machine laid out. -/
theorem CycleCase.isLaidOut {run after : Run α}
    (h : CycleCase (stepWith arbiter watch) run after none) (hlaid : run.machine.IsLaidOut) :
    after.machine.IsLaidOut := by
  have hnext := isLaidOut_stepWith arbiter watch hlaid
  cases h with
  | failed fault _ hfault _ => simp at hfault
  | passed _ _ _ hmachine => rw [hmachine]; exact hnext
  | looked _ _ _ _ hmachine => rw [hmachine]; exact ⟨hnext.node, hnext.size⟩
  | stuck _ _ _ hfault _ => simp at hfault

/-- Whole runs come to the same in every order of the cores, chosen anew in each
step. -/
theorem runFrom_same {orders : Machine → List Nat}
    (horders : ∀ machine, (orders machine).Perm (List.range machine.cores.length))
    (cycles : Nat) {run other : Run α} (hlaid : run.machine.IsLaidOut)
    (h : SameRun run other) :
    SameOutcome (runFrom (stepWith arbiter watch) watch observe cycles run)
      (runFrom (fun machine => machine.stepInOrder arbiter watch (orders machine)) watch observe
        cycles other) := by
  induction cycles generalizing run other with
  | zero => exact .same h rfl
  | succ cycles ih =>
      have hcycle := runCycle_same watch observe (stepWith arbiter watch)
        (fun machine => machine.stepInOrder arbiter watch (orders machine)) h
        (stepInOrder_same arbiter watch hlaid (horders run.machine))
      have hcase := runCycle_case (stepWith arbiter watch) watch observe run
      unfold runFrom
      rw [h.machine]
      dsimp only
      split
      · exact .same (h.tell (List.Perm.refl _)) rfl
      · split
        · exact .same (h.tell (List.Perm.refl _)) rfl
        · generalize runCycle (stepWith arbiter watch) watch observe run = cycled
            at hcycle hcase
          generalize runCycle (fun machine => machine.stepInOrder arbiter watch (orders machine))
            watch observe other = otherCycled at hcycle
          obtain ⟨after, fault?⟩ := cycled
          obtain ⟨otherAfter, otherFault?⟩ := otherCycled
          cases hcycle with
          | same hrun hfault =>
              dsimp only at hrun hfault
              subst hfault
              cases otherFault? with
              | none => exact ih (hcase.isLaidOut arbiter watch hlaid) hrun
              | some fault => exact .same hrun rfl
          | failed fault hfault otherFault hotherFault hlast hseen =>
              dsimp only at hfault hotherFault hlast hseen
              subst hfault hotherFault
              exact .failed fault rfl otherFault rfl hlast hseen

end Runs

/-- The order in which the cores of a machine tick does not matter.  When the credit
is up to date, every flag shows, before and after every tick in every order, whether
the packets that had arrived at the start of the step leave room.  The order of the
nodes is the one in which a machine takes its steps.  If the cores can tick in it, they
can in every order, and every core, every port and every flag is the same afterwards;
the ticks are the same but for their order.  So are whole runs, for any order chosen in
each step. -/
theorem tick_order_irrelevant {α : Type} (arbiter : Arbiter) (watch : Watch) (machine : Machine)
    (h : machine.IsLaidOut) :
    refreshCredits machine.credits machine.cores = (.ok (), machine.shownCredits) ∧
    machine.stepInOrder arbiter watch (List.range machine.cores.length) =
      machine.stepWith arbiter watch ∧
    (∀ order : List Nat, order.Perm (List.range machine.cores.length) →
      (∀ (count place : Nat) (core : Core), machine.cores[place]? = some core →
        (tickOrder arbiter watch machine.cycle (order.take count) machine.shownCredits
          machine.cores).credits.isOpen place =
            .ok (decide (core.path.port.inbound.length ≤ core.spec.threshold))) ∧
      ((tickCores arbiter watch machine.cycle machine.shownCredits machine.cores).result =
          .ok () →
        (tickOrder arbiter watch machine.cycle order machine.shownCredits machine.cores).result =
            .ok () ∧
          SameRound (tickCores arbiter watch machine.cycle machine.shownCredits machine.cores)
            (tickOrder arbiter watch machine.cycle order machine.shownCredits
              machine.cores))) ∧
    ∀ orders : Machine → List Nat,
      (∀ other, (orders other).Perm (List.range other.cores.length)) →
      ∀ (observe : Machine → List α) (cycles : Nat),
        SameOutcome (machine.runForWith arbiter watch observe cycles)
          (runFrom (fun other => other.stepInOrder arbiter watch (orders other)) watch observe
            cycles (.ofMachine machine)) := by
  refine ⟨refreshCredits_eq h, stepInOrder_range arbiter watch machine, ?_, ?_⟩
  · intro order hperm
    refine ⟨?_, tickOrder_same arbiter watch machine.cycle hperm (shownCredits_flags h)⟩
    intro count place core hget
    have hnodup : order.Nodup := hperm.symm.nodup List.nodup_range
    have hshows : ShowsAt machine.shownCredits (order.take count) machine.cores :=
      fun other _ found hfound => shownCredits_flag h hfound
    have hflag := shownCredits_flag h hget
    rw [h.node place core hget] at hflag
    rw [tickOrder_credits arbiter watch machine.cycle (hnodup.sublist (List.take_sublist _ _))
      hshows]
    unfold CreditBoard.isOpen
    rw [hflag]
    rfl
  · intro orders horders observe cycles
    exact runFrom_same arbiter watch observe horders cycles h ⟨rfl, rfl, List.Perm.refl _⟩

/-- The cores of the pair may tick the other way round. -/
theorem pair_ticks_either_way :
    pair.IsLaidOut ∧
      SameRound (tickCores .seeded Watch.silent pair.cycle pair.shownCredits pair.cores)
        (tickOrder .seeded Watch.silent pair.cycle [1, 0] pair.shownCredits pair.cores) := by
  have hlaid : pair.IsLaidOut := isBuilt_pair.isNew.isLaidOut
  have hok : (tickCores .seeded Watch.silent pair.cycle pair.shownCredits pair.cores).result =
      .ok () := eq_ok_of_isOk (by decide +kernel)
  have horders := (tick_order_irrelevant (α := Unit) .seeded Watch.silent pair hlaid).2.2.1
  exact ⟨hlaid, ((horders [1, 0] (by decide +kernel)).2 hok).2⟩

end CoreArray.Machine
