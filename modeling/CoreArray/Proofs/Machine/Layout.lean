import CoreArray.Machine.Step
import CoreArray.Proofs.Core.Progress
import CoreArray.Proofs.Network.Transit
set_option autoImplicit false

/-!
# What a step of a machine does (SPEC §10.10)

In a machine that is laid out, core `k` is node `k` and every node has a flag.
Then no look at the credit board fails, and while the cores tick all flags show
the packets that had arrived when the step began: no tick sees what another tick
has done.  A step is thereby its ticks, each on the machine as it was, and a step
of the network.  `StepCase` lists how far a step may come.
-/

namespace CoreArray

/-- Whether the arrived packets leave the credit of a core open. -/
def Core.hasRoom (core : Core) : Bool := core.path.hasRoom core.spec

namespace Machine

/-- Cores are listed by their nodes, and every node has a flag. -/
structure IsLaidOut (machine : Machine) : Prop where
  node : ∀ (place : Nat) (core : Core), machine.cores[place]? = some core → core.node = place
  size : machine.credits.size = machine.cores.length

/-- The credit board that shows the packets that have arrived. -/
def shownCredits (machine : Machine) : CreditBoard := ⟨machine.cores.map Core.hasRoom⟩

/-- The tick of a core in a step under an arbiter. -/
def tickOf (arbiter : Arbiter) (watch : Watch) (machine : Machine) (core : Core) : Tick :=
  core.tickWith arbiter watch machine.shownCredits machine.cycle

/-! ## Bringing the credit up to date -/

theorem refreshCredits_from {credits : CreditBoard} {cores : List Core} {place : Nat}
    (hnode : ∀ (offset : Nat) (core : Core), cores[offset]? = some core →
      core.node = place + offset)
    (hsize : credits.size = place + cores.length) :
    refreshCredits credits cores =
      (.ok (), ⟨credits.flags.take place ++ cores.map Core.hasRoom⟩) := by
  induction cores generalizing credits place with
  | nil =>
      have hall : credits.flags.take place = credits.flags :=
        List.take_of_length_le (Nat.le_of_eq hsize)
      rw [List.map_nil, List.append_nil, hall]
      rfl
  | cons core cores ih =>
      have hfirst : core.node = place := hnode 0 core rfl
      rw [List.length_cons] at hsize
      have hplace : place < place + (cores.length + 1) := by omega
      have hlt : core.node < credits.size := by rw [hfirst, hsize]; exact hplace
      have hrefresh : core.refreshCredit credits =
          .ok ⟨credits.flags.set core.node core.hasRoom⟩ := by
        unfold Core.refreshCredit Datapath.refreshCredit CreditBoard.set
        exact if_pos hlt
      have htail : ∀ (offset : Nat) (other : Core), cores[offset]? = some other →
          other.node = place + 1 + offset := by
        intro offset other hget
        have hshift : place + (offset + 1) = place + 1 + offset := by omega
        exact (hnode (offset + 1) other hget).trans hshift
      have hflags : credits.flags.length = place + (cores.length + 1) := hsize
      have htake : (credits.flags.set place core.hasRoom).take (place + 1) =
          credits.flags.take place ++ [core.hasRoom] := by
        rw [List.take_add_one, List.take_set_of_le (Nat.le_refl place),
          List.getElem?_set_self (by omega)]
        rfl
      unfold refreshCredits
      rw [hrefresh]
      dsimp only
      rw [ih htail (by unfold CreditBoard.size; rw [List.length_set]; omega)]
      dsimp only
      rw [hfirst, htake, List.map_cons, List.append_assoc]
      rfl

/-- When the credit is brought up to date, every flag shows the packets that have
arrived. -/
theorem refreshCredits_eq {machine : Machine} (h : machine.IsLaidOut) :
    refreshCredits machine.credits machine.cores = (.ok (), machine.shownCredits) := by
  have hnode : ∀ (offset : Nat) (core : Core), machine.cores[offset]? = some core →
      core.node = 0 + offset := by
    intro offset core hget
    rw [h.node offset core hget, Nat.zero_add]
  rw [refreshCredits_from hnode (by rw [h.size, Nat.zero_add])]
  rfl

theorem shownCredits_flag {machine : Machine} (h : machine.IsLaidOut) {place : Nat} {core : Core}
    (hget : machine.cores[place]? = some core) :
    machine.shownCredits.flags[core.node]? = some core.hasRoom := by
  unfold shownCredits
  rw [h.node place core hget, List.getElem?_map, hget]
  rfl

/-! ## The ticks of the cores -/

section Rounds

variable (arbiter : Arbiter) (watch : Watch) (cycle : Cycle) {credits : CreditBoard}

/-- What comes of the ticks of cores whose flags show what has arrived. -/
structure RoundSpec (arbiter : Arbiter) (watch : Watch) (cycle : Cycle) (credits : CreditBoard)
    (cores : List Core) (round : Round) : Prop where
  ticks : round.ticks <+: cores.map fun core => core.tickWith arbiter watch credits cycle
  done : round.result = .ok () →
    round.ticks = cores.map (fun core => core.tickWith arbiter watch credits cycle) ∧
      ∀ tick ∈ round.ticks, tick.result = .ok ()
  cores : round.cores = round.ticks.map Tick.core ++ cores.drop round.ticks.length
  credits : round.credits = credits

theorem tickWith_credits {core : Core}
    (hflag : credits.flags[core.node]? = some core.hasRoom) :
    (core.tickWith arbiter watch credits cycle).credits = credits :=
  (core.tickWith_case arbiter watch credits cycle).credits_eq hflag

theorem tickCores_spec {cores : List Core}
    (hflags : ∀ core ∈ cores, credits.flags[core.node]? = some core.hasRoom) :
    RoundSpec arbiter watch cycle credits cores
      (tickCores arbiter watch cycle credits cores) := by
  induction cores with
  | nil => exact ⟨List.prefix_refl _, fun _ => ⟨rfl, by simp [tickCores]⟩, rfl, rfl⟩
  | cons core cores ih =>
      have hcredits : (core.tickWith arbiter watch credits cycle).credits = credits :=
        tickWith_credits arbiter watch cycle (hflags core List.mem_cons_self)
      unfold tickCores
      dsimp only
      rw [hcredits]
      cases hresult : (core.tickWith arbiter watch credits cycle).result with
      | error fault =>
          exact ⟨List.prefix_append [_] _, by simp, rfl, rfl⟩
      | ok done =>
          obtain ⟨hticks, hdone, hcores, hboard⟩ :=
            ih fun other hmem => hflags other (List.mem_cons_of_mem core hmem)
          refine ⟨?_, ?_, ?_, hboard⟩
          · rw [List.map_cons]
            exact (List.prefix_cons_inj _).mpr hticks
          · intro hok
            obtain ⟨hall, hresults⟩ := hdone hok
            refine ⟨by rw [List.map_cons, ← hall], ?_⟩
            intro tick hmem
            rcases List.mem_cons.mp hmem with rfl | hmem
            · exact hresult
            · exact hresults tick hmem
          · dsimp only
            rw [hcores]
            rfl

/-- The turn comes to a core if the ticks of all cores before it succeed. -/
theorem mem_ticks_of_ok {before after : List Core} {core : Core}
    (hflags : ∀ other ∈ before ++ core :: after,
      credits.flags[other.node]? = some other.hasRoom)
    (hok : ∀ other ∈ before, (other.tickWith arbiter watch credits cycle).result = .ok ()) :
    core.tickWith arbiter watch credits cycle ∈
      (tickCores arbiter watch cycle credits (before ++ core :: after)).ticks := by
  induction before with
  | nil =>
      rw [List.nil_append]
      unfold tickCores
      dsimp only
      cases (core.tickWith arbiter watch credits cycle).result with
      | error fault => exact List.mem_cons_self
      | ok done => exact List.mem_cons_self
  | cons first before ih =>
      have hcredits : (first.tickWith arbiter watch credits cycle).credits = credits :=
        tickWith_credits arbiter watch cycle (hflags first List.mem_cons_self)
      rw [List.cons_append]
      unfold tickCores
      dsimp only
      rw [hok first List.mem_cons_self, hcredits]
      refine List.mem_cons_of_mem _ (ih ?_ ?_)
      · exact fun other hmem => hflags other (List.mem_cons_of_mem first hmem)
      · exact fun other hmem => hok other (List.mem_cons_of_mem first hmem)

end Rounds

/-! ## Steps -/

/-- The ticks of all cores in a step under an arbiter, if none fails. -/
def ticks (arbiter : Arbiter) (watch : Watch) (machine : Machine) : List Tick :=
  machine.cores.map (machine.tickOf arbiter watch)

/-- The step of the network after all cores have ticked. -/
def transit (arbiter : Arbiter) (watch : Watch) (machine : Machine) : Network.Transit :=
  machine.network.step watch machine.cycle
    ((machine.ticks arbiter watch).map fun tick => tick.core.path.port)

/-- How far a step may come. -/
inductive StepCase (arbiter : Arbiter) (watch : Watch) (machine : Machine) (step : Step) : Prop
  /-- A tick fails; the cores after it have not ticked. -/
  | tickFailed (fault : TickFault) (hresult : step.result = .error (.tick fault))
      (hticks : step.ticks <+: machine.ticks arbiter watch)
      (hmachine : step.machine =
        { machine with
          cores := step.ticks.map Tick.core ++ machine.cores.drop step.ticks.length
          credits := machine.shownCredits })
  /-- All cores have ticked, but the network fails. -/
  | networkFailed (fault : NetworkFault) (hresult : step.result = .error (.network fault))
      (hticks : step.ticks = machine.ticks arbiter watch)
      (hmachine : step.machine =
        { machine with
          cores := List.zipWith withPort (step.ticks.map Tick.core)
            (machine.transit arbiter watch).ports
          credits := machine.shownCredits
          network := (machine.transit arbiter watch).network })
  /-- The step succeeds. -/
  | done (hresult : step.result = .ok ())
      (hticks : step.ticks = machine.ticks arbiter watch)
      (hresults : ∀ tick ∈ step.ticks, tick.result = .ok ())
      (htransit : (machine.transit arbiter watch).result = .ok ())
      (hmachine : step.machine =
        { machine with
          cores := List.zipWith withPort (step.ticks.map Tick.core)
            (machine.transit arbiter watch).ports
          credits := machine.shownCredits
          network := (machine.transit arbiter watch).network
          cycle := machine.cycle + 1 })

section Steps

variable (arbiter : Arbiter) (watch : Watch) {machine : Machine}

theorem shownCredits_flags (h : machine.IsLaidOut) :
    ∀ core ∈ machine.cores, machine.shownCredits.flags[core.node]? = some core.hasRoom := by
  intro core hmem
  obtain ⟨place, hget⟩ := List.mem_iff_getElem?.mp hmem
  exact shownCredits_flag h hget

theorem stepWith_eq (h : machine.IsLaidOut) :
    machine.stepWith arbiter watch = machine.endCycle watch
      (tickCores arbiter watch machine.cycle machine.shownCredits machine.cores) := by
  unfold stepWith stepBy
  rw [refreshCredits_eq h]

/-- A step of a machine that is laid out fails in a tick or in the network, or
succeeds. -/
theorem stepWith_case (h : machine.IsLaidOut) :
    machine.StepCase arbiter watch (machine.stepWith arbiter watch) := by
  rw [stepWith_eq arbiter watch h]
  obtain ⟨hticks, hdone, hcores, hcredits⟩ :=
    tickCores_spec arbiter watch machine.cycle (shownCredits_flags h)
  generalize tickCores arbiter watch machine.cycle machine.shownCredits machine.cores = round
    at hticks hdone hcores hcredits
  obtain ⟨cores, credits, ticks, result⟩ := round
  dsimp only at hticks hdone hcores hcredits
  subst hcredits
  unfold endCycle
  dsimp only
  cases result with
  | error fault => exact .tickFailed fault rfl hticks (by rw [hcores])
  | ok done =>
      obtain ⟨hall, hresults⟩ := hdone rfl
      have hlength : ticks.length = machine.cores.length := by rw [hall, List.length_map]
      rw [hlength, List.drop_length, List.append_nil] at hcores
      subst hcores
      have htransit : machine.network.step watch machine.cycle
          ((ticks.map Tick.core).map fun core => core.path.port) =
            machine.transit arbiter watch := by
        rw [hall, List.map_map]
        rfl
      unfold movePackets ports
      dsimp only
      rw [htransit]
      cases hmoved : (machine.transit arbiter watch).result with
      | error fault => exact .networkFailed fault rfl hall rfl
      | ok done => exact .done rfl hall hresults hmoved rfl

theorem getElem?_ticks {place : Nat} {core : Core} (hget : machine.cores[place]? = some core) :
    (machine.ticks arbiter watch)[place]? = some (machine.tickOf arbiter watch core) := by
  unfold ticks
  rw [List.getElem?_map, hget]
  rfl

/-- What a step makes of a core: it may tick, packets may arrive behind those that
it has, and the packets that wait may be taken. -/
inductive CoreCase (arbiter : Arbiter) (watch : Watch) (machine : Machine) (step : Step)
    (place : Nat) (core after : Core) : Prop
  | waited (hplace : step.ticks.length ≤ place) (hafter : after = core)
  | ticked (hplace : step.ticks[place]? = some (machine.tickOf arbiter watch core))
      (outbound : List Packet) (delivered : List Flight)
      (hdelivered : delivered <+: machine.network.flights)
      (hafter : after = withPort (machine.tickOf arbiter watch core).core
        ⟨outbound, (machine.tickOf arbiter watch core).core.path.port.inbound ++
          Network.packetsFor place delivered⟩)
      (houtbound : outbound = (machine.tickOf arbiter watch core).core.path.port.outbound ∨
        outbound = [])

theorem length_transit_ports :
    (machine.transit arbiter watch).ports.length = machine.cores.length := by
  unfold transit ticks
  rw [Network.length_step, List.length_map, List.length_map]

/-- The core at a place after the network has moved packets. -/
theorem getElem?_moved {place : Nat} {core : Core} (hget : machine.cores[place]? = some core) :
    ∃ outbound delivered, delivered <+: machine.network.flights ∧
      (List.zipWith withPort ((machine.ticks arbiter watch).map Tick.core)
        (machine.transit arbiter watch).ports)[place]? =
          some (withPort (machine.tickOf arbiter watch core).core
            ⟨outbound, (machine.tickOf arbiter watch core).core.path.port.inbound ++
              Network.packetsFor place delivered⟩) ∧
        (outbound = (machine.tickOf arbiter watch core).core.path.port.outbound ∨
          outbound = []) := by
  have htick := getElem?_ticks arbiter watch hget
  have hport : ((machine.ticks arbiter watch).map fun tick => tick.core.path.port)[place]? =
      some (machine.tickOf arbiter watch core).core.path.port := by
    rw [List.getElem?_map, htick]
    rfl
  obtain ⟨outbound, delivered, hdelivered, hmoved, houtbound⟩ :=
    Network.step_ports watch machine.network machine.cycle hport
  refine ⟨outbound, delivered, hdelivered, ?_, houtbound⟩
  unfold transit
  rw [List.getElem?_zipWith, List.getElem?_map, htick, hmoved]
  rfl

/-- The core at a place after a step. -/
theorem getElem?_stepWith (h : machine.IsLaidOut) {place : Nat} {core : Core}
    (hget : machine.cores[place]? = some core) :
    ∃ after, (machine.stepWith arbiter watch).machine.cores[place]? = some after ∧
      CoreCase arbiter watch machine (machine.stepWith arbiter watch) place core after := by
  have htick := getElem?_ticks arbiter watch hget
  obtain ⟨outbound, delivered, hdelivered, hmoved, houtbound⟩ := getElem?_moved arbiter watch hget
  have hall (hticks : (machine.stepWith arbiter watch).ticks = machine.ticks arbiter watch) :
      CoreCase arbiter watch machine (machine.stepWith arbiter watch) place core
        (withPort (machine.tickOf arbiter watch core).core
          ⟨outbound, (machine.tickOf arbiter watch core).core.path.port.inbound ++
            Network.packetsFor place delivered⟩) := by
    refine .ticked ?_ outbound delivered hdelivered rfl houtbound
    rw [hticks]
    exact htick
  cases stepWith_case arbiter watch h with
  | networkFailed fault _ hticks hmachine =>
      refine ⟨_, ?_, hall hticks⟩
      rw [hmachine, hticks]
      exact hmoved
  | done _ hticks _ _ hmachine =>
      refine ⟨_, ?_, hall hticks⟩
      rw [hmachine, hticks]
      exact hmoved
  | tickFailed fault _ hticks hmachine =>
      rw [hmachine]
      dsimp only
      by_cases hplace : place < (machine.stepWith arbiter watch).ticks.length
      · obtain ⟨rest, hrest⟩ := hticks
        have hmember : (machine.stepWith arbiter watch).ticks[place]? =
            some (machine.tickOf arbiter watch core) := by
          rw [← htick, ← hrest, List.getElem?_append_left hplace]
        refine ⟨(machine.tickOf arbiter watch core).core, ?_,
          .ticked hmember _ [] List.nil_prefix ?_ (.inl rfl)⟩
        · rw [List.getElem?_append_left (by rw [List.length_map]; exact hplace),
            List.getElem?_map, hmember]
          rfl
        · have harrived : Network.packetsFor place [] = [] := rfl
          rw [harrived, List.append_nil]
          rfl
      · have hlength := Nat.le_of_not_lt hplace
        refine ⟨core, ?_, .waited hlength rfl⟩
        rw [List.getElem?_append_right (by rw [List.length_map]; exact hlength),
          List.length_map, List.getElem?_drop, Nat.add_sub_cancel' hlength, hget]

theorem CoreCase.spec_eq {arbiter : Arbiter} {watch : Watch} {step : Step} {place : Nat}
    {core after : Core} (h : CoreCase arbiter watch machine step place core after) :
    after.spec = core.spec := by
  cases h with
  | waited _ hafter => rw [hafter]
  | ticked _ outbound delivered _ hafter _ =>
      rw [hafter]
      exact core.tickWith_spec arbiter watch machine.shownCredits machine.cycle

/-- Cores neither come nor go. -/
theorem length_stepWith (h : machine.IsLaidOut) :
    (machine.stepWith arbiter watch).machine.cores.length = machine.cores.length := by
  have hticks : (machine.ticks arbiter watch).length = machine.cores.length :=
    List.length_map _
  have hports : (machine.transit arbiter watch).ports.length = machine.cores.length :=
    length_transit_ports arbiter watch
  cases stepWith_case arbiter watch h with
  | tickFailed fault _ hprefix hmachine =>
      have hle := hprefix.length_le
      rw [hmachine]
      dsimp only
      rw [List.length_append, List.length_map, List.length_drop]
      omega
  | networkFailed fault _ hall hmachine =>
      rw [hmachine, hall]
      dsimp only
      rw [List.length_zipWith, List.length_map]
      omega
  | done _ hall _ _ hmachine =>
      rw [hmachine, hall]
      dsimp only
      rw [List.length_zipWith, List.length_map]
      omega

/-- What a step leaves as it is, and what it shows. -/
theorem stepWith_frame (h : machine.IsLaidOut) :
    (machine.stepWith arbiter watch).machine.config = machine.config ∧
      (machine.stepWith arbiter watch).machine.lastSnapshot = machine.lastSnapshot ∧
      (machine.stepWith arbiter watch).machine.credits = machine.shownCredits := by
  cases stepWith_case arbiter watch h with
  | tickFailed fault _ _ hmachine => rw [hmachine]; exact ⟨rfl, rfl, rfl⟩
  | networkFailed fault _ _ hmachine => rw [hmachine]; exact ⟨rfl, rfl, rfl⟩
  | done _ _ _ _ hmachine => rw [hmachine]; exact ⟨rfl, rfl, rfl⟩

/-- Where a core after a step comes from. -/
theorem exists_before_stepWith (h : machine.IsLaidOut) {place : Nat} {after : Core}
    (hget : (machine.stepWith arbiter watch).machine.cores[place]? = some after) :
    ∃ core, machine.cores[place]? = some core ∧
      CoreCase arbiter watch machine (machine.stepWith arbiter watch) place core after := by
  obtain ⟨hlt, -⟩ := List.getElem?_eq_some_iff.mp hget
  rw [length_stepWith arbiter watch h] at hlt
  have hbefore : machine.cores[place]? = some machine.cores[place] :=
    List.getElem?_eq_getElem hlt
  obtain ⟨found, hfound, hcase⟩ := getElem?_stepWith arbiter watch h hbefore
  rw [hget, Option.some.injEq] at hfound
  rw [← hfound] at hcase
  exact ⟨_, hbefore, hcase⟩

/-- A step keeps a machine laid out. -/
theorem isLaidOut_stepWith (h : machine.IsLaidOut) :
    (machine.stepWith arbiter watch).machine.IsLaidOut := by
  constructor
  · intro place after hget
    obtain ⟨core, hcore, hcase⟩ := exists_before_stepWith arbiter watch h hget
    unfold Core.node
    rw [hcase.spec_eq]
    exact h.node place core hcore
  · rw [(stepWith_frame arbiter watch h).2.2, length_stepWith arbiter watch h]
    exact List.length_map _

/-- What a step does that succeeds: all cores tick, the copies that are due arrive,
and all packets that wait are taken. -/
structure StepDone (arbiter : Arbiter) (watch : Watch) (machine : Machine) (step : Step)
    (delivered rest : List Flight) : Prop where
  ticks : step.ticks = machine.ticks arbiter watch
  results : ∀ tick ∈ step.ticks, tick.result = .ok ()
  cycle : step.machine.cycle = machine.cycle + 1
  split : machine.network.flights = delivered ++ rest
  due : ∀ flight ∈ delivered, flight.due ≤ machine.cycle ∧ flight.dest < machine.cores.length
  early : ∀ flight ∈ rest.head?, machine.cycle < flight.due
  taken : step.machine.network.flights.Perm
    (machine.network.waitingCopies machine.cycle
      (step.ticks.map fun tick => tick.core.path.port) ++ rest)
  idle : (∀ tick ∈ step.ticks, tick.core.path.port.outbound = []) →
    step.machine.network.Follows machine.network rest
  still : (∀ tick ∈ step.ticks, tick.core.path.port.outbound = []) → delivered = [] →
    step.machine.network = machine.network
  core : ∀ (place : Nat) (core : Core), machine.cores[place]? = some core →
    step.machine.cores[place]? = some (withPort (machine.tickOf arbiter watch core).core
      ⟨[], (machine.tickOf arbiter watch core).core.path.port.inbound ++
        Network.packetsFor place delivered⟩)

theorem stepWith_done (h : machine.IsLaidOut)
    (hok : (machine.stepWith arbiter watch).result = .ok ()) :
    ∃ delivered rest, StepDone arbiter watch machine (machine.stepWith arbiter watch)
      delivered rest := by
  cases stepWith_case arbiter watch h with
  | tickFailed fault hresult _ _ => rw [hok] at hresult; simp at hresult
  | networkFailed fault hresult _ _ => rw [hok] at hresult; simp at hresult
  | done _ hticks hresults htransit hmachine =>
      obtain ⟨delivered, rest, hmove, -⟩ := Network.step_ok htransit
      -- Where no core leaves a packet behind its tick, none waits.
      have hports (hempty : ∀ tick ∈ (machine.stepWith arbiter watch).ticks,
          tick.core.path.port.outbound = []) :
          ∀ port ∈ (machine.ticks arbiter watch).map fun tick => tick.core.path.port,
            port.outbound = [] := by
        intro port hport
        obtain ⟨tick, htick, rfl⟩ := List.mem_map.mp hport
        rw [← hticks] at htick
        exact hempty tick htick
      refine ⟨delivered, rest, hticks, hresults, by rw [hmachine], hmove.split, ?_, hmove.early,
        ?_, ?_, ?_, ?_⟩
      · have hdue := hmove.due
        unfold ticks at hdue
        rw [List.length_map, List.length_map] at hdue
        exact hdue
      · obtain ⟨flights, hnetwork, hperm⟩ := hmove.taken
        rw [hmachine, hticks]
        unfold transit
        rw [hnetwork.flights]
        exact hperm
      · intro hempty
        rw [hmachine]
        exact hmove.idle (hports hempty)
      · intro hempty hnone
        rw [hmachine]
        exact hmove.still (hports hempty) hnone
      · intro place core hget
        have htick := getElem?_ticks arbiter watch hget
        have hport : ((machine.ticks arbiter watch).map fun tick => tick.core.path.port)[place]? =
            some (machine.tickOf arbiter watch core).core.path.port := by
          rw [List.getElem?_map, htick]
          rfl
        have harrived := hmove.arrived place
        rw [hport, Option.map_some] at harrived
        rw [hmachine, hticks]
        dsimp only
        unfold transit
        rw [List.getElem?_zipWith, List.getElem?_map, htick, harrived]
        rfl

/-- What the last look has seen plays no part in a step. -/
theorem stepWith_lastSnapshot (machine : Machine) (snapshot? : Option Snapshot) :
    ({ machine with lastSnapshot := snapshot? } : Machine).stepWith arbiter watch =
      { machine.stepWith arbiter watch with
        machine := { (machine.stepWith arbiter watch).machine with
          lastSnapshot := snapshot? } } := by
  unfold stepWith stepBy
  dsimp only
  cases refreshCredits machine.credits machine.cores with
  | mk result credits =>
      cases result with
      | error fault => rfl
      | ok done =>
          dsimp only
          unfold endCycle
          cases (tickCores arbiter watch machine.cycle credits machine.cores).result with
          | error fault => rfl
          | ok done =>
              unfold movePackets ports
              dsimp only
              cases (machine.network.step watch machine.cycle
                ((tickCores arbiter watch machine.cycle credits machine.cores).cores.map
                  fun core => core.path.port)).result with
              | error fault => rfl
              | ok done => rfl

end Steps

end Machine

end CoreArray
