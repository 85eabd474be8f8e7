import CoreArray.Proofs.Core.Ports
import CoreArray.Proofs.Machine.Reachable
import CoreArray.Proofs.Network.Checked
import CoreArray.Proofs.Routing.Routes
set_option autoImplicit false

/-!
# Only instructions fail (SPEC §4.4, §10.9)

Inside an array no look at the credit board fails, and the network never lacks a path or a
node: what fails is an instruction.  `Visited` has all machines that a built one may become,
also those in the midst of a step and those that a failing tick leaves behind.  Every packet
in such a machine has a route (`IsRouted`): the routes of the board were checked when it was
loaded, and the network interface adds single hops to other nodes, whose flags it has found
on the credit board.
-/

namespace CoreArray

/-! ## Packets of cores -/

/-- Whether all packets of a port have routes in an array of so many nodes. -/
def Port.IsRouted (numNodes : Nat) (port : Port) : Prop :=
  ∀ packet ∈ port.outbound ++ port.inbound, packet.path.IsRoute numNodes

/-- All paths of a send to other nodes are routes. -/
theorem CoreSpec.isRoute_of_paths {spec : CoreSpec} {numNodes : Nat} {id : TensorId}
    {dests : List Node} {paths : List RoutingTree} (hboard : spec.board.IsRouted numNodes)
    (hnode : spec.node < numNodes) (hdests : ∀ dest ∈ dests, dest ≠ spec.node ∧ dest < numNodes)
    (h : spec.paths id dests = .ok paths) : ∀ path ∈ paths, path.IsRoute numNodes := by
  intro path hpath
  rcases CoreSpec.of_mem_paths h hpath with htree | ⟨⟨dest, hdest, rfl⟩, -⟩
  · exact hboard id path htree
  · obtain ⟨hne, hlt⟩ := hdests dest hdest
    exact RoutingTree.isRoute_direct hnode hlt hne

namespace Core

section Ticks

variable {watch : Watch} {core : Core} {credits : CreditBoard} {cycle : Cycle} {tick : Tick}

/-- A tick queues only packets with routes, if the board of the core has only routes. -/
theorem PortCase.isRouted {port : Port} (h : core.PortCase credits port)
    (hboard : core.spec.board.IsRouted credits.size) (hnode : core.node < credits.size)
    (hport : core.path.port.IsRouted credits.size) : port.IsRouted credits.size := by
  intro packet hmem
  cases h with
  | same heq =>
      rw [heq] at hmem
      exact hport packet hmem
  | received id heq =>
      rw [heq] at hmem
      rcases List.mem_append.mp hmem with hout | hin
      · exact hport packet (List.mem_append_left _ hout)
      · exact hport packet (List.mem_append_right _ (List.mem_of_mem_eraseP hin))
  | sent tensor dests paths _ hdests hpaths heq =>
      rw [heq] at hmem
      dsimp only at hmem
      rw [List.append_assoc, List.mem_append, List.mem_append] at hmem
      rcases hmem with hout | hnew | hin
      · exact hport packet (List.mem_append_left _ hout)
      · obtain ⟨path, hpath, rfl⟩ := List.mem_map.mp hnew
        have hopen : ∀ dest ∈ dests, dest ≠ core.node ∧ dest < credits.size := fun dest hdest =>
          ⟨(hdests dest hdest).1, (List.getElem?_eq_some_iff.mp (hdests dest hdest).2).1⟩
        rw [path_packet]
        exact core.spec.isRoute_of_paths hboard hnode hopen hpaths path hpath
      · exact hport packet (List.mem_append_right _ hin)

theorem size_handing (instr : Instruction) :
    (core.handing watch credits cycle instr).credits.size = credits.size := by
  unfold handing
  cases UnitName.ofText? instr.unit with
  | none => rfl
  | some unit =>
      exact (core.path.run_case watch core.spec credits instr cycle unit).credits_frame.1

/-- A tick changes flags of the credit board only. -/
theorem TickCase.size_credits (h : core.TickCase watch credits cycle tick) :
    tick.credits.size = credits.size := by
  cases h with
  | idle _ _ _ hcredits _ _ => rw [hcredits]
  | turned _ index track _ hturn =>
      cases hturn with
      | drained _ _ _ hcredits _ _ => rw [hcredits]
      | tried instr _ _ _ hcredits _ _ => rw [hcredits, size_handing]

end Ticks

end Core

namespace Machine

open Build

/-! ## Machines in the midst of their steps -/

/-- The machines that a built one may become: cores bring their credit up to date or tick,
in any order and under any arbiter, packets move, the clock advances, and the machine is
looked at, at any time. -/
inductive Visited : Machine → Prop
  | built {machine : Machine} (h : machine.IsBuilt) : Visited machine
  | refreshed {machine : Machine} (h : Visited machine) {core : Core}
      (hmem : core ∈ machine.cores) {credits : CreditBoard}
      (hok : core.refreshCredit machine.credits = .ok credits) :
      Visited { machine with credits }
  | ticked {machine : Machine} (h : Visited machine) (arbiter : Arbiter) (watch : Watch)
      {place : Nat} {core : Core} (hget : machine.cores[place]? = some core) :
      Visited { machine with
        cores := machine.cores.set place
          (core.tickWith arbiter watch machine.credits machine.cycle).core
        credits := (core.tickWith arbiter watch machine.credits machine.cycle).credits }
  | moved {machine : Machine} (h : Visited machine) (watch : Watch) :
      Visited (machine.movePackets watch).1
  | advanced {machine : Machine} (h : Visited machine) :
      Visited { machine with cycle := machine.cycle + 1 }
  | looked {machine : Machine} (h : Visited machine) : Visited machine.keepSnapshot

/-- All packets in a machine: those that wait, those that have arrived and those in
flight. -/
def packets (machine : Machine) : List Packet :=
  (machine.ports.flatMap fun port => port.outbound ++ port.inbound) ++
    machine.network.flights.map Flight.packet

/-- What holds of a machine whose packets all have routes. -/
structure IsRouted (machine : Machine) : Prop where
  laid : machine.IsLaidOut
  count : machine.cores.length = machine.config.arraySize
  board : ∀ core ∈ machine.cores, core.spec.board.IsRouted machine.config.arraySize
  port : ∀ core ∈ machine.cores, core.path.port.IsRouted machine.config.arraySize
  flight : ∀ flight ∈ machine.network.flights, flight.dest ∈ flight.packet.dests ∧
    flight.packet.path.IsRoute machine.config.arraySize

/-! ## Machines that are built -/

theorem isRouted_of_readTables {read : TextReader} {config : Config} {array : EntityId}
    {tables : Tables} (h : (readTables read config array).Gives tables) :
    tables.board.IsRouted config.arraySize := by
  obtain ⟨text, -, h⟩ := gives_bind h
  obtain ⟨latencies, -, h⟩ := gives_bind h
  obtain ⟨loaded, hloaded, h⟩ := gives_bind h
  obtain ⟨told, -, h⟩ := gives_bind h
  obtain ⟨checked, hchecked, h⟩ := gives_bind h
  have htables := gives_pure h
  subst htables
  exact (RoutingBoard.isValid_of_load (gives_require hloaded)).isRouted (gives_require hchecked)

theorem board_of_buildCore {read : TextReader} {config : Config} {tables : Tables}
    {credits : CreditBoard} {array : Entity} {node : Node} {core : Core}
    (h : (buildCore read config tables credits array node).Gives core) :
    core.spec.board = tables.board := by
  obtain ⟨entity, -, h⟩ := gives_bind h
  obtain ⟨task, -, h⟩ := gives_bind h
  obtain ⟨spec, hspec, h⟩ := gives_bind h
  obtain ⟨told, -, h⟩ := gives_bind h
  obtain ⟨checked, -, hspec⟩ := gives_bind hspec
  obtain ⟨ids, -, hspec⟩ := gives_bind hspec
  have hmade := gives_pure h
  have hids := gives_pure hspec
  subst hmade hids
  rfl

theorem board_of_buildCores {read : TextReader} {config : Config} {tables : Tables}
    {credits : CreditBoard} {array : Entity} {nodes : List Node} {cores : List Core}
    (h : (buildCores read config tables credits array nodes).Gives cores) :
    ∀ core ∈ cores, core.spec.board = tables.board := by
  induction nodes generalizing cores with
  | nil =>
      have hcores := gives_pure h
      subst hcores
      simp
  | cons node nodes ih =>
      obtain ⟨first, hfirst, h⟩ := gives_bind h
      obtain ⟨others, hothers, h⟩ := gives_bind h
      have hcores := gives_pure h
      subst hcores
      intro core hmem
      rcases List.mem_cons.mp hmem with rfl | hmem
      · exact board_of_buildCore hfirst
      · exact ih hothers core hmem

/-- A machine that is built has as many cores as it is to have, and a board of routes. -/
theorem routes_of_buildOn {read : TextReader} {config : Config} {array network : Entity}
    {machine : Machine} (h : (buildOn read config array network).Gives machine) :
    machine.cores.length = machine.config.arraySize ∧
      ∀ core ∈ machine.cores, core.spec.board.IsRouted machine.config.arraySize := by
  unfold buildOn at h
  dsimp only at h
  split at h
  · obtain ⟨passed, hthrow, -⟩ := gives_bind h
    exact absurd hthrow not_gives_throw
  · obtain ⟨tables, htables, h⟩ := gives_bind h
    obtain ⟨cores, hcores, h⟩ := gives_bind h
    obtain ⟨told, -, h⟩ := gives_bind h
    have hmachine := gives_pure h
    subst hmachine
    refine ⟨?_, ?_⟩
    · rw [(isNewCore_of_buildCores hcores).1, List.length_range]
    · intro core hmem
      rw [board_of_buildCores hcores core hmem]
      exact isRouted_of_readTables htables

theorem IsBuilt.isRouted {machine : Machine} (h : machine.IsBuilt) : machine.IsRouted := by
  have hnew := h.isNew
  obtain ⟨read, config, array, network, hgives⟩ := h.exists_buildOn
  obtain ⟨hcount, hboard⟩ := routes_of_buildOn hgives
  refine ⟨hnew.isLaidOut, hcount, hboard, ?_, ?_⟩
  · intro core hmem packet hpacket
    obtain ⟨place, hget⟩ := List.mem_iff_getElem?.mp hmem
    rw [hnew.port hget] at hpacket
    simp [Port.empty] at hpacket
  · rw [hnew.flights]
    simp

/-! ## Steps keep packets on their routes -/

section Steps

variable {machine : Machine} {watch : Watch}

theorem IsRouted.size (h : machine.IsRouted) : machine.credits.size = machine.config.arraySize :=
  h.laid.size.trans h.count

theorem IsRouted.node_lt (h : machine.IsRouted) {core : Core} (hmem : core ∈ machine.cores) :
    core.node < machine.credits.size := by
  obtain ⟨place, hget⟩ := List.mem_iff_getElem?.mp hmem
  rw [h.laid.node place core hget, h.laid.size]
  exact (List.getElem?_eq_some_iff.mp hget).1

theorem IsRouted.refreshed (h : machine.IsRouted) {core : Core} {credits : CreditBoard}
    (hok : core.refreshCredit machine.credits = .ok credits) :
    ({ machine with credits } : Machine).IsRouted :=
  ⟨⟨h.laid.node, (CreditBoard.set_frame hok).1.trans h.laid.size⟩, h.count, h.board, h.port,
    h.flight⟩

/-- A tick leaves all packets on routes. -/
theorem IsRouted.ticked (h : machine.IsRouted) {place : Nat} {core after : Core}
    {credits : CreditBoard} (hget : machine.cores[place]? = some core)
    (hspec : after.spec = core.spec) (hcredits : credits.size = machine.credits.size)
    (hport : core.PortCase machine.credits after.path.port) :
    ({ machine with cores := machine.cores.set place after, credits } : Machine).IsRouted := by
  have hmem := List.mem_of_getElem? hget
  refine ⟨⟨?_, ?_⟩, ?_, ?_, ?_, h.flight⟩
  · intro other found hfound
    rw [List.getElem?_set] at hfound
    split at hfound
    · next heq =>
        subst heq
        rw [if_pos (List.getElem?_eq_some_iff.mp hget).1, Option.some.injEq] at hfound
        rw [← hfound, Core.node, hspec]
        exact h.laid.node place core hget
    · exact h.laid.node other found hfound
  · rw [List.length_set, hcredits]
    exact h.laid.size
  · rw [List.length_set]
    exact h.count
  · intro found hfound
    rcases List.mem_or_eq_of_mem_set hfound with hold | rfl
    · exact h.board found hold
    · rw [hspec]
      exact h.board core hmem
  · intro found hfound
    rcases List.mem_or_eq_of_mem_set hfound with hold | rfl
    · exact h.port found hold
    · have hboard := h.board core hmem
      have hbefore := h.port core hmem
      rw [← h.size] at hboard hbefore
      have hafter := hport.isRouted hboard (h.node_lt hmem) hbefore
      rw [h.size] at hafter
      exact hafter

theorem IsRouted.flight_lt (h : machine.IsRouted) :
    ∀ flight ∈ machine.network.flights, flight.dest < machine.ports.length := by
  intro flight hmem
  obtain ⟨hdest, hroute⟩ := h.flight flight hmem
  unfold ports
  rw [List.length_map, h.count]
  exact hroute.dest_lt hdest

theorem IsRouted.routable (h : machine.IsRouted) :
    ∀ port ∈ machine.ports, ∀ packet ∈ port.outbound,
      packet.IsRoutable machine.config.arraySize := by
  intro port hmem packet hpacket dest hdest
  obtain ⟨core, hcore, rfl⟩ := List.mem_map.mp hmem
  have hroute := h.port core hcore packet (List.mem_append_left _ hpacket)
  have hdests := Std.ExtTreeSet.mem_toList.mp hdest
  obtain ⟨hops, hhops, -⟩ := hroute.reaches dest hdests
  exact ⟨hroute.dest_lt hdests, by rw [hhops]; rfl⟩

/-- The network can carry all packets of a machine whose packets have routes. -/
theorem IsRouted.step_ok (h : machine.IsRouted) (watch : Watch) :
    (machine.network.step watch machine.cycle machine.ports).result = .ok () :=
  Network.step_of_routable h.flight_lt h.routable

/-- The copies that are in flight after a step of the network were in flight before it, or
are copies of packets that waited. -/
theorem IsRouted.flight_step (h : machine.IsRouted) (watch : Watch) {flight : Flight}
    (hmem : flight ∈ (machine.network.step watch machine.cycle machine.ports).network.flights) :
    flight.dest ∈ flight.packet.dests ∧
      flight.packet.path.IsRoute machine.config.arraySize := by
  obtain ⟨delivered, rest, hmove, hnetwork⟩ := Network.step_ok (h.step_ok watch)
  rw [hnetwork.flights] at hmem
  rcases List.mem_append.mp ((Network.launchAll_perm _ _).mem_iff.mp hmem) with hnew | hold
  · obtain ⟨port, hport, hcopy⟩ := List.mem_flatMap.mp hnew
    obtain ⟨packet, hpacket, hcopy⟩ := List.mem_flatMap.mp hcopy
    obtain ⟨dest, hdest, rfl⟩ := List.mem_map.mp hcopy
    obtain ⟨core, hcore, rfl⟩ := List.mem_map.mp hport
    exact ⟨Std.ExtTreeSet.mem_toList.mp hdest,
      h.port core hcore packet (List.mem_append_left _ hpacket)⟩
  · refine h.flight flight ?_
    rw [hmove.split]
    exact List.mem_append_right _ hold

/-- What moves into a port was in flight, so the packets of the port keep their routes. -/
theorem IsRouted.exists_before_moved (h : machine.IsRouted) (watch : Watch) {place : Nat}
    {after : Core} (hget : (machine.movePackets watch).1.cores[place]? = some after) :
    ∃ core, machine.cores[place]? = some core ∧ after.spec = core.spec ∧
      after.path.port.IsRouted machine.config.arraySize := by
  unfold movePackets at hget
  dsimp only at hget
  obtain ⟨core, port, hcore, hport, rfl⟩ := List.getElem?_zipWith_eq_some.mp hget
  refine ⟨core, hcore, rfl, ?_⟩
  have hplace : machine.ports[place]? = some core.path.port := by
    unfold ports
    rw [List.getElem?_map, hcore]
    rfl
  obtain ⟨outbound, delivered, hdelivered, hmoved, houtbound⟩ :=
    Network.step_ports watch machine.network machine.cycle hplace
  have hrouted := h.port core (List.mem_of_getElem? hcore)
  rw [hport, Option.some.injEq] at hmoved
  unfold withPort
  dsimp only
  rw [hmoved]
  intro packet hmem
  rw [List.mem_append, List.mem_append] at hmem
  rcases hmem with hout | hin | hnew
  · rcases houtbound with rfl | rfl
    · exact hrouted packet (List.mem_append_left _ hout)
    · simp at hout
  · exact hrouted packet (List.mem_append_right _ hin)
  · obtain ⟨flight, hflight, rfl⟩ := List.mem_map.mp hnew
    exact (h.flight flight (hdelivered.subset (List.mem_filter.mp hflight).1)).2

theorem length_moved (machine : Machine) (watch : Watch) :
    (machine.movePackets watch).1.cores.length = machine.cores.length := by
  unfold movePackets ports
  dsimp only
  rw [List.length_zipWith, Network.length_step, List.length_map, Nat.min_self]

/-- Packets that move keep their routes. -/
theorem IsRouted.moved (h : machine.IsRouted) (watch : Watch) :
    (machine.movePackets watch).1.IsRouted := by
  have hlength := length_moved machine watch
  refine ⟨⟨?_, h.laid.size.trans hlength.symm⟩, hlength.trans h.count, ?_, ?_, ?_⟩
  · intro place after hget
    obtain ⟨core, hcore, hspec, -⟩ := h.exists_before_moved watch hget
    unfold Core.node
    rw [hspec]
    exact h.laid.node place core hcore
  · intro after hmem
    obtain ⟨place, hget⟩ := List.mem_iff_getElem?.mp hmem
    obtain ⟨core, hcore, hspec, -⟩ := h.exists_before_moved watch hget
    rw [hspec]
    exact h.board core (List.mem_of_getElem? hcore)
  · intro after hmem
    obtain ⟨place, hget⟩ := List.mem_iff_getElem?.mp hmem
    obtain ⟨core, -, -, hport⟩ := h.exists_before_moved watch hget
    exact hport
  · intro flight hmem
    exact h.flight_step watch hmem

/-- All packets of a visited machine have routes. -/
theorem Visited.isRouted (h : machine.Visited) : machine.IsRouted := by
  induction h with
  | built h => exact h.isRouted
  | refreshed _ _ hok ih => exact ih.refreshed hok
  | @ticked machine _ arbiter watch place core hget ih =>
      have hcase := core.tickWith_case arbiter watch machine.credits machine.cycle
      exact ih.ticked hget (core.tickWith_spec arbiter watch machine.credits machine.cycle)
        hcase.size_credits hcase.path_case.port_case
  | moved _ watch ih => exact ih.moved watch
  | advanced _ ih => exact ⟨⟨ih.laid.node, ih.laid.size⟩, ih.count, ih.board, ih.port, ih.flight⟩
  | looked _ ih => exact ⟨⟨ih.laid.node, ih.laid.size⟩, ih.count, ih.board, ih.port, ih.flight⟩

/-! ## Steps as visits -/

/-- The credit is brought up to date core by core. -/
theorem Visited.refreshCredits (h : machine.Visited) {cores : List Core}
    (hcores : ∀ core ∈ cores, core ∈ machine.cores) :
    ({ machine with credits := (refreshCredits machine.credits cores).2 } : Machine).Visited := by
  induction cores generalizing machine with
  | nil => exact h
  | cons core cores ih =>
      unfold Machine.refreshCredits
      cases hok : core.refreshCredit machine.credits with
      | error fault => exact h
      | ok credits =>
          exact ih (h.refreshed (hcores core List.mem_cons_self) hok)
            fun other hmem => hcores other (List.mem_cons_of_mem core hmem)

/-- The cores tick one by one. -/
theorem Visited.tickCores (h : machine.Visited) (arbiter : Arbiter) (watch : Watch)
    (before : List Core) {cores : List Core} (hcores : machine.cores = before ++ cores) :
    ({ machine with
      cores := before ++ (tickCores arbiter watch machine.cycle machine.credits cores).cores
      credits := (tickCores arbiter watch machine.cycle machine.credits cores).credits } :
        Machine).Visited := by
  induction cores generalizing machine before with
  | nil =>
      unfold Machine.tickCores
      dsimp only
      rw [← hcores]
      exact h
  | cons core cores ih =>
      have hget : machine.cores[before.length]? = some core := by
        rw [hcores, List.getElem?_append_right (Nat.le_refl _), Nat.sub_self]
        rfl
      have hticked := h.ticked arbiter watch hget
      have hset (after : Core) : machine.cores.set before.length after =
          before ++ after :: cores := by
        rw [hcores, List.set_append_right _ _ (Nat.le_refl _), Nat.sub_self]
        rfl
      rw [hset] at hticked
      unfold Machine.tickCores
      dsimp only
      cases (core.tickWith arbiter watch machine.credits machine.cycle).result with
      | error fault => exact hticked
      | ok done =>
          have hrest := ih hticked
            (before ++ [(core.tickWith arbiter watch machine.credits machine.cycle).core])
            (by rw [List.append_assoc]; rfl)
          rw [List.append_assoc] at hrest
          exact hrest

/-- Whatever comes of a step, it is made of visits, and if it fails, a tick has failed. -/
theorem Visited.stepWith (h : machine.Visited) (arbiter : Arbiter) (watch : Watch) :
    (machine.stepWith arbiter watch).machine.Visited ∧
      ∀ fault, (machine.stepWith arbiter watch).result = .error fault →
        ∃ cause, fault = .tick cause := by
  have hlaid := h.isRouted.laid
  have hshown := h.refreshCredits fun core hmem => hmem
  rw [refreshCredits_eq hlaid] at hshown
  have hround := hshown.tickCores arbiter watch [] rfl
  rw [stepWith_eq arbiter watch hlaid]
  dsimp only [List.nil_append] at hround
  unfold endCycle
  dsimp only
  generalize Machine.tickCores arbiter watch machine.cycle machine.shownCredits machine.cores =
    round at hround
  cases round.result with
  | error cause =>
      refine ⟨hround, fun fault hfault => ⟨cause, ?_⟩⟩
      rw [Except.error.injEq] at hfault
      exact hfault.symm
  | ok done =>
      have hmoved := hround.moved watch
      have hok := hround.isRouted.step_ok watch
      unfold movePackets at hmoved ⊢
      dsimp only at hmoved hok ⊢
      rw [hok]
      exact ⟨hmoved.advanced, fun fault hfault => by simp at hfault⟩

end Steps

end Machine

end CoreArray
