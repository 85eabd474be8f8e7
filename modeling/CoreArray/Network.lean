import CoreArray.Packet
import CoreArray.Clock
import CoreArray.Log.Event
set_option autoImplicit false

/-!
# The network (SPEC §10.9)

The network is ideal: packets never wait for each other.  A packet put into it
becomes a copy per destination, and each copy is due after a time that depends
only on the hops to its destination and on the size of the packet.  Copies are
delivered in the order of the cycles at which they are due, those due at one
cycle in the order in which they were put in.

The copies in flight are kept under these two numbers.  A copy that is put in gets
the next number, which no copy in flight has (`Network.fresh`), so it takes the place
of none.
-/

namespace CoreArray

/-- What a copy in flight is kept under: the cycle at which it is due, and its number
among all copies that have been put in. -/
structure FlightKey where
  due : Cycle
  seq : Nat
  deriving DecidableEq, Repr, Inhabited

namespace FlightKey

/-- Keys by the cycle, then by the number. -/
def order : FlightKey → FlightKey → Ordering :=
  compareLex (compareOn FlightKey.due) (compareOn FlightKey.seq)

instance : Ord FlightKey := ⟨order⟩

instance : Std.TransOrd FlightKey :=
  inferInstanceAs (Std.TransCmp (compareLex (compareOn FlightKey.due) (compareOn FlightKey.seq)))

instance : Std.LawfulEqOrd FlightKey where
  eq_of_compare := by
    intro a b h
    have h : (compare a.due b.due).then (compare a.seq b.seq) = .eq := h
    rw [Ordering.then_eq_eq, Std.compare_eq_iff_eq, Std.compare_eq_iff_eq] at h
    cases a
    cases b
    simp_all

theorem compare_eq_lt_iff {key other : FlightKey} :
    compare key other = .lt ↔ key.due < other.due ∨ key.due = other.due ∧ key.seq < other.seq := by
  have horder : compare key other =
      (compare key.due other.due).then (compare key.seq other.seq) := rfl
  rw [horder, Ordering.then_eq_lt, Nat.compare_eq_lt, Nat.compare_eq_lt, Std.compare_eq_iff_eq]

end FlightKey

/-- A copy of a packet on its way to one destination. -/
structure Flight where
  due : Cycle
  dest : Node
  packet : Packet
  deriving DecidableEq, Inhabited

/-- Why the network fails. -/
inductive NetworkFault where
  /-- A copy for a node that there is not. -/
  | outside (packet : Packet) (dest : Node)
  /-- A destination that the path of a packet does not reach. -/
  | noPath (packet : Packet) (dest : Node)
  deriving DecidableEq, Inhabited

/-- The report of a fault. -/
def NetworkFault.message : NetworkFault → String
  | outside packet dest => s!"{packet.text} addressed to node {dest} outside the array"
  | noPath packet dest => s!"{packet.text} has no path to node {dest}"

/-- The copies in flight: the destination and the packet of each, by key. -/
abbrev FlightTable : Type := Std.ExtTreeMap FlightKey (Node × Packet)

/-- The network. -/
structure Network where
  id : EntityId
  cyclesPerHop : Nat
  copies : FlightTable
  /-- The number of the copy that is put in next.  It does not wrap: no network is given as
  many copies as a word can count. -/
  nextSeq : Nat
  fresh : ∀ key ∈ copies, key.seq < nextSeq
  deriving DecidableEq

namespace Network

/-- The network without packets. -/
def empty (id : EntityId) (cyclesPerHop : Nat) : Network where
  id
  cyclesPerHop
  copies := ∅
  nextSeq := 0
  fresh := by simp

instance : Inhabited Network := ⟨.empty default 0⟩

/-- Number of copies in flight. -/
def inFlight (network : Network) : Nat := network.copies.size

/-- A copy in flight, from its key and what is kept under it. -/
def flightOf (entry : FlightKey × Node × Packet) : Flight :=
  ⟨entry.1.due, entry.2.1, entry.2.2⟩

/-- The copies in flight, the next to be delivered first. -/
def flights (network : Network) : List Flight := network.copies.toList.map flightOf

/-- Put a copy into the network, under a new number. -/
def put (network : Network) (flight : Flight) : Network where
  id := network.id
  cyclesPerHop := network.cyclesPerHop
  copies := network.copies.insert ⟨flight.due, network.nextSeq⟩ (flight.dest, flight.packet)
  nextSeq := network.nextSeq + 1
  fresh := by
    intro key hmem
    rcases Std.ExtTreeMap.mem_insert.mp hmem with heq | hold
    · rw [← Std.compare_eq_iff_eq.mp heq]
      exact Nat.lt_succ_self _
    · exact Nat.lt_succ_of_lt (network.fresh key hold)

/-- Take a copy out of the network. -/
def take (network : Network) (key : FlightKey) : Network where
  id := network.id
  cyclesPerHop := network.cyclesPerHop
  copies := network.copies.erase key
  nextSeq := network.nextSeq
  fresh := fun other hmem => network.fresh other (Std.ExtTreeMap.mem_of_mem_erase hmem)

/-! ## Delivery -/

/-- Add a packet to what has arrived at a port. -/
def arrive (packet : Packet) (port : Port) : Port :=
  { port with inbound := port.inbound ++ [packet] }

/-- What came of moving packets. -/
structure Transit where
  network : Network
  ports : List Port
  events : List Event
  result : Except NetworkFault Unit
  deriving Inhabited

/-- Move packets again, unless moving them has failed. -/
def Transit.andThen (transit : Transit) (next : Network → List Port → Transit) : Transit :=
  match transit.result with
  | .error _ => transit
  | .ok () =>
      let more := next transit.network transit.ports
      { more with events := transit.events ++ more.events }

/-- Deliver the copies that are due, of those in flight from the first on.  A copy for
a node that there is not is lost and ends the delivery. -/
def deliverFrom (watch : Watch) (network : Network) (cycle : Cycle) (ports : List Port) :
    List (FlightKey × Node × Packet) → Transit
  | [] => ⟨network, ports, [], .ok ()⟩
  | (key, dest, packet) :: rest =>
      if cycle < key.due then ⟨network, ports, [], .ok ()⟩
      else
        match ports[dest]? with
        | none => ⟨network.take key, ports, [], .error (.outside packet dest)⟩
        | some port =>
            let transit := deliverFrom watch (network.take key) cycle
              (ports.set dest (arrive packet port)) rest
            { transit with
              events := watch.say network.id .trace
                s!"deliver {packet.text} to node {dest}" ++ transit.events }

/-- Deliver all copies that are due. -/
def deliver (watch : Watch) (network : Network) (cycle : Cycle) (ports : List Port) : Transit :=
  deliverFrom watch network cycle ports network.copies.toList

/-! ## Injection -/

/-- The cycle at which a copy is due that is put in at a cycle.  The sum is made in
words. -/
def dueAt (network : Network) (cycle : Cycle) (packet : Packet) (hops : Nat) : Cycle :=
  wrap (cycle + hops * network.cyclesPerHop + packet.size)

/-- What came of putting packets into the network. -/
structure Injection where
  network : Network
  events : List Event
  result : Except NetworkFault Unit
  deriving Inhabited

/-- Put more packets in, unless that has failed. -/
def Injection.andThen (injection : Injection) (next : Network → Injection) : Injection :=
  match injection.result with
  | .error _ => injection
  | .ok () =>
      let more := next injection.network
      { more with events := injection.events ++ more.events }

/-- Put the copy of a packet for one destination into the network. -/
def injectCopy (watch : Watch) (network : Network) (cycle : Cycle) (packet : Packet)
    (dest : Node) : Injection :=
  match packet.path.hopsTo dest with
  | none => ⟨network, [], .error (.noPath packet dest)⟩
  | some hops =>
      let due := network.dueAt cycle packet hops
      { network := network.put ⟨due, dest, packet⟩
        events := watch.say network.id .trace
          s!"{packet.text} reaches node {dest} at cycle {due}"
        result := .ok () }

/-- Put the copies of a packet for several destinations into the network. -/
def injectCopies (watch : Watch) (cycle : Cycle) (packet : Packet) (network : Network) :
    List Node → Injection
  | [] => ⟨network, [], .ok ()⟩
  | dest :: dests =>
      (network.injectCopy watch cycle packet dest).andThen fun network =>
        injectCopies watch cycle packet network dests

/-- Put packets into the network. -/
def injectAll (watch : Watch) (cycle : Cycle) (network : Network) : List Packet → Injection
  | [] => ⟨network, [], .ok ()⟩
  | packet :: packets =>
      (injectCopies watch cycle packet network packet.dests.toList).andThen fun network =>
        injectAll watch cycle network packets

/-- Take all packets that wait at the ports and put them into the network, port by
port.  A failure loses the packets that are left of its port. -/
def collect (watch : Watch) (cycle : Cycle) (network : Network) : List Port → Transit
  | [] => ⟨network, [], [], .ok ()⟩
  | port :: ports =>
      let drained := { port with outbound := [] }
      let injection := injectAll watch cycle network port.outbound
      match injection.result with
      | .error fault =>
          ⟨injection.network, drained :: ports, injection.events, .error fault⟩
      | .ok () =>
          let transit := collect watch cycle injection.network ports
          { transit with
            ports := drained :: transit.ports
            events := injection.events ++ transit.events }

/-- Move packets at the end of a cycle: deliver those that are due, then take up
those that wait. -/
def step (watch : Watch) (network : Network) (cycle : Cycle) (ports : List Port) : Transit :=
  (network.deliver watch cycle ports).andThen fun network ports =>
    collect watch cycle network ports

end Network

end CoreArray
