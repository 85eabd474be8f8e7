import CoreArray.Proofs.Network.Transit
set_option autoImplicit false

/-!
# Packets that the network can carry (SPEC §10.9)

The network fails for want of a path, when it takes up a packet, or for want of a node, when
it delivers a copy.  A packet that is routable has a path to each of its destinations, and
these are nodes; where all packets that wait are routable and all copies in flight are for
nodes, a step of the network succeeds (`step_of_routable`).
-/

namespace CoreArray

/-- Whether an array of so many nodes can carry a packet: its destinations are nodes, and its
path reaches them. -/
def Packet.IsRoutable (nodes : Nat) (packet : Packet) : Prop :=
  ∀ dest ∈ packet.dests.toList, dest < nodes ∧ (packet.path.hopsTo dest).isSome = true

namespace Network

variable {watch : Watch} {network : Network} {cycle : Cycle} {nodes : Nat}

theorem result_deliverFrom {ports : List Port} {entries : List (FlightKey × Node × Packet)}
    (h : ∀ entry ∈ entries, entry.2.1 < ports.length) :
    (deliverFrom watch network cycle ports entries).result = .ok () := by
  induction entries generalizing network ports with
  | nil => rfl
  | cons entry rest ih =>
      obtain ⟨key, dest, packet⟩ := entry
      have hdest : dest < ports.length := h _ List.mem_cons_self
      have hport : ports[dest]? = some ports[dest] := List.getElem?_eq_getElem hdest
      unfold deliverFrom
      split
      · rfl
      · rw [hport]
        refine ih fun other hmem => ?_
        rw [List.length_set]
        exact h other (List.mem_cons_of_mem _ hmem)

theorem result_injectCopies {packet : Packet} {dests : List Node}
    (h : ∀ dest ∈ dests, (packet.path.hopsTo dest).isSome = true) :
    (injectCopies watch cycle packet network dests).result = .ok () := by
  induction dests generalizing network with
  | nil => rfl
  | cons dest dests ih =>
      obtain ⟨hops, hhops⟩ := Option.isSome_iff_exists.mp (h dest List.mem_cons_self)
      unfold injectCopies injectCopy Injection.andThen
      rw [hhops]
      exact ih fun other hmem => h other (List.mem_cons_of_mem dest hmem)

theorem result_injectAll {packets : List Packet}
    (h : ∀ packet ∈ packets, ∀ dest ∈ packet.dests.toList,
      (packet.path.hopsTo dest).isSome = true) :
    (injectAll watch cycle network packets).result = .ok () := by
  induction packets generalizing network with
  | nil => rfl
  | cons packet packets ih =>
      have hfirst : (injectCopies watch cycle packet network packet.dests.toList).result = .ok () :=
        result_injectCopies (h packet List.mem_cons_self)
      unfold injectAll Injection.andThen
      rw [hfirst]
      exact ih fun other hmem => h other (List.mem_cons_of_mem packet hmem)

theorem result_collect {ports : List Port}
    (h : ∀ port ∈ ports, ∀ packet ∈ port.outbound, packet.IsRoutable nodes) :
    (collect watch cycle network ports).result = .ok () := by
  induction ports generalizing network with
  | nil => rfl
  | cons port ports ih =>
      have hfirst : (injectAll watch cycle network port.outbound).result = .ok () :=
        result_injectAll fun packet hmem dest hdest =>
          (h port List.mem_cons_self packet hmem dest hdest).2
      unfold collect
      dsimp only
      rw [hfirst]
      exact ih fun other hmem => h other (List.mem_cons_of_mem port hmem)

/-- A delivery leaves the packets that wait where they are. -/
theorem outbound_deliver (ports : List Port) :
    (network.deliver watch cycle ports).ports.map Port.outbound = ports.map Port.outbound := by
  obtain ⟨delivered, -, harrived⟩ :=
    deliverFrom_ports watch network cycle ports network.copies.toList
  unfold deliver
  rw [harrived, outbound_arriveAll]

theorem routable_deliver {ports : List Port}
    (h : ∀ port ∈ ports, ∀ packet ∈ port.outbound, packet.IsRoutable nodes) :
    ∀ port ∈ (network.deliver watch cycle ports).ports,
      ∀ packet ∈ port.outbound, packet.IsRoutable nodes := by
  intro port hmem
  have hwaiting := List.mem_map_of_mem (f := Port.outbound) hmem
  rw [outbound_deliver] at hwaiting
  obtain ⟨before, hbefore, heq⟩ := List.mem_map.mp hwaiting
  rw [← heq]
  exact h before hbefore

/-- A step of the network succeeds if all copies in flight are for nodes and all packets that
wait are routable. -/
theorem step_of_routable {ports : List Port}
    (hflights : ∀ flight ∈ network.flights, flight.dest < ports.length)
    (hports : ∀ port ∈ ports, ∀ packet ∈ port.outbound, packet.IsRoutable nodes) :
    (network.step watch cycle ports).result = .ok () := by
  have hdelivered : (network.deliver watch cycle ports).result = .ok () :=
    result_deliverFrom (List.forall_mem_map.mp hflights)
  unfold step Transit.andThen
  rw [hdelivered]
  exact result_collect (routable_deliver hports)

end Network

end CoreArray
