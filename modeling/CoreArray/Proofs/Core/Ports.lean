import CoreArray.Proofs.Core.Traffic
import CoreArray.Proofs.Network.Order
set_option autoImplicit false

/-!
# What a tick does to the port of a core (SPEC §4.4, §4.5)

At a tick a core takes at most one packet that has arrived, or queues the packets of one
send.  `PortCase` lists the cases.  A send makes at most one copy for each node, none for
its own, and only for nodes whose flags are open.
-/

namespace CoreArray

/-! ## Flags and packets -/

/-- If all nodes of a list are open, the flag of each is. -/
theorem CreditBoard.flag_of_allOpen {board : CreditBoard} {nodes : List Node}
    (h : board.allOpen nodes = .ok true) {node : Node} (hmem : node ∈ nodes) :
    board.flags[node]? = some true := by
  induction nodes with
  | nil => simp at hmem
  | cons first nodes ih =>
      unfold allOpen CreditBoard.isOpen at h
      cases hflag : board.flags[first]? with
      | none => rw [hflag] at h; simp at h
      | some flag =>
          rw [hflag] at h
          cases hrest : board.allOpen nodes with
          | error fault => rw [hrest] at h; simp [Except.map] at h
          | ok others =>
              rw [hrest] at h
              simp only [Except.map, Except.ok.injEq, Bool.and_eq_true] at h
              rcases List.mem_cons.mp hmem with rfl | hmem
              · rw [hflag, h.1]
              · exact ih (by rw [hrest, h.2]) hmem

/-- Every packet takes up at least one transfer unit. -/
theorem CoreSpec.size_packet (spec : CoreSpec) (tensor : Tensor) (path : RoutingTree) :
    0 < (spec.packet tensor path).size := by
  unfold packet
  dsimp only
  split
  · exact Nat.one_pos
  · next hsize => exact Nat.pos_of_ne_zero hsize

namespace Network

/-- A node gets as many copies of the packets of a tensor as their paths lead to it. -/
theorem countP_copies (network : Network) (cycle : Cycle) (spec : CoreSpec) (tensor : Tensor)
    (paths : List RoutingTree) (node : Node) :
    ((paths.map (spec.packet tensor)).flatMap (network.copiesOf cycle)).countP
        (fun flight => flight.dest == node) =
      (paths.flatMap fun path => path.dests.toList).count node := by
  induction paths with
  | nil => rfl
  | cons path paths ih =>
      have hfirst : (network.copiesOf cycle (spec.packet tensor path)).countP
          (fun flight => flight.dest == node) = path.dests.toList.count node := by
        unfold copiesOf Packet.dests
        rw [List.countP_map, path_packet]
        rfl
      rw [List.map_cons, List.flatMap_cons, List.countP_append, hfirst, ih, List.flatMap_cons,
        List.count_append]

end Network

namespace Core

/-- What may become of the port of a core at a tick. -/
inductive PortCase (core : Core) (credits : CreditBoard) (port : Port) : Prop
  | same (hport : port = core.path.port)
  /-- A packet that has arrived is taken. -/
  | received (id : TensorId) (hport : port =
      { core.path.port with
        inbound := core.path.port.inbound.eraseP fun packet => packet.flow == id })
  /-- A tensor is sent to other nodes, which are open. -/
  | sent (tensor : Tensor) (dests : List Node) (paths : List RoutingTree)
      (hnodup : dests.Nodup)
      (hdests : ∀ dest ∈ dests, dest ≠ core.node ∧ credits.flags[dest]? = some true)
      (hpaths : core.spec.paths tensor.id dests = .ok paths)
      (hport : port =
        { core.path.port with
          outbound := core.path.port.outbound ++ paths.map (core.spec.packet tensor) })

section Ticks

variable {core : Core} {credits : CreditBoard} {cycle : Cycle} {tick : Tick}

theorem PathCase.port_case (h : core.PathCase credits cycle tick) :
    core.PortCase credits tick.core.path.port := by
  cases h with
  | untouched hpath _ => exact .same (by rw [hpath])
  | executed instr unit execution _ hrun hreply hpath _ =>
      rw [hpath]
      cases hrun with
      | refused _ hrefused _ _ => rw [hrefused] at hreply; simp at hreply
      | waited _ hwaited _ _ => rw [hwaited] at hreply; simp at hreply
      | worked _ _ _ hport _ => exact .same hport
      | kept _ _ _ _ _ _ _ hsame _ => exact .same (by rw [hsame])
      | received _ _ id _ packet _ _ haccept _ => exact .received id (by rw [haccept]; rfl)
      | sent _ _ id _ hnodes tensor _ hopen paths hpaths _ hqueued hcredits =>
          refine .sent tensor _ paths (nodup_sendDests _ _) ?_ hpaths (by rw [hqueued]; rfl)
          intro dest hmem
          have hne : dest ≠ core.node := ((mem_sendDests hnodes).mp hmem).2
          have hflag := CreditBoard.flag_of_allOpen hopen hmem
          rw [(CreditBoard.set_frame hcredits).2 dest hne] at hflag
          exact ⟨hne, hflag⟩

/-- No packet arrives at a tick. -/
theorem PortCase.inbound_le {port : Port} (h : core.PortCase credits port) :
    port.inbound.length ≤ core.path.port.inbound.length := by
  cases h with
  | same hport => exact Nat.le_of_eq (by rw [hport])
  | received id hport => rw [hport]; exact List.length_eraseP_le
  | sent _ _ _ _ _ _ hport => exact Nat.le_of_eq (by rw [hport])

variable {port : Port}

/-- The packets that wait after a tick, if none waited before it, take up transfer
units. -/
theorem PortCase.size_pos (h : core.PortCase credits port)
    (hdrained : core.path.port.outbound = []) :
    ∀ packet ∈ port.outbound, 0 < packet.size := by
  intro packet hmem
  cases h with
  | same hport => rw [hport, hdrained] at hmem; simp at hmem
  | received id hport => rw [hport, hdrained] at hmem; simp at hmem
  | sent tensor dests paths _ _ _ hport =>
      rw [hport, hdrained, List.nil_append] at hmem
      obtain ⟨path, -, rfl⟩ := List.mem_map.mp hmem
      exact core.spec.size_packet tensor path

/-- A tick makes at most one copy for a node, and none unless the node is another one and
open. -/
theorem PortCase.countP_le (h : core.PortCase credits port)
    (hdrained : core.path.port.outbound = []) (network : Network) (now : Cycle) (dest : Node) :
    (port.outbound.flatMap (network.copiesOf now)).countP (fun flight => flight.dest == dest) ≤
      if dest ≠ core.node ∧ credits.flags[dest]? = some true then 1 else 0 := by
  cases h with
  | same hport => rw [hport, hdrained]; exact Nat.zero_le _
  | received id hport => rw [hport]; dsimp only; rw [hdrained]; exact Nat.zero_le _
  | sent tensor dests paths hnodup hdests hpaths hport =>
      rw [hport]
      dsimp only
      rw [hdrained, List.nil_append, Network.countP_copies, count_paths hnodup hpaths]
      by_cases hmem : dest ∈ dests
      · exact Nat.le_of_eq (by rw [if_pos hmem, if_pos (hdests dest hmem)])
      · rw [if_neg hmem]
        exact Nat.zero_le _

end Ticks

end Core

end CoreArray
