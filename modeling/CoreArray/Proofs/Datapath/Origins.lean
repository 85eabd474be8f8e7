import CoreArray.Proofs.Datapath.Cases
import CoreArray.Proofs.Datapath.Packets
import CoreArray.Proofs.Routing.Routes
set_option autoImplicit false

/-!
# Where packets start (SPEC §4.4)

The network counts the hops of a packet from the root of its path.  A hop of its own starts
at the sender, but a tree of the board is taken wherever it starts: the board is shared by
all cores and is asked for the name of a tensor only, which every core may use.

`root_of_sent` says which packets start where they are sent.
-/

namespace CoreArray

/-- Whether the board leads a packet of a core away from another node: it has a tree for the
tensor that leads to the destinations of the packet, but starts elsewhere. -/
def CoreSpec.IsMisled (spec : CoreSpec) (packet : Packet) : Prop :=
  ∃ tree, spec.board.get? packet.flow = some tree ∧ tree.dests = packet.dests ∧
    tree.root ≠ spec.node

/-- The packets of a tensor start at their sender unless the board misleads them. -/
theorem CoreSpec.root_packet_iff {spec : CoreSpec} {tensor : Tensor} {dests : List Node}
    {paths : List RoutingTree} {path : RoutingTree} (h : spec.paths tensor.id dests = .ok paths)
    (hmem : path ∈ paths) :
    spec.node = path.root ↔ ¬spec.IsMisled (spec.packet tensor path) := by
  unfold IsMisled Packet.dests
  rw [flow_packet, path_packet]
  rcases of_mem_paths h hmem with htree | ⟨⟨dest, -, rfl⟩, hother⟩
  · constructor
    · rintro hroot ⟨tree, hget, -, hne⟩
      rw [htree, Option.some.injEq] at hget
      exact hne (hget ▸ hroot.symm)
    · intro hnot
      exact Decidable.byContradiction fun hne => hnot ⟨path, htree, rfl, fun h => hne h.symm⟩
  · refine iff_of_true rfl ?_
    rintro ⟨tree, hget, hdests, -⟩
    exact hother tree hget hdests

namespace Datapath

/-- The packets that a completed send queues start at its node, and so their hops are counted
from there, exactly if the board does not mislead them. -/
theorem root_of_sent {watch : Watch} {spec : CoreSpec} {credits : CreditBoard} {path : Datapath}
    {instr : Instruction} {cycle : Cycle} (hsend : instr.opcode = "send")
    (hdone : isTaken (path.run watch spec credits .ni instr cycle).reply = true) :
    ∃ packets, (path.run watch spec credits .ni instr cycle).path.port.outbound =
        path.port.outbound ++ packets ∧
      ∀ packet ∈ packets, packet.source = spec.node ∧
        (packet.source = packet.path.root ↔ ¬spec.IsMisled packet) ∧
        (packet.path.hopsTo packet.source = some 0 ↔ ¬spec.IsMisled packet) := by
  cases path.run_case watch spec credits instr cycle .ni with
  | refused fault hreply _ _ => rw [hreply] at hdone; simp at hdone
  | waited _ hreply _ _ => rw [hreply] at hdone; simp at hdone
  | worked hunit _ _ _ _ => exact absurd rfl hunit
  | received _ hrecv _ _ _ _ _ _ _ => rw [hsend] at hrecv; simp at hrecv
  | kept _ _ _ _ _ _ _ hpath _ =>
      refine ⟨[], ?_, fun packet hmem => absurd hmem List.not_mem_nil⟩
      rw [hpath, List.append_nil]
  | sent _ _ _ _ _ tensor _ _ paths hpaths _ hpath _ =>
      refine ⟨paths.map (spec.packet tensor), by rw [hpath]; rfl, fun packet hmem => ?_⟩
      obtain ⟨route, hroute, rfl⟩ := List.mem_map.mp hmem
      have hroot := CoreSpec.root_packet_iff hpaths hroute
      rw [source_packet, path_packet, RoutingTree.hopsTo_eq_zero_iff]
      exact ⟨rfl, hroot, hroot⟩

/-- A board with one tree, which leads from node 0 over node 1 to node 2. -/
def rootedBoard : RoutingBoard := (RoutingBoard.read "7 0 2\n0 1\n1 2\n").toOption.getD .empty

/-- The core of a node under this board. -/
def boardSpec (node : Node) : CoreSpec :=
  { (default : CoreSpec) with node, channelWidth := 4, board := rootedBoard }

/-- A core with the tensor of the tree. -/
def boardTensor : Datapath := .ofTensors (.ofList [⟨7, [2, 5]⟩])

/-- A send of the tensor to the destination of its tree. -/
def sendToTwo : Instruction := .plain "NI" "send" [7, 2]

/-- What comes of it at a node. -/
def sentBy (node : Node) : Execution :=
  boardTensor.run .silent (boardSpec node) (.allOpened 3) .ni sendToTwo 0

/-- At the root of the tree, the packet starts where it is sent. -/
theorem sent_by_root_starts_at_sender :
    ∃ packet, (sentBy 0).path.port.outbound = [packet] ∧ packet.source = packet.path.root := by
  obtain ⟨packets, hqueue, hroots⟩ :=
    @root_of_sent .silent (boardSpec 0) (.allOpened 3) boardTensor sendToTwo 0 rfl
      (by decide +kernel)
  have hone : packets.length = 1 := by
    rw [show packets = (sentBy 0).path.port.outbound from hqueue.symm]
    decide +kernel
  obtain ⟨packet, rfl⟩ := List.length_eq_one_iff.mp hone
  refine ⟨packet, hqueue, (hroots packet List.mem_cons_self).2.1.mpr ?_⟩
  rintro ⟨tree, hget, -, hne⟩
  have hrooted : ∀ packet ∈ (sentBy 0).path.port.outbound,
      (rootedBoard.get? packet.flow).map RoutingTree.root = some 0 := by decide +kernel
  have hroot := hrooted packet (hqueue ▸ List.mem_cons_self)
  rw [show rootedBoard.get? packet.flow = some tree from hget, Option.map_some, Option.some.injEq]
    at hroot
  exact hne hroot

/-- Not all packets start where they are sent, though all trees of the board are valid. -/
theorem sent_by_other_starts_at_root :
    ¬ ∀ (watch : Watch) (spec : CoreSpec) (credits : CreditBoard) (path : Datapath)
      (instr : Instruction) (cycle : Cycle) (packets : List Packet),
      spec.board.IsValid → instr.opcode = "send" →
        isTaken (path.run watch spec credits .ni instr cycle).reply = true →
        (path.run watch spec credits .ni instr cycle).path.port.outbound =
          path.port.outbound ++ packets →
        ∀ packet ∈ packets, packet.source = packet.path.root := by
  intro hall
  have hvalid : rootedBoard.IsValid :=
    RoutingBoard.isValid_of_read (eq_ok_getD (by decide +kernel) _)
  have hroots := hall .silent (boardSpec 1) (.allOpened 3) boardTensor sendToTwo 0
    (sentBy 1).path.port.outbound hvalid rfl (by decide +kernel) rfl
  have hmisled : ¬ ∀ packet ∈ (sentBy 1).path.port.outbound,
      packet.source = packet.path.root := by decide +kernel
  exact hmisled hroots

end Datapath

end CoreArray
