import CoreArray.Datapath.Interface
import CoreArray.Proofs.Lists
import CoreArray.Proofs.Network.Transit
import CoreArray.Proofs.Results
import CoreArray.Proofs.Words
set_option autoImplicit false

/-!
# The packets of a send (SPEC §4.4, §10.7)

A send may name a node more than once, and its own node.  Whatever the kind of
delivery, its packets have every other node that it names as a destination exactly
once, and all carry the same tensor.  So the network makes of them one copy for
each of these nodes, and the copies tell nothing of the way that they take.
-/

namespace CoreArray

/-- What a receiver can tell of a packet: where it comes from, and the shape of the
tensor. -/
structure Copy where
  source : Node
  dims : List Nat
  deriving DecidableEq, Repr

/-- What a receiver can tell of a packet. -/
def Packet.copy (packet : Packet) : Copy := ⟨packet.source, packet.payload.dims⟩

/-- What a receiver can tell of the packets of a flow. -/
def copiesOfFlow (flow : TensorId) (packets : List Packet) : List Copy :=
  (packets.filter fun packet => packet.flow == flow).map Packet.copy

/-- The number of elements of a shape, as a word counts them; a shape without dimensions has
none. -/
def elementCount (dims : List Nat) : Nat := if dims = [] then 0 else wrap dims.prod

theorem Tensor.size_eq (tensor : Tensor) : tensor.size = elementCount tensor.dims := by
  unfold size elementCount
  rw [wordProduct_eq]
  cases tensor.dims <;> rfl

/-- The shape in which a tensor travels: where its elements count for none, it travels as one
element. -/
def sentDims (dims : List Nat) : List Nat := if elementCount dims = 0 then [1] else dims

/-! ## Sets of nodes -/

namespace NodeSet

theorem mem_foldl_insert (nodes : List Node) (set : NodeSet) (node : Node) :
    node ∈ nodes.foldl (fun set node => set.insert node) set ↔ node ∈ nodes ∨ node ∈ set := by
  induction nodes generalizing set with
  | nil => simp
  | cons first nodes ih =>
      rw [List.foldl_cons, ih, Std.ExtTreeSet.mem_insert, Std.compare_eq_iff_eq, List.mem_cons,
        eq_comm (a := first), or_left_comm, or_assoc]

theorem mem_ofNodes {nodes : List Node} {node : Node} :
    node ∈ (ofNodes nodes).toList ↔ node ∈ nodes := by
  unfold ofNodes
  rw [Std.ExtTreeSet.mem_toList, mem_foldl_insert]
  simp

theorem nodup_toList (set : NodeSet) : set.toList.Nodup := by
  refine Std.ExtTreeSet.distinct_toList.imp ?_
  intro node other hdistinct heq
  exact hdistinct (Std.compare_eq_iff_eq.mpr heq)

/-- A set has every member of its list once. -/
theorem count_ofNodes (nodes : List Node) (node : Node) :
    (ofNodes nodes).toList.count node = if node ∈ nodes then 1 else 0 := by
  rw [(nodup_toList _).count]
  simp only [mem_ofNodes]

theorem toList_ofNodes_singleton (node : Node) : (ofNodes [node]).toList = [node] := by
  apply List.perm_singleton.mp
  apply List.perm_iff_count.mpr
  intro other
  rw [count_ofNodes, List.count_singleton]
  simp only [List.mem_singleton, beq_iff_eq, eq_comm (a := other)]

end NodeSet

/-! ## Destinations -/

theorem nodup_sendDests (own : Node) (operands : List Int) : (sendDests own operands).Nodup :=
  nodup_eraseDups _

/-- The destinations of a send are the nodes that it names, without its own. -/
theorem mem_sendDests {own dest : Node} {operands : List Int}
    (h : ∀ value ∈ operands, 0 ≤ value) :
    dest ∈ sendDests own operands ↔ (dest : Int) ∈ operands ∧ dest ≠ own := by
  unfold sendDests
  rw [List.mem_eraseDups, List.mem_filter, List.mem_map]
  simp only [Bool.not_eq_true', beq_eq_false_iff_ne]
  refine and_congr_left fun _ => ⟨?_, fun hmem => ⟨dest, hmem, Int.toNat_natCast dest⟩⟩
  rintro ⟨value, hmem, rfl⟩
  rw [Int.toNat_of_nonneg (h value hmem)]
  exact hmem

/-- The nodes to which a packet must be sent when nodes are named: not to the own node, and
only once to each other. -/
def otherNodes (own : Node) (nodes : List Node) : List Node :=
  (nodes.filter fun node => !(node == own)).eraseDups

theorem sendDests_natCast (own : Node) (nodes : List Node) :
    sendDests own (nodes.map fun node : Node => (node : Int)) = otherNodes own nodes := by
  have hback : Int.toNat ∘ (fun node : Node => (node : Int)) = id := funext Int.toNat_natCast
  unfold sendDests otherNodes
  rw [List.map_map, hback, List.map_id]

theorem mem_otherNodes {own node : Node} {nodes : List Node} :
    node ∈ otherNodes own nodes ↔ node ∈ nodes ∧ node ≠ own := by
  unfold otherNodes
  rw [List.mem_eraseDups, List.mem_filter, Bool.not_eq_true', beq_eq_false_iff_ne]

theorem destSet_unicastPath (spec : CoreSpec) (tree? : Option RoutingTree) (dest : Node) :
    (spec.unicastPath tree? dest).dests = NodeSet.ofNodes [dest] := by
  unfold CoreSpec.unicastPath
  cases tree? with
  | none => rfl
  | some tree =>
      dsimp only
      split
      · next hleads => exact eq_of_beq hleads
      · rfl

theorem dests_unicastPath (spec : CoreSpec) (tree? : Option RoutingTree) (dest : Node) :
    (spec.unicastPath tree? dest).dests.toList = [dest] := by
  rw [destSet_unicastPath]
  exact NodeSet.toList_ofNodes_singleton dest

theorem dests_multicastPath {spec : CoreSpec} {id : TensorId} {tree? : Option RoutingTree}
    {dests : List Node} {path : RoutingTree}
    (h : spec.multicastPath id tree? dests = .ok path) :
    path.dests = NodeSet.ofNodes dests := by
  unfold CoreSpec.multicastPath at h
  split at h
  · split at h
    · next hdests =>
        rw [Except.ok.injEq] at h
        rw [← h, hdests]
    · simp at h
  · rw [Except.ok.injEq] at h
    rw [← h]
    rfl
  · simp at h

/-- Whatever the kind of delivery, every path is the tree of the tensor on the board, or a
hop of its own if that tree leads elsewhere. -/
theorem CoreSpec.of_mem_paths {spec : CoreSpec} {id : TensorId} {dests : List Node}
    {paths : List RoutingTree} {path : RoutingTree} (h : spec.paths id dests = .ok paths)
    (hmem : path ∈ paths) :
    spec.board.get? id = some path ∨
      (∃ dest ∈ dests, path = RoutingTree.direct spec.node dest) ∧
        ∀ tree, spec.board.get? id = some tree → tree.dests ≠ path.dests := by
  unfold CoreSpec.paths at h
  split at h
  · rw [Except.ok.injEq] at h
    rw [← h] at hmem
    obtain ⟨dest, hdest, rfl⟩ := List.mem_map.mp hmem
    unfold CoreSpec.unicastPath
    split
    · next tree htree =>
        split
        · exact .inl htree
        · next hleads =>
            refine .inr ⟨⟨dest, hdest, rfl⟩, fun other hother => ?_⟩
            rw [Option.some.inj (hother.symm.trans htree)]
            exact fun heq => hleads (beq_iff_eq.mpr heq)
    · next hnone =>
        refine .inr ⟨⟨dest, hdest, rfl⟩, fun other hother => ?_⟩
        rw [hnone] at hother
        simp at hother
  · obtain ⟨whole, hwhole, rfl⟩ := ok_of_map h
    rw [List.mem_singleton] at hmem
    subst hmem
    unfold CoreSpec.multicastPath at hwhole
    split at hwhole
    · next tree dests htree =>
        split at hwhole
        · rw [← Except.ok.inj hwhole]
          exact .inl htree
        · simp at hwhole
    · next dest hnone =>
        rw [← Except.ok.inj hwhole]
        refine .inr ⟨⟨dest, List.mem_singleton_self dest, rfl⟩, fun other hother => ?_⟩
        rw [hnone] at hother
        simp at hother
    · simp at hwhole

/-- Whatever the kind of delivery, every destination has its place on one path, and
no other node has. -/
theorem count_paths {spec : CoreSpec} {id : TensorId} {dests : List Node}
    {paths : List RoutingTree} (hnodup : dests.Nodup) (h : spec.paths id dests = .ok paths)
    (dest : Node) :
    (paths.flatMap fun path => path.dests.toList).count dest =
      if dest ∈ dests then 1 else 0 := by
  unfold CoreSpec.paths at h
  cases hdelivery : spec.delivery with
  | unicast =>
      rw [hdelivery] at h
      dsimp only at h
      rw [Except.ok.injEq] at h
      subst h
      rw [List.flatMap_map]
      simp only [dests_unicastPath, List.flatMap_singleton']
      exact hnodup.count
  | multicast =>
      rw [hdelivery] at h
      dsimp only at h
      cases hpath : spec.multicastPath id (spec.board.get? id) dests with
      | error fault => rw [hpath] at h; simp [Except.map] at h
      | ok path =>
          rw [hpath] at h
          simp only [Except.map, Except.ok.injEq] at h
          subst h
          rw [List.flatMap_singleton, dests_multicastPath hpath]
          exact NodeSet.count_ofNodes dests dest

/-! ## Packets -/

theorem flits_eq_zero_iff {channelWidth elements : Nat} (hwidth : channelWidth ≠ 0) :
    flits channelWidth elements = 0 ↔ elements = 0 := by
  unfold flits
  rw [Nat.div_eq_zero_iff]
  omega

theorem flow_packet (spec : CoreSpec) (tensor : Tensor) (path : RoutingTree) :
    (spec.packet tensor path).flow = tensor.id := by
  unfold CoreSpec.packet
  dsimp only
  split <;> rfl

theorem source_packet (spec : CoreSpec) (tensor : Tensor) (path : RoutingTree) :
    (spec.packet tensor path).source = spec.node := by
  unfold CoreSpec.packet
  dsimp only
  split <;> rfl

theorem path_packet (spec : CoreSpec) (tensor : Tensor) (path : RoutingTree) :
    (spec.packet tensor path).path = path := by
  unfold CoreSpec.packet
  dsimp only
  split <;> rfl

/-- The packets of a tensor tell its source and its shape, whatever their paths. -/
theorem copy_packet {spec : CoreSpec} (hwidth : spec.channelWidth ≠ 0) (tensor : Tensor)
    (path : RoutingTree) :
    (spec.packet tensor path).copy = ⟨spec.node, sentDims tensor.dims⟩ := by
  unfold CoreSpec.packet sentDims Packet.copy
  simp only [flits_eq_zero_iff hwidth, Tensor.size_eq]
  split <;> rfl

/-- The first item of some kind splits a list: none of the kind comes before it, and the
rest is left when it is erased. -/
theorem exists_eraseP {α : Type} {p : α → Bool} {items : List α} {item : α}
    (h : items.find? p = some item) :
    ∃ before after, items = before ++ item :: after ∧ p item = true ∧
      (∀ other ∈ before, ¬p other = true) ∧ items.eraseP p = before ++ after := by
  obtain ⟨hitem, before, after, rfl, hbefore⟩ := List.find?_eq_some_iff_append.mp h
  have hothers : ∀ other ∈ before, ¬p other = true := by
    intro other hmem
    simpa using hbefore other hmem
  refine ⟨before, after, rfl, hitem, hothers, ?_⟩
  rw [List.eraseP_append_right _ hothers]
  exact congrArg (before ++ ·) (List.eraseP_cons_of_pos hitem)

/-- The packets of a flow are those that are left when one is taken, and before them that
one if it is of the flow. -/
theorem filter_flow_eraseP {packets : List Packet} {id : TensorId} {packet : Packet}
    (h : (packets.find? fun packet => packet.flow == id) = some packet) (flow : TensorId) :
    (packets.filter fun packet => packet.flow == flow) =
      (if id = flow then [packet] else []) ++
        (packets.eraseP fun packet => packet.flow == id).filter
          fun packet => packet.flow == flow := by
  obtain ⟨before, after, rfl, hflow, hothers, herase⟩ := exists_eraseP h
  have hid : packet.flow = id := eq_of_beq hflow
  rw [herase, List.filter_append, List.filter_append, List.filter_cons, hid]
  by_cases hsame : id = flow
  · -- No packet of the flow comes before the one that is taken.
    subst hsame
    rw [List.filter_eq_nil_iff.mpr hothers, if_pos (beq_self_eq_true id), if_pos rfl]
    rfl
  · rw [if_neg (by simpa using hsame), if_neg hsame]
    rfl

theorem copiesOfFlow_append (flow : TensorId) (packets others : List Packet) :
    copiesOfFlow flow (packets ++ others) =
      copiesOfFlow flow packets ++ copiesOfFlow flow others := by
  unfold copiesOfFlow
  rw [List.filter_append, List.map_append]

namespace Network

/-- A node gets a packet as often as the packet has it as a destination. -/
theorem packetsFor_copiesOf (network : Network) (cycle : Cycle) (packet : Packet) (node : Node) :
    packetsFor node (network.copiesOf cycle packet) =
      List.replicate (packet.dests.toList.count node) packet := by
  unfold packetsFor copiesOf
  rw [List.filter_map, List.map_map, List.count_eq_length_filter, ← List.map_const']
  rfl

/-- A node gets the packets of a tensor as often as their paths lead to it. -/
theorem copiesOfFlow_packets {spec : CoreSpec} (hwidth : spec.channelWidth ≠ 0)
    (network : Network) (cycle : Cycle) (tensor : Tensor) (paths : List RoutingTree)
    (node : Node) (flow : TensorId) :
    copiesOfFlow flow (packetsFor node
        ((paths.map (spec.packet tensor)).flatMap (network.copiesOf cycle))) =
      if tensor.id = flow then
        List.replicate ((paths.flatMap fun path => path.dests.toList).count node)
          ⟨spec.node, sentDims tensor.dims⟩
      else [] := by
  induction paths with
  | nil => simp [packetsFor, copiesOfFlow]
  | cons path paths ih =>
      have hfirst : copiesOfFlow flow (packetsFor node
          (network.copiesOf cycle (spec.packet tensor path))) =
            if tensor.id = flow then
              List.replicate (path.dests.toList.count node) ⟨spec.node, sentDims tensor.dims⟩
            else [] := by
        rw [packetsFor_copiesOf]
        unfold copiesOfFlow Packet.dests
        rw [List.filter_replicate, flow_packet, path_packet]
        by_cases hflow : tensor.id = flow
        · simp [hflow, copy_packet hwidth]
        · simp [hflow]
      rw [List.map_cons, List.flatMap_cons, packetsFor_append, copiesOfFlow_append, hfirst, ih,
        List.flatMap_cons, List.count_append]
      by_cases hflow : tensor.id = flow
      · simp [hflow]
      · simp [hflow]

end Network

end CoreArray
