import CoreArray.Datapath.Basic
set_option autoImplicit false

/-!
# The network interface (SPEC §4.4, §10.7)

The network interface sends tensors to other nodes and receives the tensors that
arrive.  A send looks at the credit of all its destinations at once: either all
are open and all its packets are queued, or nothing happens and it has to be
tried again.
-/

namespace CoreArray

/-- Why a network interface cannot be made. -/
inductive InterfaceFault where
  | zeroWidth
  | outsideBoard (node numNodes : Nat)
  deriving DecidableEq, Repr, Inhabited

/-- The report of a fault. -/
def InterfaceFault.message : InterfaceFault → String
  | zeroWidth => "channel width must be non-zero"
  | outsideBoard node numNodes => s!"node {node} outside a credit board of {numNodes} nodes"

/-- Check that a core can have a network interface. -/
def CoreSpec.check (spec : CoreSpec) (credits : CreditBoard) : Except InterfaceFault Unit :=
  if spec.channelWidth = 0 then .error .zeroWidth
  else if credits.size ≤ spec.node then .error (.outsideBoard spec.node credits.size)
  else .ok ()

/-- A core that can have a network interface has a channel, and is on the credit board. -/
theorem CoreSpec.of_check {spec : CoreSpec} {credits : CreditBoard}
    (h : spec.check credits = .ok ()) : spec.channelWidth ≠ 0 ∧ spec.node < credits.size := by
  unfold CoreSpec.check at h
  split at h
  · simp at h
  · next hwidth =>
      split at h
      · simp at h
      · next hnode => exact ⟨hwidth, Nat.not_le.mp hnode⟩

/-- Show in the credit of a core whether it takes more packets. -/
def Datapath.refreshCredit (spec : CoreSpec) (path : Datapath) (credits : CreditBoard) :
    Except CreditBoard.Fault CreditBoard :=
  credits.set spec.node (path.port.inbound.length ≤ spec.threshold)

/-! ## Packets of a send -/

/-- Number of transfer units for a number of elements: as many as hold them. -/
def flits (channelWidth elements : Nat) : Nat := (elements + (channelWidth - 1)) / channelWidth

/-- The packet that carries a tensor along a path.  A tensor without elements
travels as one element. -/
def CoreSpec.packet (spec : CoreSpec) (tensor : Tensor) (path : RoutingTree) : Packet :=
  let size := flits spec.channelWidth tensor.size
  if size = 0 then
    { flow := tensor.id, source := spec.node, size := 1, path
      payload := { tensor with dims := [1] } }
  else
    { flow := tensor.id, source := spec.node, size, path, payload := tensor }

/-- The warning about a tensor without elements. -/
def CoreSpec.paddingEvents (watch : Watch) (spec : CoreSpec) (tensor : Tensor) : List Event :=
  if flits spec.channelWidth tensor.size = 0 then
    watch.say spec.ids.ni .warn s!"tensor {tensor.id} is empty, padding it with one flit"
  else []

/-- Whether a tree leads to one node only. -/
def leadsTo (tree : RoutingTree) (dest : Node) : Bool := tree.dests == NodeSet.ofNodes [dest]

/-- The path of a packet to one node: the tree of the tensor if it leads to just
that node, otherwise a hop of its own. -/
def CoreSpec.unicastPath (spec : CoreSpec) (tree? : Option RoutingTree) (dest : Node) :
    RoutingTree :=
  match tree? with
  | some tree => if leadsTo tree dest then tree else RoutingTree.direct spec.node dest
  | none => RoutingTree.direct spec.node dest

/-- Whether a send of packets per destination passes over a multicast tree. -/
def bypassesTree (tree? : Option RoutingTree) (dests : List Node) : Bool :=
  match tree?, dests with
  | some tree, [dest] => !leadsTo tree dest
  | some _, _ => true
  | none, _ => false

/-- The path of one packet to all destinations. -/
def CoreSpec.multicastPath (spec : CoreSpec) (id : TensorId) (tree? : Option RoutingTree)
    (dests : List Node) : Except ExecFault RoutingTree :=
  match tree?, dests with
  | some tree, dests =>
      if tree.dests = NodeSet.ofNodes dests then .ok tree
      else .error (.treeMismatch id tree.dests (NodeSet.ofNodes dests))
  | none, [dest] => .ok (RoutingTree.direct spec.node dest)
  | none, _ => .error (.noTree id)

/-- The paths of the packets of a send, in the order in which the packets are
queued. -/
def CoreSpec.paths (spec : CoreSpec) (id : TensorId) (dests : List Node) :
    Except ExecFault (List RoutingTree) :=
  match spec.delivery with
  | .unicast => .ok (dests.map (spec.unicastPath (spec.board.get? id)))
  | .multicast => (spec.multicastPath id (spec.board.get? id) dests).map fun path => [path]

/-- The warning about a multicast tree that is passed over. -/
def CoreSpec.bypassEvents (watch : Watch) (spec : CoreSpec) (id : TensorId)
    (dests : List Node) : List Event :=
  if spec.delivery = .unicast && bypassesTree (spec.board.get? id) dests then
    watch.say spec.ids.ni .warn
      s!"ignoring the multicast tree of tensor {id}, only unicast packets are sent"
  else []

/-! ## Sending -/

/-- The destinations of a send: its operands without the own node and without
repeats, in order. -/
def sendDests (own : Node) (operands : List Int) : List Node :=
  ((operands.map Int.toNat).filter fun node => !(node == own)).eraseDups

/-- How often a send names its own node before an operand that is no node. -/
def ownSends (own : Node) (operands : List Int) : Nat :=
  ((operands.takeWhile fun value => 0 ≤ value).filter fun value => value == (own : Int)).length

/-- The warnings about a send to the own node. -/
def CoreSpec.ownSendEvents (watch : Watch) (spec : CoreSpec) (id : TensorId)
    (operands : List Int) : List Event :=
  (List.replicate (ownSends spec.node operands) ()).flatMap fun _ =>
    watch.say spec.ids.ni .warn
      (s!"node {spec.node} sends tensor {id} to itself, the packet is dropped " ++
        "but this may cause deadlocks")

/-- A list of nodes in a text, as `[2, 3]`. -/
def nodesText (nodes : List Node) : String := Text.bracketed (nodes.map toString)

/-- Queue packets. -/
def Datapath.enqueue (path : Datapath) (packets : List Packet) : Datapath :=
  { path with
    port := { path.port with outbound := path.port.outbound ++ packets }
    counters := { path.counters with sent := path.counters.sent + packets.length } }

/-- Send a known tensor to destinations whose credit is open. -/
def Datapath.dispatch (watch : Watch) (spec : CoreSpec) (credits : CreditBoard)
    (path : Datapath) (tensor : Tensor) (dests : List Node) (cycle : Cycle) : Execution :=
  match spec.paths tensor.id dests with
  | .error fault => .refused watch spec.ids.ni path credits fault
  | .ok paths =>
      let packets := paths.map (spec.packet tensor)
      let padding := paths.flatMap fun _ => spec.paddingEvents watch tensor
      let queued := packets.flatMap fun packet =>
        watch.say spec.ids.ni .debug s!"enqueue {packet.text}"
      { reply := .ok (.complete (cycle + 1))
        path := path.enqueue packets
        credits
        events := spec.bypassEvents watch tensor.id dests ++ padding ++ queued }

/-- Send a tensor to destinations, of which there is at least one. -/
def Datapath.sendTo (watch : Watch) (spec : CoreSpec) (credits : CreditBoard)
    (path : Datapath) (instr : Instruction) (id : TensorId) (dests : List Node)
    (cycle : Cycle) : Execution :=
  match path.tensors.get? id with
  | none => .refused watch spec.ids.ni path credits (.unsupported .ni instr)
  | some tensor =>
      match credits.allOpen dests with
      | .error fault => .refused watch spec.ids.ni path credits (.credit fault)
      | .ok true => path.dispatch watch spec credits tensor dests cycle
      | .ok false =>
          { reply := .ok .notYet
            path
            credits
            events := watch.say spec.ids.ni .trace
              (s!"destinations {nodesText dests} of tensor {id} are unavailable") }

/-- Send a tensor to the nodes that the operands after its name give. -/
def Datapath.send (watch : Watch) (spec : CoreSpec) (credits : CreditBoard) (path : Datapath)
    (instr : Instruction) (cycle : Cycle) : Execution :=
  match operandOf instr 0 with
  | .error fault => .refused watch spec.ids.ni path credits fault
  | .ok id =>
      let operands := instr.operands.drop 1
      let warnings := spec.ownSendEvents watch id operands
      match operands.find? fun value => value < 0 with
      | some value =>
          (Execution.refused watch spec.ids.ni path credits
            (.badDestination instr value)).after warnings
      | none =>
          match sendDests spec.node operands with
          | [] =>
              { reply := .ok (.complete (cycle + 1)), path, credits, events := warnings }
          | dests => (path.sendTo watch spec credits instr id dests cycle).after warnings

/-! ## Receiving -/

/-- Take a packet that has arrived: its payload is the new shape of the tensor,
and the first packet of its flow leaves the queue. -/
def Datapath.accept (path : Datapath) (id : TensorId) (packet : Packet) : Datapath :=
  { tensors := path.tensors.insert ⟨id, packet.payload.dims⟩
    port := { path.port with
      inbound := path.port.inbound.eraseP fun packet => packet.flow == id }
    counters := { path.counters with received := path.counters.received + 1 } }

/-- Receive a tensor: take the first packet of its flow. -/
def Datapath.recv (watch : Watch) (spec : CoreSpec) (credits : CreditBoard) (path : Datapath)
    (instr : Instruction) (cycle : Cycle) : Execution :=
  match operandOf instr 0 with
  | .error fault => .refused watch spec.ids.ni path credits fault
  | .ok id =>
      match path.port.inbound.find? fun packet => packet.flow == id with
      | none =>
          { reply := .ok .notYet
            path
            credits
            events := watch.say spec.ids.ni .trace s!"tensor {id} has not arrived" }
      | some packet =>
          { reply := .ok (.complete (cycle + 1))
            path := path.accept id packet
            credits
            events := watch.say spec.ids.ni .debug s!"received {packet.text}" }

/-- Execute an instruction on the network interface.  The own credit is brought
up to date first, whatever comes of the instruction. -/
def Datapath.runInterface (watch : Watch) (spec : CoreSpec) (credits : CreditBoard)
    (path : Datapath) (instr : Instruction) (cycle : Cycle) : Execution :=
  match path.refreshCredit spec credits with
  | .error fault => .refused watch spec.ids.ni path credits (.credit fault)
  | .ok credits =>
      if instr.opcode = "send" then path.send watch spec credits instr cycle
      else if instr.opcode = "recv" then path.recv watch spec credits instr cycle
      else .refused watch spec.ids.ni path credits (.unsupported .ni instr)

end CoreArray
