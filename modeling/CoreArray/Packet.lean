import CoreArray.Routing.Board
set_option autoImplicit false

/-!
# Packets, ports and credit (SPEC §3, §10.6)

A packet carries a tensor along a routing tree.  Every core has a port, a pair
of queues that joins it to the network, and every node has a credit flag by
which it tells senders whether it takes more packets.
-/

namespace CoreArray

/-- A packet. -/
structure Packet where
  /-- The name of the tensor that is carried. -/
  flow : TensorId
  source : Node
  /-- Number of transfer units (flits). -/
  size : Nat
  path : RoutingTree
  payload : Tensor
  deriving DecidableEq, Inhabited

namespace Packet

/-- The destinations of a packet. -/
def dests (p : Packet) : NodeSet := p.path.dests

/-- A packet in a text. -/
def text (p : Packet) : String :=
  s!"packet t{p.flow} {p.source}->" ++ NodeSet.text p.dests ++ s!" ({p.size} flits)"

end Packet

/-- The queues between a core and the network, front first. -/
structure Port where
  /-- Packets that wait to be sent. -/
  outbound : List Packet
  /-- Packets that have arrived. -/
  inbound : List Packet
  deriving DecidableEq, Inhabited

/-- The port without packets. -/
def Port.empty : Port := ⟨[], []⟩

/-- A credit flag per node; an open flag invites packets. -/
structure CreditBoard where
  flags : List Bool
  deriving DecidableEq, Repr, Inhabited

namespace CreditBoard

/-- A node that a credit board does not have. -/
structure Fault where
  node : Node
  deriving DecidableEq, Repr, Inhabited

/-- The report of a missing node. -/
def Fault.message (fault : Fault) : String := s!"credit board has no node {fault.node}"

/-- The board of a number of nodes, all open. -/
def allOpened (numNodes : Nat) : CreditBoard := ⟨List.replicate numNodes true⟩

/-- Number of nodes. -/
def size (board : CreditBoard) : Nat := board.flags.length

/-- Set the flag of a node. -/
def set (board : CreditBoard) (node : Node) (isOpen : Bool) : Except Fault CreditBoard :=
  if node < board.size then .ok ⟨board.flags.set node isOpen⟩ else .error ⟨node⟩

/-- The flag of a node. -/
def isOpen (board : CreditBoard) (node : Node) : Except Fault Bool :=
  match board.flags[node]? with
  | some flag => .ok flag
  | none => .error ⟨node⟩

/-- Whether all nodes of a list are open.  Every node is looked up, so that a
node that the board does not have is found behind a closed one. -/
def allOpen (board : CreditBoard) : List Node → Except Fault Bool
  | [] => .ok true
  | node :: nodes =>
      match board.isOpen node with
      | .error fault => .error fault
      | .ok flag => (board.allOpen nodes).map (flag && ·)

end CreditBoard

end CoreArray
