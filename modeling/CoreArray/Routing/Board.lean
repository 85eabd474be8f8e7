import CoreArray.Routing.Tree
import CoreArray.Tensor
set_option autoImplicit false

/-!
# Routing boards (SPEC §4.2)

A routing board has a multicast tree for some of the tensors.  Its text consists
of blocks ended by blank lines.  The first line of a block, the attribute line,
names the tensor, the root and the destinations; each further line is a segment
with its two ends and its relays.  A blank line straight after an attribute line
does not end the block.
-/

namespace CoreArray

/-- A routing tree per tensor. -/
structure RoutingBoard where
  trees : Std.ExtTreeMap TensorId RoutingTree
  deriving DecidableEq, Inhabited

namespace RoutingBoard

/-- What is wrong with a board or its text. -/
inductive Fault where
  | attributeForm (line : Nat)
  | segmentForm (line : Nat)
  | badNumber (line : Nat) (word : String)
  | badNode (line : Nat) (value : Int)
  | badTree (id : TensorId) (fault : RoutingTree.Fault)
  | duplicate (id : TensorId)
  | outside (id : TensorId) (node : Node) (numNodes : Nat)
  deriving DecidableEq, Repr, Inhabited

/-- The report of a fault. -/
def Fault.message : Fault → String
  | attributeForm line => s!"routing line {line}: expected `<tensor> <source> <dest>...`"
  | segmentForm line => s!"routing line {line}: expected `<start> <end> <relay>...`"
  | badNumber line word => s!"routing line {line}: invalid number `{word}`"
  | badNode line value => s!"routing line {line}: invalid node {value}"
  | badTree id fault => s!"routing tree for tensor {id}: {fault.message}"
  | duplicate id => s!"routing tree for tensor {id} declared twice"
  | outside id node numNodes =>
      s!"routing tree for tensor {id} names node {node} outside an array of {numNodes}"

/-- The board without trees. -/
def empty : RoutingBoard := ⟨∅⟩

/-- The tree of a tensor, if it has one. -/
def get? (board : RoutingBoard) (id : TensorId) : Option RoutingTree := board.trees[id]?

/-- Number of trees. -/
def size (board : RoutingBoard) : Nat := board.trees.size

/-- Add a tree.  A tree that is not valid is refused and changes nothing; a
second tree for one tensor is reported, but takes the place of the first. -/
def insert (board : RoutingBoard) (id : TensorId) (tree : RoutingTree) :
    Except Fault Unit × RoutingBoard :=
  match tree.validate with
  | .error fault => (.error (.badTree id fault), board)
  | .ok () =>
      let result := if board.trees.contains id then .error (.duplicate id) else .ok ()
      (result, ⟨board.trees.insert id tree⟩)

/-- The first node of a tree outside an array of a size. -/
def nodeOutside? (tree : RoutingTree) (numNodes : Nat) : Option Node :=
  tree.nodes.toList.find? fun node => numNodes ≤ node

/-- Check that every tree names nodes of an array of a size only. -/
def checkNodes (board : RoutingBoard) (numNodes : Nat) : Except Fault Unit :=
  match board.trees.toList.findSome? fun (id, tree) =>
      (nodeOutside? tree numNodes).map fun node => Fault.outside id node numNodes with
  | some fault => .error fault
  | none => .ok ()

/-! ## Reading -/

/-- How far a reader has come in its block. -/
inductive Place where
  /-- Between two blocks. -/
  | between
  /-- After the attribute line of a block. -/
  | attribute (id : TensorId) (tree : RoutingTree)
  /-- After a segment line of a block. -/
  | segments (id : TensorId) (tree : RoutingTree)
  deriving DecidableEq, Inhabited

/-- The numbers of a line. -/
def readNumbers (line : Nat) : List String → Except Fault (List Int)
  | [] => .ok []
  | word :: words =>
      match Text.signed? word with
      | none => .error (.badNumber line word)
      | some value => (readNumbers line words).map (value :: ·)

/-- A number as a node. -/
def readNode (line : Nat) (value : Int) : Except Fault Node :=
  if value < 0 then .error (.badNode line value) else .ok value.toNat

/-- Numbers as nodes. -/
def readNodes (line : Nat) : List Int → Except Fault (List Node)
  | [] => .ok []
  | value :: values => do
      let node ← readNode line value
      let nodes ← readNodes line values
      return node :: nodes

/-- Read an attribute line. -/
def readAttribute (line : Nat) (words : List String) : Except Fault (TensorId × RoutingTree) := do
  match ← readNumbers line words with
  | id :: source :: dests =>
      let root ← readNode line source
      let dests ← readNodes line dests
      return (id, { RoutingTree.ofRoot root with dests := NodeSet.ofNodes dests })
  | _ => .error (.attributeForm line)

/-- Read a segment line and add the segment to a tree. -/
def readSegment (line : Nat) (words : List String) (id : TensorId) (tree : RoutingTree) :
    Except Fault RoutingTree := do
  match ← readNumbers line words with
  | start :: stop :: relays =>
      let relays ← readNodes line relays
      let start ← readNode line start
      let stop ← readNode line stop
      match tree.addSegment ⟨start, stop⟩ relays with
      | (.error fault, _) => .error (.badTree id fault)
      | (.ok (), tree) => return tree
  | _ => .error (.segmentForm line)

/-- Add a tree or fail. -/
def enter (board : RoutingBoard) (id : TensorId) (tree : RoutingTree) :
    Except Fault RoutingBoard :=
  match board.insert id tree with
  | (.error fault, _) => .error fault
  | (.ok (), board) => .ok board

/-- Read one line, given by its words. -/
def readLine (board : RoutingBoard) (place : Place) (line : Nat) (words : List String) :
    Except Fault (RoutingBoard × Place) :=
  if words.isEmpty then
    match place with
    | .segments id tree => (board.enter id tree).map fun board => (board, .between)
    | place => .ok (board, place)
  else
    match place with
    | .between => (readAttribute line words).map fun (id, tree) => (board, .attribute id tree)
    | .attribute id tree | .segments id tree =>
        (readSegment line words id tree).map fun tree => (board, .segments id tree)

/-- Read numbered lines and the end of the text, which ends an open block. -/
def readLines (board : RoutingBoard) (place : Place) :
    List (Nat × String) → Except Fault RoutingBoard
  | [] =>
      match place with
      | .between => .ok board
      | .attribute id tree | .segments id tree => board.enter id tree
  | (number, line) :: lines =>
      match board.readLine place number (Text.wordsOf line) with
      | .error fault => .error fault
      | .ok (board, place) => board.readLines place lines

/-- Read a routing board. -/
def read (text : String) : Except Fault RoutingBoard :=
  empty.readLines .between (Text.numberFrom 1 (Text.linesOf text))

end RoutingBoard

end CoreArray
