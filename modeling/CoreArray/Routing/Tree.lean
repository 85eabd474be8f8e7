import CoreArray.Routing.Node
set_option autoImplicit false

/-!
# Routing trees (SPEC §3, §4.2)

A routing tree has a root, segments and destinations.  A segment leads from its
start to its end through relays, which are passed but belong to the way only.
Nothing in the type forces the segments to form a tree: `validate` checks that
every segment can be reached from the root, that every segment leads on or ends
at a destination, and that every destination is reached.

Two searches start at the root.  Validation takes nodes from a stack, and puts the ends
of their segments on it that have not been reached before (`reachFrom`).  The count of
hops takes nodes from a queue: a node is expanded by taking all segments that start at it
out of the list of unused segments, so that a node met again finds nothing left to expand
(`hopsFrom`).
-/

namespace CoreArray

/-- A segment of a routing tree: its two ends and the relays between them. -/
structure Segment where
  link : Link
  relays : List Node
  deriving DecidableEq, Repr, Inhabited

/-- A multicast tree. -/
structure RoutingTree where
  root : Node
  segments : Std.ExtTreeMap Link (List Node)
  dests : NodeSet
  deriving DecidableEq, Inhabited

namespace RoutingTree

/-- What is wrong with a tree or with a segment to be added. -/
inductive Fault where
  | loop (link : Link)
  | duplicate (link : Link)
  | noAncestor (link : Link)
  | deadEnd (link : Link)
  | unreached (dest root : Node)
  deriving DecidableEq, Repr, Inhabited

/-- The report of a fault. -/
def Fault.message : Fault → String
  | loop link => s!"segment {link} loops back on itself"
  | duplicate link => s!"segment {link} declared twice"
  | noAncestor link => s!"segment {link} has no ancestor"
  | deadEnd link => s!"segment {link} has no successor and does not reach a destination"
  | unreached dest root => s!"destination {dest} is not reached from root {root}"

/-- The tree of a root alone. -/
def ofRoot (root : Node) : RoutingTree := ⟨root, ∅, ∅⟩

/-- The tree of one segment without relays. -/
def direct (source dest : Node) : RoutingTree :=
  { root := source
    segments := (∅ : Std.ExtTreeMap Link (List Node)).insert ⟨source, dest⟩ []
    dests := NodeSet.ofNodes [dest] }

/-- Add a segment.  A segment from a node to itself is refused and changes
nothing; a second segment between the same nodes is reported, but its relays
take the place of those of the first. -/
def addSegment (tree : RoutingTree) (link : Link) (relays : List Node) :
    Except Fault Unit × RoutingTree :=
  if link.start = link.stop then (.error (.loop link), tree)
  else
    let result := if tree.segments.contains link then .error (.duplicate link) else .ok ()
    (result, { tree with segments := tree.segments.insert link relays })

/-- Whether a node is a destination. -/
def isDest (tree : RoutingTree) (node : Node) : Bool := tree.dests.contains node

/-- The relays of the segment between two nodes, if there is one. -/
def relays? (tree : RoutingTree) (link : Link) : Option (List Node) := tree.segments[link]?

/-- The segments, by start and end. -/
def segmentList (tree : RoutingTree) : List Segment :=
  tree.segments.toList.map fun (link, relays) => ⟨link, relays⟩

/-- The links of the segments, by start and end. -/
def links (tree : RoutingTree) : List Link := tree.segmentList.map Segment.link

/-- The ends of the segments that start at a node, in ascending order. -/
def endsFrom (tree : RoutingTree) (node : Node) : List Node :=
  (tree.links.filter fun link => link.start == node).map Link.stop

/-- All nodes that a segment names. -/
def segmentNodes (segment : Segment) : List Node :=
  segment.link.start :: segment.link.stop :: segment.relays

/-- All nodes that the tree names: root, ends of segments, relays and
destinations. -/
def nodes (tree : RoutingTree) : NodeSet :=
  NodeSet.ofNodes (tree.root :: tree.segmentList.flatMap segmentNodes ++ tree.dests.toList)

/-- A tree in a text, as `root 0 -> {2, 3}`. -/
def text (tree : RoutingTree) : String := s!"root {tree.root} -> " ++ NodeSet.text tree.dests

/-! ## Searches -/

/-- The segments of a list that start at a node. -/
def startingAt (node : Node) (segments : List Segment) : List Segment :=
  segments.filter fun segment => segment.link.start == node

/-- The segments of a list that start elsewhere. -/
def startingElsewhere (node : Node) (segments : List Segment) : List Segment :=
  segments.filter fun segment => !(segment.link.start == node)

/-- A list of segments is split by where they start. -/
theorem length_startingAt_add (node : Node) (segments : List Segment) :
    (startingAt node segments).length + (startingElsewhere node segments).length =
      segments.length := by
  induction segments with
  | nil => rfl
  | cons segment rest ih =>
      simp only [startingAt, startingElsewhere, List.filter_cons, List.length_cons] at ih ⊢
      by_cases h : (segment.link.start == node) = true <;> simp [h] <;> omega

/-- The state of the search for all nodes: the nodes reached so far, and those of them
whose segments are still to be followed, the next one first. -/
structure Frontier where
  reached : NodeSet
  pending : List Node

/-- Meet a node, which is pending if it has not been reached before. -/
def Frontier.meet (frontier : Frontier) (node : Node) : Frontier :=
  if frontier.reached.contains node then frontier
  else ⟨frontier.reached.insert node, node :: frontier.pending⟩

/-- The ends of segments that have not been reached. -/
def unreached (tree : RoutingTree) (reached : NodeSet) : List Node :=
  (tree.links.map Link.stop).filter fun node => !reached.contains node

/-- What a search has before it: the nodes pending and the ends not reached. -/
def ahead (tree : RoutingTree) (frontier : Frontier) : Nat :=
  frontier.pending.length + (tree.unreached frontier.reached).length

theorem length_unreached_insert {tree : RoutingTree} {reached : NodeSet} {node : Node}
    (hend : node ∈ tree.links.map Link.stop) (hnew : reached.contains node = false) :
    (tree.unreached (reached.insert node)).length < (tree.unreached reached).length := by
  have hmem : node ∈ tree.unreached reached := List.mem_filter.mpr ⟨hend, by rw [hnew]; rfl⟩
  have hrest : tree.unreached (reached.insert node) =
      (tree.unreached reached).filter fun other => !(node == other) := by
    unfold unreached
    rw [List.filter_filter]
    refine List.filter_congr fun other _ => ?_
    rw [Std.ExtTreeSet.contains_insert, Bool.not_or, Bool.eq_iff_iff]
    simp
  rw [hrest]
  exact List.length_filter_lt_length_iff_exists.mpr ⟨node, hmem, by simp⟩

/-- A node that is met and becomes pending is no longer unreached. -/
theorem ahead_meet {tree : RoutingTree} {node : Node} (frontier : Frontier)
    (hend : node ∈ tree.links.map Link.stop) :
    tree.ahead (frontier.meet node) ≤ tree.ahead frontier := by
  unfold Frontier.meet
  split
  · exact Nat.le_refl _
  · next hnew =>
      have hless := length_unreached_insert hend (Bool.eq_false_iff.mpr hnew)
      simp only [ahead, List.length_cons]
      omega

theorem ahead_foldl_meet {tree : RoutingTree} {nodes : List Node} (frontier : Frontier)
    (hends : ∀ node ∈ nodes, node ∈ tree.links.map Link.stop) :
    tree.ahead (nodes.foldl Frontier.meet frontier) ≤ tree.ahead frontier := by
  induction nodes generalizing frontier with
  | nil => exact Nat.le_refl _
  | cons node nodes ih =>
      exact Nat.le_trans (ih _ fun other hmem => hends other (List.mem_cons_of_mem node hmem))
        (ahead_meet frontier (hends node List.mem_cons_self))

theorem mem_stops_of_mem_endsFrom {tree : RoutingTree} {node other : Node}
    (h : other ∈ tree.endsFrom node) : other ∈ tree.links.map Link.stop := by
  unfold endsFrom at h
  obtain ⟨link, hlink, rfl⟩ := List.mem_map.mp h
  exact List.mem_map_of_mem (List.mem_filter.mp hlink).1

/-- The nodes reached when the pending nodes have been followed. -/
def reachFrom (tree : RoutingTree) (reached : NodeSet) (pending : List Node) : NodeSet :=
  match pending with
  | [] => reached
  | node :: pending =>
      let frontier := (tree.endsFrom node).foldl Frontier.meet ⟨reached, pending⟩
      tree.reachFrom frontier.reached frontier.pending
termination_by tree.ahead ⟨reached, pending⟩
decreasing_by
  have hends : ∀ stop ∈ tree.endsFrom node, stop ∈ tree.links.map Link.stop :=
    fun _ => mem_stops_of_mem_endsFrom
  have hmeet := ahead_foldl_meet ⟨reached, pending⟩ hends
  simp only [ahead, List.length_cons] at hmeet ⊢
  omega

/-- The nodes that the segments reach from the root, the root included. -/
def reached (tree : RoutingTree) : NodeSet :=
  tree.reachFrom (NodeSet.ofNodes [tree.root]) [tree.root]

/-- Hops along a segment: its relays and its end. -/
def segmentHops (segment : Segment) : Nat := segment.relays.length + 1

/-- The hops to a node at its first turn in a queue of nodes with their hops,
each expanded in turn with the unused segments. -/
def hopsFrom (target : Node) (queue : List (Node × Nat)) (unused : List Segment) : Option Nat :=
  match queue with
  | [] => none
  | (node, hops) :: queue =>
      if node = target then some hops
      else
        hopsFrom target
          (queue ++ (startingAt node unused).map fun segment =>
            (segment.link.stop, hops + segmentHops segment))
          (startingElsewhere node unused)
termination_by queue.length + unused.length
decreasing_by
  have := length_startingAt_add node unused
  simp only [List.length_append, List.length_map, List.length_cons]
  omega

/-- The hops from the root to a node along fewest segments, relays counted;
none if the node is not reached. -/
def hopsTo (tree : RoutingTree) (node : Node) : Option Nat :=
  hopsFrom node [(tree.root, 0)] tree.segmentList

/-! ## Validation -/

/-- What is wrong with a segment, given the nodes reached from the root. -/
def linkFault? (tree : RoutingTree) (reached : NodeSet) (link : Link) : Option Fault :=
  if !reached.contains link.start then some (.noAncestor link)
  else if (tree.endsFrom link.stop).isEmpty && !tree.isDest link.stop then some (.deadEnd link)
  else none

/-- What is wrong with a destination, given the nodes reached from the root. -/
def destFault? (tree : RoutingTree) (reached : NodeSet) (dest : Node) : Option Fault :=
  if dest = tree.root || !reached.contains dest then some (.unreached dest tree.root) else none

/-- The first fault of a tree: of the segments in order, then of the
destinations in order. -/
def fault? (tree : RoutingTree) : Option Fault :=
  let reached := tree.reached
  (tree.links.findSome? (tree.linkFault? reached)).or
    (tree.dests.toList.findSome? (tree.destFault? reached))

/-- Check that the segments lead from the root to every destination. -/
def validate (tree : RoutingTree) : Except Fault Unit :=
  match tree.fault? with
  | some fault => .error fault
  | none => .ok ()

end RoutingTree

end CoreArray
