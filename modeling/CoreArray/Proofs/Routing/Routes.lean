import CoreArray.Routing.Load
import CoreArray.Proofs.Datapath.Packets
import CoreArray.Proofs.Results
import CoreArray.Proofs.Routing.Validation
set_option autoImplicit false

/-!
# Routes (SPEC §3, §4.2)

A tree is a route in an array if it names nodes of the array only and leads to each of its
destinations, at least one hop away.  Two checks stand between a text and the trees of a
board: a tree is validated when it enters the board, and when the board is to serve an array
all nodes of its trees are looked at.  A tree that has passed both is a route, and so is the
hop from one node to another.
-/

namespace CoreArray

namespace RoutingTree

/-- Whether a tree is a way through an array of so many nodes: it names no other nodes, and
all its destinations are some hops away. -/
structure IsRoute (numNodes : Nat) (tree : RoutingTree) : Prop where
  inside : ∀ node ∈ tree.nodes, node < numNodes
  reaches : ∀ dest ∈ tree.dests, ∃ hops, tree.hopsTo dest = some hops ∧ 1 ≤ hops

section Trees

variable {tree : RoutingTree} {numNodes : Nat}

theorem mem_segmentList {segment : Segment} :
    segment ∈ tree.segmentList ↔ tree.segments[segment.link]? = some segment.relays := by
  unfold segmentList
  rw [← Std.ExtTreeMap.mem_toList_iff_getElem?_eq_some, List.mem_map]
  constructor
  · rintro ⟨entry, hmem, rfl⟩
    exact hmem
  · intro hmem
    exact ⟨_, hmem, rfl⟩

theorem mem_nodes {node : Node} :
    node ∈ tree.nodes ↔ node = tree.root ∨
      (∃ segment ∈ tree.segmentList, node ∈ segmentNodes segment) ∨ node ∈ tree.dests := by
  unfold nodes
  rw [← Std.ExtTreeSet.mem_toList, NodeSet.mem_ofNodes, List.mem_append, List.mem_cons,
    List.mem_flatMap, Std.ExtTreeSet.mem_toList, or_assoc]

/-- The destinations of a route are nodes of the array. -/
theorem IsRoute.dest_lt (h : tree.IsRoute numNodes) {dest : Node} (hdest : dest ∈ tree.dests) :
    dest < numNodes :=
  h.inside dest (mem_nodes.mpr (.inr (.inr hdest)))

/-- The searches find all destinations of a tree that has been validated, and its root is
none of them. -/
theorem reaches_of_validate (h : tree.validate = .ok ()) {dest : Node}
    (hdest : dest ∈ tree.dests) : dest ≠ tree.root ∧ tree.Reaches dest :=
  ((isConnected_of_validate h).served dest hdest).symm

/-- A tree that leads to its destinations leads there in some hops. -/
theorem exists_hops {dest : Node} (hne : dest ≠ tree.root) (h : tree.Reaches dest) :
    ∃ hops, tree.hopsTo dest = some hops ∧ 1 ≤ hops := by
  obtain ⟨hops, hhops⟩ := Option.isSome_iff_exists.mp (isSome_hopsTo_iff.mpr h)
  exact ⟨hops, hhops, pos_of_hopsTo hne hhops⟩

/-- A validated tree that names nodes of the array only is a route. -/
theorem isRoute_of_validate (hvalid : tree.validate = .ok ())
    (hinside : ∀ node ∈ tree.nodes, node < numNodes) : tree.IsRoute numNodes := by
  refine ⟨hinside, fun dest hdest => ?_⟩
  obtain ⟨hne, hreaches⟩ := reaches_of_validate hvalid hdest
  exact exists_hops hne hreaches

/-! ## One hop -/

theorem mem_segmentList_direct {source dest : Node} {segment : Segment} :
    segment ∈ (direct source dest).segmentList ↔ segment = ⟨⟨source, dest⟩, []⟩ := by
  rw [mem_segmentList]
  unfold direct
  dsimp only
  rw [Std.ExtTreeMap.getElem?_insert]
  split
  · next hsame =>
      have hlink := Std.compare_eq_iff_eq.mp hsame
      rw [hlink, Option.some.injEq]
      obtain ⟨link, relays⟩ := segment
      simp [eq_comm]
  · next hother =>
      constructor
      · intro hnone
        simp at hnone
      · rintro rfl
        exact absurd (Std.compare_eq_iff_eq.mpr rfl) hother

theorem mem_dests_direct {source dest node : Node} :
    node ∈ (direct source dest).dests ↔ node = dest := by
  unfold direct
  dsimp only
  rw [← Std.ExtTreeSet.mem_toList, NodeSet.mem_ofNodes, List.mem_singleton]

theorem reaches_direct {source dest : Node} : (direct source dest).Reaches dest := by
  have hsegment := mem_segmentList_direct.mpr (rfl : (⟨⟨source, dest⟩, []⟩ : Segment) = _)
  exact .segment hsegment (.start List.mem_cons_self)

/-- The hop from a node to another is a route. -/
theorem isRoute_direct {source dest : Node} (hsource : source < numNodes)
    (hdest : dest < numNodes) (hne : dest ≠ source) : (direct source dest).IsRoute numNodes := by
  constructor
  · intro node hmem
    rcases mem_nodes.mp hmem with rfl | ⟨segment, hsegment, hnode⟩ | hmem
    · exact hsource
    · rw [mem_segmentList_direct.mp hsegment] at hnode
      rcases List.mem_cons.mp hnode with rfl | hnode
      · exact hsource
      · rw [List.mem_singleton.mp hnode]
        exact hdest
    · rw [mem_dests_direct.mp hmem]
      exact hdest
  · intro node hmem
    rw [mem_dests_direct.mp hmem]
    exact exists_hops hne reaches_direct

end Trees

end RoutingTree

namespace RoutingBoard

/-- Whether all trees of a board have been validated. -/
def IsValid (board : RoutingBoard) : Prop :=
  ∀ (id : TensorId) (tree : RoutingTree), board.get? id = some tree → tree.validate = .ok ()

/-- Whether all trees of a board are routes in an array of so many nodes. -/
def IsRouted (numNodes : Nat) (board : RoutingBoard) : Prop :=
  ∀ (id : TensorId) (tree : RoutingTree), board.get? id = some tree → tree.IsRoute numNodes

section Boards

variable {board after : RoutingBoard}

theorem isValid_empty : empty.IsValid := by
  intro id tree htree
  simp [empty, get?] at htree

theorem get?_insert (board : RoutingBoard) (id other : TensorId) (tree : RoutingTree) :
    (RoutingBoard.mk (board.trees.insert id tree)).get? other =
      if id = other then some tree else board.get? other := by
  unfold get?
  rw [Std.ExtTreeMap.getElem?_insert]
  simp only [Std.compare_eq_iff_eq]

/-- A tree can be added if it is valid and is the first one for its tensor. -/
theorem enter_eq_ok_iff {id : TensorId} {tree : RoutingTree} :
    board.enter id tree = .ok after ↔
      tree.validate = .ok () ∧ board.get? id = none ∧ after = ⟨board.trees.insert id tree⟩ := by
  have hnew : board.get? id = none ↔ ¬board.trees.contains id = true := by
    unfold get?
    rw [Std.ExtTreeMap.contains_eq_isSome_getElem?, Option.not_isSome_iff_eq_none]
  unfold RoutingBoard.enter insert
  cases hvalid : tree.validate with
  | error fault => simp
  | ok done =>
      rw [hnew]
      by_cases hold : board.trees.contains id = true
      · simp [hold]
      · simp [hold, eq_comm]

/-- A board that takes a tree has validated it. -/
theorem IsValid.enter (h : board.IsValid) {id : TensorId} {tree : RoutingTree}
    (hok : board.enter id tree = .ok after) : after.IsValid := by
  obtain ⟨hvalid, -, rfl⟩ := enter_eq_ok_iff.mp hok
  intro other found hget
  rw [get?_insert] at hget
  split at hget
  · rw [Option.some.injEq] at hget
    rw [← hget]
    exact hvalid
  · exact h other found hget

theorem IsValid.readLine (h : board.IsValid) {place next : Place} {line : Nat}
    {words : List String} (hok : board.readLine place line words = .ok (after, next)) :
    after.IsValid := by
  unfold RoutingBoard.readLine at hok
  split at hok
  · cases place with
    | segments id tree =>
        obtain ⟨entered, hentered, heq⟩ := ok_of_map hok
        rw [Prod.mk.injEq] at heq
        rw [← heq.1]
        exact h.enter hentered
    | between =>
        rw [Except.ok.injEq, Prod.mk.injEq] at hok
        rw [← hok.1]
        exact h
    | «attribute» id tree =>
        rw [Except.ok.injEq, Prod.mk.injEq] at hok
        rw [← hok.1]
        exact h
  · -- A line that ends no block leaves the board as it is.
    have hsame : after = board := by
      cases place with
      | between =>
          obtain ⟨opened, -, heq⟩ := ok_of_map hok
          exact (Prod.mk.inj heq).1.symm
      | «attribute» id tree =>
          obtain ⟨grown, -, heq⟩ := ok_of_map hok
          exact (Prod.mk.inj heq).1.symm
      | segments id tree =>
          obtain ⟨grown, -, heq⟩ := ok_of_map hok
          exact (Prod.mk.inj heq).1.symm
    rw [hsame]
    exact h

theorem IsValid.readLines (h : board.IsValid) {place : Place} {lines : List (Nat × String)}
    (hok : board.readLines place lines = .ok after) : after.IsValid := by
  induction lines generalizing board place with
  | nil =>
      unfold RoutingBoard.readLines at hok
      cases place with
      | between =>
          rw [Except.ok.injEq] at hok
          rw [← hok]
          exact h
      | «attribute» id tree => exact h.enter hok
      | segments id tree => exact h.enter hok
  | cons entry lines ih =>
      obtain ⟨number, line⟩ := entry
      unfold RoutingBoard.readLines at hok
      cases hline : board.readLine place number (Text.wordsOf line) with
      | error fault => rw [hline] at hok; simp at hok
      | ok read =>
          obtain ⟨read, next⟩ := read
          rw [hline] at hok
          exact ih (h.readLine hline) hok

/-- All trees of a board that is read have been validated. -/
theorem isValid_of_read {text : String} (h : read text = .ok board) : board.IsValid :=
  isValid_empty.readLines h

theorem isValid_of_load {read : TextReader} {path : String} {loaded : Loaded}
    (h : load read path = .ok loaded) : loaded.board.IsValid := by
  unfold load at h
  split at h
  · rw [Except.ok.injEq] at h
    rw [← h]
    exact isValid_empty
  · simp at h
  · next text _ =>
      cases hboard : RoutingBoard.read text with
      | error fault => rw [hboard] at h; simp at h
      | ok board =>
          rw [hboard] at h
          dsimp only at h
          rw [Except.ok.injEq] at h
          rw [← h]
          exact isValid_of_read hboard

/-- A board whose nodes have been checked names nodes of the array only. -/
theorem inside_of_checkNodes {numNodes : Nat} (h : board.checkNodes numNodes = .ok ())
    {id : TensorId} {tree : RoutingTree} (htree : board.get? id = some tree) :
    ∀ node ∈ tree.nodes, node < numNodes := by
  intro node hnode
  unfold checkNodes at h
  split at h
  · simp at h
  · next hnone =>
      have hmem : (id, tree) ∈ board.trees.toList :=
        Std.ExtTreeMap.mem_toList_iff_getElem?_eq_some.mpr htree
      have hinside := List.findSome?_eq_none_iff.mp hnone (id, tree) hmem
      unfold nodeOutside? at hinside
      rw [Option.map_eq_none_iff] at hinside
      have hlt := List.find?_eq_none.mp hinside node (Std.ExtTreeSet.mem_toList.mpr hnode)
      simpa using hlt

/-- A board that has passed both checks has routes only. -/
theorem IsValid.isRouted (h : board.IsValid) {numNodes : Nat}
    (hnodes : board.checkNodes numNodes = .ok ()) : board.IsRouted numNodes := by
  intro id tree htree
  exact RoutingTree.isRoute_of_validate (h id tree htree) (inside_of_checkNodes hnodes htree)

end Boards

end RoutingBoard

end CoreArray
