import CoreArray.Proofs.Routing.Reach
set_option autoImplicit false

/-!
# What validation checks (SPEC §3, §4.2)

A tree is connected if every segment starts at a node that the tree reaches, every segment
leads on or ends at a destination, and every destination is reached and is not the root.
Validation decides this of any segments, also of segments that lead round in circles:
`validate_eq_ok_iff`.

The two checks look at one segment and at one destination (`linkFault?_eq_none_iff`,
`destFault?_eq_none_iff`); a tree without a fault passes the first for all its segments and
the second for all its destinations (`fault?_eq_none_iff`).  Both ask the set of reached
nodes, which is complete by `mem_reached_iff` and found in few turns of a search by
`exists_endsAfter_reached`.
-/

namespace CoreArray

namespace RoutingTree

/-- Whether the segments of a tree hang together from its root to its destinations. -/
structure IsConnected (tree : RoutingTree) : Prop where
  /-- Every segment starts at a node that the tree reaches. -/
  ancestor : ∀ segment ∈ tree.segmentList, tree.Reaches segment.link.start
  /-- Every segment ends where another starts, or at a destination. -/
  successor : ∀ segment ∈ tree.segmentList,
    (∃ next ∈ tree.segmentList, next.link.start = segment.link.stop) ∨
      segment.link.stop ∈ tree.dests
  /-- Every destination is reached, and the root is none. -/
  served : ∀ dest ∈ tree.dests, tree.Reaches dest ∧ dest ≠ tree.root

/-- Whether a search for all nodes ends after so many turns, each of which takes the next node
from the stack. -/
inductive EndsAfter (tree : RoutingTree) : NodeSet → List Node → Nat → NodeSet → Prop
  | done (reached : NodeSet) : EndsAfter tree reached [] 0 reached
  | turn {reached final : NodeSet} {first : Node} {pending : List Node} {turns : Nat}
      (h : EndsAfter tree (tree.afterTurn reached first pending).reached
        (tree.afterTurn reached first pending).pending turns final) :
      EndsAfter tree reached (first :: pending) (turns + 1) final

/-- The search takes a turn for each node that is pending at first and at most one for each end
of a segment that has not been reached. -/
theorem exists_endsAfter_reachFrom (tree : RoutingTree) (reached : NodeSet)
    (pending : List Node) :
    ∃ turns, tree.EndsAfter reached pending turns (tree.reachFrom reached pending) ∧
      turns ≤ tree.ahead ⟨reached, pending⟩ := by
  induction reached, pending using reachFrom.induct tree with
  | case1 reached =>
      unfold reachFrom
      exact ⟨0, .done reached, Nat.zero_le _⟩
  | case2 reached first pending frontier ih =>
      obtain ⟨turns, hends, hturns⟩ := ih
      unfold reachFrom
      refine ⟨turns + 1, .turn hends, ?_⟩
      have hmeet : tree.ahead frontier ≤ tree.ahead ⟨reached, pending⟩ :=
        ahead_foldl_meet _ fun _ => mem_stops_of_mem_endsFrom
      simp only [ahead, List.length_cons] at hmeet hturns ⊢
      omega

section Trees

variable {tree : RoutingTree}

theorem exists_endsAfter_reached (tree : RoutingTree) :
    ∃ turns, tree.EndsAfter (NodeSet.ofNodes [tree.root]) [tree.root] turns tree.reached ∧
      turns ≤ tree.segmentList.length + 1 := by
  obtain ⟨turns, hends, hturns⟩ :=
    exists_endsAfter_reachFrom tree (NodeSet.ofNodes [tree.root]) [tree.root]
  refine ⟨turns, hends, Nat.le_trans hturns ?_⟩
  have hunreached := List.length_filter_le
    (fun node => !(NodeSet.ofNodes [tree.root]).contains node) (tree.links.map Link.stop)
  unfold links at hunreached
  rw [List.length_map, List.length_map] at hunreached
  unfold ahead unreached links
  dsimp only
  rw [List.length_singleton]
  omega

theorem endsFrom_eq_nil_iff {node : Node} :
    tree.endsFrom node = [] ↔ ¬∃ segment ∈ tree.segmentList, segment.link.start = node := by
  unfold endsFrom links
  rw [List.map_eq_nil_iff, List.filter_eq_nil_iff]
  simp only [List.forall_mem_map, beq_iff_eq, not_exists, not_and]

/-- A segment is in order if its start is reached, and its end leads on or is a
destination. -/
theorem linkFault?_eq_none_iff {link : Link} :
    tree.linkFault? tree.reached link = none ↔
      tree.Reaches link.start ∧
        ((∃ next ∈ tree.segmentList, next.link.start = link.stop) ∨ link.stop ∈ tree.dests) := by
  unfold linkFault?
  by_cases hstart : tree.Reaches link.start
  · have hfound : tree.reached.contains link.start = true :=
      Std.ExtTreeSet.contains_iff_mem.mpr (mem_reached_iff.mpr hstart)
    by_cases hnext : ∃ next ∈ tree.segmentList, next.link.start = link.stop
    · have hends : tree.endsFrom link.stop ≠ [] := fun hnil =>
        endsFrom_eq_nil_iff.mp hnil hnext
      simp [hstart, hfound, hends, hnext]
    · have hends : tree.endsFrom link.stop = [] := endsFrom_eq_nil_iff.mpr hnext
      simp [hstart, hfound, hends, hnext, isDest]
  · have hlost : tree.reached.contains link.start = false := by
      rw [Bool.eq_false_iff, ne_eq, Std.ExtTreeSet.contains_iff_mem, mem_reached_iff]
      exact hstart
    simp [hstart, hlost]

/-- A destination is in order if it is reached and is not the root. -/
theorem destFault?_eq_none_iff {dest : Node} :
    tree.destFault? tree.reached dest = none ↔ tree.Reaches dest ∧ dest ≠ tree.root := by
  unfold destFault?
  rw [ite_eq_right_iff]
  simp only [reduceCtorEq, imp_false, Bool.or_eq_true, decide_eq_true_eq, Bool.not_eq_true',
    not_or, Bool.not_eq_false, Std.ExtTreeSet.contains_iff_mem, mem_reached_iff]
  exact and_comm

theorem fault?_eq_none_iff : tree.fault? = none ↔ tree.IsConnected := by
  have hlinks : tree.links.findSome? (tree.linkFault? tree.reached) = none ↔
      ∀ segment ∈ tree.segmentList, tree.Reaches segment.link.start ∧
        ((∃ next ∈ tree.segmentList, next.link.start = segment.link.stop) ∨
          segment.link.stop ∈ tree.dests) := by
    unfold links
    simp only [List.findSome?_eq_none_iff, List.forall_mem_map, linkFault?_eq_none_iff]
  have hdests : tree.dests.toList.findSome? (tree.destFault? tree.reached) = none ↔
      ∀ dest ∈ tree.dests, tree.Reaches dest ∧ dest ≠ tree.root := by
    simp only [List.findSome?_eq_none_iff, Std.ExtTreeSet.mem_toList, destFault?_eq_none_iff]
  unfold fault?
  rw [Option.or_eq_none_iff, hlinks, hdests]
  constructor
  · rintro ⟨hsegments, hserved⟩
    exact ⟨fun segment hmem => (hsegments segment hmem).1,
      fun segment hmem => (hsegments segment hmem).2, hserved⟩
  · intro h
    exact ⟨fun segment hmem => ⟨h.ancestor segment hmem, h.successor segment hmem⟩, h.served⟩

theorem isConnected_of_validate (h : tree.validate = .ok ()) : tree.IsConnected := by
  unfold validate at h
  split at h
  · simp at h
  · next hnone => exact fault?_eq_none_iff.mp hnone

/-- Whatever the segments of a tree are, the search of validation ends, after at most one
turn more than there are segments, with the nodes that the tree reaches, and validation
succeeds exactly if the tree is connected. -/
theorem validate_eq_ok_iff (tree : RoutingTree) :
    (∃ turns, tree.EndsAfter (NodeSet.ofNodes [tree.root]) [tree.root] turns tree.reached ∧
        turns ≤ tree.segmentList.length + 1) ∧
      (∀ node, node ∈ tree.reached ↔ tree.Reaches node) ∧
      (tree.validate = .ok () ↔ tree.IsConnected) := by
  refine ⟨tree.exists_endsAfter_reached, fun node => mem_reached_iff, isConnected_of_validate, ?_⟩
  intro h
  unfold validate
  rw [fault?_eq_none_iff.mpr h]

end Trees

end RoutingTree

end CoreArray
