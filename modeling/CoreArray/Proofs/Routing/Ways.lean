import Mathlib.Data.List.Nodup
import CoreArray.Proofs.Routing.Reach
import CoreArray.Proofs.Routing.Routes
set_option autoImplicit false

/-!
# Ways through a routing tree (SPEC §3)

A way is a list of segments that join up.  Validation makes sure that there is a way from the
root to the start of every segment and to every destination, but not that there is only one:
it passes segments that meet, lead round in circles, or lead back to the root.

`isTree_iff_of_validate` says when a validated tree is a tree.  It is enough that the root
and the ends of the segments are all different.  Then the last segment of a way from the root
is given by the node to which the way leads, so that no node has two ways (`IsWay.unique`),
and a circle would give a node of it a second one.
-/

namespace CoreArray

namespace RoutingTree

/-- Whether segments, of which the last one comes first, are a way from a node to another. -/
def IsWay (tree : RoutingTree) (start : Node) : List Segment → Node → Prop
  | [], node => node = start
  | segment :: before, node =>
      segment ∈ tree.segmentList ∧ segment.link.stop = node ∧
        tree.IsWay start before segment.link.start

/-- Whether the root and the ends of the segments are all different. -/
def EndsDiffer (tree : RoutingTree) : Prop := (tree.root :: tree.links.map Link.stop).Nodup

instance (tree : RoutingTree) : Decidable tree.EndsDiffer :=
  inferInstanceAs (Decidable (List.Nodup _))

/-- Whether the segments form a tree. -/
structure IsTree (tree : RoutingTree) : Prop where
  rooted : ∀ segment ∈ tree.segmentList, segment.link.stop ≠ tree.root
  /-- A node at which a segment ends is the end of no other. -/
  parent : ∀ first ∈ tree.segmentList, ∀ second ∈ tree.segmentList,
    first.link.stop = second.link.stop → first = second
  acyclic : ∀ (node : Node) (way : List Segment), tree.IsWay node way node → way = []
  unique : ∀ dest ∈ tree.dests, ∃! way, tree.IsWay tree.root way dest

section Ways

variable {tree : RoutingTree} {start middle node : Node} {way other : List Segment}

/-- A way may be continued by another. -/
theorem IsWay.append (h : tree.IsWay start way middle) (hother : tree.IsWay middle other node) :
    tree.IsWay start (other ++ way) node := by
  induction other generalizing node with
  | nil => exact hother ▸ h
  | cons segment before ih =>
      obtain ⟨hmem, hstop, hbefore⟩ := hother
      exact ⟨hmem, hstop, ih hbefore⟩

/-- The nodes that a tree reaches are those with a way from the root. -/
theorem reaches_iff_exists_way : tree.Reaches node ↔ ∃ way, tree.IsWay tree.root way node := by
  constructor
  · intro h
    unfold Reaches at h
    induction h with
    | start hmem => exact ⟨[], List.mem_singleton.mp hmem⟩
    | @segment segment hmem _ ih =>
        obtain ⟨way, hway⟩ := ih
        exact ⟨segment :: way, hmem, rfl, hway⟩
  · rintro ⟨way, hway⟩
    induction way generalizing node with
    | nil => exact .start (List.mem_singleton.mpr hway)
    | cons segment before ih =>
        obtain ⟨hmem, hstop, hbefore⟩ := hway
        exact hstop ▸ .segment hmem (ih hbefore)

/-- Where segments end at different nodes and none at the start, no node has two ways. -/
theorem IsWay.unique (hrooted : ∀ segment ∈ tree.segmentList, segment.link.stop ≠ start)
    (hparent : ∀ first ∈ tree.segmentList, ∀ second ∈ tree.segmentList,
      first.link.stop = second.link.stop → first = second)
    (h : tree.IsWay start way node) (hother : tree.IsWay start other node) : way = other := by
  induction way generalizing node other with
  | nil =>
      cases other with
      | nil => rfl
      | cons last before =>
          obtain ⟨hmem, hstop, -⟩ := hother
          exact absurd (hstop.trans h) (hrooted last hmem)
  | cons segment way ih =>
      obtain ⟨hmem, hstop, hway⟩ := h
      cases other with
      | nil => exact absurd (hstop.trans hother) (hrooted segment hmem)
      | cons last before =>
          obtain ⟨hlast, hend, hbefore⟩ := hother
          -- The last segments end at the same node.
          have hsame : segment = last := hparent segment hmem last hlast (hstop.trans hend.symm)
          subst hsame
          rw [ih hway hbefore]

end Ways

section Trees

variable {tree : RoutingTree}

theorem nodup_links (tree : RoutingTree) : tree.links.Nodup := by
  have hkeys : tree.links = tree.segments.keys := by
    unfold links segmentList
    rw [List.map_map]
    exact Std.ExtTreeMap.map_fst_toList_eq_keys
  rw [hkeys]
  exact Std.ExtTreeMap.nodup_keys

theorem nodup_segmentList (tree : RoutingTree) : tree.segmentList.Nodup :=
  tree.nodup_links.of_map Segment.link

theorem endsDiffer_iff :
    tree.EndsDiffer ↔ (∀ segment ∈ tree.segmentList, segment.link.stop ≠ tree.root) ∧
      ∀ first ∈ tree.segmentList, ∀ second ∈ tree.segmentList,
        first.link.stop = second.link.stop → first = second := by
  have hends : tree.links.map Link.stop =
      tree.segmentList.map fun segment => segment.link.stop := List.map_map
  unfold EndsDiffer
  rw [hends, List.nodup_cons, List.nodup_map_iff_inj_on tree.nodup_segmentList, List.mem_map]
  refine and_congr_left fun _ => ?_
  constructor
  · intro hroot segment hmem hstop
    exact hroot ⟨segment, hmem, hstop⟩
  · rintro hroot ⟨segment, hmem, hstop⟩
    exact hroot segment hmem hstop

/-- Every segment of a tree that has been validated starts at a node that the tree reaches. -/
theorem reaches_start_of_validate (h : tree.validate = .ok ()) {segment : Segment}
    (hmem : segment ∈ tree.segmentList) : tree.Reaches segment.link.start :=
  (isConnected_of_validate h).ancestor segment hmem

/-- If every segment can be reached and no node has two ways from the root, there are no
circles: one would give a second way to each of its nodes. -/
theorem acyclic_of_unique
    (hreached : ∀ segment ∈ tree.segmentList, tree.Reaches segment.link.start)
    (hunique : ∀ (node : Node) (way other : List Segment), tree.IsWay tree.root way node →
      tree.IsWay tree.root other node → way = other)
    {node : Node} {circle : List Segment} (h : tree.IsWay node circle node) : circle = [] := by
  cases circle with
  | nil => rfl
  | cons segment before =>
      obtain ⟨way, hway⟩ := reaches_iff_exists_way.mp
        (h.2.1 ▸ Reach.segment h.1 (hreached segment h.1) : tree.Reaches node)
      have hlonger := congrArg List.length (hunique node _ _ (hway.append h) hway)
      rw [List.length_append, List.length_cons] at hlonger
      omega

/-- Every destination of a validated tree has a way from the root, and such a tree is a tree
exactly if its root and the ends of its segments are all different. -/
theorem isTree_iff_of_validate (h : tree.validate = .ok ()) :
    (∀ dest ∈ tree.dests, ∃ way, way ≠ [] ∧ tree.IsWay tree.root way dest) ∧
      (tree.IsTree ↔ tree.EndsDiffer) := by
  have hdests : ∀ dest ∈ tree.dests, ∃ way, way ≠ [] ∧ tree.IsWay tree.root way dest := by
    intro dest hdest
    obtain ⟨hne, hreaches⟩ := reaches_of_validate h hdest
    obtain ⟨way, hway⟩ := reaches_iff_exists_way.mp hreaches
    refine ⟨way, ?_, hway⟩
    rintro rfl
    exact hne hway
  refine ⟨hdests, ?_⟩
  rw [endsDiffer_iff]
  constructor
  · intro htree
    exact ⟨htree.rooted, htree.parent⟩
  · rintro ⟨hrooted, hparent⟩
    refine ⟨hrooted, hparent, ?_, ?_⟩
    · intro node way hway
      exact acyclic_of_unique (fun segment hmem => reaches_start_of_validate h hmem)
        (fun _ _ _ hfirst hsecond => hfirst.unique hrooted hparent hsecond) hway
    · intro dest hdest
      obtain ⟨way, -, hway⟩ := hdests dest hdest
      exact ⟨way, hway, fun other hother => hother.unique hrooted hparent hway⟩

/-- The tree of a board's only tensor. -/
def onlyTree (text : String) : RoutingTree :=
  (((RoutingBoard.read text).toOption.getD .empty).get? 5).getD (.ofRoot 0)

/-- A tree that forks at node 1. -/
def fork : RoutingTree := onlyTree "5 0 2 3\n0 1\n1 2\n1 3 7\n"

/-- The two ways from the root part at the fork, and there are no others. -/
theorem fork_isTree : fork.EndsDiffer ∧ fork.IsTree := by
  have hends : fork.EndsDiffer := by decide +kernel
  exact ⟨hends, (isTree_iff_of_validate (by decide +kernel)).2.mpr hends⟩

/-- Segments that lead from the root to node 2 in two ways, and from node 1 back. -/
def tangle : RoutingTree := onlyTree "5 0 2\n0 1\n0 2\n1 0\n1 2\n"

/-- Validation passes the tangle, of which nothing holds that makes a tree. -/
theorem tangle_is_no_tree :
    tangle.validate = .ok () ∧ ¬tangle.IsTree ∧
      (∃ segment ∈ tangle.segmentList, segment.link.stop = tangle.root) ∧
      (∃ first ∈ tangle.segmentList, ∃ second ∈ tangle.segmentList,
        first ≠ second ∧ first.link.stop = second.link.stop) ∧
      (∃ (node : Node) (way : List Segment), way ≠ [] ∧ tangle.IsWay node way node) ∧
      ∃ dest ∈ tangle.dests, ¬∃! way, tangle.IsWay tangle.root way dest := by
  have hvalid : tangle.validate = .ok () := by decide +kernel
  have hroot : tangle.root = 0 := by decide +kernel
  have hdest : 2 ∈ tangle.dests := Std.ExtTreeSet.mem_toList.mp (by decide +kernel)
  have h01 : (⟨⟨0, 1⟩, []⟩ : Segment) ∈ tangle.segmentList := by decide +kernel
  have h02 : (⟨⟨0, 2⟩, []⟩ : Segment) ∈ tangle.segmentList := by decide +kernel
  have h10 : (⟨⟨1, 0⟩, []⟩ : Segment) ∈ tangle.segmentList := by decide +kernel
  have h12 : (⟨⟨1, 2⟩, []⟩ : Segment) ∈ tangle.segmentList := by decide +kernel
  have hstraight : tangle.IsWay 0 [⟨⟨0, 2⟩, []⟩] 2 := ⟨h02, rfl, rfl⟩
  have hround : tangle.IsWay 0 [⟨⟨1, 2⟩, []⟩, ⟨⟨0, 1⟩, []⟩] 2 := ⟨h12, rfl, h01, rfl, rfl⟩
  refine ⟨hvalid, fun htree => ?_, ⟨_, h10, hroot.symm⟩, ⟨_, h02, _, h12, by decide, rfl⟩,
    ⟨0, [⟨⟨1, 0⟩, []⟩, ⟨⟨0, 1⟩, []⟩], by simp, h10, rfl, h01, rfl, rfl⟩, 2, hdest, ?_⟩
  · exact htree.rooted _ h10 hroot.symm
  · rw [hroot]
    intro hunique
    have hsame := hunique.unique hstraight hround
    simp at hsame

end Trees

end RoutingTree

end CoreArray
