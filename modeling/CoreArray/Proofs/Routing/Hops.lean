import Mathlib.Algebra.Order.Ring.Nat
import CoreArray.Proofs.Routing.Ways
set_option autoImplicit false

/-!
# Hops along ways with fewest segments (SPEC §10.9)

The search that counts hops finds a way with as few segments as any, whatever the relays on
it are: `hopsTo_fewest`.  It holds of all segments, also of those that meet again or lead
round in circles.

Each entry of its queue is a way from the root, given by the end of the way and its hops.
The ways in the queue differ by one segment at most and the shorter ones come first; what is
still to be found can be reached from one of them along unused segments, without a detour
(`IsFrontier`).  A turn of the search takes the first way and puts those behind the others
that go on from it (`IsFrontier.expand`): what led on from the node of that way leads on from
one of the new ways after it has left the node for the last time (`IsWay.exists_departure`,
`IsFrontier.goesOn_expand`).
-/

namespace CoreArray

namespace RoutingTree

/-- The hops along a way. -/
def wayHops (way : List Segment) : Nat := (way.map segmentHops).sum

/-- The node at the end of a way from the root. -/
def wayEnd (tree : RoutingTree) : List Segment → Node
  | [] => tree.root
  | segment :: _ => segment.link.stop

/-- A way from the root as an entry of the queue. -/
def queueEntry (tree : RoutingTree) (way : List Segment) : Node × Nat :=
  (tree.wayEnd way, wayHops way)

/-- What is known when the target has not been found and the queue consists of these ways. -/
structure IsFrontier (tree : RoutingTree) (target : Node) (ways : List (List Segment))
    (unused : List Segment) : Prop where
  isWay : ∀ way ∈ ways, tree.IsWay tree.root way (tree.wayEnd way)
  level : ways.Pairwise fun first second =>
    first.length ≤ second.length ∧ second.length ≤ first.length + 1
  segments : ∀ segment ∈ unused, segment ∈ tree.segmentList
  /-- No way to the target is shorter than one that goes on from the queue. -/
  goesOn : ∀ other, tree.IsWay tree.root other target → ∃ way ∈ ways, ∃ rest,
    tree.IsWay (tree.wayEnd way) rest target ∧ (∀ segment ∈ rest, segment ∈ unused) ∧
      way.length + rest.length ≤ other.length

section Ways

variable {tree : RoutingTree} {start node first target : Node} {way : List Segment}

theorem IsWay.segments (h : tree.IsWay start way node) :
    ∀ segment ∈ way, segment ∈ tree.segmentList := by
  induction way generalizing node with
  | nil => simp
  | cons last before ih =>
      obtain ⟨hmem, -, hbefore⟩ := h
      exact List.forall_mem_cons.mpr ⟨hmem, ih hbefore⟩

/-- A way that never leaves the node where it starts ends there. -/
theorem IsWay.eq_of_not_departs (h : tree.IsWay first way node)
    (hstays : ∀ segment ∈ way, segment.link.start ≠ first) : node = first := by
  induction way generalizing node with
  | nil => exact h
  | cons segment before ih =>
      obtain ⟨-, -, hbefore⟩ := h
      have hstart : segment.link.start = first :=
        ih hbefore fun other hmem => hstays other (List.mem_cons_of_mem segment hmem)
      exact absurd hstart (hstays segment List.mem_cons_self)

/-- A way that leaves a node leaves it a last time. -/
theorem IsWay.exists_departure (h : tree.IsWay start way node)
    (hleaves : ∃ segment ∈ way, segment.link.start = first) :
    ∃ segment ∈ way, segment.link.start = first ∧ ∃ rest,
      tree.IsWay segment.link.stop rest node ∧ rest.length < way.length ∧
        ∀ later ∈ rest, later ∈ way ∧ later.link.start ≠ first := by
  induction way generalizing node with
  | nil => simp at hleaves
  | cons last before ih =>
      obtain ⟨hmem, hstop, hbefore⟩ := h
      by_cases hlast : last.link.start = first
      · exact ⟨last, List.mem_cons_self, hlast, [], hstop.symm, Nat.succ_pos _, by simp⟩
      · have hearlier : ∃ segment ∈ before, segment.link.start = first := by
          obtain ⟨segment, hsegment, hstart⟩ := hleaves
          rcases List.mem_cons.mp hsegment with rfl | hsegment
          · exact absurd hstart hlast
          · exact ⟨segment, hsegment, hstart⟩
        obtain ⟨segment, hsegment, hstart, rest, hrest, hlength, hlater⟩ := ih hbefore hearlier
        refine ⟨segment, List.mem_cons_of_mem last hsegment, hstart, last :: rest,
          ⟨hmem, hstop, hrest⟩, Nat.succ_lt_succ hlength, ?_⟩
        intro later hin
        rcases List.mem_cons.mp hin with rfl | hin
        · exact ⟨List.mem_cons_self, hlast⟩
        · exact ⟨List.mem_cons_of_mem last (hlater later hin).1, (hlater later hin).2⟩

end Ways

section Search

variable {tree : RoutingTree} {target : Node} {way : List Segment} {ways : List (List Segment)}
  {unused : List Segment}

/-- The ways that go on from a way along unused segments. -/
def continuations (tree : RoutingTree) (way : List Segment) (unused : List Segment) :
    List (List Segment) :=
  (startingAt (tree.wayEnd way) unused).map fun segment => segment :: way

theorem isFrontier_root (tree : RoutingTree) (target : Node) :
    tree.IsFrontier target [[]] tree.segmentList := by
  refine ⟨?_, List.pairwise_singleton _ _, fun _ hmem => hmem, ?_⟩
  · intro way hmem
    rw [List.mem_singleton.mp hmem]
    rfl
  · intro other hother
    refine ⟨[], List.mem_singleton_self _, other, hother, ?_, Nat.le_of_eq (Nat.zero_add _)⟩
    intro segment hmem
    exact hother.segments segment hmem

/-- The first way in the queue is as short as any. -/
theorem IsFrontier.length_le (h : tree.IsFrontier target (way :: ways) unused)
    {other : List Segment} (hmem : other ∈ way :: ways) : way.length ≤ other.length := by
  rcases List.mem_cons.mp hmem with rfl | hmem
  · exact Nat.le_refl _
  · exact ((List.pairwise_cons.mp h.level).1 other hmem).1

theorem mem_continuations {next : List Segment} : next ∈ tree.continuations way unused ↔
    ∃ segment ∈ unused, segment.link.start = tree.wayEnd way ∧ segment :: way = next := by
  unfold continuations
  simp only [List.mem_map, mem_startingAt, and_assoc]

/-- The ways that go on are longer than those in the queue, but by one segment at most. -/
theorem IsFrontier.level_expand (h : tree.IsFrontier target (way :: ways) unused) :
    (ways ++ tree.continuations way unused).Pairwise fun first second =>
      first.length ≤ second.length ∧ second.length ≤ first.length + 1 := by
  obtain ⟨hfirst, hothers⟩ := List.pairwise_cons.mp h.level
  have hlength : ∀ next ∈ tree.continuations way unused, next.length = way.length + 1 := by
    intro next hmem
    obtain ⟨segment, -, -, rfl⟩ := mem_continuations.mp hmem
    rfl
  refine List.pairwise_append.mpr ⟨hothers, List.pairwise_of_forall_mem_list ?_, ?_⟩
  · intro next hmem later hlater
    rw [hlength next hmem, hlength later hlater]
    omega
  · intro old hold next hmem
    have hold := hfirst old hold
    rw [hlength next hmem]
    omega

/-- What leads on from the queue leads on from it after a turn, without the segments that the
turn has used. -/
theorem IsFrontier.goesOn_expand (h : tree.IsFrontier target (way :: ways) unused)
    (hne : tree.wayEnd way ≠ target) {next rest : List Segment} (hmem : next ∈ way :: ways)
    (hrest : tree.IsWay (tree.wayEnd next) rest target)
    (hunused : ∀ segment ∈ rest, segment ∈ unused) :
    ∃ other ∈ ways ++ tree.continuations way unused, ∃ after,
      tree.IsWay (tree.wayEnd other) after target ∧
        (∀ segment ∈ after, segment ∈ startingElsewhere (tree.wayEnd way) unused) ∧
          other.length + after.length ≤ next.length + rest.length := by
  by_cases hleaves : ∃ segment ∈ rest, segment.link.start = tree.wayEnd way
  · -- The way leaves the expanded node a last time, along a segment that is used now.
    obtain ⟨segment, hsegment, hstart, after, hafter, hshorter, hlater⟩ :=
      hrest.exists_departure hleaves
    have hnew := mem_continuations.mpr ⟨segment, hunused segment hsegment, hstart, rfl⟩
    refine ⟨segment :: way, List.mem_append_right ways hnew, after, hafter, ?_, ?_⟩
    · intro later hin
      obtain ⟨hin, hother⟩ := hlater later hin
      exact mem_startingElsewhere.mpr ⟨hunused later hin, hother⟩
    · have hshort := h.length_le hmem
      rw [List.length_cons]
      omega
  · -- The way does not need the expanded node, so it goes on from another.
    have hstays : ∀ segment ∈ rest, segment.link.start ≠ tree.wayEnd way :=
      fun segment hsegment hstart => hleaves ⟨segment, hsegment, hstart⟩
    rcases List.mem_cons.mp hmem with rfl | hold
    · exact absurd (hrest.eq_of_not_departs hstays).symm hne
    · exact ⟨next, List.mem_append_left _ hold, rest, hrest,
        fun segment hsegment => mem_startingElsewhere.mpr
          ⟨hunused segment hsegment, hstays segment hsegment⟩, Nat.le_refl _⟩

theorem IsFrontier.expand (h : tree.IsFrontier target (way :: ways) unused)
    (hne : tree.wayEnd way ≠ target) :
    tree.IsFrontier target (ways ++ tree.continuations way unused)
      (startingElsewhere (tree.wayEnd way) unused) := by
  refine ⟨?_, h.level_expand,
    fun segment hmem => h.segments segment (mem_startingElsewhere.mp hmem).1, ?_⟩
  · intro next hmem
    rcases List.mem_append.mp hmem with hold | hadded
    · exact h.isWay next (List.mem_cons_of_mem way hold)
    · obtain ⟨segment, hunused, hstart, rfl⟩ := mem_continuations.mp hadded
      exact ⟨h.segments segment hunused, rfl, hstart ▸ h.isWay way List.mem_cons_self⟩
  · intro other hother
    obtain ⟨next, hmem, rest, hrest, hunused, hle⟩ := h.goesOn other hother
    obtain ⟨later, hlater, after, hafter, hleft, hshort⟩ :=
      h.goesOn_expand hne hmem hrest hunused
    exact ⟨later, hlater, after, hafter, hleft, Nat.le_trans hshort hle⟩

/-- The queue after a turn consists of the ways after it. -/
theorem map_queueEntry_expand :
    (ways ++ tree.continuations way unused).map tree.queueEntry =
      ways.map tree.queueEntry ++ (startingAt (tree.wayEnd way) unused).map fun segment =>
        (segment.link.stop, wayHops way + segmentHops segment) := by
  unfold continuations
  rw [List.map_append, List.map_map]
  congr 1
  refine List.map_congr_left fun segment _ => ?_
  exact Prod.ext rfl (Nat.add_comm _ _)

/-- The search finds the hops of a way that is as short as any. -/
theorem IsFrontier.fewest (h : tree.IsFrontier target ways unused) {hops : Nat}
    (hfound : hopsFrom target (ways.map tree.queueEntry) unused = some hops) :
    ∃ way, tree.IsWay tree.root way target ∧ wayHops way = hops ∧
      ∀ other, tree.IsWay tree.root other target → way.length ≤ other.length := by
  induction hqueue : ways.map tree.queueEntry, unused using hopsFrom.induct target
      generalizing ways with
  | case1 unused =>
      rw [hqueue] at hfound
      unfold hopsFrom at hfound
      simp at hfound
  | case2 unused before queue =>
      obtain ⟨way, ways, rfl, hentry, -⟩ := List.map_eq_cons_iff.mp hqueue
      obtain ⟨hend, rfl⟩ := Prod.mk.inj hentry
      rw [hqueue] at hfound
      unfold hopsFrom at hfound
      rw [if_pos rfl, Option.some.injEq] at hfound
      refine ⟨way, hend ▸ h.isWay way List.mem_cons_self, hfound, ?_⟩
      intro other hother
      obtain ⟨next, hmem, rest, -, -, hle⟩ := h.goesOn other hother
      have hshort := h.length_le hmem
      omega
  | case3 unused node before queue hne ih =>
      obtain ⟨way, ways, rfl, hentry, hrest⟩ := List.map_eq_cons_iff.mp hqueue
      obtain ⟨hend, rfl⟩ := Prod.mk.inj hentry
      subst hend
      rw [hqueue] at hfound
      unfold hopsFrom at hfound
      rw [if_neg hne, ← hrest, ← map_queueEntry_expand] at hfound
      refine ih (h.expand hne) hfound ?_
      rw [map_queueEntry_expand, hrest]

end Search

section Trees

variable {tree : RoutingTree} {node : Node}

/-- A tree tells the hops to just the nodes that it reaches.  They are the hops of a way from
the root with as few segments as any, and of the only one if the segments form a tree. -/
theorem hopsTo_fewest (tree : RoutingTree) (node : Node) :
    (tree.hopsTo node = none ↔ ¬tree.Reaches node) ∧
      (∀ hops, tree.hopsTo node = some hops →
        ∃ way, tree.IsWay tree.root way node ∧ wayHops way = hops ∧
          ∀ other, tree.IsWay tree.root other node → way.length ≤ other.length) ∧
      (tree.IsTree → ∀ way, tree.IsWay tree.root way node →
        tree.hopsTo node = some (wayHops way)) := by
  have hnone : tree.hopsTo node = none ↔ ¬tree.Reaches node := by
    rw [← isSome_hopsTo_iff, Bool.not_eq_true, Option.isSome_eq_false_iff,
      Option.isNone_iff_eq_none]
  have hfewest : ∀ hops, tree.hopsTo node = some hops →
      ∃ way, tree.IsWay tree.root way node ∧ wayHops way = hops ∧
        ∀ other, tree.IsWay tree.root other node → way.length ≤ other.length :=
    fun hops hfound => (tree.isFrontier_root node).fewest hfound
  refine ⟨hnone, hfewest, ?_⟩
  intro htree way hway
  obtain ⟨hops, hfound⟩ := Option.ne_none_iff_exists'.mp fun hlost =>
    hnone.mp hlost (reaches_iff_exists_way.mpr ⟨way, hway⟩)
  obtain ⟨other, hother, rfl, -⟩ := hfewest hops hfound
  rw [hfound, hother.unique htree.rooted htree.parent hway]

/-- Two ways to node 1: a segment with three relays, and two segments without any. -/
def bypass : RoutingTree := onlyTree "5 0 1\n0 1 5 6 7\n0 2\n2 1\n"

/-- A tree without forks. -/
def branch : RoutingTree := onlyTree "5 0 2\n0 1 7\n1 2 8 9\n"

/-- The bypass has fewer segments but more hops; along the branch there is no choice. -/
theorem bypass_hops :
    bypass.hopsTo 1 = some 4 ∧
      (∃ way, bypass.IsWay bypass.root way 1 ∧ wayHops way = 4 ∧
        ∀ other, bypass.IsWay bypass.root other 1 → way.length ≤ other.length) ∧
      branch.IsTree ∧ branch.hopsTo 2 = some 5 := by
  have hhops : bypass.hopsTo 1 = some 4 := by decide +kernel
  have hvalid : branch.validate = .ok () := by decide +kernel
  have hrooted : ∀ segment ∈ branch.segmentList, segment.link.stop ≠ branch.root := by
    decide +kernel
  have hparent : ∀ first ∈ branch.segmentList, ∀ second ∈ branch.segmentList,
      first.link.stop = second.link.stop → first = second := by decide +kernel
  have htree : branch.IsTree := by
    refine ⟨hrooted, hparent, ?_, ?_⟩
    · intro node way hway
      exact acyclic_of_unique (fun segment hmem => reaches_start_of_validate hvalid hmem)
        (fun _ _ _ hfirst hsecond => hfirst.unique hrooted hparent hsecond) hway
    · intro dest hdest
      obtain ⟨way, hway⟩ := reaches_iff_exists_way.mp (reaches_of_validate hvalid hdest).2
      exact ⟨way, hway, fun other hother => hother.unique hrooted hparent hway⟩
  have hroot : branch.root = 0 := by decide +kernel
  have hfirst : (⟨⟨0, 1⟩, [7]⟩ : Segment) ∈ branch.segmentList := by decide +kernel
  have hsecond : (⟨⟨1, 2⟩, [8, 9]⟩ : Segment) ∈ branch.segmentList := by decide +kernel
  exact ⟨hhops, (hopsTo_fewest bypass 1).2.1 4 hhops, htree,
    (hopsTo_fewest branch 2).2.2 htree [⟨⟨1, 2⟩, [8, 9]⟩, ⟨⟨0, 1⟩, [7]⟩]
      ⟨hsecond, rfl, hfirst, rfl, hroot.symm⟩⟩

end Trees

end RoutingTree

end CoreArray
