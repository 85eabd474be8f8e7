import CoreArray.Routing.Tree
set_option autoImplicit false

/-!
# The nodes that a routing tree reaches (SPEC §3)

A tree reaches its root and the ends of all segments that start at nodes which it
reaches.  Both searches of a tree find just these nodes: `mem_reached_iff` says so of the
search that validation makes, `isSome_hopsTo_iff` of the one that counts hops.

Validation keeps the nodes that it has reached and a stack of those whose segments it has not
followed.  Of all segments that start at a reached node only those of the stack may lead to a
node that has not been reached (`Frontier.IsClosed`), so that nothing is left to reach when
the stack is empty.

The count of hops takes a node from its queue and moves the segments that start there from the
list of unused segments into the queue.  By `reach_cons_iff` nothing that can be reached is
lost by that.
-/

namespace CoreArray

/-- The nodes to which segments lead from the nodes of a list. -/
inductive Reach (segments : List Segment) (starts : List Node) : Node → Prop
  | start {node : Node} (hmem : node ∈ starts) : Reach segments starts node
  | segment {segment : Segment} (hmem : segment ∈ segments)
      (h : Reach segments starts segment.link.start) : Reach segments starts segment.link.stop

namespace Reach

variable {segments : List Segment} {starts others : List Node} {node : Node}

theorem of_nil (h : Reach segments [] node) : False := by
  induction h with
  | start hmem => simp at hmem
  | segment _ _ ih => exact ih

/-- The order of the nodes to start from does not matter, nor do repeats. -/
theorem mono (h : Reach segments starts node) (hsubset : ∀ start ∈ starts, start ∈ others) :
    Reach segments others node := by
  induction h with
  | start hmem => exact .start (hsubset _ hmem)
  | segment hmem _ ih => exact .segment hmem ih

theorem perm_iff (hperm : starts.Perm others) :
    Reach segments starts node ↔ Reach segments others node := by
  constructor
  · intro h
    exact h.mono fun start hmem => hperm.mem_iff.mp hmem
  · intro h
    exact h.mono fun start hmem => hperm.mem_iff.mpr hmem

end Reach

namespace RoutingTree

/-- Whether a tree reaches a node. -/
def Reaches (tree : RoutingTree) (node : Node) : Prop := Reach tree.segmentList [tree.root] node

/-- The ends of the segments that start at a node. -/
def endsOf (node : Node) (segments : List Segment) : List Node :=
  (startingAt node segments).map fun segment => segment.link.stop

section Searches

variable {first node target : Node} {queue : List Node} {unused : List Segment}

theorem mem_startingAt {segment : Segment} :
    segment ∈ startingAt node unused ↔ segment ∈ unused ∧ segment.link.start = node := by
  unfold startingAt
  rw [List.mem_filter, beq_iff_eq]

theorem mem_startingElsewhere {segment : Segment} :
    segment ∈ startingElsewhere node unused ↔ segment ∈ unused ∧ segment.link.start ≠ node := by
  unfold startingElsewhere
  rw [List.mem_filter, Bool.not_eq_true', beq_eq_false_iff_ne]

/-- What can be reached is the first node of the queue, and what can be reached from the
rest of the queue and the ends of its segments without these segments. -/
theorem reach_cons_iff :
    Reach unused (first :: queue) node ↔
      node = first ∨ Reach (startingElsewhere first unused) (endsOf first unused ++ queue) node := by
  constructor
  · intro h
    induction h with
    | start hmem =>
        rcases List.mem_cons.mp hmem with rfl | hmem
        · exact .inl rfl
        · exact .inr (.start (List.mem_append_right _ hmem))
    | @segment segment hmem _ ih =>
        refine .inr ?_
        by_cases hstart : segment.link.start = first
        · refine .start (List.mem_append_left _ ?_)
          exact List.mem_map_of_mem (mem_startingAt.mpr ⟨hmem, hstart⟩)
        · exact .segment (mem_startingElsewhere.mpr ⟨hmem, hstart⟩) (ih.resolve_left hstart)
  · rintro (rfl | h)
    · exact .start List.mem_cons_self
    · induction h with
      | start hmem =>
          rcases List.mem_append.mp hmem with hend | hqueue
          · obtain ⟨segment, hstart, rfl⟩ := List.mem_map.mp hend
            obtain ⟨hunused, rfl⟩ := mem_startingAt.mp hstart
            exact .segment hunused (.start List.mem_cons_self)
          · exact .start (List.mem_cons_of_mem _ hqueue)
      | segment hmem _ ih => exact .segment (mem_startingElsewhere.mp hmem).1 ih

/-- The search that counts hops finds a node if it can be reached. -/
theorem isSome_hopsFrom_iff {queue : List (Node × Nat)} :
    (hopsFrom target queue unused).isSome = true ↔ Reach unused (queue.map Prod.fst) target := by
  induction queue, unused using hopsFrom.induct target with
  | case1 unused =>
      unfold hopsFrom
      constructor
      · intro h
        simp at h
      · intro h
        exact h.of_nil.elim
  | case2 unused hops queue =>
      unfold hopsFrom
      rw [if_pos rfl]
      exact iff_of_true rfl (.start List.mem_cons_self)
  | case3 unused first hops queue hne ih =>
      have hqueue : ((queue ++ (startingAt first unused).map fun segment =>
          (segment.link.stop, hops + segmentHops segment)).map Prod.fst).Perm
            (endsOf first unused ++ queue.map Prod.fst) := by
        rw [List.map_append, List.map_map]
        exact List.perm_append_comm
      unfold hopsFrom
      rw [if_neg hne, ih, Reach.perm_iff hqueue, List.map_cons, reach_cons_iff]
      constructor
      · exact .inr
      · intro h
        exact h.resolve_left fun heq => hne heq.symm

theorem isSome_hopsTo_iff {tree : RoutingTree} :
    (tree.hopsTo node).isSome = true ↔ tree.Reaches node := isSome_hopsFrom_iff

/-- If every entry of the target in the queue is some hops away, so is the target. -/
theorem pos_of_hopsFrom {queue : List (Node × Nat)} {hops : Nat}
    (hqueue : ∀ entry ∈ queue, entry.1 = target → 0 < entry.2)
    (h : hopsFrom target queue unused = some hops) : 0 < hops := by
  induction queue, unused using hopsFrom.induct target with
  | case1 unused =>
      unfold hopsFrom at h
      simp at h
  | case2 unused first queue =>
      unfold hopsFrom at h
      rw [if_pos rfl, Option.some.injEq] at h
      rw [← h]
      exact hqueue _ List.mem_cons_self rfl
  | case3 unused first before queue hne ih =>
      unfold hopsFrom at h
      rw [if_neg hne] at h
      refine ih ?_ h
      intro entry hmem htarget
      rcases List.mem_append.mp hmem with hold | hnew
      · exact hqueue entry (List.mem_cons_of_mem _ hold) htarget
      · obtain ⟨segment, -, rfl⟩ := List.mem_map.mp hnew
        exact Nat.lt_of_lt_of_le (Nat.succ_pos _) (Nat.le_add_left _ _)

/-- Every node but the root is some hops away. -/
theorem pos_of_hopsTo {tree : RoutingTree} {hops : Nat} (hne : node ≠ tree.root)
    (h : tree.hopsTo node = some hops) : 0 < hops := by
  refine pos_of_hopsFrom ?_ h
  intro entry hmem hnode
  rw [List.mem_singleton] at hmem
  rw [hmem] at hnode
  exact absurd hnode.symm hne

/-- Hops are counted from the root. -/
theorem hopsTo_eq_zero_iff {tree : RoutingTree} : tree.hopsTo node = some 0 ↔ node = tree.root := by
  constructor
  · intro hzero
    exact Decidable.byContradiction fun hne =>
      absurd (pos_of_hopsTo hne hzero) (Nat.lt_irrefl 0)
  · intro hroot
    unfold hopsTo hopsFrom
    rw [if_pos hroot.symm]

end Searches

/-! ## The search for all nodes -/

namespace Frontier

variable {frontier : Frontier} {node other : Node} {nodes : List Node}

theorem mem_reached_meet :
    other ∈ (frontier.meet node).reached ↔ other ∈ frontier.reached ∨ other = node := by
  unfold meet
  split
  · next hold =>
      rw [or_iff_left_of_imp]
      rintro rfl
      exact Std.ExtTreeSet.contains_iff_mem.mp hold
  · rw [Std.ExtTreeSet.mem_insert, Std.compare_eq_iff_eq, or_comm, eq_comm]

theorem mem_reached_foldl_meet :
    other ∈ (nodes.foldl meet frontier).reached ↔ other ∈ frontier.reached ∨ other ∈ nodes := by
  induction nodes generalizing frontier with
  | nil => simp
  | cons node nodes ih => rw [List.foldl_cons, ih, mem_reached_meet, List.mem_cons, or_assoc]

/-- A node that is met stays or becomes pending, or has been reached before. -/
theorem meet_cases (frontier : Frontier) (node : Node) :
    frontier.meet node = frontier ∨
      frontier.meet node = ⟨frontier.reached.insert node, node :: frontier.pending⟩ := by
  unfold meet
  split
  · exact .inl rfl
  · exact .inr rfl

theorem mem_pending_foldl_meet_of_mem (h : other ∈ frontier.pending) :
    other ∈ (nodes.foldl meet frontier).pending := by
  induction nodes generalizing frontier with
  | nil => exact h
  | cons node nodes ih =>
      refine ih ?_
      rcases frontier.meet_cases node with hsame | hnew
      · rw [hsame]
        exact h
      · rw [hnew]
        exact List.mem_cons_of_mem node h

theorem mem_of_mem_pending_foldl_meet (h : other ∈ (nodes.foldl meet frontier).pending) :
    other ∈ frontier.pending ∨ other ∈ nodes := by
  induction nodes generalizing frontier with
  | nil => exact .inl h
  | cons node nodes ih =>
      rcases ih h with hpending | hmem
      · rcases frontier.meet_cases node with hsame | hnew
        · rw [hsame] at hpending
          exact .inl hpending
        · rw [hnew] at hpending
          rcases List.mem_cons.mp hpending with rfl | hold
          · exact .inr List.mem_cons_self
          · exact .inl hold
      · exact .inr (List.mem_cons_of_mem node hmem)

/-- What has not been reached before is pending when it is met. -/
theorem mem_pending_of_mem_reached_foldl_meet (h : other ∈ (nodes.foldl meet frontier).reached) :
    other ∈ frontier.reached ∨ other ∈ (nodes.foldl meet frontier).pending := by
  induction nodes generalizing frontier with
  | nil => exact .inl h
  | cons node nodes ih =>
      rw [List.foldl_cons] at h ⊢
      rcases ih h with hreached | hpending
      · rcases frontier.meet_cases node with hsame | hnew
        · rw [hsame] at hreached
          exact .inl hreached
        · rcases mem_reached_meet.mp hreached with hold | rfl
          · exact .inl hold
          · have hpending : other ∈ (frontier.meet other).pending := by
              rw [hnew]
              exact List.mem_cons_self
            exact .inr (mem_pending_foldl_meet_of_mem hpending)
      · exact .inr hpending

/-- What is known of a search: pending nodes have been reached, and a segment that leaves the
reached nodes starts at a pending one. -/
structure IsClosed (tree : RoutingTree) (frontier : Frontier) : Prop where
  pending : ∀ node ∈ frontier.pending, node ∈ frontier.reached
  closed : ∀ segment ∈ tree.segmentList, segment.link.start ∈ frontier.reached →
    segment.link.start ∈ frontier.pending ∨ segment.link.stop ∈ frontier.reached

end Frontier

section Turns

variable {tree : RoutingTree} {reached : NodeSet} {pending : List Node} {node first : Node}

theorem mem_endsFrom_iff :
    node ∈ tree.endsFrom first ↔
      ∃ segment ∈ tree.segmentList, segment.link.start = first ∧ segment.link.stop = node := by
  unfold endsFrom links
  rw [List.mem_map]
  constructor
  · rintro ⟨link, hlink, rfl⟩
    obtain ⟨hmem, hstart⟩ := List.mem_filter.mp hlink
    obtain ⟨segment, hsegment, rfl⟩ := List.mem_map.mp hmem
    exact ⟨segment, hsegment, eq_of_beq hstart, rfl⟩
  · rintro ⟨segment, hsegment, rfl, rfl⟩
    exact ⟨segment.link, List.mem_filter.mpr ⟨List.mem_map_of_mem hsegment, beq_self_eq_true _⟩, rfl⟩

/-- The state of the search after a turn. -/
def afterTurn (tree : RoutingTree) (reached : NodeSet) (first : Node) (pending : List Node) :
    Frontier :=
  (tree.endsFrom first).foldl Frontier.meet ⟨reached, pending⟩

theorem isClosed_afterTurn (h : Frontier.IsClosed tree ⟨reached, first :: pending⟩) :
    (tree.afterTurn reached first pending).IsClosed tree := by
  have hreached {node : Node} (hmem : node ∈ reached) :
      node ∈ (tree.afterTurn reached first pending).reached :=
    Frontier.mem_reached_foldl_meet.mpr (.inl hmem)
  have hends {node : Node} (hmem : node ∈ tree.endsFrom first) :
      node ∈ (tree.afterTurn reached first pending).reached :=
    Frontier.mem_reached_foldl_meet.mpr (.inr hmem)
  refine ⟨fun node hmem => ?_, fun segment hsegment hstart => ?_⟩
  · rcases Frontier.mem_of_mem_pending_foldl_meet hmem with hold | hnew
    · exact hreached (h.pending node (List.mem_cons_of_mem first hold))
    · exact hends hnew
  · rcases Frontier.mem_pending_of_mem_reached_foldl_meet hstart with hold | hpending
    · rcases h.closed segment hsegment hold with hstill | hstop
      · rcases List.mem_cons.mp hstill with heq | hrest
        · exact .inr (hends (mem_endsFrom_iff.mpr ⟨segment, hsegment, heq, rfl⟩))
        · exact .inl (Frontier.mem_pending_foldl_meet_of_mem hrest)
      · exact .inr (hreached hstop)
    · exact .inl hpending

/-- A turn loses nothing that has been reached or can be reached from pending nodes, and finds
nothing else. -/
theorem reach_afterTurn_iff (h : Frontier.IsClosed tree ⟨reached, first :: pending⟩) :
    (node ∈ (tree.afterTurn reached first pending).reached ∨
        Reach tree.segmentList (tree.afterTurn reached first pending).pending node) ↔
      node ∈ reached ∨ Reach tree.segmentList (first :: pending) node := by
  have hend {node : Node} (hmem : node ∈ tree.endsFrom first) :
      Reach tree.segmentList (first :: pending) node := by
    obtain ⟨segment, hsegment, rfl, rfl⟩ := mem_endsFrom_iff.mp hmem
    exact .segment hsegment (.start List.mem_cons_self)
  constructor
  · rintro (hfound | hreach)
    · exact (Frontier.mem_reached_foldl_meet.mp hfound).imp_right hend
    · refine .inr ?_
      induction hreach with
      | start hmem =>
          rcases Frontier.mem_of_mem_pending_foldl_meet hmem with hold | hnew
          · exact .start (List.mem_cons_of_mem first hold)
          · exact hend hnew
      | segment hmem _ ih => exact .segment hmem ih
  · have hold {node : Node} (hmem : node ∈ reached) :
        node ∈ (tree.afterTurn reached first pending).reached :=
      Frontier.mem_reached_foldl_meet.mpr (.inl hmem)
    rintro (hfound | hreach)
    · exact .inl (hold hfound)
    · induction hreach with
      | start hmem => exact .inl (hold (h.pending _ hmem))
      | @segment segment hmem _ ih =>
          rcases ih with hfound | hreach
          · rcases (isClosed_afterTurn h).closed segment hmem hfound with hpending | hstop
            · exact .inr (.segment hmem (.start hpending))
            · exact .inl hstop
          · exact .inr (.segment hmem hreach)

/-- The search ends with what has been reached and what can be reached from pending nodes. -/
theorem mem_reachFrom_iff (h : Frontier.IsClosed tree ⟨reached, pending⟩) :
    node ∈ tree.reachFrom reached pending ↔
      node ∈ reached ∨ Reach tree.segmentList pending node := by
  induction reached, pending using reachFrom.induct tree with
  | case1 reached =>
      unfold reachFrom
      exact (or_iff_left fun hreach => hreach.of_nil).symm
  | case2 reached first pending frontier ih =>
      unfold reachFrom
      rw [← reach_afterTurn_iff h]
      exact ih (isClosed_afterTurn h)

theorem mem_reached_iff : node ∈ tree.reached ↔ tree.Reaches node := by
  have hroot {node : Node} : node ∈ NodeSet.ofNodes [tree.root] ↔ node ∈ [tree.root] := by
    rw [List.mem_singleton, eq_comm, ← Std.compare_eq_iff_eq]
    simp [NodeSet.ofNodes]
  have hclosed : Frontier.IsClosed tree ⟨NodeSet.ofNodes [tree.root], [tree.root]⟩ :=
    ⟨fun _ => hroot.mpr, fun _ _ hstart => .inl (hroot.mp hstart)⟩
  unfold reached
  rw [mem_reachFrom_iff hclosed, hroot]
  exact or_iff_right_of_imp .start

end Turns

end RoutingTree

end CoreArray
