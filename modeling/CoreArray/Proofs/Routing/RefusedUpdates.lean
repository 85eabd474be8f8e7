import CoreArray.Proofs.Routing.WrittenBoards
set_option autoImplicit false

/-!
# Refused updates of trees and boards (SPEC §4.2)

A tree refuses a segment that leads nowhere, and a second segment between the same nodes; a
board refuses a tree that is not valid, and a second tree for a tensor.  What leads nowhere or
is not valid is seen before anything is done.  That something is the second one is seen only
when it has taken the place of the first, and there it stays.

`refused_updates_keep_iff` says when a refusal changes nothing: unless the refused segment or
tree is a second one that differs from the first.  All other segments and trees are kept.
-/

namespace CoreArray

namespace RoutingTree

/-- Whether a segment, when it is added, takes the place of another one: it leads on, and
there is a segment between its nodes with other relays. -/
def Replaces (tree : RoutingTree) (link : Link) (relays : List Node) : Prop :=
  link.start ≠ link.stop ∧ ∃ own, tree.relays? link = some own ∧ own ≠ relays

section Segments

variable {tree : RoutingTree} {link : Link} {relays : List Node} {fault : Fault}

/-- A segment that leads nowhere is refused before anything is done. -/
theorem addSegment_of_loop (h : link.start = link.stop) :
    tree.addSegment link relays = (.error (.loop link), tree) := if_pos h

/-- A segment that leads on and is refused has a predecessor. -/
theorem exists_relays_of_refused (hrefused : (tree.addSegment link relays).1 = .error fault)
    (h : link.start ≠ link.stop) : ∃ own, tree.relays? link = some own := by
  cases hown : tree.relays? link with
  | some own => exact ⟨own, rfl⟩
  | none =>
      rw [fst_addSegment_iff.mpr ⟨h, hown⟩] at hrefused
      nomatch hrefused

theorem relays?_addSegment_of_ne {other : Link} (h : other ≠ link) :
    (tree.addSegment link relays).2.relays? other = tree.relays? other := by
  by_cases hloop : link.start = link.stop
  · rw [addSegment_of_loop hloop]
  · rw [relays?_addSegment hloop, if_neg h.symm]

/-- To give a segment the relays that it has changes nothing. -/
theorem addSegment_of_same (h : tree.relays? link = some relays) :
    (tree.addSegment link relays).2 = tree := by
  refine ext_relays? (root_addSegment tree link relays) (dests_addSegment tree link relays)
    fun other found => ?_
  by_cases hother : other = link
  · subst hother
    by_cases hloop : other.start = other.stop
    · rw [addSegment_of_loop hloop]
    · rw [relays?_addSegment hloop, if_pos rfl, h]
  · rw [relays?_addSegment_of_ne hother]

/-- A refused segment changes nothing unless it takes the place of another one. -/
theorem addSegment_eq_self_iff (hrefused : (tree.addSegment link relays).1 = .error fault) :
    (tree.addSegment link relays).2 = tree ↔ ¬tree.Replaces link relays := by
  by_cases hloop : link.start = link.stop
  · rw [addSegment_of_loop hloop]
    exact iff_of_true rfl fun hreplaces => hreplaces.1 hloop
  · obtain ⟨own, hown⟩ := exists_relays_of_refused hrefused hloop
    constructor
    · rintro hsame ⟨-, first, hfirst, hne⟩
      have hrelays := relays?_addSegment hloop tree relays link
      rw [if_pos rfl, hsame, hfirst] at hrelays
      exact hne (Option.some.inj hrelays)
    · intro hkept
      have hsame : own = relays :=
        Decidable.of_not_not fun hne => hkept ⟨hloop, own, hown, hne⟩
      exact addSegment_of_same (hsame ▸ hown)

end Segments

end RoutingTree

namespace RoutingBoard

/-- Whether a tree, when it is added, takes the place of another one: it is valid, and its
tensor has another tree. -/
def Replaces (board : RoutingBoard) (id : TensorId) (tree : RoutingTree) : Prop :=
  tree.validate = .ok () ∧ ∃ own, board.get? id = some own ∧ own ≠ tree

section Trees

variable {board : RoutingBoard} {id : TensorId} {tree : RoutingTree} {fault : Fault}

/-- A tree that is not valid is refused before anything is done. -/
theorem insert_of_invalid {reason : RoutingTree.Fault} (h : tree.validate = .error reason) :
    board.insert id tree = (.error (.badTree id reason), board) := by
  unfold insert
  rw [h]

/-- A valid tree is there when it has been added, whatever the answer is. -/
theorem snd_insert_of_valid (h : tree.validate = .ok ()) :
    (board.insert id tree).2 = ⟨board.trees.insert id tree⟩ := by
  unfold insert
  rw [h]

/-- A valid tree that is refused has a predecessor. -/
theorem exists_tree_of_refused (hrefused : (board.insert id tree).1 = .error fault)
    (h : tree.validate = .ok ()) : ∃ own, board.get? id = some own := by
  refine Option.isSome_iff_exists.mp ?_
  unfold insert at hrefused
  rw [h] at hrefused
  dsimp only at hrefused
  split at hrefused
  · next hold =>
      unfold get?
      rw [← Std.ExtTreeMap.contains_eq_isSome_getElem?]
      exact hold
  · nomatch hrefused

theorem get?_insert_of_ne {other : TensorId} (h : other ≠ id) :
    (board.insert id tree).2.get? other = board.get? other := by
  cases hvalid : tree.validate with
  | error reason => rw [insert_of_invalid hvalid]
  | ok done => rw [snd_insert_of_valid hvalid, get?_insert, if_neg h.symm]

/-- A refused tree changes nothing unless it takes the place of another one. -/
theorem insert_eq_self_iff (hrefused : (board.insert id tree).1 = .error fault) :
    (board.insert id tree).2 = board ↔ ¬board.Replaces id tree := by
  cases hvalid : tree.validate with
  | error reason =>
      rw [insert_of_invalid hvalid]
      refine iff_of_true rfl ?_
      rintro ⟨hvalidated, -⟩
      rw [hvalid] at hvalidated
      nomatch hvalidated
  | ok done =>
      obtain ⟨own, hown⟩ := exists_tree_of_refused hrefused hvalid
      rw [snd_insert_of_valid hvalid]
      constructor
      · rintro hsame ⟨-, first, hfirst, hne⟩
        have hget := get?_insert board id id tree
        rw [if_pos rfl, hsame, hfirst] at hget
        exact hne (Option.some.inj hget)
      · intro hkept
        have hsame : own = tree :=
          Decidable.of_not_not fun hne => hkept ⟨hvalid, own, hown, hne⟩
        refine ext_get? fun other found => ?_
        rw [get?_insert]
        split
        · next hother => rw [← hother, hown, hsame]
        · rfl

end Trees

/-- A refused segment leaves a tree as it is, and a refused tree a board, exactly if it does
not take the place of another one; it never touches other segments, other trees, the root
or the destinations. -/
theorem refused_updates_keep_iff (tree : RoutingTree) (board : RoutingBoard) :
    (∀ (after : RoutingTree) (link : Link) (relays : List Node) (fault : RoutingTree.Fault),
      tree.addSegment link relays = (.error fault, after) →
        (after = tree ↔ ¬tree.Replaces link relays) ∧
          (∀ other, other ≠ link → after.relays? other = tree.relays? other) ∧
          after.root = tree.root ∧ after.dests = tree.dests) ∧
    (∀ (after : RoutingBoard) (id : TensorId) (added : RoutingTree) (fault : Fault),
      board.insert id added = (.error fault, after) →
        (after = board ↔ ¬board.Replaces id added) ∧
          ∀ other, other ≠ id → after.get? other = board.get? other) := by
  constructor
  · intro after link relays fault hrefused
    obtain rfl : (tree.addSegment link relays).2 = after := congrArg Prod.snd hrefused
    exact ⟨RoutingTree.addSegment_eq_self_iff (congrArg Prod.fst hrefused),
      fun other hother => RoutingTree.relays?_addSegment_of_ne hother,
      tree.root_addSegment link relays, tree.dests_addSegment link relays⟩
  · intro after id added fault hrefused
    obtain rfl : (board.insert id added).2 = after := congrArg Prod.snd hrefused
    exact ⟨insert_eq_self_iff (congrArg Prod.fst hrefused),
      fun other hother => get?_insert_of_ne hother⟩

/-- A tree with a segment through a relay. -/
def detour : RoutingTree := ((RoutingTree.bare 0 (.ofNodes [1])).addSegment ⟨0, 1⟩ [2]).2

/-- A board with this tree. -/
def detours : RoutingBoard := (empty.insert 5 detour).2

/-- The same segment and the same tree are refused a second time, and both are kept. -/
theorem detour_kept :
    (detour.addSegment ⟨0, 1⟩ [2]).1 = .error (.duplicate ⟨0, 1⟩) ∧
      (detour.addSegment ⟨0, 1⟩ [2]).2 = detour ∧
      (detours.insert 5 detour).1 = .error (.duplicate 5) ∧
      (detours.insert 5 detour).2 = detours := by
  have hsegment : (detour.addSegment ⟨0, 1⟩ [2]).1 = .error (.duplicate ⟨0, 1⟩) := by
    decide +kernel
  have htree : (detours.insert 5 detour).1 = .error (.duplicate 5) := by decide +kernel
  have hrelays : detour.relays? ⟨0, 1⟩ = some [2] := by decide +kernel
  have hown : detours.get? 5 = some detour := by decide +kernel
  obtain ⟨hsegments, hboards⟩ := refused_updates_keep_iff detour detours
  refine ⟨hsegment, (hsegments _ _ _ _ (Prod.ext hsegment rfl)).1.mpr ?_, htree,
    (hboards _ _ _ _ (Prod.ext htree rfl)).1.mpr ?_⟩
  · rintro ⟨-, own, hfound, hne⟩
    exact hne (Option.some.inj (hfound.symm.trans hrelays))
  · rintro ⟨-, own, hfound, hne⟩
    exact hne (Option.some.inj (hfound.symm.trans hown))

/-- A segment without the relay, and a tree of that segment, are refused too, but they are
there instead of the first ones. -/
theorem detour_replaced :
    (detour.addSegment ⟨0, 1⟩ []).1 = .error (.duplicate ⟨0, 1⟩) ∧
      detour.relays? ⟨0, 1⟩ = some [2] ∧
      (detour.addSegment ⟨0, 1⟩ []).2.relays? ⟨0, 1⟩ = some [] ∧
      (detours.insert 5 (.direct 0 1)).1 = .error (.duplicate 5) ∧
      detours.get? 5 = some detour ∧
      (detours.insert 5 (.direct 0 1)).2.get? 5 = some (.direct 0 1) := by
  decide +kernel

end RoutingBoard

end CoreArray
