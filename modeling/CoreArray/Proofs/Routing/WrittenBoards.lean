import CoreArray.Proofs.Routing.Blocks
import CoreArray.Proofs.Routing.Ways
import CoreArray.Proofs.Text.Numerals
set_option autoImplicit false

/-!
# Routing boards that are written and read back (SPEC §4.2, §6)

A board is written as blocks: the attribute line of a tensor with its tree, and a line for
each segment of the tree in any order, with blank lines between the blocks (`IsWritten`).
Reading gives back the trees that were written: `read_of_isWritten`.

A line of numbers reads back as these numbers (`readNumbers_numberLine`), and the segments of
a tree make up the tree again when they are added to its root and destinations in any order
(`IsBuilt.addAll_eq`).  So each block is passed with its tree (`pass?_block`), and a board has the
blocks that were written (`blocks?_of_isWritten`).
-/

namespace CoreArray

namespace RoutingTree

/-! ## Trees out of segments -/

/-- Whether a tree comes from adding segments and setting destinations. -/
inductive IsBuilt : RoutingTree → Prop
  | ofRoot (root : Node) : IsBuilt (ofRoot root)
  | addSegment {tree after : RoutingTree} {link : Link} {relays : List Node} (h : IsBuilt tree)
      (hok : tree.addSegment link relays = (.ok (), after)) : IsBuilt after
  | setDests {tree : RoutingTree} (h : IsBuilt tree) (dests : NodeSet) :
      IsBuilt { tree with dests := dests }

/-- A tree that has no segments yet. -/
def bare (root : Node) (dests : NodeSet) : RoutingTree := { ofRoot root with dests := dests }

/-- A tree with more segments. -/
def addAll (tree : RoutingTree) (segments : List Segment) : RoutingTree :=
  segments.foldl (fun tree segment => (tree.addSegment segment.link segment.relays).2) tree

/-- Whether segments can be added to a tree, one after the other. -/
structure CanAddAll (tree : RoutingTree) (segments : List Segment) : Prop where
  start_ne_stop : ∀ segment ∈ segments, segment.link.start ≠ segment.link.stop
  new : ∀ segment ∈ segments, tree.relays? segment.link = none
  links : (segments.map Segment.link).Nodup

section Segments

variable {tree : RoutingTree} {link : Link} {relays : List Node} {segment : Segment}
  {segments : List Segment}

/-- A segment is taken if it leads on and is the first one between its nodes. -/
theorem fst_addSegment_iff : (tree.addSegment link relays).1 = .ok () ↔
    link.start ≠ link.stop ∧ tree.relays? link = none := by
  have hnew : tree.relays? link = none ↔ ¬tree.segments.contains link = true := by
    unfold relays?
    rw [Std.ExtTreeMap.contains_eq_isSome_getElem?, Option.not_isSome_iff_eq_none]
  unfold addSegment
  rw [hnew]
  by_cases hloop : link.start = link.stop
  · simp [hloop]
  · by_cases hold : tree.segments.contains link = true
    · simp [hloop, hold]
    · simp [hloop, hold]

theorem root_addSegment (tree : RoutingTree) (link : Link) (relays : List Node) :
    (tree.addSegment link relays).2.root = tree.root := by
  unfold addSegment
  split <;> rfl

theorem dests_addSegment (tree : RoutingTree) (link : Link) (relays : List Node) :
    (tree.addSegment link relays).2.dests = tree.dests := by
  unfold addSegment
  split <;> rfl

theorem relays?_addSegment (h : link.start ≠ link.stop) (tree : RoutingTree)
    (relays : List Node) (other : Link) :
    (tree.addSegment link relays).2.relays? other =
      if link = other then some relays else tree.relays? other := by
  unfold addSegment relays?
  rw [if_neg h, Std.ExtTreeMap.getElem?_insert]
  simp only [Std.compare_eq_iff_eq]

/-- No segment of a tree that was built leads from a node to itself. -/
theorem IsBuilt.start_ne_stop (h : tree.IsBuilt) :
    ∀ segment ∈ tree.segmentList, segment.link.start ≠ segment.link.stop := by
  induction h with
  | ofRoot root =>
      intro segment hmem
      rw [mem_segmentList] at hmem
      simp [RoutingTree.ofRoot] at hmem
  | @addSegment tree after link relays _ hok ih =>
      have hafter : (tree.addSegment link relays).2 = after := congrArg Prod.snd hok
      obtain ⟨hne, -⟩ := fst_addSegment_iff.mp (congrArg Prod.fst hok)
      intro segment hmem
      have hrelays := relays?_addSegment hne tree relays segment.link
      rw [hafter] at hrelays
      by_cases hlink : link = segment.link
      · exact hlink ▸ hne
      · rw [if_neg hlink] at hrelays
        exact ih segment (mem_segmentList.mpr (hrelays.symm.trans (mem_segmentList.mp hmem)))
  | setDests _ _ ih => exact ih

theorem addAll_cons (segment : Segment) : tree.addAll (segment :: segments) =
    (tree.addSegment segment.link segment.relays).2.addAll segments := rfl

theorem CanAddAll.fst_addSegment (h : tree.CanAddAll (segment :: segments)) :
    (tree.addSegment segment.link segment.relays).1 = .ok () :=
  fst_addSegment_iff.mpr ⟨h.start_ne_stop segment List.mem_cons_self,
    h.new segment List.mem_cons_self⟩

theorem CanAddAll.tail (h : tree.CanAddAll (segment :: segments)) :
    (tree.addSegment segment.link segment.relays).2.CanAddAll segments := by
  obtain ⟨hloop, hloops⟩ := List.forall_mem_cons.mp h.start_ne_stop
  obtain ⟨-, hnew⟩ := List.forall_mem_cons.mp h.new
  obtain ⟨hother, hlinks⟩ := List.nodup_cons.mp h.links
  refine ⟨hloops, fun next hmem => ?_, hlinks⟩
  have hne : segment.link ≠ next.link := fun hsame =>
    hother (List.mem_map.mpr ⟨next, hmem, hsame.symm⟩)
  rw [relays?_addSegment hloop, if_neg hne]
  exact hnew next hmem

/-- Trees are built by adding segments that can be added. -/
theorem IsBuilt.addAll (h : tree.IsBuilt) (hadd : tree.CanAddAll segments) :
    (tree.addAll segments).IsBuilt := by
  induction segments generalizing tree with
  | nil => exact h
  | cons segment segments ih =>
      exact ih (h.addSegment (Prod.ext hadd.fst_addSegment rfl)) hadd.tail

theorem root_addAll (tree : RoutingTree) (segments : List Segment) :
    (tree.addAll segments).root = tree.root := by
  induction segments generalizing tree with
  | nil => rfl
  | cons segment segments ih => exact (ih _).trans (root_addSegment tree _ _)

theorem dests_addAll (tree : RoutingTree) (segments : List Segment) :
    (tree.addAll segments).dests = tree.dests := by
  induction segments generalizing tree with
  | nil => rfl
  | cons segment segments ih => exact (ih _).trans (dests_addSegment tree _ _)

theorem relays?_addAll (h : tree.CanAddAll segments) (link : Link) (relays : List Node) :
    (tree.addAll segments).relays? link = some relays ↔
      tree.relays? link = some relays ∨ ⟨link, relays⟩ ∈ segments := by
  induction segments generalizing tree with
  | nil => simp [addAll]
  | cons segment segments ih =>
      obtain ⟨hloop, hnew⟩ := fst_addSegment_iff.mp h.fst_addSegment
      rw [addAll_cons, ih h.tail, relays?_addSegment hloop, List.mem_cons]
      by_cases hlink : segment.link = link
      · subst hlink
        rw [if_pos rfl, hnew]
        obtain ⟨link, own⟩ := segment
        simp [eq_comm]
      · have hne : (⟨link, relays⟩ : Segment) ≠ segment := fun heq => hlink (heq ▸ rfl)
        rw [if_neg hlink]
        simp [hne]

theorem ext_relays? {other : RoutingTree} (hroot : tree.root = other.root)
    (hdests : tree.dests = other.dests)
    (hrelays : ∀ link relays, tree.relays? link = some relays ↔ other.relays? link = some relays) :
    tree = other := by
  obtain ⟨root, segments, dests⟩ := tree
  obtain ⟨otherRoot, otherSegments, otherDests⟩ := other
  have hsegments : segments = otherSegments :=
    Std.ExtTreeMap.ext_getElem? fun link => Option.ext fun relays => hrelays link relays
  dsimp only at hroot hdests
  rw [hroot, hdests, hsegments]

theorem relays?_bare (root : Node) (dests : NodeSet) (link : Link) :
    (bare root dests).relays? link = none := Std.ExtTreeMap.getElem?_empty

/-- The segments of a tree that was built can be added to its root in any order. -/
theorem IsBuilt.canAddAll (h : tree.IsBuilt) (hperm : segments.Perm tree.segmentList) :
    (bare tree.root tree.dests).CanAddAll segments :=
  ⟨fun segment hmem => h.start_ne_stop segment (hperm.mem_iff.mp hmem),
    fun segment _ => relays?_bare tree.root tree.dests segment.link,
    (hperm.map Segment.link).nodup_iff.mpr tree.nodup_links⟩

/-- A tree is its root with its destinations and its segments. -/
theorem IsBuilt.addAll_eq (h : tree.IsBuilt) (hperm : segments.Perm tree.segmentList) :
    (bare tree.root tree.dests).addAll segments = tree := by
  refine ext_relays? (root_addAll _ _) (dests_addAll _ _) fun link relays => ?_
  rw [relays?_addAll (h.canAddAll hperm), relays?_bare, hperm.mem_iff, mem_segmentList]
  simp [relays?]

end Segments

end RoutingTree

namespace RoutingBoard

/-! ## Written boards -/

/-- Numbers in a line. -/
def numberLine (numbers : List Int) : String := " ".intercalate (numbers.map toString)

/-- Nodes as numbers. -/
def nodeNumbers (nodes : List Node) : List Int := nodes.map fun node : Nat => (node : Int)

/-- The attribute line of a tensor, with the root and the destinations of its tree. -/
def attributeLine (id : TensorId) (root : Node) (dests : List Node) : String :=
  numberLine (id :: nodeNumbers (root :: dests))

/-- The line of a segment, with its ends and its relays. -/
def segmentLine (segment : Segment) : String :=
  numberLine (nodeNumbers (RoutingTree.segmentNodes segment))

/-- The lines of a block: destinations in any order, and segments in any order. -/
inductive IsBlock (id : TensorId) (tree : RoutingTree) : List String → Prop
  | lines {dests : List Node} {segments : List Segment}
      (hdests : NodeSet.ofNodes dests = tree.dests)
      (hsegments : segments.Perm tree.segmentList) :
      IsBlock id tree (attributeLine id tree.root dests :: segments.map segmentLine)

/-- The lines of a board: blocks with blank lines between them, and more blank lines at the
beginning, between blocks or at the end. -/
inductive IsWritten : List (TensorId × RoutingTree) → List String → Prop
  | nil : IsWritten [] []
  | blank {blocks : List (TensorId × RoutingTree)} {blank : String} {lines : List String}
      (hblank : Text.IsBlankLine blank) (h : IsWritten blocks lines) :
      IsWritten blocks (blank :: lines)
  | last {id : TensorId} {tree : RoutingTree} {block : List String}
      (hblock : IsBlock id tree block) : IsWritten [(id, tree)] block
  | block {id : TensorId} {tree : RoutingTree} {block lines : List String} {blank : String}
      {blocks : List (TensorId × RoutingTree)} (hblock : IsBlock id tree block)
      (hblank : Text.IsBlankLine blank) (h : IsWritten blocks lines) :
      IsWritten ((id, tree) :: blocks) (block ++ blank :: lines)

/-- Whether a tree can be written for a tensor: it was built, passes validation and has a
segment, and the numbers of tensor and nodes are in the signed range. -/
structure IsWritable (id : TensorId) (tree : RoutingTree) : Prop where
  isBuilt : tree.IsBuilt
  validated : tree.validate = .ok ()
  hasSegments : tree.segmentList ≠ []
  id_signed : Text.IsSigned id
  nodes_le : ∀ node ∈ tree.nodes, node ≤ Text.maxSigned

section Lines

variable (line : Nat) {numbers : List Int} {nodes : List Node} {id : TensorId}
  {tree : RoutingTree} {segment : Segment} {segments : List Segment}

theorem wordsOf_numberLine (numbers : List Int) :
    Text.wordsOf (numberLine numbers) = numbers.map toString :=
  Text.wordsOf_joined (List.forall_mem_map.mpr fun number _ => Text.isWord_toString number)

theorem readNumbers_numberLine (h : ∀ number ∈ numbers, Text.IsSigned number) :
    readNumbers line (Text.wordsOf (numberLine numbers)) = .ok numbers := by
  rw [wordsOf_numberLine]
  induction numbers with
  | nil => rfl
  | cons number numbers ih =>
      obtain ⟨hnumber, hnumbers⟩ := List.forall_mem_cons.mp h
      rw [List.map_cons, readNumbers, Text.signed?_toString hnumber, ih hnumbers]
      rfl

theorem readNode_natCast (node : Node) : readNode line (node : Int) = .ok node := by
  unfold readNode
  rw [if_neg (by omega), Int.toNat_natCast]

theorem readNodes_nodeNumbers (nodes : List Node) :
    readNodes line (nodeNumbers nodes) = .ok nodes := by
  induction nodes with
  | nil => rfl
  | cons node nodes ih =>
      unfold nodeNumbers at ih ⊢
      rw [List.map_cons, readNodes, readNode_natCast line, ih]
      rfl

theorem isSigned_nodeNumbers (h : ∀ node ∈ nodes, node ≤ Text.maxSigned) :
    ∀ number ∈ nodeNumbers nodes, Text.IsSigned number :=
  List.forall_mem_map.mpr fun node hmem => Text.isSigned_natCast (h node hmem)

theorem readAttribute_attributeLine {root : Node} {dests : List Node} (hid : Text.IsSigned id)
    (hnodes : ∀ node ∈ root :: dests, node ≤ Text.maxSigned) :
    readAttribute line (Text.wordsOf (attributeLine id root dests)) =
      .ok (id, .bare root (NodeSet.ofNodes dests)) := by
  have hnumbers := readNumbers_numberLine line
    (List.forall_mem_cons.mpr ⟨hid, isSigned_nodeNumbers hnodes⟩)
  have hroot := readNode_natCast line root
  have hdests := readNodes_nodeNumbers line dests
  unfold readAttribute attributeLine
  rw [hnumbers]
  unfold nodeNumbers at hdests ⊢
  simp only [List.map_cons, bind, Except.bind, hroot, hdests]
  rfl

theorem readSegment_segmentLine (id : TensorId)
    (hnodes : ∀ node ∈ RoutingTree.segmentNodes segment, node ≤ Text.maxSigned)
    (hok : (tree.addSegment segment.link segment.relays).1 = .ok ()) :
    readSegment line (Text.wordsOf (segmentLine segment)) id tree =
      .ok (tree.addSegment segment.link segment.relays).2 := by
  have hnumbers := readNumbers_numberLine line (isSigned_nodeNumbers hnodes)
  have hstart := readNode_natCast line segment.link.start
  have hstop := readNode_natCast line segment.link.stop
  have hrelays := readNodes_nodeNumbers line segment.relays
  have hadded : tree.addSegment segment.link segment.relays =
      (.ok (), (tree.addSegment segment.link segment.relays).2) := Prod.ext hok rfl
  unfold readSegment segmentLine
  rw [hnumbers]
  unfold nodeNumbers RoutingTree.segmentNodes at *
  simp only [List.map_cons, bind, Except.bind, hstart, hstop, hrelays]
  rw [hadded]
  rfl

/-! ## Reading the lines back -/

theorem isEmpty_wordsOf_numberLine (number : Int) (numbers : List Int) :
    (Text.wordsOf (numberLine (number :: numbers))).isEmpty = false := by
  rw [wordsOf_numberLine]
  rfl

/-- An attribute line opens a block. -/
theorem passLine?_attributeLine {root : Node} {dests : List Node} (hid : Text.IsSigned id)
    (hnodes : ∀ node ∈ root :: dests, node ≤ Text.maxSigned) :
    passLine? .between (Text.wordsOf (attributeLine id root dests)) =
      some ⟨[], .attribute id (.bare root (NodeSet.ofNodes dests))⟩ := by
  have hwords : (Text.wordsOf (attributeLine id root dests)).isEmpty = false :=
    isEmpty_wordsOf_numberLine _ _
  unfold passLine?
  rw [hwords, readAttribute_attributeLine 0 hid hnodes]
  rfl

/-- A segment line adds its segment to the tree of the open block. -/
theorem passLine?_segmentLine {place : Place} (hopen : place.openBlock = [(id, tree)])
    (hnodes : ∀ node ∈ RoutingTree.segmentNodes segment, node ≤ Text.maxSigned)
    (hok : (tree.addSegment segment.link segment.relays).1 = .ok ()) :
    passLine? place (Text.wordsOf (segmentLine segment)) =
      some ⟨[], .segments id (tree.addSegment segment.link segment.relays).2⟩ := by
  have hwords : (Text.wordsOf (segmentLine segment)).isEmpty = false :=
    isEmpty_wordsOf_numberLine _ _
  have hread := readSegment_segmentLine 0 id hnodes hok
  unfold passLine?
  rw [hwords, if_neg Bool.false_ne_true]
  cases place with
  | between => nomatch hopen
  | «attribute» other root | segments other root =>
      obtain ⟨rfl, rfl⟩ := Prod.mk.inj (List.singleton_inj.mp hopen)
      dsimp only
      rw [hread]
      rfl

theorem pass?_segmentLines {place : Place} (hopen : place.openBlock = [(id, tree)])
    (hnodes : ∀ next ∈ segment :: segments, ∀ node ∈ RoutingTree.segmentNodes next,
      node ≤ Text.maxSigned)
    (hadd : tree.CanAddAll (segment :: segments)) :
    pass? place ((segment :: segments).map fun next => Text.wordsOf (segmentLine next)) =
      some ⟨[], .segments id (tree.addAll (segment :: segments))⟩ := by
  induction segments generalizing place tree segment with
  | nil =>
      rw [List.map_singleton, pass?_cons, passLine?_segmentLine hopen
        (hnodes segment List.mem_cons_self) hadd.fst_addSegment]
      rfl
  | cons next segments ih =>
      obtain ⟨hfirst, hnodes⟩ := List.forall_mem_cons.mp hnodes
      rw [List.map_cons, pass?_cons, passLine?_segmentLine hopen hfirst hadd.fst_addSegment,
        Option.bind_some, ih rfl hnodes hadd.tail]
      rfl

theorem IsWritable.root_le (h : IsWritable id tree) {dests : List Node}
    (hdests : NodeSet.ofNodes dests = tree.dests) :
    ∀ node ∈ tree.root :: dests, node ≤ Text.maxSigned := by
  refine List.forall_mem_cons.mpr ⟨h.nodes_le _ (RoutingTree.mem_nodes.mpr (.inl rfl)), ?_⟩
  intro node hmem
  refine h.nodes_le node (RoutingTree.mem_nodes.mpr (.inr (.inr ?_)))
  rw [← hdests, ← Std.ExtTreeSet.mem_toList]
  exact NodeSet.mem_ofNodes.mpr hmem

theorem IsWritable.segment_le (h : IsWritable id tree) (hperm : segments.Perm tree.segmentList) :
    ∀ segment ∈ segments, ∀ node ∈ RoutingTree.segmentNodes segment, node ≤ Text.maxSigned :=
  fun segment hmem node hnode => h.nodes_le node
    (RoutingTree.mem_nodes.mpr (.inr (.inl ⟨segment, hperm.mem_iff.mp hmem, hnode⟩)))

/-- The lines of a block are read as its tree. -/
theorem pass?_block {block : List String} (hblock : IsBlock id tree block)
    (h : IsWritable id tree) :
    pass? .between (block.map Text.wordsOf) = some ⟨[], .segments id tree⟩ := by
  obtain @⟨dests, segments, hdests, hperm⟩ := hblock
  have hadd := h.isBuilt.canAddAll hperm
  have hsame := h.isBuilt.addAll_eq hperm
  rw [List.map_cons, pass?_cons, passLine?_attributeLine h.id_signed (h.root_le hdests), hdests,
    Option.bind_some, List.map_map]
  cases segments with
  | nil => exact absurd hperm.symm.eq_nil h.hasSegments
  | cons segment segments =>
      have hopen : (Place.attribute id (.bare tree.root tree.dests)).openBlock =
        [(id, .bare tree.root tree.dests)] := rfl
      have hrest := pass?_segmentLines hopen (h.segment_le hperm) hadd
      rw [hsame] at hrest
      unfold Function.comp
      rw [hrest]
      rfl

theorem not_mem_numberLine (numbers : List Int) : '\n' ∉ (numberLine numbers).toList := by
  refine Text.not_mem_joined (by decide) (List.forall_mem_map.mpr fun number _ hmem => ?_)
  have hblank := (Text.isWord_toString number).not_blank '\n' hmem
  exact absurd hblank (by decide)

end Lines

theorem IsBlock.not_mem {id : TensorId} {tree : RoutingTree} {block : List String}
    (h : IsBlock id tree block) : ∀ line ∈ block, '\n' ∉ line.toList := by
  obtain ⟨-, -⟩ := h
  exact List.forall_mem_cons.mpr ⟨not_mem_numberLine _,
    List.forall_mem_map.mpr fun segment _ => not_mem_numberLine _⟩

section Boards

variable {blocks : List (TensorId × RoutingTree)} {lines : List String}

/-- The lines of a board are lines. -/
theorem IsWritten.not_mem (h : IsWritten blocks lines) : ∀ line ∈ lines, '\n' ∉ line.toList := by
  induction h with
  | nil => exact fun _ hmem => nomatch hmem
  | blank hblank _ ih => exact List.forall_mem_cons.mpr ⟨hblank.not_mem, ih⟩
  | last hblock => exact hblock.not_mem
  | block hblock hblank _ ih =>
      exact List.forall_mem_append.mpr
        ⟨hblock.not_mem, List.forall_mem_cons.mpr ⟨hblank.not_mem, ih⟩⟩

/-- The blocks of a written board are those that were written. -/
theorem blocks?_of_isWritten (h : IsWritten blocks lines)
    (hblocks : ∀ block ∈ blocks, IsWritable block.1 block.2) :
    blocks? .between (lines.map Text.wordsOf) = some blocks := by
  induction h with
  | nil => rfl
  | blank hblank _ ih =>
      have hline : passLine? .between [] = some ⟨[], .between⟩ := rfl
      rw [List.map_cons, hblank.wordsOf_eq, blocks?_cons, hline, Option.bind_some, ih hblocks]
      rfl
  | last hblock =>
      unfold blocks?
      rw [pass?_block hblock (hblocks _ List.mem_cons_self)]
      rfl
  | @block id tree _ _ _ _ hblock hblank _ ih =>
      obtain ⟨hfirst, hblocks⟩ := List.forall_mem_cons.mp hblocks
      have hline : passLine? (.segments id tree) [] = some ⟨[(id, tree)], .between⟩ := rfl
      rw [List.map_append, List.map_cons, hblank.wordsOf_eq, blocks?_append,
        pass?_block hblock hfirst, Option.bind_some, blocks?_cons, hline, Option.bind_some,
        ih hblocks]
      rfl

/-- A written board is read as the board that has the trees that were written. -/
theorem read_of_isWritten (h : IsWritten blocks lines) (hids : (blocks.map Prod.fst).Nodup)
    (hblocks : ∀ block ∈ blocks, IsWritable block.1 block.2) :
    ∃ board, read (Text.ofLines lines) = .ok board ∧
      ∀ (id : TensorId) (tree : RoutingTree),
        board.get? id = some tree ↔ (id, tree) ∈ blocks := by
  have hfound : blocks? .between ((Text.linesOf (Text.ofLines lines)).map Text.wordsOf) =
      some blocks := by
    rw [Text.map_wordsOf_linesOf_ofLines h.not_mem]
    exact blocks?_of_isWritten h hblocks
  obtain ⟨board, hboard⟩ := exists_enterAll_iff.mpr
    ⟨fun block hmem => ⟨(hblocks block hmem).validated, get?_empty block.1⟩, hids⟩
  refine ⟨board, read_eq_ok_iff.mpr ⟨blocks, hfound, hboard⟩, fun id tree => ?_⟩
  rw [get?_of_enterAll hboard, get?_empty]
  simp

end Boards

/-- A tree that forks at node 1, with a relay on the way to one of its destinations. -/
def forked : RoutingTree :=
  { (RoutingTree.ofRoot 0).addAll [⟨⟨0, 1⟩, []⟩, ⟨⟨1, 2⟩, []⟩, ⟨⟨1, 3⟩, [7]⟩] with
    dests := NodeSet.ofNodes [2, 3] }

/-- A tree of one segment. -/
def single : RoutingTree :=
  { (RoutingTree.ofRoot 4).addAll [⟨⟨4, 1⟩, [5, 6]⟩] with dests := NodeSet.ofNodes [1] }

/-- Two trees are read back, the segments and destinations of one of them in another order. -/
theorem forked_and_single_read :
    ∃ board,
      read (Text.ofLines ["", "5 0 3 2", "1 3 7", "0 1", "1 2", " \t", "", "-9 4 1", "4 1 5 6"]) =
        .ok board ∧
      ∀ (id : TensorId) (tree : RoutingTree),
        board.get? id = some tree ↔ (id, tree) ∈ [((5 : Int), forked), (-9, single)] := by
  have hforked : IsBlock 5 forked ["5 0 3 2", "1 3 7", "0 1", "1 2"] :=
    @IsBlock.lines 5 forked [3, 2] [⟨⟨1, 3⟩, [7]⟩, ⟨⟨0, 1⟩, []⟩, ⟨⟨1, 2⟩, []⟩]
      (by decide +kernel) (by decide +kernel)
  have hsingle : IsBlock (-9) single ["-9 4 1", "4 1 5 6"] :=
    @IsBlock.lines (-9) single [1] [⟨⟨4, 1⟩, [5, 6]⟩] (by decide +kernel) (by decide +kernel)
  have hwritten : IsWritten [(5, forked), (-9, single)]
      ["", "5 0 3 2", "1 3 7", "0 1", "1 2", " \t", "", "-9 4 1", "4 1 5 6"] :=
    .blank (by decide) (.block hforked (by decide) (.blank (by decide) (.last hsingle)))
  have hblocks : ∀ block ∈ [((5 : Int), forked), (-9, single)], IsWritable block.1 block.2 := by
    have hnodes : (∀ node ∈ forked.nodes.toList, node ≤ Text.maxSigned) ∧
        ∀ node ∈ single.nodes.toList, node ≤ Text.maxSigned := by decide +kernel
    refine List.forall_mem_cons.mpr ⟨?_, List.forall_mem_singleton.mpr ?_⟩
    · exact ⟨((RoutingTree.IsBuilt.ofRoot 0).addAll
          ⟨by decide, by decide +kernel, by decide⟩).setDests _,
        by decide +kernel, by decide +kernel, ⟨by decide, by decide⟩,
        fun node hmem => hnodes.1 node (Std.ExtTreeSet.mem_toList.mpr hmem)⟩
    · exact ⟨((RoutingTree.IsBuilt.ofRoot 4).addAll
          ⟨by decide, by decide +kernel, by decide⟩).setDests _,
        by decide +kernel, by decide +kernel, ⟨by decide, by decide⟩,
        fun node hmem => hnodes.2 node (Std.ExtTreeSet.mem_toList.mpr hmem)⟩
  exact read_of_isWritten hwritten (by decide) hblocks

end RoutingBoard

end CoreArray
