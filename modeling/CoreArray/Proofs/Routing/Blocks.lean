import CoreArray.Proofs.Results
import CoreArray.Proofs.Routing.Routes
import CoreArray.Proofs.Text.Words
set_option autoImplicit false

/-!
# The blocks of a routing board (SPEC §4.2, §6)

A board is read in one go: each block is validated and added to the board where it ends.
Here the two are taken apart.  `blocks?` collects the blocks that lines hold, and
`enterAll?` adds their trees to a board; reading a text is one after the other
(`toOption_read`).

Trees can be added exactly if they are valid and for different tensors, and then the board
has them all (`exists_enterAll_iff`, `get?_of_enterAll`).  The blocks of lines are those of a
first part and of what follows, read from the place to which the first part leads
(`blocks?_append`).
-/

namespace CoreArray.RoutingBoard

/-! ## Adding trees -/

/-- Add trees one after the other, if all of them can be added. -/
def enterAll? (board : RoutingBoard) : List (TensorId × RoutingTree) → Option RoutingBoard
  | [] => some board
  | (id, tree) :: blocks =>
      (board.enter id tree).toOption.bind fun board => board.enterAll? blocks

/-- Whether no tensor has a tree on both boards. -/
def IsDisjoint (first second : RoutingBoard) : Prop :=
  ∀ id : TensorId, first.get? id = none ∨ second.get? id = none

/-- Whether a board has the trees of two others. -/
def IsUnion (board first second : RoutingBoard) : Prop :=
  ∀ (id : TensorId) (tree : RoutingTree),
    board.get? id = some tree ↔ first.get? id = some tree ∨ second.get? id = some tree

section Entering

variable {board after : RoutingBoard} {blocks others : List (TensorId × RoutingTree)}

theorem get?_empty (id : TensorId) : empty.get? id = none := by simp [empty, get?]

/-- Boards with the same trees are equal. -/
theorem ext_get? (h : ∀ (id : TensorId) (tree : RoutingTree),
    board.get? id = some tree ↔ after.get? id = some tree) : board = after := by
  obtain ⟨trees⟩ := board
  obtain ⟨others⟩ := after
  exact congrArg RoutingBoard.mk
    (Std.ExtTreeMap.ext_getElem? fun id => Option.ext fun tree => h id tree)

theorem enterAll?_append : board.enterAll? (blocks ++ others) =
    (board.enterAll? blocks).bind fun board => board.enterAll? others := by
  induction blocks generalizing board with
  | nil => rfl
  | cons block blocks ih =>
      obtain ⟨id, tree⟩ := block
      rw [List.cons_append, enterAll?, enterAll?, Option.bind_assoc]
      exact congrArg _ (funext fun next => ih)

theorem enterAll?_cons_eq_some_iff {id : TensorId} {tree : RoutingTree} :
    board.enterAll? ((id, tree) :: blocks) = some after ↔
      tree.validate = .ok () ∧ board.get? id = none ∧
        (RoutingBoard.mk (board.trees.insert id tree)).enterAll? blocks = some after := by
  rw [enterAll?, Option.bind_eq_some_iff]
  simp only [toOption_eq_some_iff, enter_eq_ok_iff]
  constructor
  · rintro ⟨next, ⟨hvalid, hnew, rfl⟩, hrest⟩
    exact ⟨hvalid, hnew, hrest⟩
  · rintro ⟨hvalid, hnew, hrest⟩
    exact ⟨_, ⟨hvalid, hnew, rfl⟩, hrest⟩

/-- Trees can be added if they are valid and for different tensors that have none yet. -/
theorem exists_enterAll_iff : (∃ after, board.enterAll? blocks = some after) ↔
    (∀ block ∈ blocks, block.2.validate = .ok () ∧ board.get? block.1 = none) ∧
      (blocks.map Prod.fst).Nodup := by
  induction blocks generalizing board with
  | nil => exact iff_of_true ⟨board, rfl⟩ ⟨by simp, List.nodup_nil⟩
  | cons block blocks ih =>
      obtain ⟨id, tree⟩ := block
      have hnew : ∀ other : TensorId,
          (RoutingBoard.mk (board.trees.insert id tree)).get? other = none ↔
            id ≠ other ∧ board.get? other = none := by
        intro other
        rw [get?_insert]
        split
        · next hsame => simp [hsame]
        · next hother => simp [hother]
      simp only [enterAll?_cons_eq_some_iff, exists_and_left, ih, hnew, List.forall_mem_cons,
        List.map_cons, List.nodup_cons, List.mem_map, not_exists, not_and]
      constructor
      · rintro ⟨hvalid, hfree, hrest, hnodup⟩
        exact ⟨⟨⟨hvalid, hfree⟩, fun other hmem => ⟨(hrest other hmem).1, (hrest other hmem).2.2⟩⟩,
          fun other hmem hsame => (hrest other hmem).2.1 hsame.symm, hnodup⟩
      · rintro ⟨⟨⟨hvalid, hfree⟩, hrest⟩, hothers, hnodup⟩
        exact ⟨hvalid, hfree, fun other hmem => ⟨(hrest other hmem).1,
          fun hsame => hothers other hmem hsame.symm, (hrest other hmem).2⟩, hnodup⟩

/-- A board to which trees have been added has these and its own. -/
theorem get?_of_enterAll (h : board.enterAll? blocks = some after) (id : TensorId)
    (tree : RoutingTree) :
    after.get? id = some tree ↔ board.get? id = some tree ∨ (id, tree) ∈ blocks := by
  induction blocks generalizing board with
  | nil =>
      rw [enterAll?, Option.some.injEq] at h
      simp [h]
  | cons block blocks ih =>
      obtain ⟨first, root⟩ := block
      obtain ⟨-, hfree, hrest⟩ := enterAll?_cons_eq_some_iff.mp h
      rw [ih hrest, get?_insert, List.mem_cons, Prod.mk.injEq]
      by_cases hsame : first = id
      · subst hsame
        rw [if_pos rfl, hfree]
        simp [eq_comm]
      · rw [if_neg hsame]
        simp [Ne.symm hsame]

/-- Blocks can be added to a board if they can be added to an empty one, and the boards have
no tensor in common. -/
theorem enterAll?_append_iff : empty.enterAll? (blocks ++ others) = some board ↔
    ∃ first second, empty.enterAll? blocks = some first ∧ empty.enterAll? others = some second ∧
      first.IsDisjoint second ∧ board.IsUnion first second := by
  rw [enterAll?_append, Option.bind_eq_some_iff]
  constructor
  · rintro ⟨first, hfirst, hboard⟩
    obtain ⟨hothers, hnodup⟩ := exists_enterAll_iff.mp ⟨board, hboard⟩
    obtain ⟨second, hsecond⟩ := exists_enterAll_iff.mpr
      ⟨fun block hmem => ⟨(hothers block hmem).1, get?_empty block.1⟩, hnodup⟩
    have hget := get?_of_enterAll hsecond
    simp only [get?_empty, reduceCtorEq, false_or] at hget
    refine ⟨first, second, hfirst, hsecond, fun id => ?_, fun id tree => ?_⟩
    · cases hfound : second.get? id with
      | none => exact .inr rfl
      | some tree => exact .inl (hothers _ ((hget id tree).mp hfound)).2
    · rw [get?_of_enterAll hboard, hget]
  · rintro ⟨first, second, hfirst, hsecond, hdisjoint, hunion⟩
    have hget := get?_of_enterAll hsecond
    simp only [get?_empty, reduceCtorEq, false_or] at hget
    obtain ⟨hothers, hnodup⟩ := exists_enterAll_iff.mp ⟨second, hsecond⟩
    have hfree : ∀ block ∈ others, first.get? block.1 = none := by
      intro block hmem
      have hfound := (hget block.1 block.2).mpr hmem
      refine (hdisjoint block.1).resolve_right ?_
      rw [hfound]
      exact Option.some_ne_none _
    obtain ⟨after, hafter⟩ := exists_enterAll_iff.mpr
      ⟨fun block hmem => ⟨(hothers block hmem).1, hfree block hmem⟩, hnodup⟩
    have hsame : after = board := by
      refine ext_get? fun id tree => ?_
      rw [get?_of_enterAll hafter, hunion id tree, hget]
    exact ⟨first, hfirst, hsame ▸ hafter⟩

end Entering

/-! ## Finding blocks -/

/-- The block that is open at a place. -/
def Place.openBlock : Place → List (TensorId × RoutingTree)
  | .between => []
  | .attribute id tree | .segments id tree => [(id, tree)]

/-- What lines do: the blocks that they end, and the place to which they lead. -/
structure Passage where
  ended : List (TensorId × RoutingTree)
  place : Place

/-- The same after other blocks. -/
def Passage.behind (blocks : List (TensorId × RoutingTree)) (passage : Passage) : Passage :=
  { passage with ended := blocks ++ passage.ended }

/-- All blocks when the text ends here. -/
def Passage.blocks (passage : Passage) : List (TensorId × RoutingTree) :=
  passage.ended ++ passage.place.openBlock

/-- What a line does, given by its words. -/
def passLine? (place : Place) (words : List String) : Option Passage :=
  if words.isEmpty then
    match place with
    | .segments id tree => some ⟨[(id, tree)], .between⟩
    | place => some ⟨[], place⟩
  else
    match place with
    | .between => (readAttribute 0 words).toOption.map fun (id, tree) => ⟨[], .attribute id tree⟩
    | .attribute id tree | .segments id tree =>
        (readSegment 0 words id tree).toOption.map fun tree => ⟨[], .segments id tree⟩

/-- What lines do, given by their words. -/
def pass? (place : Place) : List (List String) → Option Passage
  | [] => some ⟨[], place⟩
  | words :: lines =>
      (passLine? place words).bind fun first =>
        (pass? first.place lines).map fun rest => rest.behind first.ended

/-- The blocks that lines hold. -/
def blocks? (place : Place) (lines : List (List String)) :
    Option (List (TensorId × RoutingTree)) :=
  (pass? place lines).map Passage.blocks

section Finding

variable {board : RoutingBoard} {place : Place} {words : List String}
  {lines others : List (List String)}

theorem Passage.behind_behind (passage : Passage) (first second : List (TensorId × RoutingTree)) :
    (passage.behind second).behind first = passage.behind (first ++ second) :=
  congrArg (Passage.mk · passage.place) (List.append_assoc first second passage.ended).symm

theorem Passage.blocks_behind (passage : Passage) (first : List (TensorId × RoutingTree)) :
    (passage.behind first).blocks = first ++ passage.blocks :=
  List.append_assoc first passage.ended passage.place.openBlock

theorem pass?_cons : pass? place (words :: lines) =
    (passLine? place words).bind fun first =>
      (pass? first.place lines).map fun rest => rest.behind first.ended := rfl

/-- What a first part does and then what follows it. -/
theorem pass?_append : pass? place (lines ++ others) =
    (pass? place lines).bind fun first =>
      (pass? first.place others).map fun rest => rest.behind first.ended := by
  induction lines generalizing place with
  | nil =>
      rw [List.nil_append, pass?, Option.bind_some]
      exact Option.map_id'.symm
  | cons words lines ih =>
      rw [List.cons_append, pass?_cons, pass?_cons, Option.bind_assoc]
      refine congrArg _ (funext fun first => ?_)
      rw [ih, Option.bind_map, Option.map_bind]
      refine congrArg _ (funext fun middle => ?_)
      rw [Function.comp_apply, Option.map_map, Function.comp_apply]
      exact congrArg (Option.map · _) (funext fun rest =>
        rest.behind_behind first.ended middle.ended)

theorem blocks?_append : blocks? place (lines ++ others) =
    (pass? place lines).bind fun first =>
      (blocks? first.place others).map fun blocks => first.ended ++ blocks := by
  unfold blocks?
  rw [pass?_append, Option.map_bind]
  refine congrArg _ (funext fun first => ?_)
  rw [Function.comp_apply, Option.map_map, Option.map_map]
  exact congrArg (Option.map · _) (funext fun rest => rest.blocks_behind first.ended)

theorem blocks?_cons : blocks? place (words :: lines) =
    (passLine? place words).bind fun first =>
      (blocks? first.place lines).map fun blocks => first.ended ++ blocks := by
  unfold blocks?
  rw [pass?_cons, Option.map_bind]
  refine congrArg _ (funext fun first => ?_)
  rw [Function.comp_apply, Option.map_map, Option.map_map]
  exact congrArg (Option.map · _) (funext fun rest => rest.blocks_behind first.ended)

end Finding

/-! ## Reading -/

section Reading

variable {board : RoutingBoard} {place : Place} {words : List String}
  {lines others : List (List String)}

/-! Whether a line can be read does not depend on its number. -/

theorem toOption_readNumbers (line other : Nat) :
    (readNumbers line words).toOption = (readNumbers other words).toOption := by
  induction words with
  | nil => rfl
  | cons word words ih =>
      unfold readNumbers
      cases Text.signed? word with
      | none => rfl
      | some value => rw [toOption_map, toOption_map, ih]

theorem toOption_readNode (line other : Nat) (value : Int) :
    (readNode line value).toOption = (readNode other value).toOption := by
  unfold readNode
  split <;> rfl

theorem toOption_readNodes (line other : Nat) (values : List Int) :
    (readNodes line values).toOption = (readNodes other values).toOption := by
  induction values with
  | nil => rfl
  | cons value values ih =>
      unfold readNodes
      simp only [toOption_bind, toOption_readNode line other, ih]

theorem toOption_readAttribute (line other : Nat) :
    (readAttribute line words).toOption = (readAttribute other words).toOption := by
  unfold readAttribute
  rw [toOption_bind, toOption_bind, toOption_readNumbers line other]
  refine congrArg _ (funext fun values => ?_)
  split
  · simp only [toOption_bind, toOption_readNode line other, toOption_readNodes line other]
  · rfl

theorem toOption_readSegment (line other : Nat) (id : TensorId) (tree : RoutingTree) :
    (readSegment line words id tree).toOption = (readSegment other words id tree).toOption := by
  unfold readSegment
  rw [toOption_bind, toOption_bind, toOption_readNumbers line other]
  refine congrArg _ (funext fun values => ?_)
  split
  · simp only [toOption_bind, toOption_readNode line other, toOption_readNodes line other]
  · rfl

/-- To read a line is to add the block that it ends. -/
theorem toOption_readLine (line : Nat) : (board.readLine place line words).toOption =
    (passLine? place words).bind fun passage =>
      (board.enterAll? passage.ended).map fun board => (board, passage.place) := by
  unfold RoutingBoard.readLine passLine?
  split
  · cases place with
    | segments id tree =>
        rw [toOption_map, Option.bind_some, enterAll?]
        cases (board.enter id tree).toOption <;> rfl
    | between => rfl
    | «attribute» id tree => rfl
  · cases place with
    | between =>
        rw [toOption_map, toOption_readAttribute line 0]
        cases (readAttribute 0 words).toOption <;> rfl
    | «attribute» id tree | segments id tree =>
        rw [toOption_map, toOption_readSegment line 0]
        dsimp only
        cases (readSegment 0 words id tree).toOption <;> rfl

theorem readLines_cons (number : Nat) (line : String) (entries : List (Nat × String)) :
    board.readLines place ((number, line) :: entries) =
      board.readLine place number (Text.wordsOf line) >>= fun read =>
        read.1.readLines read.2 entries := by
  rw [RoutingBoard.readLines]
  cases board.readLine place number (Text.wordsOf line) <;> rfl

theorem toOption_readLines (entries : List (Nat × String)) :
    (board.readLines place entries).toOption =
      (blocks? place (entries.map fun entry => Text.wordsOf entry.2)).bind fun blocks =>
        board.enterAll? blocks := by
  induction entries generalizing board place with
  | nil =>
      cases place with
      | between => rfl
      | «attribute» id tree | segments id tree =>
          exact (Option.bind_fun_some (board.enter id tree).toOption).symm
  | cons entry entries ih =>
      obtain ⟨number, line⟩ := entry
      rw [readLines_cons, toOption_bind, toOption_readLine, List.map_cons, blocks?_cons,
        Option.bind_assoc, Option.bind_assoc]
      refine congrArg _ (funext fun passage => ?_)
      simp only [Option.bind_map, Function.comp_def, ih, enterAll?_append]
      -- The blocks of the later lines may be found before that of the first is added.
      exact Option.bind_comm _ _

theorem map_snd_numberFrom {α : Type} (n : Nat) (items : List α) :
    (Text.numberFrom n items).map Prod.snd = items := by
  induction items generalizing n with
  | nil => rfl
  | cons item items ih => rw [Text.numberFrom, List.map_cons, ih]

/-- To read a board is to find its blocks and to add them to the empty board. -/
theorem toOption_read (text : String) : (read text).toOption =
    (blocks? .between ((Text.linesOf text).map Text.wordsOf)).bind fun blocks =>
      empty.enterAll? blocks := by
  unfold read
  rw [toOption_readLines, ← map_snd_numberFrom 1 (Text.linesOf text), List.map_map,
    map_snd_numberFrom]
  rfl

/-- A text is read if its blocks can be found and added to the empty board. -/
theorem read_eq_ok_iff {text : String} : read text = .ok board ↔
    ∃ blocks, blocks? .between ((Text.linesOf text).map Text.wordsOf) = some blocks ∧
      empty.enterAll? blocks = some board := by
  rw [← toOption_eq_some_iff, toOption_read, Option.bind_eq_some_iff]

end Reading

end CoreArray.RoutingBoard
