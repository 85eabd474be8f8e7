import Mathlib.Data.List.Nodup
import CoreArray.Proofs.Routing.Blocks
set_option autoImplicit false

/-!
# Blank lines in a routing board (SPEC §4.2, §6)

A blank line ends a block that has segments, and does nothing between two blocks.  Straight
after an attribute line it does nothing either: the block stays open, and what follows is
read as its segments, be it meant as a block of its own.

`read_append_blank_iff` says what this means for two texts with a blank line between them.
At which stage the first one ends is seen from its lines alone, by counting those that are
not blank (`stage_of_pass`).
-/

namespace CoreArray.RoutingBoard

/-- How far a block has come. -/
inductive Stage where
  /-- No block is open. -/
  | between
  /-- The attribute line of the block was its only line so far. -/
  | attribute
  /-- The block has segment lines. -/
  | segments
  deriving DecidableEq

/-- The stage after a line, given by its words. -/
def Stage.next (stage : Stage) (words : List String) : Stage :=
  match stage, words.isEmpty with
  | .between, true => .between
  | .between, false => .attribute
  | .attribute, true => .attribute
  | .segments, true => .between
  | .attribute, false | .segments, false => .segments

/-- The stage at the end of a text. -/
def stageAfter (text : String) : Stage :=
  ((Text.linesOf text).map Text.wordsOf).foldl Stage.next .between

/-- The stage at a place. -/
def Place.stage : Place → Stage
  | .between => .between
  | .attribute _ _ => .attribute
  | .segments _ _ => .segments

section Blank

variable {place : Place} {passage : Passage} {words : List String}
  {lines others : List (List String)}

theorem stage_of_passLine (h : passLine? place words = some passage) :
    passage.place.stage = place.stage.next words := by
  cases words with
  | nil =>
      cases place with
      | between | «attribute» id tree | segments id tree =>
          rw [← Option.some.inj h]
          rfl
  | cons word words =>
      cases place with
      | between | «attribute» id tree | segments id tree =>
          obtain ⟨read, -, rfl⟩ := Option.map_eq_some_iff.mp h
          rfl

theorem stage_of_pass (h : pass? place lines = some passage) :
    passage.place.stage = lines.foldl Stage.next place.stage := by
  induction lines generalizing place passage with
  | nil =>
      rw [← Option.some.inj h]
      rfl
  | cons words lines ih =>
      rw [pass?_cons, Option.bind_eq_some_iff] at h
      obtain ⟨first, hfirst, hrest⟩ := h
      obtain ⟨rest, hpass, rfl⟩ := Option.map_eq_some_iff.mp hrest
      have hstage := ih hpass
      rw [List.foldl_cons, ← stage_of_passLine hfirst]
      exact hstage

/-- A blank line ends a block that has segments. -/
theorem passLine?_blank (h : place.stage ≠ .attribute) :
    passLine? place [] = some ⟨place.openBlock, .between⟩ := by
  cases place with
  | between => rfl
  | «attribute» id tree => exact absurd rfl h
  | segments id tree => rfl

/-- A blank line straight after an attribute line does nothing. -/
theorem passLine?_blank_of_attribute (h : place.stage = .attribute) :
    passLine? place [] = some ⟨[], place⟩ := by
  cases place with
  | between => nomatch h
  | «attribute» id tree => rfl
  | segments id tree => nomatch h

/-- The blocks around a blank line that ends a block. -/
theorem blocks?_append_blank (place : Place)
    (h : lines.foldl Stage.next place.stage ≠ .attribute) :
    blocks? place (lines ++ [] :: others) =
      (blocks? place lines).bind fun blocks =>
        (blocks? .between others).map fun added => blocks ++ added := by
  rw [blocks?_append, blocks?, Option.bind_map]
  cases hpass : pass? place lines with
  | none => rfl
  | some first =>
      rw [← stage_of_pass hpass] at h
      rw [Option.bind_some, Option.bind_some, blocks?_cons, passLine?_blank h, Option.bind_some,
        Option.map_map]
      exact congrArg (Option.map · _) (funext fun added =>
        (List.append_assoc first.ended first.place.openBlock added).symm)

/-- The blocks around a blank line that does nothing. -/
theorem blocks?_append_blank_of_attribute (place : Place)
    (h : lines.foldl Stage.next place.stage = .attribute) :
    blocks? place (lines ++ [] :: others) = blocks? place (lines ++ others) := by
  rw [blocks?_append, blocks?_append]
  cases hpass : pass? place lines with
  | none => rfl
  | some first =>
      rw [← stage_of_pass hpass] at h
      rw [Option.bind_some, Option.bind_some, blocks?_cons, passLine?_blank_of_attribute h,
        Option.bind_some, Option.map_map]
      rfl

end Blank

/-- A blank line after the lines of a text is read as a line without words. -/
theorem map_wordsOf_append_blank {front blank : String} (hfront : Text.EndsLine front)
    (hblank : Text.IsBlankLine blank) (back : String) :
    (Text.linesOf (front ++ (blank ++ "\n") ++ back)).map Text.wordsOf =
      (Text.linesOf front).map Text.wordsOf ++ [] :: (Text.linesOf back).map Text.wordsOf := by
  have hline : (Text.linesOf (blank ++ "\n")).map Text.wordsOf = [[]] := by
    rw [← Text.ofLines_singleton, Text.map_wordsOf_linesOf_ofLines, List.map_singleton,
      hblank.wordsOf_eq]
    intro line hmem hfeed
    rw [List.mem_singleton.mp hmem] at hfeed
    exact hblank.not_mem hfeed
  rw [String.append_assoc, Text.linesOf_append hfront,
    Text.linesOf_append (.inr ⟨blank, rfl⟩), List.map_append, List.map_append, hline]
  rfl

/-- Two texts with a blank line between them.  If the first one does not end with an attribute
line that has no segments yet, they are read exactly if each of them is and they have no
tensor in common, and the board has the trees of both.  Otherwise it is as if the blank line
were not there, so that the second text goes on with the open block of the first. -/
theorem read_append_blank_iff {front blank : String} (hfront : Text.EndsLine front)
    (hblank : Text.IsBlankLine blank) (back : String) (board : RoutingBoard) :
    (stageAfter front ≠ .attribute →
      (read (front ++ (blank ++ "\n") ++ back) = .ok board ↔
        ∃ first second, read front = .ok first ∧ read back = .ok second ∧
          first.IsDisjoint second ∧ board.IsUnion first second)) ∧
      (stageAfter front = .attribute →
        (read (front ++ (blank ++ "\n") ++ back) = .ok board ↔
          read (front ++ back) = .ok board)) := by
  constructor
  · intro hstage
    simp only [read_eq_ok_iff, map_wordsOf_append_blank hfront hblank,
      blocks?_append_blank .between hstage]
    constructor
    · rintro ⟨all, hall, hboard⟩
      obtain ⟨blocks, hblocks, hrest⟩ := Option.bind_eq_some_iff.mp hall
      obtain ⟨others, hothers, rfl⟩ := Option.map_eq_some_iff.mp hrest
      obtain ⟨first, second, hfirst, hsecond, htogether⟩ := enterAll?_append_iff.mp hboard
      exact ⟨first, second, ⟨blocks, hblocks, hfirst⟩, ⟨others, hothers, hsecond⟩, htogether⟩
    · rintro ⟨first, second, ⟨blocks, hblocks, hfirst⟩, ⟨others, hothers, hsecond⟩, htogether⟩
      refine ⟨blocks ++ others, ?_,
        enterAll?_append_iff.mpr ⟨first, second, hfirst, hsecond, htogether⟩⟩
      rw [hblocks, hothers]
      rfl
  · intro hstage
    rw [read_eq_ok_iff, read_eq_ok_iff, map_wordsOf_append_blank hfront hblank,
      blocks?_append_blank_of_attribute .between hstage, Text.linesOf_append hfront,
      List.map_append]

theorem isDisjoint_iff {first second : RoutingBoard} :
    first.IsDisjoint second ↔ ∀ id ∈ first.trees.keys, second.get? id = none := by
  have hkeys : ∀ id, first.get? id = none ↔ id ∉ first.trees.keys := by
    intro id
    unfold get?
    rw [Std.ExtTreeMap.mem_keys, Std.ExtTreeMap.mem_iff_isSome_getElem?,
      Option.not_isSome_iff_eq_none]
  unfold IsDisjoint
  simp only [hkeys, ← Decidable.imp_iff_not_or]

instance (first second : RoutingBoard) : Decidable (first.IsDisjoint second) :=
  decidable_of_iff _ isDisjoint_iff.symm

/-- The board of a text. -/
def boardOf (text : String) : RoutingBoard := (read text).toOption.getD empty

/-- A blank line after a segment parts two blocks, and one after an attribute line is passed
over. -/
theorem blocks_parted :
    (∃ first second, read "5 0 2\n0 2\n" = .ok first ∧ read "9 4 1\n4 1\n" = .ok second ∧
      first.IsDisjoint second ∧
      (boardOf ("5 0 2\n0 2\n" ++ (" \t" ++ "\n") ++ "9 4 1\n4 1\n")).IsUnion first second) ∧
      read ("5 0 2\n" ++ "0 2\n") = .ok (boardOf ("5 0 2\n" ++ ("" ++ "\n") ++ "0 2\n")) :=
  ⟨((read_append_blank_iff (.inr ⟨"5 0 2\n0 2", rfl⟩) (by decide) "9 4 1\n4 1\n" _).1
      (by decide +kernel)).mp (eq_ok_getD (by decide +kernel) _),
    ((read_append_blank_iff (.inr ⟨"5 0 2", rfl⟩) (by decide) "0 2\n" _).2
      (by decide +kernel)).mp (eq_ok_getD (by decide +kernel) _)⟩

/-- A text that is an attribute line only is read, but behind it and a blank line the lines of
another block are read as its segments. -/
theorem stub_absorbs_block :
    ∃ first second : RoutingBoard, read "5 0\n" = .ok first ∧ read "9 4 1\n4 1\n" = .ok second ∧
      first.IsDisjoint second ∧
      read ("5 0\n" ++ "\n" ++ "9 4 1\n4 1\n") = .error (.badTree 5 (.noAncestor ⟨4, 1⟩)) :=
  ⟨boardOf "5 0\n", boardOf "9 4 1\n4 1\n", eq_ok_getD (by decide +kernel) _,
    eq_ok_getD (by decide +kernel) _, by decide +kernel, by decide +kernel⟩

end CoreArray.RoutingBoard
