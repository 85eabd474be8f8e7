import CoreArray.Pattern.CharClass
set_option autoImplicit false

/-!
# Patterns (SPEC §10.2)

A pattern is a regular expression over characters with marks for places: the two
ends of the text, of its lines and of its words.  Matching follows sets of
positions: `ends` takes the positions where a match may begin to the positions
where it may end.
-/

namespace CoreArray

/-- A place beside a word. -/
inductive WordPlace where
  /-- A word character stands on one side only. -/
  | edge
  | notEdge
  /-- None stands before, and one after. -/
  | start
  /-- One stands before, and none after. -/
  | stop
  /-- None stands before. -/
  | startHalf
  /-- None stands after. -/
  | stopHalf
  deriving DecidableEq, Repr, Inhabited

/-- Whether a place lies as it should, given whether word characters stand before
and after it. -/
def WordPlace.fits : WordPlace → (before after : Bool) → Bool
  | edge, before, after => before != after
  | notEdge, before, after => before == after
  | start, before, after => !before && after
  | stop, before, after => before && !after
  | startHalf, before, _ => !before
  | stopHalf, _, after => !after

/-- A place in a text. -/
inductive Place where
  | textStart
  | textEnd
  /-- The start of a line; if `returns`, carriage returns end lines too. -/
  | lineStart (returns : Bool)
  | lineEnd (returns : Bool)
  /-- A place beside a word of characters of a class. -/
  | word (place : WordPlace) (chars : CharClass)
  deriving DecidableEq, Repr, Inhabited

/-- Whether a position of a text is such a place.  A carriage return with a line
feed after it is one end of a line. -/
def Place.holdsAt (text : Array Char) (p : Nat) : Place → Bool
  | textStart => p == 0
  | textEnd => p == text.size
  | lineStart returns =>
      let before := if p = 0 then none else text[p - 1]?
      p == 0 || before == some '\n' ||
        (returns && before == some '\r' && text[p]? != some '\n')
  | lineEnd returns =>
      let before := if p = 0 then none else text[p - 1]?
      p == text.size ||
        (if returns then
          text[p]? == some '\r' || (text[p]? == some '\n' && before != some '\r')
        else text[p]? == some '\n')
  | word place chars =>
      place.fits (p != 0 && (text[p - 1]?).any chars.has) ((text[p]?).any chars.has)

/-- A regular expression. -/
inductive Pattern where
  | empty
  | one (chars : CharClass)
  | look (place : Place)
  | seq (a b : Pattern)
  | alt (a b : Pattern)
  /-- At least `least` times, and at most `most` times if that is given. -/
  | times (least : Nat) (most : Option Nat) (a : Pattern)
  deriving DecidableEq, Repr, Inhabited

namespace Pattern

/-- Add the positions that a set lacks. -/
def join (a b : List Nat) : List Nat := a ++ b.filter fun p => !a.contains p

/-- Apply a function to a set of positions a number of times, as long as it changes
the set and any positions are left. -/
def repeated (f : List Nat → List Nat) : Nat → List Nat → List Nat
  | 0, positions => positions
  | n + 1, positions =>
      let next := f positions
      if positions.isEmpty || next == positions then next else repeated f n next

/-- Collect what is met when a function is applied up to `rounds` times to the
positions that are new. -/
def closure (f : List Nat → List Nat) : (rounds : Nat) → (met fresh : List Nat) → List Nat
  | 0, met, _ => met
  | rounds + 1, met, fresh =>
      let next := (f fresh).filter fun p => !met.contains p
      if next.isEmpty then met else closure f rounds (join met next) next

/-- The positions where matches that begin at given positions end. -/
def ends (text : Array Char) : Pattern → List Nat → List Nat
  | empty, starts => starts
  | one chars, starts =>
      (starts.filter fun p => (text[p]?).any chars.has).map (· + 1)
  | look place, starts => starts.filter fun p => place.holdsAt text p
  | seq a b, starts => ends text b (ends text a starts)
  | alt a b, starts => join (ends text a starts) (ends text b starts)
  | times least most a, starts =>
      let begun := repeated (fun s => join [] (ends text a s)) least starts
      let rounds := match most with
        | none => text.size + 1
        | some most => min (most - least) (text.size + 1)
      closure (ends text a) rounds begun begun

/-- Whether a pattern matches some stretch of a text. -/
def occursIn (pattern : Pattern) (text : String) : Bool :=
  let chars := text.toList.toArray
  !(pattern.ends chars (List.range (chars.size + 1))).isEmpty

/-! ## Size -/

/-- Whether a pattern matches no more than the empty text. -/
def isPlace : Pattern → Bool
  | empty => true
  | one _ => false
  | look _ => true
  | seq a b => a.isPlace && b.isPlace
  | alt a b => a.isPlace && b.isPlace
  | times _ most a => most == some 0 || a.isPlace

/-- About how large a pattern is, in bytes, with its repetitions written out.  To
repeat a place adds nothing to it. -/
def weight : Pattern → Nat
  | empty => 32
  | one chars => chars.weight
  | look _ => 32
  | seq a b => a.weight + b.weight
  | alt a b => a.weight + b.weight + 64
  | times least most a =>
      if a.isPlace then a.weight + 64
      else
        match most with
        | none => max least 1 * a.weight + 64
        | some most => least * a.weight + (most - least) * (a.weight + 64)

/-- The largest size of a pattern. -/
def maxWeight : Nat := 10485760

end Pattern

end CoreArray
