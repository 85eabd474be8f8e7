import CoreArray.Pattern.Escape
set_option autoImplicit false

/-!
# Classes in brackets

In brackets stand the members of a class: characters, ranges, escapes, classes in
brackets of their own, and names such as `[:alpha:]`.  A class may be negated, and
`&&`, `--` and `~~` put classes together, from left to right.

Readers give the depth of what they read along with it, for a pattern must not be
nested too deeply.  They take fuel: every turn consumes a character, so that the
length of the text suffices.
-/

namespace CoreArray.Pattern

/-- A class that is being read, with the depth of its brackets. -/
structure Members where
  chars : CharClass
  depth : Nat
  deriving DecidableEq, Repr, Inhabited

/-- The deepest of some depths. -/
def deepest (depths : List Nat) : Nat := depths.foldl max 0

namespace Members

/-- The union of members, the last one first. -/
def ofReversed : List Members → Members
  | [] => ⟨.none, 0⟩
  | [member] => member
  | members =>
      ⟨.ofList (members.reverse.map Members.chars), deepest (members.map Members.depth) + 1⟩

end Members

/-- How two classes are put together. -/
inductive SetOperation where
  | inter
  | difference
  | symmetricDifference
  deriving DecidableEq, Repr, Inhabited

/-- Put two classes together. -/
def SetOperation.apply : SetOperation → CharClass → CharClass → CharClass
  | inter, a, b => .inter a b
  | difference, a, b => .difference a b
  | symmetricDifference, a, b => .symmetricDifference a b

/-- Put members together with what stands to the left of them. -/
def Members.close (flags : Flags) (left : Option (SetOperation × Members)) (right : Members) :
    Members :=
  match left with
  | none => right
  | some (operation, left) =>
      ⟨operation.apply (flags.cased left.chars) (flags.cased right.chars),
        max left.depth right.depth + 1⟩

/-- Read the name of a class after its opening bracket. -/
def readAsciiName (text : List Char) : Option (Bool × CharClass × List Char) :=
  let read (negated : Bool) (text : List Char) : Option (Bool × CharClass × List Char) :=
    match Text.cutOnce (· == ':') text with
    | some (name, ']' :: rest) =>
        (CharClass.asciiNamed? (String.ofList name)).map fun chars => (negated, chars, rest)
    | _ => none
  match text with
  | ':' :: '^' :: rest => read true rest
  | ':' :: rest => read false rest
  | _ => none

/-- Negate a class.  Among bytes alone this would take in what is no character. -/
def negate? (flags : Flags) (chars : CharClass) : Option CharClass :=
  if flags.unicode then some (.complement chars) else none

/-- Whether a character may be a member. -/
def mayBeMember (flags : Flags) (c : Char) : Bool := flags.unicode || c.toNat < 128

/-- Read a character or an escape as a member. -/
def readMember (flags : Flags) : List Char → Option (Escape × List Char)
  | [] => none
  | '\\' :: rest => readEscape flags rest
  | c :: rest => some (.char c, rest)

/-- The class of a member that is no range. -/
def memberClass? (flags : Flags) : Escape → Option CharClass
  | .chars chars => some chars
  | .place _ => none
  | escape => (escape.char? flags).bind fun c =>
      if mayBeMember flags c then some (.single c) else none

/-- Read a member or a range of members.  A hyphen before the closing bracket or
another hyphen makes no range. -/
def readRange (flags : Flags) (text : List Char) : Option (CharClass × List Char) := do
  let (low, rest) ← readMember flags text
  let rest := flags.skip rest
  match rest with
  | [] => none
  | '-' :: more =>
      match flags.skip more with
      | [] => none
      | ']' :: _ | '-' :: _ => return (← memberClass? flags low, rest)
      | more => do
          let (high, rest) ← readMember flags more
          let low ← low.char? flags
          let high ← high.char? flags
          if low.val ≤ high.val && mayBeMember flags high then return (.range low high, rest)
          else none
  | rest => return (← memberClass? flags low, rest)

/-- Take the hyphens that open a class, which are members. -/
def takeHyphens (flags : Flags) : (fuel : Nat) → List Members → List Char →
    List Members × List Char
  | 0, members, text => (members, text)
  | fuel + 1, members, text =>
      match text with
      | '-' :: rest => takeHyphens flags fuel (⟨.single '-', 0⟩ :: members) (flags.skip rest)
      | text => (members, text)

mutual

/-- Read a class after its opening bracket.  A bracket that would close an empty
class is a member. -/
def readBracket (fuel : Nat) (flags : Flags) (text : List Char) :
    Option (Members × List Char) :=
  match fuel with
  | 0 => none
  | fuel + 1 => do
      let text := flags.skip text
      let (negated, text) := match text with
        | '^' :: rest => (true, flags.skip rest)
        | text => (false, text)
      let (members, text) := takeHyphens flags text.length [] text
      let (members, text) := match members, text with
        | [], ']' :: rest => ([⟨.single ']', 0⟩], rest)
        | members, text => (members, text)
      let (members, rest) ← readMembers fuel flags none members text
      let chars := flags.cased members.chars
      let chars ← if negated then negate? flags chars else some chars
      return (⟨chars, members.depth + 1⟩, rest)

/-- Read members up to the closing bracket, given what stands to the left and the
members so far, the last one first. -/
def readMembers (fuel : Nat) (flags : Flags) (left : Option (SetOperation × Members))
    (members : List Members) (text : List Char) : Option (Members × List Char) :=
  match fuel with
  | 0 => none
  | fuel + 1 =>
      let after (operation : SetOperation) (rest : List Char) : Option (Members × List Char) :=
        readMembers fuel flags (some (operation, (Members.ofReversed members).close flags left))
          [] rest
      match flags.skip text with
      | [] => none
      | ']' :: rest => some ((Members.ofReversed members).close flags left, rest)
      | '[' :: rest =>
          match readAsciiName rest with
          | some (negated, chars, rest) => do
              let chars := flags.cased chars
              let chars ← if negated then negate? flags chars else some chars
              readMembers fuel flags left (⟨chars, 0⟩ :: members) rest
          | none => do
              let (inner, rest) ← readBracket fuel flags rest
              readMembers fuel flags left (inner :: members) rest
      | '&' :: '&' :: rest => after .inter rest
      | '-' :: '-' :: rest => after .difference rest
      | '~' :: '~' :: rest => after .symmetricDifference rest
      | text => do
          let (chars, rest) ← readRange flags text
          readMembers fuel flags left (⟨chars, 0⟩ :: members) rest

end

end CoreArray.Pattern
