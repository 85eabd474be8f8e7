import CoreArray.Config.Toml.Scalar
import CoreArray.Config.Toml.Text
set_option autoImplicit false

/-!
# Keys and values of TOML documents (SPEC §10.4)

A key has parts with points between them; a value is a string, a token, a list or
a table on one line.  Values lie within each other to a certain depth only.
-/

namespace CoreArray.Toml

/-! ## Keys -/

/-- Whether a character may stand in a key without quotes. -/
def isKeyChar (c : Char) : Bool := c.isAlphanum || c == '_' || c == '-'

/-- One part of a key. -/
def readKeyPart (text : List Char) : Option (String × List Char) :=
  match text with
  | '"' :: rest => (readBasic (rest.length + 1) rest).map fun (key, rest) =>
      (String.ofList key, rest)
  | '\'' :: rest => (readLiteral rest).map fun (key, rest) => (String.ofList key, rest)
  | text =>
      let key := text.takeWhile isKeyChar
      if key.isEmpty then none else some (String.ofList key, text.dropWhile isKeyChar)

/-- The parts of a key, with points between them. -/
def readKeyParts : (fuel : Nat) → List Char → Option (List String × List Char)
  | 0, _ => none
  | fuel + 1, text => do
      let (part, rest) ← readKeyPart (skipBlanks text)
      match skipBlanks rest with
      | '.' :: rest => do
          let (parts, rest) ← readKeyParts fuel rest
          return (part :: parts, rest)
      | rest => return ([part], rest)

/-- The deepest nesting of values, and the most parts of a key. -/
def maxNesting : Nat := 79

/-- A key. -/
def readKey (text : List Char) : Option (List String × List Char) := do
  let (parts, rest) ← readKeyParts (text.length + 1) text
  if parts.length ≤ maxNesting then return (parts, rest) else none

/-! ## Values -/

/-- Whether one of two paths leads through the other. -/
def clash (a b : List String) : Bool := a.isPrefixOf b || b.isPrefixOf a

mutual

/-- A value, given how many values it lies in. -/
def readValue (fuel depth : Nat) (text : List Char) : Option (Setting × List Char) :=
  match fuel with
  | 0 => none
  | fuel + 1 =>
      let string (read : Option (List Char × List Char)) : Option (Setting × List Char) :=
        read.map fun (chars, rest) => (.text (String.ofList chars), rest)
      match text with
      | '"' :: '"' :: '"' :: rest => string (readLong '"' (rest.length + 1) (afterOpening rest))
      | '\'' :: '\'' :: '\'' :: rest =>
          string (readLong '\'' (rest.length + 1) (afterOpening rest))
      | '"' :: rest => string (readBasic (rest.length + 1) rest)
      | '\'' :: rest => string (readLiteral rest)
      | '[' :: rest =>
          if depth < maxNesting then
            (readItems fuel (depth + 1) rest).map fun (items, rest) => (.list items, rest)
          else none
      | '\x7b' :: rest =>
          if depth < maxNesting then
            match skipBlanks rest with
            | '\x7d' :: rest => some (.other, rest)
            | rest => (readPairs fuel (depth + 1) [] rest).map fun rest => (.other, rest)
          else none
      | text =>
          let (token, rest) := takeToken text
          (readToken token).map fun value => (value, rest)

/-- The items of a list up to its closing bracket. -/
def readItems (fuel depth : Nat) (text : List Char) : Option (List Setting × List Char) :=
  match fuel with
  | 0 => none
  | fuel + 1 => do
      match ← skipGaps (text.length + 1) text with
      | ']' :: rest => return ([], rest)
      | text => do
          let (item, rest) ← readValue fuel depth text
          match ← skipGaps (rest.length + 1) rest with
          | ',' :: rest => do
              let (items, rest) ← readItems fuel depth rest
              return (item :: items, rest)
          | ']' :: rest => return ([item], rest)
          | _ => none

/-- The pairs of a table on one line up to its closing brace, given the keys
before them. -/
def readPairs (fuel depth : Nat) (keys : List (List String)) (text : List Char) :
    Option (List Char) :=
  match fuel with
  | 0 => none
  | fuel + 1 => do
      let (key, rest) ← readKey text
      if keys.any (clash key) then none
      else
        match rest with
        | '=' :: rest => do
            let (_, rest) ← readValue fuel depth (skipBlanks rest)
            match skipBlanks rest with
            | ',' :: rest => readPairs fuel depth (key :: keys) rest
            | '\x7d' :: rest => return rest
            | _ => none
        | _ => none

end

end CoreArray.Toml
