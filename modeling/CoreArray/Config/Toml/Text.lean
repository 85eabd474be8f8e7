import CoreArray.Text.Hexadecimal
set_option autoImplicit false

/-!
# Blanks and strings of TOML documents (SPEC §10.4)

Lines hold blanks, comments and strings of four kinds.  The readers answer nothing
where a text is not well formed; those that call themselves take fuel, for which
the length of the text suffices.
-/

namespace CoreArray.Toml

/-! ## Blanks, comments and ends of lines -/

/-- Whether a character may not stand in a comment or a string. -/
def isControl (c : Char) : Bool := (c.toNat < 32 && c != '\t') || c.toNat == 127

/-- Leave out spaces and tabs. -/
def skipBlanks (text : List Char) : List Char :=
  text.dropWhile fun c => c == ' ' || c == '\t'

/-- Leave out a comment, if there is one. -/
def skipComment (text : List Char) : Option (List Char) :=
  match text with
  | '#' :: rest =>
      let comment := rest.takeWhile fun c => c != '\n' && c != '\r'
      if comment.any isControl then none
      else some (rest.dropWhile fun c => c != '\n' && c != '\r')
  | text => some text

/-- Leave out the end of a line, which the end of the text is too. -/
def skipLineEnd : List Char → Option (List Char)
  | [] => some []
  | '\n' :: rest => some rest
  | '\r' :: '\n' :: rest => some rest
  | _ => none

/-- Leave out what may follow on a line. -/
def finishLine (text : List Char) : Option (List Char) := do
  skipLineEnd (← skipComment (skipBlanks text))

/-- Leave out blanks, comments and ends of lines. -/
def skipGaps : (fuel : Nat) → List Char → Option (List Char)
  | 0, _ => none
  | fuel + 1, text => do
      match ← skipComment (skipBlanks text) with
      | '\n' :: rest => skipGaps fuel rest
      | '\r' :: '\n' :: rest => skipGaps fuel rest
      | text => return text

/-! ## Strings -/

/-- What an escape after a backslash stands for. -/
def readEscape : List Char → Option (Char × List Char)
  | 'b' :: rest => some ('\x08', rest)
  | 't' :: rest => some ('\t', rest)
  | 'n' :: rest => some ('\n', rest)
  | 'f' :: rest => some ('\x0c', rest)
  | 'r' :: rest => some ('\r', rest)
  | '"' :: rest => some ('"', rest)
  | '\\' :: rest => some ('\\', rest)
  | 'u' :: rest =>
      if rest.length < 4 then none
      else (Text.charOfHex? (rest.take 4)).map fun c => (c, rest.drop 4)
  | 'U' :: rest =>
      if rest.length < 8 then none
      else (Text.charOfHex? (rest.take 8)).map fun c => (c, rest.drop 8)
  | _ => none

/-- A basic string after its opening quote. -/
def readBasic : (fuel : Nat) → List Char → Option (List Char × List Char)
  | 0, _ => none
  | fuel + 1, text =>
      match text with
      | [] => none
      | '"' :: rest => some ([], rest)
      | '\\' :: rest => do
          let (c, rest) ← readEscape rest
          let (more, rest) ← readBasic fuel rest
          return (c :: more, rest)
      | c :: rest =>
          if isControl c then none
          else (readBasic fuel rest).map fun (more, rest) => (c :: more, rest)

/-- A literal string after its opening quote. -/
def readLiteral (text : List Char) : Option (List Char × List Char) :=
  let inside := text.takeWhile (· != '\'')
  match text.dropWhile (· != '\'') with
  | _ :: rest => if inside.any isControl then none else some (inside, rest)
  | [] => none

/-- A string over several lines after its opening quotes; in a basic one a
backslash escapes, and at the end of a line leaves out the gap that follows.  Up
to two quotes may stand before the closing ones. -/
def readLong (quote : Char) : (fuel : Nat) → List Char → Option (List Char × List Char)
  | 0, _ => none
  | fuel + 1, text =>
      let closing := text.takeWhile (· == quote)
      if 3 ≤ closing.length then
        if 5 < closing.length then none
        else some (List.replicate (closing.length - 3) quote, text.drop closing.length)
      else
        match text with
        | [] => none
        | '\\' :: rest =>
            if quote = '\'' then
              (readLong quote fuel rest).map fun (more, rest) => ('\\' :: more, rest)
            else
              match skipBlanks rest with
              | '\n' :: after | '\r' :: '\n' :: after =>
                  readLong quote fuel (after.dropWhile fun c =>
                    c == ' ' || c == '\t' || c == '\n' || c == '\r')
              | _ => do
                  let (c, rest) ← readEscape rest
                  let (more, rest) ← readLong quote fuel rest
                  return (c :: more, rest)
        | '\r' :: '\n' :: rest =>
            (readLong quote fuel rest).map fun (more, rest) => ('\n' :: more, rest)
        | c :: rest =>
            if isControl c && c != '\n' then none
            else (readLong quote fuel rest).map fun (more, rest) => (c :: more, rest)

/-- A long string without the end of line that may follow its opening quotes. -/
def afterOpening : List Char → List Char
  | '\n' :: rest => rest
  | '\r' :: '\n' :: rest => rest
  | text => text

end CoreArray.Toml
