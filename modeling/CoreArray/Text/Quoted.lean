import CoreArray.Text.Hexadecimal
import CoreArray.Unicode.Property
set_option autoImplicit false

/-!
# Quoted text

A text in quotes shows every character.  The quote, the backslash and the
characters that cannot be seen are written with a backslash: those with a letter
of their own by that letter, the others by their code point.
-/

namespace CoreArray.Text

/-- Whether a character stands in quotes as it is. -/
def isPlain (c : Char) : Bool := c != '"' && c != '\\' && !Unicode.isUnseen c

/-- A character as it stands in quotes. -/
def escapeChar (c : Char) : String :=
  if isPlain c then String.singleton c
  else
    match c with
    | '"' => "\\\""
    | '\\' => "\\\\"
    | '\n' => "\\n"
    | '\r' => "\\r"
    | '\t' => "\\t"
    | '\x00' => "\\0"
    | c => "\\u\x7b" ++ hexText c.toNat ++ "\x7d"

/-- A text in quotes. -/
def quoted (text : String) : String :=
  "\"" ++ String.join (text.toList.map escapeChar) ++ "\""

end CoreArray.Text
