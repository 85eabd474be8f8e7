import CoreArray.Binary64.Decimal
import CoreArray.Config.Setting
import CoreArray.Text.Hexadecimal
set_option autoImplicit false

/-!
# Numbers, dates and truth values of TOML documents (SPEC §10.4)

A value without quotes or brackets is a token: an integer, a number with a fraction,
a truth value, a date or a time of day.
-/

namespace CoreArray.Toml

/-! ## Numbers -/

/-- Digits with single underscores between them. -/
def isGrouped (isDigit : Char → Bool) (digits : List Char) : Bool :=
  (Text.cuts (· == '_') digits).all fun group => !group.isEmpty && group.all isDigit

/-- Digits without their underscores. -/
def ungrouped (digits : List Char) : List Char := digits.filter (· != '_')

/-- Whether digits are a decimal number without needless zeros. -/
def isDecimal (digits : List Char) : Bool :=
  isGrouped Char.isDigit digits && (digits.length == 1 || digits.head? != some '0')

/-- The number that digits of a base write. -/
def ofDigits (base : Nat) (digits : List Char) : Nat :=
  digits.foldl (fun n c => base * n + (Text.hexDigit? c).getD 0) 0

/-- A number with a mark of its base. -/
def readBased (token : List Char) : Option Int :=
  let read (base : Nat) (isDigit : Char → Bool) (digits : List Char) : Option Int :=
    if isGrouped isDigit digits then Text.inSignedRange (ofDigits base (ungrouped digits))
    else none
  match token with
  | '0' :: 'x' :: digits => read 16 Text.isHexDigit digits
  | '0' :: 'o' :: digits => read 8 (fun c => '0' ≤ c && c ≤ '7') digits
  | '0' :: 'b' :: digits => read 2 (fun c => c == '0' || c == '1') digits
  | _ => none

/-- The sign of a number, and the rest. -/
def splitSign : List Char → Bool × List Char
  | '-' :: rest => (true, rest)
  | '+' :: rest => (false, rest)
  | text => (false, text)

/-- An integer. -/
def readInteger (token : List Char) : Option Int :=
  let (negative, digits) := splitSign token
  if isDecimal digits then
    let n : Int := ofDigits 10 (ungrouped digits)
    Text.inSignedRange (if negative then -n else n)
  else readBased token

/-- Whether a token has the form of a number with a fraction or an exponent. -/
def hasFractionForm (token : List Char) : Bool :=
  let (_, digits) := splitSign token
  let isExponent (c : Char) : Bool := c == 'e' || c == 'E'
  let exponentFits (text : List Char) : Bool := isGrouped Char.isDigit (splitSign text).2
  let mantissaFits (text : List Char) : Bool :=
    match Text.cutOnce (· == '.') text with
    | some (whole, fraction) => isDecimal whole && isGrouped Char.isDigit fraction
    | none => isDecimal text
  digits == "inf".toList || digits == "nan".toList ||
    match Text.cutOnce isExponent digits with
    | some (mantissa, exponent) => mantissaFits mantissa && exponentFits exponent
    | none => digits.contains '.' && mantissaFits digits

/-- Whether a token is a number with a fraction or an exponent.  Digits must not
write a number that is too large, unless it is negative. -/
def isFraction (token : List Char) : Bool :=
  hasFractionForm token &&
    (!token.any Char.isDigit ||
      Binary64.read (ungrouped token) != some (.infinite false))

/-! ## Dates and times of day -/

/-- Whether a text has the form of a sample, in which `0` stands for any
digit. -/
def hasForm (sample text : List Char) : Bool :=
  sample.length == text.length &&
    (sample.zip text).all fun (s, c) => if s == '0' then c.isDigit else s == c

/-- The number of the digits of a text from one place to another. -/
def digitsAt (first count : Nat) (text : List Char) : Nat :=
  ofDigits 10 ((text.drop first).take count)

/-- Whether a year has a day more. -/
def isLeapYear (year : Nat) : Bool := year % 4 == 0 && (year % 100 != 0 || year % 400 == 0)

/-- The days of a month. -/
def daysOf (year month : Nat) : Nat :=
  if month = 2 then if isLeapYear year then 29 else 28
  else if [4, 6, 9, 11].contains month then 30
  else 31

/-- Whether a text is a day of the calendar. -/
def isDay (text : List Char) : Bool :=
  let month := digitsAt 5 2 text
  let day := digitsAt 8 2 text
  hasForm "0000-00-00".toList text && 1 ≤ month && month ≤ 12 && 1 ≤ day &&
    day ≤ daysOf (digitsAt 0 4 text) month

/-- Whether a text is a time of day.  A minute may have a leap second. -/
def isTime (text : List Char) : Bool :=
  hasForm "00:00:00".toList (text.take 8) && digitsAt 0 2 text ≤ 23 && digitsAt 3 2 text ≤ 59 &&
    digitsAt 6 2 text ≤ 60 &&
    match text.drop 8 with
    | [] => true
    | '.' :: fraction => !fraction.isEmpty && fraction.all Char.isDigit
    | _ => false

/-- Whether a text is an offset from universal time in hours and minutes. -/
def isOffset (text : List Char) : Bool :=
  (hasForm "+00:00".toList text || hasForm "-00:00".toList text) &&
    digitsAt 1 2 text ≤ 23 && digitsAt 4 2 text ≤ 59

/-- A time of day without its offset from universal time. -/
def dropOffset (text : List Char) : List Char :=
  match text.reverse with
  | 'Z' :: rest | 'z' :: rest => rest.reverse
  | _ => if isOffset (text.drop (text.length - 6)) then text.take (text.length - 6) else text

/-- Whether a token is a date, a time of day or both. -/
def isDate (token : List Char) : Bool :=
  if isDay (token.take 10) then
    match token.drop 10 with
    | [] => true
    | 'T' :: time | 't' :: time | ' ' :: time => isTime (dropOffset time)
    | _ => false
  else isTime token

/-! ## Tokens -/

/-- Whether a character may stand in a token. -/
def isTokenChar (c : Char) : Bool :=
  c.isAlphanum || c == '_' || c == '+' || c == '-' || c == '.' || c == ':'

/-- A token at the front of a text, and the rest.  A date may be followed by a
time of day after a space. -/
def takeToken (text : List Char) : List Char × List Char :=
  let token := text.takeWhile isTokenChar
  let rest := text.dropWhile isTokenChar
  match rest with
  | ' ' :: more =>
      if hasForm "0000-00-00".toList token && hasForm "00:".toList (more.take 3) then
        (token ++ ' ' :: more.takeWhile isTokenChar, more.dropWhile isTokenChar)
      else (token, rest)
  | _ => (token, rest)

/-- The setting of a token. -/
def readToken (token : List Char) : Option Setting :=
  if token = "true".toList then some (.flag true)
  else if token = "false".toList then some (.flag false)
  else
    match readInteger token with
    | some value => some (.integer value)
    | none => if isFraction token || isDate token then some .other else none

end CoreArray.Toml
