import QueryPhrase.Toml.Value

/-!
# Plain TOML values

The values written without quotes or brackets: truth values, whole numbers,
fractions and moments. Digits may be set apart by single underscores. Whole numbers
lie between `-2^127` and `2^128 - 1`; a fraction must not be too large for a double.
-/

namespace QueryPhrase.Toml

/-! ## Numbers -/

/-- The digits of a group of digits, without the single underscores between them;
none unless there is a digit on either side of each. -/
def digitsOf? (isDigit : Char → Bool) (text : Text) : Option Text :=
  let groups := Text.splitAt '_' text
  if groups.all fun group => !group.isEmpty && group.all isDigit then
    some groups.flatten
  else none

/-- The value of a digit up to `z`. -/
def valueOfDigit (c : Char) : Nat :=
  if c.isDigit then c.toNat - 0x30
  else if c.isUpper then c.toNat - 0x37
  else c.toNat - 0x57

/-- The number that digits denote. -/
def numberOf (base : Nat) (digits : Text) : Nat :=
  digits.foldl (fun n c => base * n + valueOfDigit c) 0

/-- Whether a character is a digit of the given base, of at most sixteen. -/
def isDigitOf (base : Nat) (c : Char) : Bool :=
  (c.isDigit || ('a' ≤ c && c ≤ 'f') || ('A' ≤ c && c ≤ 'F')) &&
    valueOfDigit c < base

/-- The digits of a decimal number: it starts with a zero only if that is all. -/
def decimalDigits? (text : Text) : Option Text := do
  let digits ← digitsOf? Char.isDigit text
  if digits.head? = some '0' && 1 < digits.length then none else some digits

/-- Whether a text starts with a minus sign, and the text without a sign. -/
def splitSign : Text → Bool × Text
  | '-' :: rest => (true, rest)
  | '+' :: rest => (false, rest)
  | text => (false, text)

/-- A whole number with its sign, if it is not too large. -/
def intWithin? (negative : Bool) (n : Nat) : Option Int :=
  if negative then (if n ≤ 1 <<< 127 then some (-n) else none)
  else if n < 1 <<< 128 then some n else none

/-- The whole number in a base other than ten. -/
def basedInt? (base : Nat) (text : Text) : Option Int := do
  let digits ← digitsOf? (isDigitOf base) text
  intWithin? false (numberOf base digits)

/-- The whole number a text denotes. -/
def int? (text : Text) : Option Int :=
  match text with
  | '0' :: 'x' :: rest => basedInt? 16 rest
  | '0' :: 'o' :: rest => basedInt? 8 rest
  | '0' :: 'b' :: rest => basedInt? 2 rest
  | _ => do
    let (negative, rest) := splitSign text
    let digits ← decimalDigits? rest
    intWithin? negative (numberOf 10 digits)

/-- The least number too large for a double. -/
def doubleBound : Nat := 1 <<< 1024 - 1 <<< 970

/-- Whether `digits` times ten to the `exponent` is not too large for a double. -/
def fitsDouble (digits : Text) (exponent : Int) : Bool :=
  let n := numberOf 10 digits
  n == 0 ||
    match exponent with
    | .ofNat up => up ≤ 400 && n * Nat.pow 10 up < doubleBound
    | .negSucc down =>
      digits.length ≤ down || n < doubleBound * Nat.pow 10 (down + 1)

/-- The text before the first exponent sign, and the text after it. -/
def splitExponent (text : Text) : Text × Option Text :=
  Text.cutAt 'e' (text.map fun c => if c = 'E' then 'e' else c)

/-- The exponent a text denotes. -/
def exponent? (text : Text) : Option Int := do
  let (negative, rest) := splitSign text
  let digits ← digitsOf? Char.isDigit rest
  let n := numberOf 10 digits
  return if negative then -n else n

/-- Whether a text is a fraction that a double can hold. -/
def isFraction (text : Text) : Bool :=
  let unsigned := (splitSign text).2
  if unsigned == ("inf" : Text) || unsigned == ("nan" : Text) then true
  else
    let (mantissa, power) := splitExponent unsigned
    let (whole, part) := Text.cutAt '.' mantissa
    (power.isSome || part.isSome) && Option.isSome do
      let wholeDigits ← decimalDigits? whole
      let partDigits ← match part with
        | none => some []
        | some part => digitsOf? Char.isDigit part
      let exponent ← match power with
        | none => some 0
        | some power => exponent? power
      if fitsDouble (wholeDigits ++ partDigits)
          (exponent - partDigits.length) then
        some ()
      else none

/-! ## Moments -/

/-- The number that exactly `count` digits denote. -/
def fixedNumber? (count : Nat) (text : Text) : Option Nat :=
  if text.length = count && text.all Char.isDigit then some (numberOf 10 text)
  else none

/-- How many days a month has. -/
def daysIn (year month : Nat) : Nat :=
  if month = 2 then
    if year % 4 = 0 && (year % 100 ≠ 0 || year % 400 = 0) then 29 else 28
  else if month ∈ [4, 6, 9, 11] then 30
  else 31

/-- Whether a text is a date of the calendar. -/
def isDate (text : Text) : Bool :=
  match Text.splitAt '-' text with
  | [year, month, day] =>
    match fixedNumber? 4 year, fixedNumber? 2 month, fixedNumber? 2 day with
    | some year, some month, some day =>
      1 ≤ month && month ≤ 12 && 1 ≤ day && day ≤ daysIn year month
    | _, _, _ => false
  | _ => false

/-- Whether a text is a number of two digits up to `most`. -/
def isUpTo (most : Nat) (text : Text) : Bool :=
  (fixedNumber? 2 text).any (· ≤ most)

/-- Whether a text is seconds of a minute, with a fraction or without. -/
def isSeconds (text : Text) : Bool :=
  let (whole, part) := Text.cutAt '.' text
  isUpTo 60 whole &&
    part.all fun digits => !digits.isEmpty && digits.all Char.isDigit

/-- Whether a text is a time of day, with seconds or without. -/
def isTime (text : Text) : Bool :=
  match Text.splitAt ':' text with
  | [hour, minute] => isUpTo 23 hour && isUpTo 59 minute
  | [hour, minute, second] =>
    isUpTo 23 hour && isUpTo 59 minute && isSeconds second
  | _ => false

/-- Whether a text is a distance from universal time in hours and minutes. -/
def isOffset (text : Text) : Bool :=
  match Text.splitAt ':' text with
  | [hour, minute] => isUpTo 23 hour && isUpTo 59 minute
  | _ => false

/-- Whether a text is a time of day that may say where it is meant. -/
def isTimeOnDate (text : Text) : Bool :=
  let time := text.takeWhile fun c => c.isDigit || c == ':' || c == '.'
  isTime time &&
    match text.drop time.length with
    | [] => true
    | ['z'] | ['Z'] => true
    | '+' :: offset | '-' :: offset => isOffset offset
    | _ => false

/-- Whether a text is a date, a time of day or both. -/
def isMoment (text : Text) : Bool :=
  isTime text || isDate text ||
    match text.drop 10 with
    | c :: time =>
      (c == 'T' || c == 't' || c == ' ') && isDate (text.take 10) &&
        isTimeOnDate time
    | [] => false

/-! ## Reading -/

/-- Whether a character may stand in a plain value. -/
def isScalarChar (c : Char) : Bool :=
  c.isAlphanum || c == '_' || c == '+' || c == '-' || c == '.' || c == ':'

/-- The value of a plain text. -/
def scalar? (text : Text) : Option Value :=
  if text = ("true" : Text) then some (.bool true)
  else if text = ("false" : Text) then some (.bool false)
  else if isMoment text then some (.moment text)
  else if isFraction text then some (.fraction text)
  else (int? text).map .int

/-- The characters of a plain value at the front of a text. A space stands between
a date and a time of day. -/
def scalarText (text : Text) : Text :=
  let front := text.takeWhile isScalarChar
  match text.drop front.length with
  | ' ' :: c :: rest =>
    if isDate front && c.isDigit then
      front ++ ' ' :: (c :: rest).takeWhile isScalarChar
    else front
  | _ => front

/-- Reads a plain value and gives the text after it. -/
def readScalar? (text : Text) : Option (Value × Text) := do
  let front := scalarText text
  let value ← scalar? front
  return (value, text.drop front.length)

end QueryPhrase.Toml
