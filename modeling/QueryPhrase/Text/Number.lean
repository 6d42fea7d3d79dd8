import QueryPhrase.Text

/-!
# Counts in texts

A count is written in decimal digits and read with an optional plus sign in
front. Counts are 64-bit words; a text that denotes a larger number is refused, as
is any other character. The text is read from the left and the first fault
decides what is said.
-/

namespace QueryPhrase

/-- Why a text is no count. -/
inductive CountError
  | empty
  | invalidDigit
  | tooLarge
deriving DecidableEq, Repr

/-- What is said of an error. -/
def CountError.message : CountError → Text
  | empty => "cannot parse integer from empty string"
  | invalidDigit => "invalid digit found in string"
  | tooLarge => "number too large to fit in target type"

/-- The value of a decimal digit. -/
def digitValue? (c : Char) : Option Nat :=
  if c.isDigit then some (c.toNat - '0'.toNat) else none

/-- Reads the digits that follow a number already read. -/
def readDigits (value : Nat) : Text → Except CountError Nat
  | [] => .ok value
  | c :: rest =>
    match digitValue? c with
    | none => .error .invalidDigit
    | some digit =>
      if 10 * value + digit < UInt64.size then
        readDigits (10 * value + digit) rest
      else .error .tooLarge

def readCount (text : Text) : Except CountError UInt64 :=
  match text with
  | [] => .error .empty
  | ['+'] => .error .invalidDigit
  | '+' :: rest => (readDigits 0 rest).map UInt64.ofNat
  | _ => (readDigits 0 text).map UInt64.ofNat

/-- The count a text denotes, if it denotes one. -/
def count? (text : Text) : Option UInt64 := (readCount text).toOption

def countText (n : UInt64) : Text := Text.ofNat n.toNat

end QueryPhrase
