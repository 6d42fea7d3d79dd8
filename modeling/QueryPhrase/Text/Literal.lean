import QueryPhrase.Text.GraphemeExtend
import QueryPhrase.Text.Literal.Table

/-!
# Literals

How a text is shown inside double quotes on one line: quotes, backslashes and the
usual controls are written with a backslash, and characters without a visible
form of their own by their code point.
-/

namespace QueryPhrase

/-- The lowercase hexadecimal digits of a number. -/
def hexDigits (n : Nat) : Text := Nat.toDigits 16 n

/-- How a character is shown inside a literal. -/
def literalChar (c : Char) : Text :=
  match c with
  | '\x00' => ['\\', '0']
  | '\t' => ['\\', 't']
  | '\r' => ['\\', 'r']
  | '\n' => ['\\', 'n']
  | '\\' => ['\\', '\\']
  | '"' => ['\\', '"']
  | _ =>
    if isGraphemeExtend c || unshown.has c then
      ['\\', 'u', '\x7b'] ++ hexDigits c.toNat ++ ['\x7d']
    else [c]

/-- A text as a literal, quotes included. -/
def literal (text : Text) : Text := '"' :: (text.flatMap literalChar ++ ['"'])

end QueryPhrase
