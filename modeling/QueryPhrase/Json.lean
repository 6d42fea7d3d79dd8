import QueryPhrase.Text

/-!
# JSON

JSON values and how they are written over several lines: two spaces of indent a
level, one entry a line, and nothing inside the brackets of an empty list or
object.
-/

namespace QueryPhrase

/-- A JSON value. Object entries keep their order. -/
inductive Json
  | null
  | bool (value : Bool)
  /-- A whole number. -/
  | int (value : Int)
  /-- A number that is not written as a whole one. -/
  | fraction
  | text (value : Text)
  | list (items : List Json)
  | object (entries : List (Text × Json))
deriving Repr, Inhabited

namespace Json

def nat (n : Nat) : Json := .int n

def word (n : UInt64) : Json := .nat n.toNat

def texts (values : List Text) : Json := .list (values.map .text)

def pair (value : Text × Text) : Json := .texts [value.1, value.2]

/-- A value that may be missing, with null for none. -/
def orNull {α : Type} (encode : α → Json) : Option α → Json
  | some value => encode value
  | none => .null

def entry (name : Text) (value : Json) : List (Text × Json) := [(name, value)]

/-- An entry for a value that may be missing; no entry for none. -/
def entry? {α : Type} (name : Text) (encode : α → Json) :
    Option α → List (Text × Json)
  | some value => [(name, encode value)]
  | none => []

/-! ## Writing -/

/-- The four lowercase hexadecimal digits of a small number. -/
def fourDigits (n : Nat) : Text :=
  let digits := Nat.toDigits 16 n
  List.replicate (4 - digits.length) '0' ++ digits

/-- A character inside a written text. -/
def charText (c : Char) : Text :=
  match c with
  | '"' => ['\\', '"']
  | '\\' => ['\\', '\\']
  | '\n' => ['\\', 'n']
  | '\r' => ['\\', 'r']
  | '\t' => ['\\', 't']
  | '\x08' => ['\\', 'b']
  | '\x0c' => ['\\', 'f']
  | _ => if c.toNat < 0x20 then ['\\', 'u'] ++ fourDigits c.toNat else [c]

/-- A text with its quotes. -/
def quoted (text : Text) : Text := '"' :: (text.flatMap charText ++ ['"'])

def intText : Int → Text
  | .ofNat n => Text.ofNat n
  | .negSucc n => '-' :: Text.ofNat (n + 1)

/-- The start of a line at a depth. -/
def lineStart (depth : Nat) : Text := '\n' :: Text.spaces (2 * depth)

/-- Written entries between brackets, a line each, at a depth. -/
def bracketed (opening closing : Char) (depth : Nat) (entries : List Text) :
    Text :=
  match entries with
  | [] => [opening, closing]
  | _ =>
    opening :: lineStart (depth + 1) ++
      Text.joined (',' :: lineStart (depth + 1)) entries ++
      lineStart depth ++ [closing]

mutual

/-- A value at a depth. -/
def prettyAt (depth : Nat) : Json → Text
  | .null => "null"
  | .bool true => "true"
  | .bool false => "false"
  | .int value => intText value
  | .fraction => "null"
  | .text value => quoted value
  | .list items => bracketed '[' ']' depth (prettyItems (depth + 1) items)
  | .object entries =>
    bracketed '\x7b' '\x7d' depth (prettyEntries (depth + 1) entries)

/-- Items of a list at a depth. -/
def prettyItems (depth : Nat) : List Json → List Text
  | [] => []
  | item :: rest => prettyAt depth item :: prettyItems depth rest

/-- Entries of an object at a depth. -/
def prettyEntries (depth : Nat) : List (Text × Json) → List Text
  | [] => []
  | (name, value) :: rest =>
    (quoted name ++ ": " ++ prettyAt depth value) :: prettyEntries depth rest

end

/-- A value over several lines. -/
def pretty (value : Json) : Text := prettyAt 0 value

end Json

end QueryPhrase
