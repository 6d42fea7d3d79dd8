/-!
# Texts

A text is the list of its characters, so every offset in this library counts
characters, never bytes. String literals stand for texts through a coercion.

The module also holds the ASCII-caseless comparison that keywords are looked up
with, and the few list operations the other modules share: joining with a
separator and cutting into lines.
-/

namespace QueryPhrase

/-- A text: the list of its characters. -/
abbrev Text := List Char

instance : Coe String Text := ⟨String.toList⟩

/-- The decimal digits of a natural number. -/
def Text.ofNat (n : Nat) : Text := Nat.toDigits 10 n

/-- `parts` one after the other with `separator` between neighbours. -/
def Text.joined (separator : Text) (parts : List Text) : Text :=
  separator.intercalate parts

def Text.spaces (n : Nat) : Text := List.replicate n ' '

/-! ## ASCII case -/

/-- Equality up to the case of the letters `A` to `Z`. -/
def Text.eqCaseless (a b : Text) : Bool :=
  a.map Char.toLower == b.map Char.toLower

theorem Text.eqCaseless_iff (a b : Text) :
    Text.eqCaseless a b = true ↔ a.map Char.toLower = b.map Char.toLower := by
  simp [Text.eqCaseless]

@[simp] theorem Text.eqCaseless_refl (a : Text) :
    Text.eqCaseless a a = true := by
  simp [Text.eqCaseless]

/-! ## Cutting -/

/-- Puts `c` in front of the first part. -/
def Text.consFirst (c : Char) : List Text → List Text
  | [] => [[c]]
  | part :: parts => (c :: part) :: parts

/-- The parts of a text between occurrences of `separator`; never empty. -/
def Text.splitAt (separator : Char) : Text → List Text
  | [] => [[]]
  | c :: rest =>
    if c = separator then [] :: Text.splitAt separator rest
    else Text.consFirst c (Text.splitAt separator rest)

/-- The text up to the first occurrence of `separator` and the text after it,
if there is one. -/
def Text.cutAt (separator : Char) : Text → Text × Option Text
  | [] => ([], none)
  | c :: rest =>
    if c = separator then ([], some rest)
    else
      let (before, after) := Text.cutAt separator rest
      (c :: before, after)

/-- Drops one carriage return at the end. -/
def Text.dropReturn (line : Text) : Text :=
  if line.getLast? = some '\r' then line.dropLast else line

/-- The lines of a text. A line ends with a line feed, which may follow a
carriage return; a last line without one counts if it holds anything. -/
def Text.lines (text : Text) : List Text :=
  match (Text.splitAt '\n' text).reverse with
  | [] => []
  | last :: before =>
    (before.map Text.dropReturn).reverse ++ (if last = [] then [] else [last])

end QueryPhrase
