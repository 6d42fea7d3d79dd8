import QueryPhrase.Text

/-!
# UTF-8

Texts as bytes. Writing gives each character one to four bytes. Reading is
lenient: wherever the bytes form no character, the longest stretch that could have
begun one, or else a single byte, becomes a replacement character. `read?` accepts
only bytes that need no replacement.
-/

namespace QueryPhrase.Utf8

/-- A byte with the given value. -/
def byte (n : Nat) : UInt8 := UInt8.ofNat n

/-- The bytes of a character. -/
def ofChar (c : Char) : List UInt8 :=
  let n := c.toNat
  if n < 0x80 then [byte n]
  else if n < 0x800 then [byte (0xC0 + n / 64), byte (0x80 + n % 64)]
  else if n < 0x10000 then
    [byte (0xE0 + n / 4096), byte (0x80 + n / 64 % 64), byte (0x80 + n % 64)]
  else
    [byte (0xF0 + n / 262144), byte (0x80 + n / 4096 % 64),
      byte (0x80 + n / 64 % 64), byte (0x80 + n % 64)]

/-- The bytes of a text. -/
def ofText (text : Text) : List UInt8 := text.flatMap ofChar

/-- The bytes that may follow a first byte, as the ends of a range; the range is
narrower after a few first bytes, to leave out long forms, surrogates and numbers
past the last character. -/
def secondRange (first : Nat) : Nat × Nat :=
  if first = 0xE0 then (0xA0, 0xBF)
  else if first = 0xED then (0x80, 0x9F)
  else if first = 0xF0 then (0x90, 0xBF)
  else if first = 0xF4 then (0x80, 0x8F)
  else (0x80, 0xBF)

/-- How many bytes a character takes that begins with the given one; none begins
with a byte that gives zero. -/
def lengthOf (first : Nat) : Nat :=
  if first < 0x80 then 1
  else if first < 0xC2 then 0
  else if first < 0xE0 then 2
  else if first < 0xF0 then 3
  else if first < 0xF5 then 4
  else 0

/-- The value of a byte if it continues a character. -/
def continuation? (b : UInt8) : Option Nat :=
  if 0x80 ≤ b.toNat && b.toNat ≤ 0xBF then some (b.toNat - 0x80) else none

/-- The value of a byte if it may come second after `first`. -/
def second? (first : Nat) (b : UInt8) : Option Nat :=
  if (secondRange first).1 ≤ b.toNat && b.toNat ≤ (secondRange first).2 then
    some (b.toNat - 0x80)
  else none

/-- The character at the front of some bytes, none where they form none, and how
many bytes after the first it takes. -/
def front (first : Nat) (rest : List UInt8) : Option Char × Nat :=
  match lengthOf first, rest with
  | 1, _ => (some (Char.ofNat first), 0)
  | 2, b :: _ =>
    match second? first b with
    | some x => (some (Char.ofNat ((first - 0xC0) * 64 + x)), 1)
    | none => (none, 0)
  | 3, b :: rest =>
    match second? first b, rest with
    | some x, c :: _ =>
      match continuation? c with
      | some y => (some (Char.ofNat ((first - 0xE0) * 4096 + x * 64 + y)), 2)
      | none => (none, 1)
    | some _, [] => (none, 1)
    | none, _ => (none, 0)
  | 4, b :: rest =>
    match second? first b, rest with
    | some x, c :: rest =>
      match continuation? c, rest with
      | some y, d :: _ =>
        match continuation? d with
        | some z =>
          (some (Char.ofNat
            ((first - 0xF0) * 262144 + x * 4096 + y * 64 + z)), 3)
        | none => (none, 2)
      | some _, [] => (none, 2)
      | none, _ => (none, 1)
    | some _, [] => (none, 1)
    | none, _ => (none, 0)
  | _, _ => (none, 0)

/-- The characters of some bytes, with none wherever they form none. -/
def chars : List UInt8 → List (Option Char)
  | [] => []
  | first :: rest =>
    let (c, taken) := front first.toNat rest
    c :: chars (rest.drop taken)
termination_by bytes => bytes.length
decreasing_by simp only [List.length_drop, List.length_cons]; omega

/-- The text of some bytes, with a replacement character wherever they form
none. -/
def read (bytes : List UInt8) : Text :=
  (chars bytes).map (·.getD '\ufffd')

/-- The text of some bytes; none if they are not the bytes of a text. -/
def read? (bytes : List UInt8) : Option Text := (chars bytes).mapM id

end QueryPhrase.Utf8
