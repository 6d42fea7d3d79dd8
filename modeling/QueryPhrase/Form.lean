import QueryPhrase.Text.Utf8

/-!
# Form encoding

Pairs of texts as one query string, in the form `application/x-www-form-urlencoded`.
Letters, digits and `*-._` stand for themselves, a space is a plus sign, and every
other byte of the UTF-8 form is a percent sign with two hexadecimal digits.

Reading never fails: empty pieces are skipped, a piece without an equals sign is a
key without a value, a percent sign without two digits stands for itself, and
bytes that are no UTF-8 become replacement characters.
-/

namespace QueryPhrase.Form

/-- Whether a byte stands for itself. -/
def isPlain (n : Nat) : Bool :=
  (0x30 ≤ n && n ≤ 0x39) || (0x41 ≤ n && n ≤ 0x5A) || (0x61 ≤ n && n ≤ 0x7A) ||
    n == 0x2A || n == 0x2D || n == 0x2E || n == 0x5F

/-- The uppercase hexadecimal digit with the given value. -/
def hexDigit (n : Nat) : Char :=
  Char.ofNat (if n < 10 then 0x30 + n else 0x37 + n)

/-- The value of a hexadecimal digit, given as a byte. -/
def hexValue? (b : UInt8) : Option Nat :=
  let n := b.toNat
  if 0x30 ≤ n && n ≤ 0x39 then some (n - 0x30)
  else if 0x41 ≤ n && n ≤ 0x46 then some (n - 0x37)
  else if 0x61 ≤ n && n ≤ 0x66 then some (n - 0x57)
  else none

/-- A byte as it stands in a query string. -/
def encodeByte (b : UInt8) : Text :=
  let n := b.toNat
  if isPlain n then [Char.ofNat n]
  else if n = 0x20 then ['+']
  else ['%', hexDigit (n / 16), hexDigit (n % 16)]

/-- A text as it stands in a query string. -/
def encodeText (text : Text) : Text := (Utf8.ofText text).flatMap encodeByte

/-- A pair as it stands in a query string. -/
def encodePair (pair : Text × Text) : Text :=
  encodeText pair.1 ++ ['='] ++ encodeText pair.2

/-- Pairs as a query string. -/
def encode (pairs : List (Text × Text)) : Text :=
  Text.joined "&" (pairs.map encodePair)

/-- Reads plus signs and percent signs. -/
def unescapeBytes : List UInt8 → List UInt8
  | [] => []
  | 0x2B :: rest => 0x20 :: unescapeBytes rest
  | 0x25 :: high :: low :: rest =>
    match hexValue? high, hexValue? low with
    | some h, some l => UInt8.ofNat (16 * h + l) :: unescapeBytes rest
    | _, _ => 0x25 :: unescapeBytes (high :: low :: rest)
  | b :: rest => b :: unescapeBytes rest

/-- The text that some bytes of a query string stand for. -/
def decodeBytes (bytes : List UInt8) : Text := Utf8.read (unescapeBytes bytes)

/-- The pieces of a list of bytes between occurrences of `separator`. -/
def pieces (separator : UInt8) : List UInt8 → List (List UInt8)
  | [] => [[]]
  | b :: rest =>
    if b = separator then [] :: pieces separator rest
    else
      match pieces separator rest with
      | [] => [[b]]
      | piece :: others => (b :: piece) :: others

/-- The pair a piece stands for: what is before its first equals sign and what is
after it. -/
def decodePiece (piece : List UInt8) : Text × Text :=
  (decodeBytes (piece.takeWhile (· != 0x3D)),
    decodeBytes ((piece.dropWhile (· != 0x3D)).drop 1))

/-- The pairs of a query string. -/
def decode (query : Text) : List (Text × Text) :=
  ((pieces 0x26 (Utf8.ofText query)).filter (!·.isEmpty)).map decodePiece

end QueryPhrase.Form
