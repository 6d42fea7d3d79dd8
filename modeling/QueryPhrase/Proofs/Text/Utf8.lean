import Mathlib.Tactic.SplitIfs
import QueryPhrase.Text.Utf8

/-!
# Reading the bytes of a text

A character is written as one to four bytes that hold its number in pieces of six
bits. The first byte says how many come after it, and the second one is in the
range that the first one leaves open: a shorter form was taken where there is
one, no character is a surrogate, and none has a number past the last. So the
bytes of a character are read as that character, whatever comes behind them.

## Main results

* `Utf8.chars_ofChar` — the bytes of a character, before any others.
* `Utf8.read_ofText` — the bytes of a text.
-/

namespace QueryPhrase.Utf8

variable {first x y z w : Nat}

theorem toNat_byte {n : Nat} (h : n < 256) : (byte n).toNat = n := by
  rw [byte, UInt8.toNat_ofNat', Nat.mod_eq_of_lt h]

/-- A byte is the byte of its own number. -/
theorem byte_toNat (b : UInt8) : byte b.toNat = b := UInt8.ofNat_toNat

/-! ## Single bytes -/

theorem continuation?_byte (hx : x < 64) :
    continuation? (byte (0x80 + x)) = some x := by
  have hByte : (byte (0x80 + x)).toNat = 0x80 + x := toNat_byte (by omega)
  have hRange : (0x80 ≤ 0x80 + x && 0x80 + x ≤ 0xBF) = true := by
    simp only [Bool.and_eq_true, decide_eq_true_eq]
    omega
  rw [continuation?, hByte, if_pos hRange, Nat.add_sub_cancel_left]

/-- A second byte is read unless the first one closes the range it is in. -/
theorem second?_byte (hx : x < 64) (hE0 : first = 0xE0 → 32 ≤ x)
    (hED : first = 0xED → x < 32) (hF0 : first = 0xF0 → 16 ≤ x)
    (hF4 : first = 0xF4 → x < 16) :
    second? first (byte (0x80 + x)) = some x := by
  have hByte : (byte (0x80 + x)).toNat = 0x80 + x := toNat_byte (by omega)
  have hRange : ((secondRange first).1 ≤ 0x80 + x &&
      0x80 + x ≤ (secondRange first).2) = true := by
    simp only [Bool.and_eq_true, decide_eq_true_eq]
    unfold secondRange
    split_ifs <;> simp only <;> omega
  rw [second?, hByte, if_pos hRange, Nat.add_sub_cancel_left]

/-! ## Characters by their length -/

theorem chars_one (hx : x < 0x80) (rest : List UInt8) :
    chars (byte x :: rest) = some (Char.ofNat x) :: chars rest := by
  have hFirst : (byte x).toNat = x := toNat_byte (by omega)
  have hLength : lengthOf x = 1 := by
    unfold lengthOf
    split_ifs
    rfl
  rw [chars, hFirst]
  simp only [front, hLength, List.drop_zero]

theorem chars_two (hx : x < 32) (hy : y < 64) (hLong : 2 ≤ x)
    (rest : List UInt8) :
    chars (byte (0xC0 + x) :: byte (0x80 + y) :: rest) =
      some (Char.ofNat (x * 64 + y)) :: chars rest := by
  have hFirst : (byte (0xC0 + x)).toNat = 0xC0 + x := toNat_byte (by omega)
  have hLength : lengthOf (0xC0 + x) = 2 := by
    unfold lengthOf
    split_ifs <;> omega
  have hSecond : second? (0xC0 + x) (byte (0x80 + y)) = some y :=
    second?_byte hy (by omega) (by omega) (by omega) (by omega)
  rw [chars, hFirst]
  simp only [front, hLength, hSecond, Nat.add_sub_cancel_left,
    List.drop_succ_cons, List.drop_zero]

theorem chars_three (hx : x < 16) (hy : y < 64) (hz : z < 64)
    (hLong : x = 0 → 32 ≤ y) (hScalar : x = 13 → y < 32)
    (rest : List UInt8) :
    chars (byte (0xE0 + x) :: byte (0x80 + y) :: byte (0x80 + z) :: rest) =
      some (Char.ofNat (x * 4096 + y * 64 + z)) :: chars rest := by
  have hFirst : (byte (0xE0 + x)).toNat = 0xE0 + x := toNat_byte (by omega)
  have hLength : lengthOf (0xE0 + x) = 3 := by
    unfold lengthOf
    split_ifs <;> omega
  have hSecond : second? (0xE0 + x) (byte (0x80 + y)) = some y :=
    second?_byte hy (by omega) (by omega) (by omega) (by omega)
  have hThird := continuation?_byte hz
  rw [chars, hFirst]
  simp only [front, hLength, hSecond, hThird, Nat.add_sub_cancel_left,
    List.drop_succ_cons, List.drop_zero]

theorem chars_four (hx : x < 5) (hy : y < 64) (hz : z < 64) (hw : w < 64)
    (hLong : x = 0 → 16 ≤ y) (hLast : x = 4 → y < 16) (rest : List UInt8) :
    chars (byte (0xF0 + x) :: byte (0x80 + y) :: byte (0x80 + z) ::
        byte (0x80 + w) :: rest) =
      some (Char.ofNat (x * 262144 + y * 4096 + z * 64 + w)) ::
        chars rest := by
  have hFirst : (byte (0xF0 + x)).toNat = 0xF0 + x := toNat_byte (by omega)
  have hLength : lengthOf (0xF0 + x) = 4 := by
    unfold lengthOf
    split_ifs <;> omega
  have hSecond : second? (0xF0 + x) (byte (0x80 + y)) = some y :=
    second?_byte hy (by omega) (by omega) (by omega) (by omega)
  have hThird := continuation?_byte hz
  have hFourth := continuation?_byte hw
  rw [chars, hFirst]
  simp only [front, hLength, hSecond, hThird, hFourth, Nat.add_sub_cancel_left,
    List.drop_succ_cons, List.drop_zero]

/-! ## Texts -/

theorem ofText_append (a b : Text) : ofText (a ++ b) = ofText a ++ ofText b :=
  List.flatMap_append

/-- An ASCII character is a single byte. -/
theorem ofChar_of_ascii {c : Char} (h : c.toNat < 0x80) :
    ofChar c = [byte c.toNat] := by
  simp only [ofChar, h, if_true]

/-- The bytes of ASCII characters are their numbers. -/
theorem ofText_of_ascii {text : Text} (h : ∀ c ∈ text, c.toNat < 0x80) :
    ofText text = text.map fun c => byte c.toNat := by
  induction text with
  | nil => rfl
  | cons c rest ih =>
      rw [List.forall_mem_cons] at h
      rw [ofText, List.flatMap_cons, ofChar_of_ascii h.1, List.map_cons,
        ← ih h.2]
      rfl

/-- **The bytes of a character** are read as the character. -/
theorem chars_ofChar (c : Char) (rest : List UInt8) :
    chars (ofChar c ++ rest) = some c :: chars rest := by
  have hValid : c.toNat < 0xD800 ∨ 0xDFFF < c.toNat ∧ c.toNat < 0x110000 :=
    c.valid
  have hSame : Char.ofNat c.toNat = c := Char.ofNat_toNat c
  unfold ofChar
  generalize c.toNat = n at hValid hSame
  simp only
  split_ifs with hOne hTwo hThree
  · rw [List.singleton_append, chars_one hOne, hSame]
  · have hPieces : n / 64 * 64 + n % 64 = n := by omega
    simp only [List.cons_append, List.nil_append]
    rw [chars_two (by omega) (by omega) (by omega), hPieces, hSame]
  · have hPieces : n / 4096 * 4096 + n / 64 % 64 * 64 + n % 64 = n := by omega
    simp only [List.cons_append, List.nil_append]
    rw [chars_three (by omega) (by omega) (by omega) (by omega) (by omega),
      hPieces, hSame]
  · have hPieces : n / 262144 * 262144 + n / 4096 % 64 * 4096 +
        n / 64 % 64 * 64 + n % 64 = n := by omega
    simp only [List.cons_append, List.nil_append]
    rw [chars_four (by omega) (by omega) (by omega) (by omega) (by omega)
      (by omega), hPieces, hSame]

/-- **The bytes of a text** are read as the text. -/
theorem read_ofText (text : Text) : read (ofText text) = text := by
  have hChars : chars (ofText text) = text.map some := by
    induction text with
    | nil => rw [ofText, List.flatMap_nil, chars, List.map_nil]
    | cons c rest ih =>
        rw [ofText, List.flatMap_cons, chars_ofChar, List.map_cons, ← ih, ofText]
  rw [read, hChars, List.map_map]
  exact List.map_id' text

end QueryPhrase.Utf8
