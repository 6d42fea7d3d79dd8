import QueryPhrase.Form
import QueryPhrase.Proofs.Text.Split
import QueryPhrase.Proofs.Text.Utf8

/-!
# Reading what was written as a query string

A key or a value is written with ASCII characters, and none of them is an
ampersand, an equals sign or a question mark. So the query string is cut at the
ampersands into the pairs it was joined from, and each pair at its first equals
sign into key and value. Both are unescaped byte by byte into the bytes they were
written from, and these are the bytes of a text.

## Main definitions

* `Form.IsWritten` — the characters that keys and values are written with.

## Main results

* `Form.decodeBytes_encodeText` — a key or a value.
* `Form.decodePiece_encodePair` — a pair.
* `Form.decode_encode` — a whole query string.
-/

namespace QueryPhrase.Form

open Utf8

/-- The characters that keys and values are written with. -/
def IsWritten (c : Char) : Prop :=
  c.toNat < 0x80 ∧ c ≠ '&' ∧ c ≠ '=' ∧ c ≠ '?'

instance (c : Char) : Decidable (IsWritten c) :=
  inferInstanceAs (Decidable (_ ∧ _))

/-! ## Bytes -/

theorem isWritten_hexDigit : ∀ n < 16, IsWritten (hexDigit n) := by decide

/-- A written digit is read as its value. -/
theorem hexValue?_hexDigit :
    ∀ n < 16, hexValue? (byte (hexDigit n).toNat) = some n := by decide

/-- A byte that stands for itself is an ASCII character without a meaning of its
own. -/
theorem isWritten_of_isPlain {n : Nat} (h : isPlain n = true) :
    (Char.ofNat n).toNat = n ∧ IsWritten (Char.ofNat n) ∧
      n ≠ 0x25 ∧ n ≠ 0x2B := by
  simp only [isPlain, Bool.or_eq_true, Bool.and_eq_true, decide_eq_true_eq,
    beq_iff_eq] at h
  have hNat : (Char.ofNat n).toNat = n := by
    have hValid : n.isValidChar := Or.inl (by omega)
    rw [Char.ofNat, dif_pos hValid]
    rfl
  have hNe : ∀ c : Char, n ≠ c.toNat → Char.ofNat n ≠ c := by
    intro c hDiffer hSame
    rw [← hSame, hNat] at hDiffer
    exact hDiffer rfl
  refine ⟨hNat, ⟨by omega, hNe _ ?_, hNe _ ?_, hNe _ ?_⟩, by omega, by omega⟩
  · change n ≠ 0x26
    omega
  · change n ≠ 0x3D
    omega
  · change n ≠ 0x3F
    omega

theorem isWritten_encodeByte {b : UInt8} {c : Char} (h : c ∈ encodeByte b) :
    IsWritten c := by
  have hByte : b.toNat < 256 := b.toNat_lt
  unfold encodeByte at h
  simp only at h
  split at h
  · next hPlain =>
      rw [List.mem_singleton] at h
      rw [h]
      exact (isWritten_of_isPlain hPlain).2.1
  · split at h
    · rw [List.mem_singleton] at h
      rw [h]
      decide
    · simp only [List.mem_cons, List.not_mem_nil, or_false] at h
      rcases h with hPercent | hHigh | hLow
      · rw [hPercent]
        decide
      · rw [hHigh]
        exact isWritten_hexDigit _ (by omega)
      · rw [hLow]
        exact isWritten_hexDigit _ (by omega)

/-- A byte other than a plus sign and a percent sign stands for itself. -/
theorem unescapeBytes_cons_of_ne {b : UInt8} (hPlus : b ≠ 0x2B)
    (hPercent : b ≠ 0x25) (rest : List UInt8) :
    unescapeBytes (b :: rest) = b :: unescapeBytes rest := by
  rw [unescapeBytes]
  · exact hPlus
  · intro high low others hSame _
    exact hPercent hSame

/-- **A byte is read back**, whatever comes behind it. -/
theorem unescapeBytes_encodeByte (b : UInt8) (rest : List UInt8) :
    unescapeBytes (ofText (encodeByte b) ++ rest) = b :: unescapeBytes rest := by
  have hAscii : ∀ c ∈ encodeByte b, c.toNat < 0x80 :=
    fun c hMem => (isWritten_encodeByte hMem).1
  rw [ofText_of_ascii hAscii]
  have hByte : b.toNat < 256 := b.toNat_lt
  unfold encodeByte
  simp only
  split
  · next hPlain =>
      obtain ⟨hNat, _, hPercent, hPlus⟩ := isWritten_of_isPlain hPlain
      have hSame : byte (Char.ofNat b.toNat).toNat = b := by
        rw [hNat, byte_toNat]
      rw [List.map_singleton, List.singleton_append, hSame]
      refine unescapeBytes_cons_of_ne ?_ ?_ rest
      · rintro rfl
        exact hPlus rfl
      · rintro rfl
        exact hPercent rfl
  · split
    · next hSpace =>
        have hSame : b = 0x20 := UInt8.toNat_inj.mp hSpace
        rw [hSame]
        rfl
    · have hHigh := hexValue?_hexDigit (b.toNat / 16) (by omega)
      have hLow := hexValue?_hexDigit (b.toNat % 16) (by omega)
      have hSame : UInt8.ofNat (16 * (b.toNat / 16) + b.toNat % 16) = b := by
        rw [Nat.div_add_mod]
        exact byte_toNat b
      change unescapeBytes (0x25 :: byte (hexDigit (b.toNat / 16)).toNat ::
        byte (hexDigit (b.toNat % 16)).toNat :: rest) = _
      rw [unescapeBytes]
      simp only [hHigh, hLow, hSame]

/-! ## Keys and values -/

theorem isWritten_encodeText {text : Text} {c : Char}
    (h : c ∈ encodeText text) : IsWritten c := by
  obtain ⟨b, _, hMem⟩ := List.mem_flatMap.mp h
  exact isWritten_encodeByte hMem

/-- A byte of a written text is the number of a character it may be written
with. -/
theorem not_mem_encodeText {text : Text} {c : Char} (hAscii : c.toNat < 0x80)
    (hUnwritten : ¬ IsWritten c) : byte c.toNat ∉ ofText (encodeText text) := by
  have hWritten : ∀ d ∈ encodeText text, IsWritten d :=
    fun d hMem => isWritten_encodeText hMem
  rw [ofText_of_ascii fun d hMem => (hWritten d hMem).1]
  intro hMem
  obtain ⟨d, hText, hSame⟩ := List.mem_map.mp hMem
  have hNat : d.toNat = c.toNat := by
    have hBytes := congrArg UInt8.toNat hSame
    have hSmall := (hWritten d hText).1
    rwa [toNat_byte (by omega), toNat_byte (by omega)] at hBytes
  rw [Char.toNat_inj.mp hNat] at hText
  exact hUnwritten (hWritten c hText)

theorem unescapeBytes_encodeBytes (bytes : List UInt8) :
    unescapeBytes (ofText (bytes.flatMap encodeByte)) = bytes := by
  induction bytes with
  | nil => rfl
  | cons b rest ih =>
      rw [List.flatMap_cons, ofText_append, unescapeBytes_encodeByte, ih]

/-- **A key or a value** is read as it was. -/
theorem decodeBytes_encodeText (text : Text) :
    decodeBytes (ofText (encodeText text)) = text := by
  rw [decodeBytes, encodeText, unescapeBytes_encodeBytes, read_ofText]

/-! ## Pairs -/

/-- The bytes of a pair: an equals sign between those of the key and those of
the value. -/
theorem ofText_encodePair (pair : Text × Text) :
    ofText (encodePair pair) =
      ofText (encodeText pair.1) ++ 0x3D :: ofText (encodeText pair.2) := by
  rw [encodePair, ofText_append, ofText_append, List.append_assoc]
  rfl

/-- **A pair** is read as it was. -/
theorem decodePiece_encodePair (pair : Text × Text) :
    decodePiece (ofText (encodePair pair)) = pair := by
  have hKey : ∀ b ∈ ofText (encodeText pair.1), (b != 0x3D) = true := by
    intro b hMem
    rw [bne_iff_ne]
    rintro rfl
    exact not_mem_encodeText (c := '=') (by decide) (by decide) hMem
  rw [decodePiece, ofText_encodePair, List.takeWhile_append_of_pos hKey,
    List.dropWhile_append_of_pos hKey]
  simp only [bne_self_eq_false, Bool.false_eq_true, not_false_eq_true,
    List.takeWhile_cons_of_neg, List.dropWhile_cons_of_neg, List.append_nil,
    List.drop_succ_cons, List.drop_zero, decodeBytes_encodeText]

theorem not_mem_encodePair (pair : Text × Text) :
    (0x26 : UInt8) ∉ ofText (encodePair pair) := by
  rw [ofText_encodePair, List.mem_append, List.mem_cons]
  rintro (hKey | hEquals | hValue)
  · exact not_mem_encodeText (c := '&') (by decide) (by decide) hKey
  · exact absurd hEquals (by decide)
  · exact not_mem_encodeText (c := '&') (by decide) (by decide) hValue

/-! ## Query strings -/

theorem pieces_eq_splitOn (separator : UInt8) (bytes : List UInt8) :
    pieces separator bytes = bytes.splitOn separator := by
  induction bytes with
  | nil => exact (List.splitOn_nil separator).symm
  | cons b rest ih =>
      rw [pieces, ih, List.splitOn, List.splitOn,
        List.splitOnP_cons_eq_if_modifyHead]
      simp only [beq_iff_eq]
      split
      · rfl
      · split
        · next hNone => exact absurd hNone (List.splitOnP_ne_nil _ rest)
        · next piece others hSome =>
            rw [hSome]
            rfl

theorem ofText_joined (parts : List Text) :
    ofText (Text.joined "&" parts) = [0x26].intercalate (parts.map ofText) := by
  have hAmpersand : ofText "&" = [0x26] := by decide
  induction parts with
  | nil => rfl
  | cons part rest ih =>
      cases rest with
      | nil =>
          rw [Text.joined_singleton, List.map_singleton,
            List.intercalate_singleton]
      | cons next others =>
          have hBytes : (part :: next :: others).map ofText =
              ofText part :: ofText next :: others.map ofText := rfl
          rw [hBytes, List.intercalate_cons_cons, Text.joined_cons_cons,
            ofText_append, ofText_append, ih, hAmpersand, List.append_assoc]
          rfl

/-- **The pairs of a query string** are those it was written from. -/
theorem decode_encode (pairs : List (Text × Text)) :
    decode (encode pairs) = pairs := by
  by_cases hNone : pairs = []
  · rw [hNone]
    rfl
  · have hPieces : pieces 0x26 (ofText (encode pairs)) =
        pairs.map fun pair => ofText (encodePair pair) := by
      rw [encode, ofText_joined, List.map_map, pieces_eq_splitOn,
        List.splitOn_intercalate]
      · rfl
      · intro piece hPiece
        obtain ⟨pair, _, hSame⟩ := List.mem_map.mp hPiece
        rw [← hSame]
        exact not_mem_encodePair pair
      · rwa [ne_eq, List.map_eq_nil_iff]
    have hKept : ∀ piece ∈ pairs.map fun pair => ofText (encodePair pair),
        (!piece.isEmpty) = true := by
      intro piece hPiece
      obtain ⟨pair, _, hSame⟩ := List.mem_map.mp hPiece
      rw [← hSame, ofText_encodePair]
      simp
    have hRead : ∀ pair ∈ pairs,
        (decodePiece ∘ fun pair => ofText (encodePair pair)) pair = pair :=
      fun pair _ => decodePiece_encodePair pair
    rw [decode, hPieces, List.filter_eq_self.mpr hKept, List.map_map,
      List.map_congr_left hRead, List.map_id']

/-- A query string does not begin with a question mark. -/
theorem head_encode_ne (pairs : List (Text × Text)) :
    (encode pairs).head? ≠ some '?' := by
  cases pairs with
  | nil => decide
  | cons pair rest =>
      have hFirst : ∀ behind : Text,
          (encodePair pair ++ behind).head? ≠ some '?' := by
        intro behind
        rw [encodePair, List.append_assoc, List.append_assoc]
        cases hKey : encodeText pair.1 with
        | nil =>
            change some '=' ≠ some '?'
            decide
        | cons c letters =>
            have hMem : c ∈ encodeText pair.1 := by simp [hKey]
            have hWritten := isWritten_encodeText hMem
            rw [List.cons_append, List.head?_cons, ne_eq, Option.some.injEq]
            exact hWritten.2.2.2
      cases rest with
      | nil =>
          rw [encode, List.map_singleton, Text.joined_singleton,
            ← List.append_nil (encodePair pair)]
          exact hFirst []
      | cons next others =>
          rw [encode, List.map_cons, List.map_cons, Text.joined_cons_cons]
          exact hFirst _

end QueryPhrase.Form
