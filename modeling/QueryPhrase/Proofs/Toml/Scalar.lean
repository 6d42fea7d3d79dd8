import QueryPhrase.Toml.Scalar
import QueryPhrase.Proofs.Text.Pieces

/-!
# Whole numbers are read back

A natural number is written in decimal digits, without a zero in front. Digits alone
are no moment and no fraction, and they are read up to the first character that may
not stand in a plain value.

## Main results

* `numberOf_ofNat` — the digits of a number denote it.
* `scalar?_ofNat` — the digits of a number are read as a whole number.
* `readScalar?_ofNat` — and up to where they end.
-/

namespace QueryPhrase.Toml

/-! ## Digits -/

def digitChars : Text := ['0', '1', '2', '3', '4', '5', '6', '7', '8', '9']

theorem mem_digitChars {c : Char} (h : c.isDigit = true) : c ∈ digitChars := by
  have hAll : (List.range 10).all (fun n => digitChars.contains (Char.ofNat (n + 48)))
      = true := by decide
  obtain ⟨hLow, hHigh⟩ := Char.isDigit_iff_toNat.mp h
  have hLow : 48 ≤ c.toNat := hLow
  have hHigh : c.toNat ≤ 57 := hHigh
  have hMem := List.all_eq_true.mp hAll (c.toNat - 48)
    (List.mem_range.mpr (by omega))
  rw [Nat.sub_add_cancel hLow, Char.ofNat_toNat] at hMem
  exact List.contains_iff_mem.mp hMem

/-- What can be checked of each digit holds of every one. -/
theorem forall_isDigit {p : Char → Bool} (hAll : digitChars.all p = true)
    {c : Char} (h : c.isDigit = true) : p c = true :=
  List.all_eq_true.mp hAll c (mem_digitChars h)

theorem isDigit_of_mem_ofNat {n : Nat} {c : Char} (h : c ∈ Text.ofNat n) :
    c.isDigit = true :=
  Nat.isDigit_of_mem_toDigits (by omega) (by omega) h

/-- Only zero is written with a zero in front. -/
theorem head?_ofNat {n : Nat} (h : 0 < n) : (Text.ofNat n).head? ≠ some '0' := by
  induction n using Nat.strongRecOn with
  | ind n ih =>
      by_cases hSmall : n < 10
      · have hAll : (List.range 9).all (fun k => Nat.digitChar (k + 1) != '0') =
            true := by decide
        have hDigit := List.all_eq_true.mp hAll (n - 1)
          (List.mem_range.mpr (by omega))
        rw [Nat.sub_add_cancel h, bne_iff_ne] at hDigit
        rw [Text.ofNat, Nat.toDigits_of_lt_base hSmall, List.head?_cons]
        simpa using hDigit
      · have hFront := ih (n / 10) (Nat.div_lt_self h (by omega)) (by omega)
        obtain ⟨first, rest, hCons⟩ :=
          List.exists_cons_of_ne_nil (Nat.toDigits_ne_nil (n := n / 10) (b := 10))
        rw [Text.ofNat, hCons] at hFront
        rw [Text.ofNat, Nat.toDigits_of_base_le (by omega) (by omega), hCons]
        exact hFront

theorem valueOfDigit_eq {c : Char} (h : c.isDigit = true) :
    valueOfDigit c = c.toNat - '0'.toNat := by
  rw [valueOfDigit, if_pos h]
  rfl

/-- **The digits of a number denote it.** -/
theorem numberOf_ofNat (n : Nat) : numberOf 10 (Text.ofNat n) = n := by
  have hFold : ∀ (digits : Text) (value : Nat),
      (∀ c ∈ digits, c.isDigit = true) →
      digits.foldl (fun n c => 10 * n + valueOfDigit c) value =
        Nat.ofDigitChars 10 digits value := by
    intro digits
    induction digits with
    | nil => intro value _; rfl
    | cons c rest ih =>
        intro value hDigits
        rw [List.forall_mem_cons] at hDigits
        rw [List.foldl_cons, Nat.ofDigitChars_cons, ih _ hDigits.2,
          valueOfDigit_eq hDigits.1]
  rw [numberOf, hFold _ _ fun c => isDigit_of_mem_ofNat]
  exact Nat.ofDigitChars_ten_toDigits

/-! ## Plain values -/

section

variable {digits : Text} (hDigits : ∀ c ∈ digits, c.isDigit = true)

include hDigits

theorem notMem_of_isDigit {c : Char} (hOther : c.isDigit = false) : c ∉ digits := by
  intro hMem
  rw [hDigits c hMem] at hOther
  cases hOther

theorem ne_of_letter {word : Text} (h : ∃ c, c ∈ word ∧ c.isDigit = false) :
    digits ≠ word := by
  obtain ⟨c, hMem, hOther⟩ := h
  rintro rfl
  exact notMem_of_isDigit hDigits hOther hMem

/-- Digits have no sign. -/
theorem splitSign_digits : splitSign digits = (false, digits) := by
  have hMinus : '-' ∉ digits := notMem_of_isDigit hDigits (by decide)
  have hPlus : '+' ∉ digits := notMem_of_isDigit hDigits (by decide)
  unfold splitSign
  split
  · simp at hMinus
  · simp at hPlus
  · rfl

/-- Digits are no moment: a time of day has a colon, and a date has a hyphen. -/
theorem isMoment_digits : isMoment digits = false := by
  have hTime : isTime digits = false := by
    rw [isTime, Text.splitAt_of_not_mem (notMem_of_isDigit hDigits (by decide))]
  have hDate : isDate digits = false := by
    rw [isDate, Text.splitAt_of_not_mem (notMem_of_isDigit hDigits (by decide))]
  rw [isMoment, hTime, hDate, Bool.or_false, Bool.false_or]
  split
  · rename_i c time hDrop
    have hMem : c ∈ digits :=
      List.mem_of_mem_drop (hDrop ▸ List.mem_cons_self ..)
    have hMark : (!(c == 'T' || c == 't' || c == ' ')) = true :=
      forall_isDigit (p := fun d => !(d == 'T' || d == 't' || d == ' '))
        (by decide) (hDigits c hMem)
    rw [Bool.not_eq_true'] at hMark
    rw [hMark, Bool.false_and, Bool.false_and]
  · rfl

/-- Digits are no fraction: that has a point or an exponent, or is a word. -/
theorem isFraction_digits : isFraction digits = false := by
  have hInf : digits ≠ ['i', 'n', 'f'] := ne_of_letter hDigits ⟨'i', by decide⟩
  have hNan : digits ≠ ['n', 'a', 'n'] := ne_of_letter hDigits ⟨'n', by decide⟩
  have hSmall : digits.map (fun c => if c = 'E' then 'e' else c) = digits := by
    conv_rhs => rw [← List.map_id digits]
    refine List.map_congr_left fun c hMem => ?_
    rw [if_neg, id_eq]
    rintro rfl
    exact notMem_of_isDigit hDigits (by decide) hMem
  have hExponent : splitExponent digits = (digits, none) := by
    rw [splitExponent, hSmall]
    exact Text.cutAt_of_not_mem (notMem_of_isDigit hDigits (by decide))
  have hPoint : Text.cutAt '.' digits = (digits, none) :=
    Text.cutAt_of_not_mem (notMem_of_isDigit hDigits (by decide))
  rw [isFraction, splitSign_digits hDigits]
  simp [hInf, hNan, hExponent, hPoint]

/-- Digits stand for themselves. -/
theorem digitsOf?_digits (hNonempty : digits ≠ []) :
    digitsOf? Char.isDigit digits = some digits := by
  rw [digitsOf?, Text.splitAt_of_not_mem (notMem_of_isDigit hDigits (by decide))]
  simpa [hNonempty] using hDigits

end

/-- The digits of a number are as a decimal number has them. -/
theorem decimalDigits?_ofNat (n : Nat) :
    decimalDigits? (Text.ofNat n) = some (Text.ofNat n) := by
  rw [decimalDigits?, digitsOf?_digits (fun c => isDigit_of_mem_ofNat)
    Nat.toDigits_ne_nil]
  have hZero : ¬ ((Text.ofNat n).head? = some '0' ∧ 1 < (Text.ofNat n).length) := by
    rintro ⟨hHead, hLong⟩
    rcases Nat.eq_zero_or_pos n with rfl | hPos
    · exact absurd hLong (by decide)
    · exact head?_ofNat hPos hHead
  simpa using hZero

theorem intWithin?_of_lt {n : Nat} (h : n < 1 <<< 128) :
    intWithin? false n = some (n : Int) := by
  rw [intWithin?, if_neg Bool.false_ne_true, if_pos h]

/-- **The digits of a number** are read as a whole number. -/
theorem scalar?_ofNat {n : Nat} (h : n < 1 <<< 128) :
    scalar? (Text.ofNat n) = some (.int n) := by
  have hDigits : ∀ c ∈ Text.ofNat n, c.isDigit = true :=
    fun c => isDigit_of_mem_ofNat
  have hTrue : Text.ofNat n ≠ "true" := ne_of_letter hDigits ⟨'t', by decide⟩
  have hFalse : Text.ofNat n ≠ "false" := ne_of_letter hDigits ⟨'f', by decide⟩
  have hInt : int? (Text.ofNat n) = some n := by
    have hBase : ∀ c, c.isDigit = false → ∀ rest,
        Text.ofNat n ≠ '0' :: c :: rest := by
      intro c hOther rest hEq
      have hMem : c ∈ Text.ofNat n := by rw [hEq]; simp
      exact notMem_of_isDigit hDigits hOther hMem
    unfold int?
    split
    · rename_i hEq
      exact absurd hEq (hBase 'x' (by decide) _)
    · rename_i hEq
      exact absurd hEq (hBase 'o' (by decide) _)
    · rename_i hEq
      exact absurd hEq (hBase 'b' (by decide) _)
    · rw [splitSign_digits hDigits]
      simp only [decimalDigits?_ofNat, Option.bind_eq_bind, Option.bind_some,
        numberOf_ofNat, intWithin?_of_lt h]
      rfl
  rw [scalar?, if_neg hTrue, if_neg hFalse, isMoment_digits hDigits,
    isFraction_digits hDigits, hInt]
  rfl

/-- A text that a plain value does not go on in. -/
def ValueEnd (rest : Text) : Prop :=
  ∀ c, rest.head? = some c → c = '\n' ∨ c = ',' ∨ c = ']'

theorem ValueEnd.isScalarChar {rest : Text} (h : ValueEnd rest) {c : Char}
    (hHead : rest.head? = some c) : isScalarChar c = false ∧ c ≠ ' ' := by
  rcases h c hHead with rfl | rfl | rfl <;> decide

/-- **The digits of a number** are read up to where they end. -/
theorem readScalar?_ofNat {n : Nat} (h : n < 1 <<< 128) {rest : Text}
    (hRest : ValueEnd rest) :
    readScalar? (Text.ofNat n ++ rest) = some (.int n, rest) := by
  have hChars : ∀ c ∈ Text.ofNat n, isScalarChar c = true := by
    intro c hMem
    have hDigit := isDigit_of_mem_ofNat hMem
    simp [isScalarChar, Char.isAlphanum, hDigit]
  have hFront : (Text.ofNat n ++ rest).takeWhile isScalarChar = Text.ofNat n :=
    Text.takeWhile_append hChars fun c hHead => (hRest.isScalarChar hHead).1
  have hText : scalarText (Text.ofNat n ++ rest) = Text.ofNat n := by
    rw [scalarText, hFront, List.drop_left]
    split
    · exact absurd rfl (hRest.isScalarChar rfl).2
    · rfl
  rw [readScalar?, hText, scalar?_ofNat h, List.drop_left]
  rfl

end QueryPhrase.Toml
