import QueryPhrase.Text.Number

/-!
# Written counts

A count is written in decimal digits and read back from them. Reading refuses a
number as soon as it leaves the words; the numbers on the way are no larger than
the one the text denotes, so a count that was written is never refused.

## Main results

* `readDigits_eq` — digits that denote a word are read as what they denote.
* `count?_countText` — reading a written count gives the count.
-/

namespace QueryPhrase

/-- The digits to come make a number no smaller. -/
private theorem le_ofDigitChars (text : Text) :
    ∀ value : Nat, value ≤ Nat.ofDigitChars 10 text value := by
  induction text with
  | nil => intro value; simp
  | cons c rest ih =>
      intro value
      rw [Nat.ofDigitChars_cons]
      have hRest := ih (10 * value + (c.toNat - '0'.toNat))
      omega

/-- Digits that denote a word are read as what they denote. -/
theorem readDigits_eq {text : Text} :
    ∀ {value : Nat}, (∀ c ∈ text, c.isDigit = true) →
      Nat.ofDigitChars 10 text value < UInt64.size →
      readDigits value text = .ok (Nat.ofDigitChars 10 text value) := by
  induction text with
  | nil => intro value _ _; rfl
  | cons c rest ih =>
      intro value hDigits hFits
      rw [List.forall_mem_cons] at hDigits
      obtain ⟨hDigit, hRest⟩ := hDigits
      rw [Nat.ofDigitChars_cons] at hFits ⊢
      have hNext := le_ofDigitChars rest (10 * value + (c.toNat - '0'.toNat))
      have hSmall : 10 * value + (c.toNat - '0'.toNat) < UInt64.size := by omega
      simp only [readDigits, digitValue?, hDigit, if_true, hSmall]
      exact ih hRest hFits

/-- **Reading a written count gives the count.** -/
theorem count?_countText (n : UInt64) : count? (countText n) = some n := by
  have hDigits : ∀ c ∈ countText n, c.isDigit = true :=
    fun c hMem => Nat.isDigit_of_mem_toDigits (by omega) (by omega) hMem
  have hValue : Nat.ofDigitChars 10 (countText n) 0 = n.toNat :=
    Nat.ofDigitChars_ten_toDigits
  have hRead : readDigits 0 (countText n) = .ok n.toNat := by
    rw [readDigits_eq hDigits (by rw [hValue]; exact n.toNat_lt), hValue]
  obtain ⟨first, rest, hCons⟩ :=
    List.exists_cons_of_ne_nil (Nat.toDigits_ne_nil (n := n.toNat) (b := 10))
  have hText : countText n = first :: rest := hCons
  rw [hText] at hDigits hRead ⊢
  have hPlus : first ≠ '+' := by
    intro hFirst
    have hDigit := hDigits first List.mem_cons_self
    rw [hFirst] at hDigit
    cases hDigit
  have hCount : readCount (first :: rest) = .ok n := by
    unfold readCount
    split
    · next h => cases h
    · next h => exact absurd (List.cons.inj h).1 hPlus
    · next h => exact absurd (List.cons.inj h).1 hPlus
    · rw [hRead, Except.map, UInt64.ofNat_toNat]
  rw [count?, hCount]
  rfl

end QueryPhrase
