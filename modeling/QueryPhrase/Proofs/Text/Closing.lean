import Mathlib.Data.List.Infix
import QueryPhrase.Proofs.Text.Quoted

/-!
# Where a phrase is closed

Field terms ask of the whole value whether it is closed: they look at its last
character and count the backslashes before it. Matcher triples follow the quotes
forwards, with a note of whether the next character is escaped. The two differ
on texts with further quotes, such as `"a"b"`, which has three: the first way
says closed, and the second one that a quote is open.

Up to the place where the phrase is closed for the first time they agree. The
note is the parity of the backslashes at the end (`escaped_foldl_push`), so on
the last character both ask the same two things; and before that character the
quote that began the phrase was still open.

## Main results

* `QuoteState.escaped_foldl_push` — the note is the parity.
* `QuoteState.isOpen_phrase` — up to its first closing quote a phrase is open.
* `closesPhrase_iff_balanced` — where a phrase is closed for the first time.
-/

namespace QueryPhrase

/-- A phrase is closed by a quote that the text before it leaves unescaped. -/
theorem closesPhrase_concat (body : Text) (c : Char) :
    closesPhrase ('"' :: (body ++ [c])) =
      (decide (c = '"') && endsUnescaped body) := by
  rw [closesPhrase, List.getLast?_concat, List.dropLast_concat]
  rfl

namespace QuoteState

/-- The next character is escaped when the backslashes at the end are odd in
number. The induction is from the end, where they are counted. -/
theorem escaped_foldl_push (text : Text) {state : QuoteState}
    (hState : state.escaped = false) :
    (text.foldl push state).escaped = !endsUnescaped text := by
  induction text using List.reverseRecOn with
  | nil => exact hState
  | append_singleton rest c ih =>
      rw [List.foldl_append, List.foldl_cons, List.foldl_nil]
      by_cases hBackslash : c = '\\'
      · subst hBackslash
        rw [endsUnescaped_backslash, Bool.not_not, push, ih]
        cases endsUnescaped rest <;> rfl
      · rw [escaped_push hBackslash, endsUnescaped_concat hBackslash]
        rfl

/-- Only a quote that is not escaped opens or closes one. -/
theorem isOpen_push (state : QuoteState) (c : Char) :
    (state.push c).isOpen =
      if c = '"' ∧ state.escaped = false then !state.isOpen
      else state.isOpen := by
  rw [push]
  by_cases hEscaped : state.escaped = true
  · simp [hEscaped]
  · by_cases hBackslash : c = '\\'
    · simp [hEscaped, hBackslash]
    · by_cases hQuote : c = '"' <;> simp [hEscaped, hQuote, hBackslash]

/-- **Up to its first closing quote a phrase is open**, and there it is not. -/
theorem isOpen_phrase {inner : Text}
    (hFirst : ∀ front, front <+: '"' :: inner → front ≠ '"' :: inner →
      closesPhrase front = false) :
    (ofText ('"' :: inner)).isOpen = !closesPhrase ('"' :: inner) := by
  induction inner using List.reverseRecOn with
  | nil => rfl
  | append_singleton body c ih =>
      have hBefore : ('"' :: body) <+: '"' :: (body ++ [c]) :=
        ⟨[c], rfl⟩
      have hClosed : closesPhrase ('"' :: body) = false :=
        hFirst _ hBefore (by simp)
      have hOpen : (ofText ('"' :: body)).isOpen = true := by
        rw [ih, hClosed]
        · rfl
        · intro front hFront hOther
          refine hFirst front (hFront.trans hBefore) ?_
          rintro rfl
          exact absurd hFront.length_le (by simp)
      have hEscaped : (ofText ('"' :: body)).escaped = !endsUnescaped body :=
        escaped_foldl_push body rfl
      have hLast : ofText ('"' :: (body ++ [c])) =
          (ofText ('"' :: body)).push c := ofText_append ('"' :: body) [c]
      rw [hLast, isOpen_push, hOpen, hEscaped, closesPhrase_concat]
      by_cases hQuote : c = '"' <;> cases endsUnescaped body <;> simp [hQuote]

end QuoteState

/-- **Where a phrase is closed for the first time.** Of a value that begins with
a quote and is not closed anywhere before its end, both ways tell the same:
looking back from the end it is closed just when the quotes followed forwards
are balanced. It then has a quote at either end, and without its quotes it is
what is between these two. -/
theorem closesPhrase_iff_balanced {value : Text}
    (hPhrase : isPhrase value = true)
    (hFirst : ∀ front, front <+: value → front ≠ value →
      closesPhrase front = false) :
    (closesPhrase value = true ↔ (QuoteState.ofText value).balanced = true) ∧
      (closesPhrase value = true → value = '"' :: (unquoted value ++ ['"']) ∧
        unquoted value = value.tail.dropLast) := by
  cases value with
  | nil => cases hPhrase
  | cons c inner =>
      rw [isPhrase_cons, beq_iff_eq] at hPhrase
      subst hPhrase
      refine ⟨?_, ?_⟩
      · rw [QuoteState.balanced, QuoteState.isOpen_phrase hFirst, Bool.not_not]
      · intro hCloses
        obtain ⟨body, rfl, _⟩ := (closesPhrase_iff inner).mp hCloses
        rw [unquoted, if_pos hCloses, List.tail_cons, List.dropLast_concat]
        exact ⟨rfl, rfl⟩

/-- An escaped quote, and backslashes before the last one, do not mislead either
way. -/
theorem closesPhrase_iff_balanced_of_escaped :
    let value : Text := "\"a \\\" b\\\\\""
    (∀ front, front <+: value → front ≠ value → closesPhrase front = false) ∧
      (closesPhrase value = true ↔ (QuoteState.ofText value).balanced = true) ∧
        value = '"' :: (unquoted value ++ ['"']) := by
  intro value
  have hFronts : ∀ front ∈ value.inits, front ≠ value →
      closesPhrase front = false := by decide
  have hFirst : ∀ front, front <+: value → front ≠ value →
      closesPhrase front = false := fun front hFront =>
    hFronts front ((List.mem_inits front value).mpr hFront)
  obtain ⟨hAgree, hInside⟩ := closesPhrase_iff_balanced (by decide) hFirst
  exact ⟨hFirst, hAgree, (hInside (by decide)).1⟩

end QueryPhrase
