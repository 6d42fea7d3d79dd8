import QueryPhrase.Proofs.Lexer.QueryForm

/-!
# Where a quoted value ends

The phrase of a field term ends at its first quote that no backslash escapes,
and it goes on to the end of the text where there is no such quote. There is one
exception: a term without a field whose phrase is followed, in the same word, by
other characters and another colon. It is opened before that colon only, and by
then its phrase is closed and has more behind it, so it is not taken for closed
there, and the value goes on to a later quote or to the end of the text.

## Main definitions

* `Lexer.OpenedLate` — the terms of the exception.

## Main results

* `Lexer.quoted_value_iff` — every other quoted value ends where it should, and
  none of these does.
-/

namespace QueryPhrase.Lexer

/-- A text begins with a colon and a phrase, and in the word that these are in
another colon comes, not right behind the phrase. -/
def OpenedLate (text : Text) : Prop :=
  ∃ inner more others, text = ':' :: ('"' :: (inner ++ more) ++ ':' :: others) ∧
    behindQuote? inner = some [] ∧ more ≠ [] ∧
    ∀ c ∈ inner ++ more, isBlank c = false ∧ c ≠ ':'

/-- A phrase ends at its first unescaped quote, or it has none and nothing is
behind it. -/
def EndsAtQuote (inner rest : Text) : Prop :=
  behindQuote? inner = some [] ∨ (behindQuote? inner = none ∧ rest = [])

section FieldTerm

variable {name late others rest inner : Text}

/-- A phrase that goes on behind its first unescaped quote, or without one is not
at the end of the text, was closed before the term was opened. -/
theorem IsFieldTerm.openedLate (h : IsFieldTerm name late others rest)
    (hValue : late ++ others = '"' :: inner) (hEnds : ¬ EndsAtQuote inner rest) :
    OpenedLate (name ++ ':' :: (late ++ others) ++ rest) := by
  have hPhrase : isPhrase (late ++ others) = true := by
    rw [hValue]
    rfl
  cases hBehind : behindQuote? inner with
  | none =>
      have hRest : rest ≠ [] := fun hNil => hEnds (Or.inr ⟨hBehind, hNil⟩)
      have hCloses := h.ends.closes hPhrase hRest
      rw [hValue, closesPhrase_iff] at hCloses
      obtain ⟨body, hInner, hBody⟩ := hCloses
      obtain ⟨after, hAfter⟩ := exists_behindQuote? body [] hBody
      rw [← hInner, hBehind] at hAfter
      cases hAfter
  | some after =>
      have hAfter : after ≠ [] := by
        rintro rfl
        exact hEnds (Or.inl hBehind)
      obtain ⟨body, hInner, hBody, hClosed⟩ := exists_of_behindQuote? hBehind
      have hCloses : closesPhrase ('"' :: (body ++ ['"'])) = true :=
        (closesPhrase_iff _).mpr ⟨body, rfl, hBody⟩
      have hSplit : late ++ others = '"' :: (body ++ ['"']) ++ after := by
        simp [hValue, hInner]
      rcases List.append_eq_append_iff.mp hSplit with
        ⟨more, hWhole, hOthers⟩ | ⟨more, hLate, hMore⟩
      · -- The term was open by the end of the phrase, so it was over there.
        have hPlace := h.passes more after hOthers.symm hAfter
        rw [← hWhole] at hPlace
        exact absurd (valueEnds_of_closes hCloses) hPlace
      · by_cases hNil : more = []
        · rw [hNil, List.append_nil] at hLate
          rw [hNil, List.nil_append] at hMore
          rw [hMore] at hAfter
          have hPlace := h.passes [] others rfl hAfter
          rw [List.append_nil, hLate] at hPlace
          exact absurd (valueEnds_of_closes hCloses) hPlace
        · have hName : name = [] := by
            by_contra hSome
            have hNone := h.named hSome
            rw [hLate] at hNone
            cases hNone
          obtain ⟨tail, hTail⟩ := List.head?_eq_some_iff.mp (h.unnamed hName)
          refine ⟨body ++ ['"'], more, tail, ?_, hClosed, hNil, ?_⟩
          · rw [hName, List.nil_append, List.cons_append, List.append_assoc, hTail,
              hLate]
            rfl
          · intro c hMem
            have hIn : c ∈ late := by
              rw [hLate, List.cons_append]
              exact List.mem_cons_of_mem _ hMem
            refine ⟨h.late_solid c hIn, ?_⟩
            rintro rfl
            exact h.late_colon hIn

/-- Where a term is opened late, its phrase goes on behind its first unescaped
quote. -/
theorem IsFieldTerm.not_endsAtQuote (h : IsFieldTerm name late others rest)
    (hValue : late ++ others = '"' :: inner)
    (hLate : OpenedLate (name ++ ':' :: (late ++ others) ++ rest)) :
    ¬ EndsAtQuote inner rest := by
  obtain ⟨inner', more, others', hText, hClosed, hMore, hWord⟩ := hLate
  have hColon : ':' ∉ '"' :: (inner' ++ more) := by
    rw [List.mem_cons]
    rintro (hQuote | hMem)
    · exact absurd hQuote (by decide)
    · exact (hWord ':' hMem).2 rfl
  have hFirst : name ++ ':' :: (late ++ others ++ rest) =
      [] ++ ':' :: ('"' :: (inner' ++ more) ++ ':' :: others') := by
    rw [List.nil_append, ← hText]
    simp
  obtain ⟨hName, hRest⟩ :=
    Text.first_unique h.name_colon List.not_mem_nil hFirst
  obtain ⟨tail, hTail⟩ := List.head?_eq_some_iff.mp (h.unnamed hName)
  rw [List.append_assoc, hTail] at hRest
  -- The term is opened before the first colon of its value.
  obtain ⟨hSame, _⟩ := Text.first_unique h.late_colon hColon hRest
  rw [hSame, List.cons_append, List.cons.injEq] at hValue
  have hBehind := behindQuote?_append hClosed (more ++ others)
  rw [← List.append_assoc, hValue.2, List.nil_append] at hBehind
  rintro (hEnd | ⟨hNone, _⟩)
  · rw [hBehind, Option.some.injEq, List.append_eq_nil_iff] at hEnd
    exact hMore hEnd.1
  · rw [hBehind] at hNone
    cases hNone

end FieldTerm

/-- **Where a quoted value ends.** The value of a field term that is a phrase
ends at its first unescaped quote, or it has none and the term goes to the end
of the text, unless the term is opened late; and then it does neither. -/
theorem quoted_value_iff {text : Text} {token value : Token} {inner : Text}
    (hToken : token ∈ Grammar.field.tokens text) (hKind : token.kind = .term)
    (hValue : token.child? .value = some value)
    (hPhrase : value.value = '"' :: inner) :
    EndsAtQuote inner (text.drop (token.stop + 1)) ↔
      ¬ OpenedLate (text.drop token.start) := by
  obtain ⟨before, run, rest, hText, hPiece⟩ := exists_queryPiece hToken
  have hSpans := hPiece.fits.spans
  obtain ⟨name, late, others, hTerm, hRun, hComposite⟩ :=
    hPiece.exists_term hKind
  rw [child?_term hComposite] at hValue
  have hInner : late ++ others = '"' :: inner := by
    rw [← (mem_leaf? hValue).2.1, hPhrase]
  rw [hText, hSpans.drop_start, hSpans.drop_stop, hRun]
  constructor
  · intro hEnds hLate
    exact hTerm.not_endsAtQuote hInner hLate hEnds
  · intro hLate
    by_contra hEnds
    exact hLate (hTerm.openedLate hInner hEnds)

/-- A field term with a given value is found by looking. -/
private theorem exists_term_of_any (text written : Text)
    (h : (Grammar.field.tokens text).any (fun token => token.kind == .term &&
      (token.child? .value).any (·.value == written)) = true) :
    ∃ token ∈ Grammar.field.tokens text, token.kind = .term ∧
      ∃ value, token.child? .value = some value ∧ value.value = written := by
  obtain ⟨token, hToken, hHolds⟩ := List.any_eq_true.mp h
  rw [Bool.and_eq_true, beq_iff_eq, Option.any_eq_true] at hHolds
  obtain ⟨hKind, value, hValue, hWritten⟩ := hHolds
  exact ⟨token, hToken, hKind, value, hValue, eq_of_beq hWritten⟩

theorem quoted_value_iff_of_blank :
    let text : Text := "a:\"b c\" d"
    ∃ token ∈ Grammar.field.tokens text, token.kind = .term ∧
      (∃ value, token.child? .value = some value ∧ value.value = "\"b c\"") ∧
      (EndsAtQuote "b c\"" (text.drop (token.stop + 1)) ↔
        ¬ OpenedLate (text.drop token.start)) := by
  intro text
  obtain ⟨token, hToken, hKind, value, hValue, hWritten⟩ :=
    exists_term_of_any text "\"b c\"" (by decide +kernel)
  exact ⟨token, hToken, hKind, ⟨value, hValue, hWritten⟩,
    quoted_value_iff hToken hKind hValue hWritten⟩

/-- The phrase `"a"` is closed before its term is opened, and the term takes in
all that is left of the text. -/
theorem quoted_value_ne_of_late :
    let text : Text := ":\"a\"b:c d"
    ∃ token ∈ Grammar.field.tokens text, token.kind = .term ∧
      ∃ value, token.child? .value = some value ∧
        value.value = "\"a\"b:c d" ∧ behindQuote? "a\"b:c d" = some "b:c d" ∧
        ¬ EndsAtQuote "a\"b:c d" (text.drop (token.stop + 1)) := by
  intro text
  obtain ⟨token, hToken, hKind, value, hValue, hWritten⟩ :=
    exists_term_of_any text "\"a\"b:c d" (by decide +kernel)
  have hBehind : behindQuote? "a\"b:c d" = some "b:c d" := by decide
  refine ⟨token, hToken, hKind, value, hValue, hWritten, hBehind, ?_⟩
  rw [EndsAtQuote, hBehind]
  rintro (hEnd | ⟨hNone, _⟩)
  · cases hEnd
  · cases hNone

end QueryPhrase.Lexer
