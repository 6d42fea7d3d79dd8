import QueryPhrase.Proofs.Term.Keyword
import QueryPhrase.Proofs.Recognizer.Triple
import QueryPhrase.Proofs.Text.Quoted
import QueryPhrase.Term.Phrase

/-!
# Matchers in phrases

What a matcher is written as, and what is read from it. A matcher phrase is its
opening, which is the column and the keyword with a space after each, and its
value. These are its parts, as long as the column has no blank in it; the value
is written so that no blank of its own ends it. A value that is read from more
than was written, or from less, is another value.

## Main definitions

* `PlainColumn` — the columns that a phrase can hold.
* `Term.Legible` — the terms that a phrase can hold.
* `Term.opening` — a matcher phrase up to its value.

## Main results

* `Term.phraseText_valuePhrase` — a value is read as it was before it was
  written.
* `Term.phraseText_longer`, `Term.phraseText_shorter` — it is not when more is
  read, or less.
* `Term.parts_phrase` — the parts of a matcher phrase.
* `Term.ofToken_of_parts` — the term of a token, from the parts of its run.
-/

namespace QueryPhrase

/-! ## Terms that a phrase can hold -/

/-- A column that a phrase can hold: a word without a quote that is no
connective. -/
structure PlainColumn (column : Text) : Prop where
  ne_nil : column ≠ []
  solid : ∀ c ∈ column, isBlank c = false
  unquoted : '"' ∉ column
  not_separator : Keyword.isSeparator column = false

namespace Term

/-- A term that a phrase can hold: a matcher with a value, whatever it is, on a
column that a phrase can hold, or a bare separator. -/
inductive Legible : Term → Prop
  | matcher {id : Option TermId} {column value : Text} {operator : Operator} :
    operator.kind = .matcher → PlainColumn column →
      Legible ⟨id, some column, operator, some value⟩
  | separator {id : Option TermId} {operator : Operator} :
    operator.kind = .separator → Legible ⟨id, none, operator, none⟩

/-- A matcher phrase up to its value. -/
def opening (column : Text) (operator : Operator) : Text :=
  column ++ ' ' :: (operator.keyword ++ [' '])

theorem phrase_matcher {id : Option TermId} {column value : Text}
    {operator : Operator} (hOperator : operator.kind = .matcher) :
    phrase ⟨id, some column, operator, some value⟩ =
      opening column operator ++ valuePhrase value := by
  simp [phrase, isSeparator, kind, hOperator, opening, Text.joined,
    List.intercalate]

theorem phrase_unvalued {id : Option TermId} {column : Text}
    {operator : Operator} (hOperator : operator.kind = .matcher) :
    phrase ⟨id, some column, operator, none⟩ =
      column ++ ' ' :: operator.keyword := by
  simp [phrase, isSeparator, kind, hOperator, Text.joined, List.intercalate]

theorem phrase_separator {id : Option TermId} {operator : Operator}
    (hOperator : operator.kind = .separator) :
    phrase ⟨id, none, operator, none⟩ = operator.keyword := by
  simp [phrase, isSeparator, kind, hOperator]

/-! ## Values -/

/-- Blanks are not escaped. -/
theorem plain_of_isBlank {c : Char} (hBlank : isBlank c = true) :
    c ≠ '\\' ∧ (c == '"') = false := by
  constructor
  · rintro rfl
    exact absurd hBlank (by decide)
  · rw [beq_eq_false_iff_ne]
    rintro rfl
    exact absurd hBlank (by decide)

/-- A value that needs no quotes is a word without a quote. -/
theorem plain_of_needsQuotes {value : Text} (h : needsQuotes value = false) :
    value ≠ [] ∧ (∀ c ∈ value, isBlank c = false) ∧ '"' ∉ value := by
  simp only [needsQuotes, Bool.or_eq_false_iff, List.any_eq_false] at h
  obtain ⟨⟨hEmpty, hPlain⟩, _⟩ := h
  refine ⟨?_, ?_, ?_⟩
  · intro hNil
    rw [hNil] at hEmpty
    cases hEmpty
  · intro c hMem
    have hChar := hPlain c hMem
    simp only [Bool.or_eq_true, not_or, Bool.not_eq_true] at hChar
    exact hChar.1
  · intro hMem
    have hChar := hPlain '"' hMem
    simp at hChar

/-- **A value is read as it was before it was written.** -/
theorem phraseText_valuePhrase (value : Text) :
    phraseText (valuePhrase value) = value := by
  unfold valuePhrase
  split
  · exact phraseText_quote value
  · next hPlain =>
    rw [Bool.not_eq_true] at hPlain
    exact phraseText_of_not_mem (plain_of_needsQuotes hPlain).2.2

/-- With more behind it, a written value is read as another one. -/
theorem phraseText_longer (value : Text) {more : Text} (hMore : more ≠ []) :
    phraseText (valuePhrase value ++ more) ≠ value := by
  unfold valuePhrase
  split
  · obtain ⟨behind, hText⟩ := phraseText_quote_append value hMore
    rw [hText]
    simp
  · next hPlain =>
    rw [Bool.not_eq_true] at hPlain
    obtain ⟨hNonempty, _, hQuote⟩ := plain_of_needsQuotes hPlain
    rw [phraseText_append_of_not_mem hNonempty hQuote]
    simp [hMore]

/-- Without what comes from one of its blanks on, a written value is read as
another one. -/
theorem phraseText_shorter {value begun more : Text}
    (hSplit : begun ++ more = valuePhrase value) (hBegun : begun ≠ [])
    (hBlank : more.startsBlank = true) : phraseText begun ≠ value := by
  cases more with
  | nil => cases hBlank
  | cons c more =>
      have hC : isBlank c = true := hBlank
      unfold valuePhrase at hSplit
      split at hSplit
      · obtain ⟨first, inner, hCons⟩ := List.exists_cons_of_ne_nil hBegun
        rw [hCons, quote, List.cons_append, List.cons.injEq] at hSplit
        obtain ⟨hFirst, hInner⟩ := hSplit
        -- The blank is inside the quotes, so it stands in the value itself.
        have hInside : ∃ rest, escape (· == '"') value =
            inner ++ ([c] ++ rest) := by
          rcases List.eq_nil_or_concat more with hNone | ⟨rest, last, hConcat⟩
          · rw [hNone, List.append_singleton_inj] at hInner
            rw [hInner.2] at hC
            exact absurd hC (by decide)
          · rw [List.concat_eq_append] at hConcat
            rw [hConcat, ← List.cons_append, ← List.append_assoc,
              List.append_singleton_inj] at hInner
            exact ⟨rest, hInner.1.symm⟩
        obtain ⟨rest, hEscaped⟩ := hInside
        have hPlain : ∀ d ∈ [c], d ≠ '\\' ∧ (d == '"') = false := by
          intro d hMem
          rw [List.mem_singleton] at hMem
          rw [hMem]
          exact plain_of_isBlank hC
        obtain ⟨before, after, hValue, hBefore, _⟩ :=
          exists_of_escape_eq (List.cons_ne_nil c []) hPlain hEscaped
        rw [hCons, hFirst, ← hBefore, phraseText_escape, hValue]
        simp
      · next hPlain =>
        rw [Bool.not_eq_true] at hPlain
        have hSolid := (plain_of_needsQuotes hPlain).2.1 c
          (by rw [← hSplit]; simp)
        rw [hC] at hSolid
        cases hSolid

/-- A written value begins and ends with a character that is not blank. -/
theorem valuePhrase_ends (value : Text) :
    ∃ first rest before last, valuePhrase value = first :: rest ∧
      isBlank first = false ∧ valuePhrase value = before ++ [last] ∧
        isBlank last = false := by
  unfold valuePhrase
  split
  · exact ⟨'"', _, '"' :: escape (· == '"') value, '"', rfl, by decide, rfl,
      by decide⟩
  · next hPlain =>
    rw [Bool.not_eq_true] at hPlain
    obtain ⟨hNonempty, hSolid, _⟩ := plain_of_needsQuotes hPlain
    obtain ⟨first, rest, hFirst⟩ := List.exists_cons_of_ne_nil hNonempty
    obtain ⟨before, last, hLast⟩ :=
      (List.eq_nil_or_concat value).resolve_left hNonempty
    rw [List.concat_eq_append] at hLast
    refine ⟨first, rest, before, last, hFirst, ?_, hLast, ?_⟩
    · exact hSolid first (by simp [hFirst])
    · exact hSolid last (by simp [hLast])

/-! ## Parts -/

section Parts

open MatcherTriple

variable {column : Text} {operator : Operator}

/-- Behind its opening, a matcher phrase has its value. -/
theorem parts_opening (hSolid : ∀ c ∈ column, isBlank c = false)
    (operator : Operator) {value tail : Text} (hValue : value ≠ [])
    (hStarts : value.startsBlank = false) (hEnds : Text.EndsSolid value)
    (hTail : ∀ c ∈ tail, isBlank c = true) :
    Parts (opening column operator ++ (value ++ tail)) column [' ']
      operator.keyword [' '] value tail where
  run_eq := by simp [opening]
  column_solid := hSolid
  gap_blank := fun _ => Text.isBlank_of_mem_space
  word_solid := fun c hMem => (operator.solid_keyword c hMem).1
  space_blank := fun _ => Text.isBlank_of_mem_space
  value_starts := hStarts
  value_ends := hEnds
  tail_blank := hTail
  gap_missing := fun hNone => absurd hNone (by simp)
  word_missing := fun hNone => absurd hNone operator.keyword_ne_nil
  space_missing := fun hNone => absurd hNone (by simp)
  value_missing := fun hNone => absurd hNone hValue

/-- **The parts of a matcher phrase** are what it was written from. -/
theorem parts_phrase (hSolid : ∀ c ∈ column, isBlank c = false)
    (operator : Operator) (value : Text) :
    Parts (opening column operator ++ valuePhrase value) column [' ']
      operator.keyword [' '] (valuePhrase value) [] := by
  obtain ⟨first, rest, before, last, hFirst, hFirstSolid, hLast, hLastSolid⟩ :=
    valuePhrase_ends value
  have hSome : valuePhrase value ≠ [] := by
    rw [hFirst]
    exact List.cons_ne_nil first rest
  have hStarts : (valuePhrase value).startsBlank = false := by
    rw [hFirst]
    exact hFirstSolid
  have hEnds : Text.EndsSolid (valuePhrase value) := by
    rw [hLast]
    exact Text.endsSolid_concat before hLastSolid
  have hParts := parts_opening hSolid operator hSome hStarts hEnds
    (List.forall_mem_nil _)
  rw [List.append_nil] at hParts
  exact hParts

/-- The parts of a matcher phrase without its value. -/
theorem parts_unvalued (hSolid : ∀ c ∈ column, isBlank c = false)
    (operator : Operator) :
    Parts (column ++ ' ' :: operator.keyword) column [' '] operator.keyword
      [] [] [] where
  run_eq := by simp
  column_solid := hSolid
  gap_blank := fun _ => Text.isBlank_of_mem_space
  word_solid := fun c hMem => (operator.solid_keyword c hMem).1
  space_blank := by simp
  value_starts := rfl
  value_ends := Text.endsSolid_nil
  tail_blank := by simp
  gap_missing := fun hNone => absurd hNone (by simp)
  word_missing := fun _ => rfl
  space_missing := fun _ => rfl
  value_missing := fun _ => rfl

private theorem ofToken_matcher {token : Token}
    (hKind : token.kind = .matcher) :
    ofToken token =
      ((token.child? .comparator).map Token.value).bind fun word =>
        (Operator.ofKind? .matcher word).map fun operator =>
          ⟨none, (token.child? .column).map Token.value, operator,
            ((token.child? .value).map Token.value).map phraseText⟩ := by
  simp only [ofToken, hKind, ofMatcherToken, Option.map_map]
  cases token.child? .comparator with
  | none => rfl
  | some comparator => exact Option.map_eq_bind.symm

/-- **The term of a triple** is read from its parts. Without an operator there
is none, and without a value the term has none. -/
theorem ofToken_of_parts {run gap word space value tail : Text} {start : Nat}
    {token : Token} (h : Parts run column gap word space value tail)
    (hColumn : column ≠ [])
    (hToken : Token.composite .matcher (split run start) = some token) :
    ofToken token = (Operator.ofKind? .matcher word).map fun operator =>
      ⟨none, some column, operator,
        if value = [] then none else some (phraseText value)⟩ := by
  rw [ofToken_matcher (children_composite hToken).1, child?_column h hToken,
    child?_comparator h hToken, child?_value h hToken, if_neg hColumn]
  by_cases hWord : word = []
  · rw [hWord]
    rfl
  · rw [if_neg hWord, Option.bind_some]
    split <;> rfl

end Parts

end Term

end QueryPhrase
