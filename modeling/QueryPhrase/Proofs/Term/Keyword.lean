import QueryPhrase.Term
import QueryPhrase.Text.Blank
import QueryPhrase.Keyword

/-!
# Keywords and operators

What is relied on of the fixed words: none is empty or has a blank, a quote or a
backslash in it, and the keyword of an operator is read as that operator.

## Main results

* `Keyword.solid_of_isSeparator`, `Keyword.unquoted_of_isSeparator` — no
  connective has a blank, a quote or a backslash in it, in any case.
* `Keyword.solid_of_isBooleanOperator` — no boolean operator has a blank in it.
* `Operator.ofKind?_keyword` — reading a keyword gives its operator.
-/

namespace QueryPhrase

/-- A blank is no letter, so it has no other case. -/
private theorem toLower_of_isBlank {c : Char} (hBlank : isBlank c = true) :
    c.toLower = c := by
  unfold Char.toLower
  split
  · next hUpper =>
    have hLow : 65 ≤ c.toNat := hUpper.1
    have hHigh : c.toNat ≤ 90 := hUpper.2
    simp only [isBlank, Bool.or_eq_true, Bool.and_eq_true, decide_eq_true_eq,
      beq_iff_eq] at hBlank
    omega
  · rfl

/-- The letters of a connective are those of a keyword, in either case. -/
private theorem Keyword.toLower_of_isSeparator {word : Text}
    (h : Keyword.isSeparator word = true) :
    ∀ c ∈ word, c.toLower ∈ ['o', 'r', 'a', 'n', 'd'] := by
  have hLetters : ∀ keyword ∈ separators, (keyword.map Char.toLower).all
      (['o', 'r', 'a', 'n', 'd'].contains ·) = true := by decide
  intro c hMem
  obtain ⟨keyword, hKeyword, hSame⟩ := List.any_eq_true.mp h
  rw [Text.eqCaseless_iff] at hSame
  have hAll := hLetters keyword hKeyword
  rw [hSame, List.all_eq_true] at hAll
  exact List.contains_iff_mem.mp (hAll c.toLower (List.mem_map_of_mem hMem))

/-- There is no blank in a connective, in any case. -/
theorem Keyword.solid_of_isSeparator {word : Text}
    (h : Keyword.isSeparator word = true) : ∀ c ∈ word, isBlank c = false := by
  have hLetters : ['o', 'r', 'a', 'n', 'd'].all (!isBlank ·) = true := by
    decide
  intro c hMem
  have hLetter := List.all_eq_true.mp hLetters c.toLower
    (Keyword.toLower_of_isSeparator h c hMem)
  cases hBlank : isBlank c with
  | false => rfl
  | true =>
      rw [toLower_of_isBlank hBlank, hBlank] at hLetter
      cases hLetter

/-- There is no quote and no backslash in a connective. -/
theorem Keyword.unquoted_of_isSeparator {word : Text}
    (h : Keyword.isSeparator word = true) :
    ∀ c ∈ word, c ≠ '\\' ∧ c ≠ '"' := by
  intro c hMem
  have hLetter := Keyword.toLower_of_isSeparator h c hMem
  constructor
  · rintro rfl
    exact absurd hLetter (by decide)
  · rintro rfl
    exact absurd hLetter (by decide)

/-- There is a character in a boolean operator, and no blank. -/
theorem Keyword.solid_of_isBooleanOperator {word : Text}
    (h : Keyword.isBooleanOperator word = true) :
    word ≠ [] ∧ ∀ c ∈ word, isBlank c = false := by
  have hAll : booleanOperators.all
      (fun keyword => !keyword.isEmpty && keyword.all (!isBlank ·)) = true := by
    decide
  have hWord := List.all_eq_true.mp hAll word (List.contains_iff_mem.mp h)
  simpa using hWord

namespace Operator

theorem keyword_ne_nil (operator : Operator) : operator.keyword ≠ [] := by
  cases operator <;> decide

/-- There is no blank and no quote in a keyword. -/
theorem solid_keyword (operator : Operator) :
    ∀ c ∈ operator.keyword, isBlank c = false ∧ c ≠ '"' ∧ c ≠ '\\' := by
  have hAll : operator.keyword.all
      (fun c => !isBlank c && c != '"' && c != '\\') = true := by
    cases operator <;> decide
  intro c hMem
  have hChar := List.all_eq_true.mp hAll c hMem
  simpa [and_assoc] using hChar

/-- Reading the keyword of an operator gives the operator back. -/
theorem ofKind?_keyword (operator : Operator) :
    ofKind? operator.kind operator.keyword = some operator := by
  cases operator <;> rfl

/-- What is read as an operator of a role has that role. -/
theorem kind_of_ofKind? {role : TermKind} {word : Text} {operator : Operator}
    (h : ofKind? role word = some operator) : operator.kind = role := by
  rw [ofKind?, Option.filter_eq_some_iff] at h
  exact eq_of_beq h.2

/-- The comparison operators are the first of all operators. -/
private def comparisons : List Operator :=
  [like, within, is, atLeast, atMost, equal]

/-- A comparison operator, in any case, is the keyword of a matcher. -/
theorem exists_ofKind?_matcher {word : Text}
    (h : Keyword.isMatcherOperator word = true) :
    ∃ operator, ofKind? .matcher word = some operator := by
  have hWords : Keyword.matcherOperators = comparisons.map keyword := rfl
  have hAll : all = comparisons ++ [or, and, orderBy] := rfl
  have hKinds : ∀ operator ∈ comparisons, operator.kind = .matcher := by decide
  rw [Keyword.isMatcherOperator, hWords, List.any_map] at h
  have hSome := List.find?_isSome.mpr (List.any_eq_true.mp h)
  obtain ⟨operator, hFound⟩ := Option.isSome_iff_exists.mp hSome
  have hKeyword : ofKeyword? word = some operator := by
    rw [ofKeyword?, hAll, List.find?_append]
    exact Option.or_eq_some_iff.mpr (Or.inl hFound)
  refine ⟨operator, ?_⟩
  simp [ofKind?, hKeyword, hKinds operator (List.mem_of_find?_eq_some hFound)]

end Operator

end QueryPhrase
