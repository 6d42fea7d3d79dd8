import QueryPhrase.Proofs.Term.Keyword
import QueryPhrase.Proofs.TermList.Members

/-!
# Plain terms along a run

An empty column never gets into a list, because inserting drops it, and a
separator gets a column or a value only by being inserted with one. So as long
as the separators that are inserted are bare, every term of every list that is
reached is plain.

## Main definitions

* `TermList.BareSeparators` — the edits that insert no separator with a column
  or a value.

## Main results

* `TermList.Reached.plain` — with bare separators, the terms of a list are
  plain.
-/

namespace QueryPhrase

/-- Not a separator, or one that is its operator and nothing else. -/
def Term.Bare (term : Term) : Prop :=
  term.kind = .separator → term.column = none ∧ term.value = none

namespace TermList

/-- Only bare separators are inserted: on purpose, or because the cursor is to
be moved onto a term that the list does not have. -/
def BareSeparators (list : TermList) : Edit → Prop
  | .insert term _ => term.Bare
  | .moveTo term => list.position? term = none → term.Bare
  | _ => True

section Plain

variable {list : TermList} {term : Term}

/-- Every term of the list is plain. -/
def AllPlain (list : TermList) : Prop := ∀ term ∈ list.terms, term.Plain

/-! ## Inserting -/

theorem plain_placed (nextId : TermId) (h : term.Bare) :
    (placed nextId term).Plain := by
  refine ⟨?_, ?_⟩
  · unfold placed dropEmptyColumn
    split
    · simp
    · assumption
  · intro hKind
    rw [kind_placed] at hKind
    obtain ⟨hColumn, hValue⟩ := h hKind
    unfold placed dropEmptyColumn identify
    split <;> split <;> simp_all

theorem plain_joining (nextId : TermId) (operator : Operator) :
    (joining nextId operator).Plain :=
  ⟨by simp [joining, identify, Term.ofSeparator], fun _ => ⟨rfl, rfl⟩⟩

/-- A bare separator with an identifier is plain. -/
theorem plain_identify (nextId : TermId) (hColumn : term.column = none)
    (hValue : term.value = none) : (identify nextId term).1.Plain := by
  unfold identify
  split
  · exact ⟨by simp [hColumn], fun _ => ⟨hColumn, hValue⟩⟩
  · exact ⟨by simp [hColumn], fun _ => ⟨hColumn, hValue⟩⟩

/-- What comes in with a bare term is plain. -/
theorem enters_plain (h : term.Bare) : Enters Term.Plain term := by
  refine ⟨fun nextId => plain_placed nextId h, plain_joining, ?_⟩
  intro hKind nextId id
  obtain ⟨hColumn, hValue⟩ := h hKind
  exact plain_identify nextId hColumn hValue

/-- A plain term stays plain when it is rewritten. -/
theorem rewritable_plain : Rewritable Term.Plain := by
  refine ⟨?_, ?_⟩
  · intro other value hOther hKind
    exact ⟨hOther.column_ne, fun hSeparator => absurd hSeparator hKind⟩
  · intro other operator hOther _ hKind
    exact ⟨hOther.column_ne, fun hSeparator => absurd hSeparator hKind⟩

/-- A placeholder is no separator, and neither is a blank term. -/
theorem bare_of_operator (hWell : WellFormed list)
    (hOperator : term.operator = list.matcher) :
    term.Bare := by
  intro hKind
  rw [Term.kind, hOperator, hWell.matcher_kind] at hKind
  exact absurd hKind (criterion_ne_separator list.kind)

/-! ## Phrases -/

/-- What is read from a matcher token is a matcher. -/
theorem kind_ofMatcherToken {token : Token}
    (h : Term.ofMatcherToken token = some term) : term.kind = .matcher := by
  simp only [Term.ofMatcherToken, Option.bind_eq_bind, Option.bind_eq_some_iff,
    Option.pure_def, Option.some.injEq] at h
  obtain ⟨comparator, _, operator, hOperator, hSame⟩ := h
  rw [← hSame]
  exact Operator.kind_of_ofKind? hOperator

/-- The separators of a phrase are bare. -/
theorem bare_ofPhrase (text : Text) :
    ∀ term ∈ Term.ofPhrase text, term.Bare := by
  intro term hTerm
  obtain ⟨token, _, hToken⟩ := List.mem_filterMap.mp hTerm
  unfold Term.ofToken at hToken
  split at hToken
  · have hMatcher := kind_ofMatcherToken hToken
    intro hKind
    rw [hMatcher] at hKind
    cases hKind
  · rw [Option.map_eq_some_iff] at hToken
    obtain ⟨operator, _, hSame⟩ := hToken
    rw [← hSame]
    exact fun _ => ⟨rfl, rfl⟩
  · cases hToken

/-- Whatever a permitted edit brings in is bare. -/
theorem BareSeparators.bare (hWell : WellFormed list) {edit : Edit}
    (h : BareSeparators list edit) (hTerm : edit.Brings list term) :
    term.Bare := by
  cases edit with
  | insert inserted expectsSeparator => rw [hTerm]; exact h
  | moveTo target => rw [hTerm.1]; exact h hTerm.2
  | write value => exact bare_of_operator hWell hTerm
  | phrase text => exact bare_ofPhrase text term hTerm
  | _ => cases hTerm

end Plain

/-- **With bare separators, the terms of a list are plain.** -/
theorem Reached.plain {list : TermList} (h : Reached BareSeparators list) :
    AllPlain list :=
  h.forall_mem (fun _ _ _ hWell hPermitted hTerm =>
    enters_plain (hPermitted.bare hWell hTerm)) rewritable_plain

end TermList

end QueryPhrase
