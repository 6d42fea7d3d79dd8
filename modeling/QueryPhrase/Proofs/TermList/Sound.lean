import QueryPhrase.Proofs.TermList.Invariant

/-!
# Lists that edits lead to

A well-formed list passes the check it makes of itself. What follows for every
list that edits lead to is stated apart from the invariant, which also speaks of
the state kept for later.

## Main definitions

* `TermList.Sound` — what can be relied on of a list, however it was edited.

## Main results

* `TermList.problem?_eq_none_iff` — the check finds nothing wrong exactly with
  terms in order.
* `TermList.reachable_sound` — every list that edits lead to is sound.
-/

namespace QueryPhrase.TermList

/-! ## The list's own check -/

/-- The role whose turn it is at an index of a filter list. -/
private def turnAt (index : Nat) : TermKind :=
  if index % 2 = 0 then .matcher else .separator

private theorem next_turnAt (index : Nat) :
    (turnAt index).next = turnAt (index + 1) := by
  rcases Nat.mod_two_eq_zero_or_one index with hEven | hOdd
  · rw [turnAt, turnAt, if_pos hEven, if_neg (by omega)]
    rfl
  · rw [turnAt, turnAt, if_neg (by omega), if_pos (by omega)]
    rfl

private theorem termProblem?_filter_iff {index : Nat} {term : Term} :
    termProblem? .filter index term = none ↔ term.kind = turnAt index := by
  by_cases hEven : index % 2 = 0 <;> cases hKind : term.kind <;>
    simp [termProblem?, turnAt, ListKind.accepts, hEven, hKind]

private theorem termProblem?_sorter_iff {index : Nat} {term : Term} :
    termProblem? .sorter index term = none ↔ term.kind = .sorter := by
  simp [termProblem?, ListKind.accepts]

private theorem firstProblem?_cons_iff {kind : ListKind} {index : Nat}
    {term : Term} {rest : List Term} :
    firstProblem? kind index (term :: rest) = none ↔
      termProblem? kind index term = none ∧
        firstProblem? kind (index + 1) rest = none := by
  simp only [firstProblem?, Option.orElse_eq_orElse, Option.orElse_eq_or,
    Option.or_eq_none_iff]

/-- The terms that pass one by one are those that take turns. -/
private theorem firstProblem?_filter_iff {terms : List Term} :
    ∀ index, firstProblem? .filter index terms = none ↔
      ∃ after, Turns (turnAt index) terms after := by
  induction terms with
  | nil => exact fun index => ⟨fun _ => ⟨_, rfl⟩, fun _ => rfl⟩
  | cons term rest ih =>
      intro index
      simp only [firstProblem?_cons_iff, termProblem?_filter_iff, ih, Turns,
        next_turnAt, exists_and_left]

private theorem firstProblem?_sorter_iff {terms : List Term} :
    ∀ index, firstProblem? .sorter index terms = none ↔
      ∀ term ∈ terms, term.kind = .sorter := by
  induction terms with
  | nil => simp [firstProblem?]
  | cons term rest ih =>
      intro index
      rw [firstProblem?_cons_iff, termProblem?_sorter_iff, ih,
        List.forall_mem_cons]

/-- Terms that take turns from a matcher's on alternate when they do not end in
a separator. -/
private theorem shaped_filter_iff {terms : List Term} :
    Shaped .filter terms ↔ (∃ after, Turns .matcher terms after) ∧
      terms.getLast?.any Term.isSeparator = false := by
  constructor
  · rintro (hNil | hAlternates)
    · rw [hNil]
      exact ⟨⟨_, rfl⟩, rfl⟩
    · have hTurns := (alternates_iff_turns _).mp hAlternates
      refine ⟨⟨_, hTurns⟩, ?_⟩
      rcases hTurns.eq_nil_or_concat with
        ⟨_, hTurn⟩ | ⟨before, last, hConcat, _, hNext⟩
      · cases hTurn
      · have hMatcher := TermKind.eq_matcher_of_next hNext
        simp [hConcat, Term.isSeparator, hMatcher]
  · rintro ⟨⟨after, hTurns⟩, hLast⟩
    rcases hTurns.eq_nil_or_concat with
      ⟨hNil, _⟩ | ⟨before, last, hConcat, hBefore, hNext⟩
    · exact Or.inl hNil
    · have hSorter := hBefore.after_ne_sorter (by decide)
      have hMatcher : last.kind = .matcher := by
        cases hKind : last.kind with
        | matcher => rfl
        | separator => simp [hConcat, Term.isSeparator, hKind] at hLast
        | sorter => exact absurd hKind hSorter
      rw [hMatcher] at hNext
      rw [← hNext] at hTurns
      exact Or.inr ((alternates_iff_turns _).mpr hTurns)

/-- **The check finds nothing wrong exactly with terms in order.** -/
theorem problem?_eq_none_iff {list : TermList} :
    list.problem? = none ↔ Shaped list.kind list.terms := by
  have hParts : list.problem? = none ↔
      firstProblem? list.kind 0 list.terms = none ∧
        list.terms.getLast?.any Term.isSeparator = false := by
    simp only [problem?, Option.orElse_eq_orElse, Option.orElse_eq_or,
      Option.or_eq_none_iff]
    cases list.terms.getLast?.any Term.isSeparator <;> simp
  rw [hParts]
  cases hKind : list.kind with
  | filter =>
      rw [firstProblem?_filter_iff, shaped_filter_iff]
      rfl
  | sorter =>
      rw [firstProblem?_sorter_iff]
      refine and_iff_left_of_imp fun hSorters => ?_
      cases hLast : list.terms.getLast? with
      | none => rfl
      | some last =>
          have hSorter := hSorters last (List.mem_of_getLast? hLast)
          simp [Term.isSeparator, hSorter]

/-! ## Every list reached -/

/-- What can be relied on of a list, however it was edited. -/
structure Sound (list : TermList) : Prop where
  filter : list.kind = .filter → list.terms = [] ∨ Alternates list.terms
  sorter : list.kind = .sorter → ∀ term ∈ list.terms, term.isSorter = true
  unproblematic : list.problem? = none
  valid : list.valid = true
  cursor_lt : ∀ index, list.cursor = some index → index < list.terms.length
  cursor_empty : list.terms = [] → list.cursor = none
  held_last : ∀ operator, list.held = some operator →
    operator.kind = .separator ∧ list.terms ≠ [] ∧
      list.cursor = some (list.terms.length - 1)
  placeholder_blank : ∀ term, list.placeholder = some term →
    term.value = none ∧ term.id = none ∧ term.operator = list.matcher

theorem WellFormed.sound {list : TermList} (h : WellFormed list) :
    Sound list := by
  have hProblem := problem?_eq_none_iff.mpr h.shaped
  have hEmpty : list.terms = [] → list.cursor = none := by
    intro hNil
    cases hCursor : list.cursor with
    | none => rfl
    | some index =>
        have hLt := h.cursor_lt index hCursor
        rw [hNil, List.length_nil] at hLt
        omega
  refine ⟨?_, ?_, hProblem, by rw [valid, hProblem]; rfl, h.cursor_lt, hEmpty,
    ?_, h.placeholder_blank⟩
  · intro hKind
    have hShaped := h.shaped
    rw [hKind] at hShaped
    exact hShaped
  · intro hKind term hTerm
    have hShaped := h.shaped
    rw [hKind] at hShaped
    exact (Term.isSorter_iff term).mpr (hShaped term hTerm)
  · intro operator hHeld
    obtain ⟨hOperator, _, hCursor⟩ := h.held_last operator hHeld
    refine ⟨hOperator, ?_, hCursor⟩
    intro hNil
    rw [hEmpty hNil] at hCursor
    cases hCursor

/-- Every list that edits lead to is in order, passes its own check, and has its
cursor, its held separator and its placeholder in agreement with its terms. -/
theorem reachable_sound {list : TermList} (h : Reachable list) : Sound list :=
  h.wellFormed.sound

theorem reachable_sound_of_held :
    let list := (Edit.insert (.ofSeparator .or) false).apply
      ((Edit.write "foo").apply (.empty .filter))
    Reachable list ∧ list.held = some .or ∧ Sound list := by
  have hReachable : Reachable ((Edit.insert (.ofSeparator .or) false).apply
      ((Edit.write "foo").apply (.empty .filter))) :=
    .edit _ (.edit _ (.empty .filter) trivial) trivial
  exact ⟨hReachable, by decide, reachable_sound hReachable⟩

end QueryPhrase.TermList
