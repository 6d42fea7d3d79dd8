import QueryPhrase.TermList.Edit

/-!
# Taking turns

A filter list alternates: a matcher, a separator, a matcher, and so on, with a
matcher at either end. Edits cut such a list in two and put terms between the
halves, so alternation is stated of pieces: `Turns first terms after` says that
the terms take turns, that a term of role `first` has the first turn, and that a
term of role `after` would have the next one. Pieces compose (`turns_append`),
and a whole list is a piece from a matcher's turn to a separator's turn.

## Main definitions

* `Alternates` — matcher, separator, and so on to a matcher.
* `Turns` — a piece of such a list.

## Main results

* `alternates_iff_turns` — a list alternates when it is a piece from a matcher's
  turn to a separator's.
* `turns_append` — a piece is cut where the turns of its halves meet.
-/

namespace QueryPhrase

@[simp] theorem Term.isMatcher_iff (term : Term) :
    term.isMatcher = true ↔ term.kind = .matcher := by
  simp [Term.isMatcher]

@[simp] theorem Term.isSeparator_iff (term : Term) :
    term.isSeparator = true ↔ term.kind = .separator := by
  simp [Term.isSeparator]

@[simp] theorem Term.isSorter_iff (term : Term) :
    term.isSorter = true ↔ term.kind = .sorter := by
  simp [Term.isSorter]

/-- A matcher, or a matcher and a separator before terms that alternate. -/
inductive Alternates : List Term → Prop
  | single {term : Term} : term.isMatcher = true → Alternates [term]
  | join {term separator : Term} {rest : List Term} :
    term.isMatcher = true → separator.isSeparator = true → Alternates rest →
      Alternates (term :: separator :: rest)

/-- The role whose turn comes after a term of the given role. -/
def TermKind.next : TermKind → TermKind
  | matcher => separator
  | separator => matcher
  | sorter => sorter

theorem TermKind.eq_matcher_of_next {kind : TermKind}
    (h : kind.next = .separator) :
    kind = .matcher := by
  cases kind with
  | matcher => rfl
  | separator => cases h
  | sorter => cases h

theorem TermKind.eq_separator_of_next {kind : TermKind}
    (h : kind.next = .matcher) :
    kind = .separator := by
  cases kind with
  | matcher => cases h
  | separator => rfl
  | sorter => cases h

/-- The terms take turns from the turn of `first` up to the turn of `after`. -/
def Turns : TermKind → List Term → TermKind → Prop
  | first, [], after => first = after
  | first, term :: rest, after =>
    term.kind = first ∧ Turns first.next rest after

theorem turns_append (a b : List Term) :
    ∀ first after : TermKind,
      Turns first (a ++ b) after ↔
        ∃ middle, Turns first a middle ∧ Turns middle b after := by
  induction a with
  | nil =>
      intro first after
      simp [Turns]
  | cons term rest ih =>
      intro first after
      simp only [List.cons_append, Turns, ih, and_assoc, exists_and_left]

/-- Only the roles of the terms matter. -/
theorem turns_congr {a b : List Term}
    (hKinds : a.map Term.kind = b.map Term.kind) :
    ∀ {first after : TermKind}, Turns first a after → Turns first b after := by
  induction a generalizing b with
  | nil =>
      intro first after h
      have hNil : b = [] := by simpa using hKinds.symm
      rw [hNil]
      exact h
  | cons term rest ih =>
      intro first after h
      cases b with
      | nil => simp at hKinds
      | cons other others =>
          simp only [List.map_cons, List.cons.injEq] at hKinds
          exact ⟨hKinds.1 ▸ h.1, ih hKinds.2 h.2⟩

/-- A piece is empty, or its last term has the turn before the next one. -/
theorem Turns.eq_nil_or_concat {first after : TermKind} {terms : List Term}
    (h : Turns first terms after) :
    (terms = [] ∧ first = after) ∨
      ∃ before last, terms = before ++ [last] ∧
        Turns first before last.kind ∧ last.kind.next = after := by
  rcases List.eq_nil_or_concat terms with hNil | ⟨before, last, hConcat⟩
  · subst hNil
    exact Or.inl ⟨rfl, h⟩
  · rw [List.concat_eq_append] at hConcat
    subst hConcat
    obtain ⟨middle, hBefore, hLast, hAfter⟩ := (turns_append _ _ _ _).mp h
    subst hLast
    exact Or.inr ⟨before, last, rfl, hBefore, hAfter⟩

theorem alternates_iff_turns (terms : List Term) :
    Alternates terms ↔ Turns .matcher terms .separator := by
  constructor
  · intro h
    induction h with
    | single hTerm => exact ⟨(Term.isMatcher_iff _).mp hTerm, rfl⟩
    | join hTerm hSeparator _ ih =>
        exact ⟨(Term.isMatcher_iff _).mp hTerm,
          (Term.isSeparator_iff _).mp hSeparator, ih⟩
  · -- Two terms at a time, as a list that alternates is made.
    intro h
    induction hLength : terms.length using Nat.strongRecOn
      generalizing terms with
    | _ n ih =>
        match terms, h with
        | [term], h => exact .single ((Term.isMatcher_iff _).mpr h.1)
        | term :: separator :: rest, h =>
            have hShorter : rest.length < n := by
              simp only [List.length_cons] at hLength
              omega
            exact .join ((Term.isMatcher_iff _).mpr h.1)
              ((Term.isSeparator_iff _).mpr h.2.1)
              (ih _ hShorter rest h.2.2 rfl)

/-! ## Cutting a list that alternates -/

/-- From a matcher's or a separator's turn on, no sorter has a turn. -/
theorem Turns.after_ne_sorter {terms : List Term} :
    ∀ {first after : TermKind}, Turns first terms after → first ≠ .sorter →
      after ≠ .sorter := by
  induction terms with
  | nil => intro first after h hFirst; exact h ▸ hFirst
  | cons term rest ih =>
      intro first after h hFirst
      refine ih h.2 ?_
      cases first with
      | matcher => decide
      | separator => decide
      | sorter => exact absurd rfl hFirst

/-- Around any of its terms, a list that alternates is cut into two pieces. -/
theorem Alternates.cut {before after : List Term} {term : Term}
    (h : Alternates (before ++ term :: after)) :
    Turns .matcher before term.kind ∧
      Turns term.kind.next after .separator := by
  rw [alternates_iff_turns, turns_append] at h
  obtain ⟨middle, hBefore, hTerm, hAfter⟩ := h
  subst hTerm
  exact ⟨hBefore, hAfter⟩

/-- Every term of a list that alternates is a matcher or a separator. -/
theorem Alternates.kind_cases {before after : List Term} {term : Term}
    (h : Alternates (before ++ term :: after)) :
    term.kind = .matcher ∨ term.kind = .separator := by
  have hSorter := h.cut.1.after_ne_sorter (by decide)
  cases hKind : term.kind with
  | matcher => exact Or.inl rfl
  | separator => exact Or.inr rfl
  | sorter => exact absurd hKind hSorter

/-- Two pieces that meet make a list that alternates. -/
theorem Turns.alternates {before after : List Term} {middle : TermKind}
    (hBefore : Turns .matcher before middle)
    (hAfter : Turns middle after .separator) :
    Alternates (before ++ after) := by
  rw [alternates_iff_turns, turns_append]
  exact ⟨middle, hBefore, hAfter⟩

/-- On a separator's turn, a piece that ends a list is empty or begins with a
separator. -/
theorem Turns.separator_cases {terms : List Term}
    (h : Turns .separator terms .separator) :
    terms = [] ∨ ∃ separator rest, terms = separator :: rest ∧
      separator.kind = .separator ∧ Turns .matcher rest .separator := by
  cases terms with
  | nil => exact Or.inl rfl
  | cons term rest => exact Or.inr ⟨term, rest, rfl, h.1, h.2⟩

/-- On a matcher's turn, a piece that ends a list begins with a matcher. -/
theorem Turns.matcher_cases {terms : List Term}
    (h : Turns .matcher terms .separator) :
    ∃ term rest, terms = term :: rest ∧ term.kind = .matcher ∧
      Turns .separator rest .separator := by
  cases terms with
  | nil => cases h
  | cons term rest => exact ⟨term, rest, rfl, h.1, h.2⟩

end QueryPhrase
