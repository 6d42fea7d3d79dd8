import QueryPhrase.Proofs.TermList.Run
import QueryPhrase.Proofs.TermList.Splice

/-!
# What every edit keeps

A filter list is empty or alternates, a sorter list holds sorters, and the
private state fits the terms: the cursor is on a term, a separator is held only
behind the last matcher, and the placeholder is blank apart from its column and
operator. Each edit keeps all of it, so every list that edits lead to is well
formed.

A separator is held only while the cursor is on the last term, so the edits that
replace a separator elsewhere never meet a held one.

## Main definitions

* `TermList.WellFormed` — the invariant, over the private state as well.

## Main results

* `TermList.WellFormed.apply` — every edit keeps the invariant.
* `TermList.Reached.wellFormed` — every list that edits lead to is well formed.
-/

namespace QueryPhrase.TermList

/-- The terms are of the roles a list of this kind holds, in their order. -/
def Shaped : ListKind → List Term → Prop
  | .filter, terms => terms = [] ∨ Alternates terms
  | .sorter, terms => ∀ term ∈ terms, term.kind = .sorter

/-- The terms are in order, and the rest of the state fits them. -/
structure WellFormed (list : TermList) : Prop where
  shaped : Shaped list.kind list.terms
  cursor_lt : ∀ index, list.cursor = some index → index < list.terms.length
  /-- What is held is a separator, and the cursor is on the last matcher. -/
  held_last : ∀ operator, list.held = some operator →
    operator.kind = .separator ∧ list.kind = .filter ∧
      list.cursor = some (list.terms.length - 1)
  separator_kind : list.separator.kind = .separator
  matcher_kind : list.matcher.kind = list.kind.criterion
  placeholder_blank : ∀ term, list.placeholder = some term →
    term.value = none ∧ term.id = none ∧ term.operator = list.matcher
  parked_blank : ∀ term, list.parked = some term →
    term.value = none ∧ term.id = none

theorem wellFormed_empty (kind : ListKind) : WellFormed (.empty kind) := by
  refine ⟨?_, by simp [empty], by simp [empty], rfl, ?_, ?_, by simp [empty]⟩
  · cases kind with
    | filter => exact Or.inl rfl
    | sorter => intro term hTerm; cases hTerm
  · cases kind <;> rfl
  · intro term hTerm
    cases hTerm
    exact ⟨rfl, rfl, rfl⟩

/-- A filter list with a term in it alternates. -/
theorem Shaped.alternates {before after : List Term} {term : Term}
    (h : Shaped .filter (before ++ term :: after)) :
    Alternates (before ++ term :: after) := by
  rcases h with hNil | hAlternates
  · simp at hNil
  · exact hAlternates

/-- Only the roles of the terms matter. -/
theorem Shaped.congr {kind : ListKind} {a b : List Term} (h : Shaped kind a)
    (hKinds : a.map Term.kind = b.map Term.kind) : Shaped kind b := by
  cases kind with
  | filter =>
      rcases h with hNil | hAlternates
      · left
        simpa [hNil] using hKinds.symm
      · right
        rw [alternates_iff_turns] at hAlternates ⊢
        exact turns_congr hKinds hAlternates
  | sorter =>
      intro term hTerm
      have hMem : term.kind ∈ a.map Term.kind := by
        rw [hKinds]
        exact List.mem_map_of_mem hTerm
      obtain ⟨other, hOther, hSame⟩ := List.mem_map.mp hMem
      rw [← hSame]
      exact h other hOther

namespace WellFormed

variable {list : TermList}

/-- Another choice of terms, cursor and held separator that fit together. -/
theorem splice (h : WellFormed list) {terms : List Term} {cursor : Option Nat}
    {held : Option Operator} {nextId : TermId}
    (hShaped : Shaped list.kind terms)
    (hCursor : ∀ index, cursor = some index → index < terms.length)
    (hHeld : ∀ operator, held = some operator →
      operator.kind = .separator ∧ list.kind = .filter ∧
        cursor = some (terms.length - 1)) :
    WellFormed { list with
      terms := terms, cursor := cursor, held := held, nextId := nextId } :=
  ⟨hShaped, hCursor, hHeld, h.separator_kind, h.matcher_kind,
    h.placeholder_blank, h.parked_blank⟩

/-- Nothing held fits any cursor. -/
theorem splice_unheld (h : WellFormed list) {terms : List Term}
    {cursor : Option Nat} {nextId : TermId} (hShaped : Shaped list.kind terms)
    (hCursor : ∀ index, cursor = some index → index < terms.length) :
    WellFormed { list with
      terms := terms, cursor := cursor, held := none, nextId := nextId } :=
  h.splice hShaped hCursor (fun _ hHeld => by cases hHeld)

/-- The cursor is before the first term or on a term. -/
theorem cursor_cases (h : WellFormed list) :
    list.cursor = none ∨ ∃ before current after,
      list.terms = before ++ current :: after ∧
        list.cursor = some before.length := by
  cases hCursor : list.cursor with
  | none => exact Or.inl rfl
  | some index =>
      obtain ⟨before, current, after, hTerms, hLength⟩ :=
        exists_cut (h.cursor_lt index hCursor)
      exact Or.inr ⟨before, current, after, hTerms, by rw [hLength]⟩

theorem place_le (h : WellFormed list) : list.place ≤ list.terms.length := by
  rw [place]
  cases hCursor : list.cursor with
  | none => exact Nat.zero_le _
  | some index => exact h.cursor_lt index hCursor

/-- Letting go of a held separator keeps the invariant. -/
theorem unheld (h : WellFormed list) : WellFormed { list with held := none } :=
  h.splice_unheld h.shaped h.cursor_lt

/-- Nothing is held while the cursor is before the last term. -/
theorem held_eq_none (h : WellFormed list) {index : Nat}
    (hCursor : list.cursor = some index)
    (hBefore : index + 1 < list.terms.length) : list.held = none := by
  cases hHeld : list.held with
  | none => rfl
  | some operator =>
      have hLast := (h.held_last operator hHeld).2.2
      rw [hCursor] at hLast
      have hIndex := Option.some.inj hLast
      omega

/-- A sorter list never holds a separator. -/
theorem held_eq_none_of_sorter (h : WellFormed list)
    (hKind : list.kind = .sorter) :
    list.held = none := by
  cases hHeld : list.held with
  | none => rfl
  | some operator =>
      have hFilter := (h.held_last operator hHeld).2.1
      rw [hKind] at hFilter
      cases hFilter

/-- Only a filter list holds matchers. -/
theorem kind_of_matcher (h : WellFormed list) {term : Term}
    (hMem : term ∈ list.terms) (hTerm : term.kind = .matcher) :
    list.kind = .filter := by
  cases hKind : list.kind with
  | filter => rfl
  | sorter =>
      have hShaped := h.shaped
      rw [hKind] at hShaped
      have hSorter := hShaped term hMem
      rw [hTerm] at hSorter
      cases hSorter

/-- Setting the placeholder aside keeps the invariant. -/
theorem park {after : TermList} (h : WellFormed after) (before : TermList) :
    WellFormed (before.park after) := by
  unfold TermList.park
  split
  · refine ⟨h.shaped, h.cursor_lt, h.held_last, h.separator_kind,
      h.matcher_kind, by simp, ?_⟩
    intro term hTerm
    have hBlank := h.placeholder_blank term hTerm
    exact ⟨hBlank.1, hBlank.2.1⟩
  · exact h

/-! ## Inserting -/

/-- A separator in the place of another one. Nothing is held then, as the cursor
is not on the last term. -/
private theorem replaceAt (h : WellFormed list) (hKind : list.kind = .filter)
    (hHeld : list.held = none) {before after : List Term} {old term : Term}
    (hTerms : list.terms = before ++ old :: after)
    (hOld : old.kind = .separator) (hTerm : term.kind = .separator) :
    WellFormed (list.replaceAt before.length term) := by
  rw [replaceAt_splice list term hTerms]
  have hShaped := h.shaped
  rw [hKind, hTerms] at hShaped
  refine h.splice ?_ ?_ (by simp [hHeld])
  · rw [hKind]
    obtain ⟨hBefore, hAfter⟩ := hShaped.alternates.cut
    rw [hOld] at hBefore hAfter
    refine Or.inr (hBefore.alternates ⟨?_, hAfter⟩)
    rw [kind_replacing, hTerm]
  · intro index hIndex
    cases hIndex
    simp

/-- A filter list does not begin with a separator. -/
theorem head_separator (h : WellFormed list) (hKind : list.kind = .filter) :
    list.terms.head?.any Term.isSeparator = false := by
  have hShaped := h.shaped
  rw [hKind] at hShaped
  rcases hShaped with hNil | hAlternates
  · simp [hNil]
  · obtain ⟨first, rest, hFirst, hMatcher, _⟩ :=
      ((alternates_iff_turns _).mp hAlternates).matcher_cases
    simp [hFirst, Term.isSeparator, hMatcher]

/-- **What putting in a separator does.** At the start nothing; behind the last
matcher it is held; anywhere else it takes the place of a separator, and nothing
is held there. -/
theorem insertSeparator_cases (h : WellFormed list)
    (hKind : list.kind = .filter) (term : Term) :
    list.insertSeparator list.place term = list ∨
    (list.insertSeparator list.place term =
        { list with held := some term.operator } ∧
      list.cursor = some (list.terms.length - 1)) ∨
    ∃ before old after, list.terms = before ++ old :: after ∧
      old.kind = .separator ∧ list.held = none ∧
      list.insertSeparator list.place term =
        list.replaceAt before.length term := by
  have hShaped := h.shaped
  rw [hKind] at hShaped
  rcases h.cursor_cases with hNone | ⟨before, current, after, hTerms, hCursor⟩
  · left
    rw [place, hNone, Option.elim_none,
      insertSeparator_start list term (h.head_separator hKind)]
  · rw [hTerms] at hShaped
    have hAlternates := hShaped.alternates
    have hAfter := hAlternates.cut.2
    have hPlace : list.place = before.length + 1 := by
      rw [place, hCursor, Option.elim_some]
    rw [hPlace]
    rcases hAlternates.kind_cases with hMatcher | hSeparator
    · rw [hMatcher] at hAfter
      rcases hAfter.separator_cases with hNil | ⟨next, rest, hRest, hNext, _⟩
      · rw [hNil] at hTerms
        refine Or.inr (Or.inl ⟨insertSeparator_held list term hTerms hMatcher,
          ?_⟩)
        rw [hCursor, hTerms]
        simp
      · rw [hRest] at hTerms
        refine Or.inr (Or.inr ⟨before ++ [current], next, rest, by simp [hTerms],
          hNext, h.held_eq_none hCursor (by rw [hTerms]; simp), ?_⟩)
        rw [insertSeparator_next list term hTerms hMatcher hNext,
          List.length_append, List.length_singleton]
    · rw [hSeparator] at hAfter
      obtain ⟨next, rest, hRest, _, _⟩ := hAfter.matcher_cases
      exact Or.inr (Or.inr ⟨before, current, after, hTerms, hSeparator,
        h.held_eq_none hCursor (by rw [hTerms, hRest]; simp),
        insertSeparator_onto list term hTerms hSeparator⟩)

private theorem insertSeparator (h : WellFormed list)
    (hKind : list.kind = .filter) {term : Term}
    (hTerm : term.kind = .separator) :
    WellFormed (list.insertSeparator list.place term) := by
  rcases h.insertSeparator_cases hKind term with
    hSame | ⟨hHeld, hCursor⟩ | ⟨before, old, after, hTerms, hOld, hHeld, hPlaced⟩
  · rw [hSame]
    exact h
  · rw [hHeld]
    refine h.splice h.shaped h.cursor_lt ?_
    intro operator hOperator
    cases hOperator
    exact ⟨hTerm, hKind, hCursor⟩
  · rw [hPlaced]
    exact h.replaceAt hKind hHeld hTerms hOld hTerm

/-- The operator that joins a matcher to the one in front of it is a separator. -/
theorem joining_kind (h : WellFormed list) :
    (list.held.getD list.separator).kind = .separator := by
  cases hHeld : list.held with
  | none => exact h.separator_kind
  | some operator => exact (h.held_last operator hHeld).1

/-- No matcher stands right behind another one. -/
theorem next_matcher (h : WellFormed list) (hKind : list.kind = .filter)
    {before after : List Term} {current : Term}
    (hTerms : list.terms = before ++ current :: after)
    (hCurrent : current.kind = .matcher) :
    after.head?.any Term.isMatcher = false := by
  have hShaped := h.shaped
  rw [hKind, hTerms] at hShaped
  have hAfter := hShaped.alternates.cut.2
  rw [hCurrent] at hAfter
  rcases hAfter.separator_cases with hNil | ⟨next, rest, hRest, hNext, _⟩
  · simp [hNil]
  · simp [hRest, Term.isMatcher, hNext]

/-- **What putting in a matcher does.** It comes into an empty list alone, in
front of a matcher with a separator behind it, and behind the matcher under the
cursor with a separator in front of it. -/
theorem insertMatcher_cases (h : WellFormed list) (hKind : list.kind = .filter)
    (term : Term) :
    (list.terms = [] ∧ list.insertMatcher list.place term =
      { list with
        terms := [placed list.nextId term]
        cursor := some 0
        held := none
        nextId := (identify list.nextId term).2 }) ∨
    (∃ before other after, list.terms = before ++ other :: after ∧
      list.place = before.length ∧ Turns .matcher before .matcher ∧
      Turns .matcher (other :: after) .separator ∧
      list.insertMatcher list.place term =
        { list with
          terms := before ++ placed list.nextId term ::
            joining (identify list.nextId term).2 list.separator ::
              other :: after
          cursor := some before.length
          held := none
          nextId := (identify list.nextId term).2 + 1 }) ∨
    ∃ before other after, list.terms = before ++ other :: after ∧
      list.cursor = some before.length ∧ Turns .matcher before .matcher ∧
      other.kind = .matcher ∧ Turns .separator after .separator ∧
      list.insertMatcher list.place term =
        { list with
          terms := before ++ other ::
            joining (identify list.nextId term).2
              (list.held.getD list.separator) ::
              placed list.nextId term :: after
          cursor := some (before.length + 2)
          held := none
          nextId := (identify list.nextId term).2 + 1 } := by
  have hShaped := h.shaped
  rw [hKind] at hShaped
  rcases h.cursor_cases with hNone | ⟨before, current, after, hTerms, hCursor⟩
  · rw [place, hNone, Option.elim_none]
    rcases hShaped with hNil | hAlternates
    · exact Or.inl ⟨hNil, insertMatcher_nil list term hNil⟩
    · have hTurns := (alternates_iff_turns _).mp hAlternates
      obtain ⟨first, rest, hFirst, _, _⟩ := hTurns.matcher_cases
      rw [hFirst] at hTurns
      have hTerms : list.terms = [] ++ first :: rest := hFirst
      exact Or.inr (Or.inl ⟨[], first, rest, hTerms, rfl, rfl, hTurns,
        insertMatcher_before list term hTerms hTurns.1 rfl⟩)
  · rw [hTerms] at hShaped
    have hAlternates := hShaped.alternates
    obtain ⟨hBefore, hAfter⟩ := hAlternates.cut
    have hPlace : list.place = before.length + 1 := by
      rw [place, hCursor, Option.elim_some]
    rw [hPlace]
    rcases hAlternates.kind_cases with hMatcher | hSeparator
    · rw [hMatcher] at hBefore hAfter
      have hHead := h.next_matcher hKind hTerms hMatcher
      exact Or.inr (Or.inr ⟨before, current, after, hTerms, hCursor, hBefore,
        hMatcher, hAfter, insertMatcher_after list term hTerms hMatcher hHead⟩)
    · rw [hSeparator] at hBefore hAfter
      obtain ⟨next, rest, hRest, _, _⟩ := hAfter.matcher_cases
      rw [hRest] at hTerms hAfter
      have hCut : list.terms = (before ++ [current]) ++ next :: rest := by
        simp [hTerms]
      have hPiece : Turns .matcher (before ++ [current]) .matcher :=
        (turns_append _ _ _ _).mpr ⟨.separator, hBefore, hSeparator, rfl⟩
      have hLast : (before ++ [current]).getLast?.any Term.isMatcher = false := by
        simp [Term.isMatcher, hSeparator]
      have hInserted := insertMatcher_before list term hCut hAfter.1 hLast
      rw [List.length_append, List.length_singleton] at hInserted
      refine Or.inr (Or.inl ⟨before ++ [current], next, rest, hCut, ?_, hPiece,
        hAfter, ?_⟩)
      · rw [List.length_append, List.length_singleton]
      · rw [hInserted, List.length_append, List.length_singleton]

private theorem insertMatcher (h : WellFormed list)
    (hKind : list.kind = .filter) {term : Term} (hTerm : term.kind = .matcher) :
    WellFormed (list.insertMatcher list.place term) := by
  have hPlaced : (placed list.nextId term).kind = .matcher := by
    rw [kind_placed, hTerm]
  rcases h.insertMatcher_cases hKind term with
    ⟨_, hInserted⟩ | ⟨before, other, after, _, _, hBefore, hAfter, hInserted⟩ |
      ⟨before, other, after, _, _, hBefore, hOther, hAfter, hInserted⟩
  · rw [hInserted]
    refine h.splice_unheld ?_ ?_
    · rw [hKind]
      exact Or.inr (.single ((Term.isMatcher_iff _).mpr hPlaced))
    · intro index hIndex
      cases hIndex
      simp
  · rw [hInserted]
    refine h.splice_unheld ?_ ?_
    · rw [hKind]
      refine Or.inr (hBefore.alternates ⟨hPlaced, ?_, hAfter⟩)
      rw [kind_joining, h.separator_kind]
      rfl
    · intro index hIndex
      cases hIndex
      simp
  · have hJoining := h.joining_kind
    rw [hInserted]
    refine h.splice_unheld ?_ ?_
    · rw [hKind]
      refine Or.inr (hBefore.alternates ⟨hOther, ?_, ?_, hAfter⟩)
      · rw [kind_joining, hJoining]
        rfl
      · rw [hPlaced]
        rfl
    · intro index hIndex
      cases hIndex
      simp

private theorem insertSorter (h : WellFormed list) (hKind : list.kind = .sorter)
    {term : Term} (hTerm : term.kind = .sorter) :
    WellFormed (list.insertSorter list.place term) := by
  have hShaped := h.shaped
  rw [hKind] at hShaped
  have hPlace := h.place_le
  rw [insertSorter_splice]
  refine h.splice ?_ ?_ (by simp [h.held_eq_none_of_sorter hKind])
  · rw [hKind]
    intro other hOther
    rcases (List.mem_insertIdx hPlace).mp hOther with hNew | hOld
    · rw [hNew, kind_placed, hTerm]
    · exact hShaped other hOld
  · intro index hIndex
    cases hIndex
    rw [List.length_insertIdx]
    split <;> omega

/-- Inserting keeps the invariant, whatever is inserted. -/
theorem insert (h : WellFormed list) (term : Term) :
    WellFormed (list.insert term) := by
  cases hAccepts : list.kind.accepts term.kind with
  | false => rw [insert_refused hAccepts]; exact h
  | true =>
      cases hKind : list.kind with
      | filter =>
          rw [hKind] at hAccepts
          cases hTerm : term.kind with
          | matcher =>
              rw [insert_matcher hKind hTerm]
              exact (h.insertMatcher hKind hTerm).park list
          | separator =>
              rw [insert_separator hKind hTerm]
              exact (h.insertSeparator hKind hTerm).park list
          | sorter => rw [hTerm] at hAccepts; cases hAccepts
      | sorter =>
          have hTerm : term.kind = .sorter := by
            simpa [hKind, ListKind.accepts] using hAccepts
          rw [insert_sorter hKind hTerm]
          exact (h.insertSorter hKind hTerm).park list

theorem insertAll (h : WellFormed list) (terms : List Term) :
    WellFormed (list.insertAll terms) := by
  induction terms generalizing list with
  | nil => exact h
  | cons term rest ih => exact ih (h.insert term)

/-! ## Removing -/

/-- The terms that stay when a term goes are in order. In a filter list only a
matcher goes, with the separator on one side of it. -/
private theorem shaped_withoutTerm (h : WellFormed list)
    {before after : List Term}
    {term : Term} (hTerms : list.terms = before ++ term :: after)
    (hJoins : joinsMatchers list.terms before.length = false) :
    Shaped list.kind (withoutTerm list.terms before.length) := by
  have hShaped := h.shaped
  cases hKind : list.kind with
  | filter =>
      rw [hKind, hTerms] at hShaped
      rw [hTerms] at hJoins
      have hAlternates := hShaped.alternates
      obtain ⟨hBefore, hAfter⟩ := hAlternates.cut
      rw [hTerms]
      rcases hAlternates.kind_cases with hMatcher | hSeparator
      · rw [hMatcher] at hBefore hAfter
        rcases hBefore.eq_nil_or_concat with
          ⟨hNil, _⟩ | ⟨rest, last, hConcat, hRest, hLast⟩
        · subst hNil
          rcases hAfter.separator_cases with
            hEmpty | ⟨next, others, hOthers, hNext, hTurns⟩
          · rw [hEmpty]
            exact Or.inl (withoutTerm_head (Or.inl rfl))
          · rw [hOthers]
            have hHead : withoutTerm (term :: next :: others) 0 = others :=
              withoutTerm_head (Or.inr (by simp [hNext]))
            rw [List.nil_append, List.length_nil, hHead]
            exact Or.inr ((alternates_iff_turns _).mpr hTurns)
        · have hLastKind := TermKind.eq_separator_of_next hLast
          have hHead : after.head?.all Term.isSeparator = true := by
            rcases hAfter.separator_cases with
              hEmpty | ⟨next, others, hOthers, hNext, _⟩
            · simp [hEmpty]
            · simp [hOthers, hNext]
          subst hConcat
          rw [List.append_assoc, List.singleton_append, List.length_append,
            List.length_singleton, withoutTerm_concat hLastKind hHead]
          rw [hLastKind] at hRest
          exact Or.inr (hRest.alternates hAfter)
      · rw [hSeparator] at hBefore hAfter
        obtain ⟨next, others, hOthers, hNext, _⟩ := hAfter.matcher_cases
        rcases hBefore.eq_nil_or_concat with
          ⟨_, hTurn⟩ | ⟨rest, last, hConcat, hRest, hLast⟩
        · cases hTurn
        · have hLastKind := TermKind.eq_matcher_of_next hLast
          have hJoined : joinsMatchers (rest ++ last :: term :: next :: others)
              (rest.length + 1) = true :=
            joinsMatchers_splice hLastKind hSeparator hNext
          subst hConcat hOthers
          simp only [List.append_assoc, List.singleton_append,
            List.length_append, List.length_singleton] at hJoins
          rw [hJoined] at hJoins
          cases hJoins
  | sorter =>
      rw [hKind] at hShaped
      intro other hOther
      exact hShaped other ((withoutTerm_sublist _ _).subset hOther)

theorem restorePlaceholder (h : WellFormed list) :
    WellFormed list.restorePlaceholder := by
  unfold TermList.restorePlaceholder
  split
  · exact h
  · refine ⟨h.shaped, h.cursor_lt, h.held_last, h.separator_kind,
      h.matcher_kind, ?_, by simp⟩
    intro term hTerm
    cases hTerm
    cases hParked : list.parked with
    | none => exact ⟨rfl, rfl, rfl⟩
    | some parked =>
        have hBlank := h.parked_blank parked hParked
        exact ⟨hBlank.1, hBlank.2, rfl⟩

theorem remove (h : WellFormed list) (term : Term) :
    WellFormed (list.remove term) := by
  simp only [TermList.remove]
  split
  · exact h.unheld
  · next index hPosition =>
    have hLt : index < list.terms.length := position?_lt hPosition
    obtain ⟨before, current, after, hTerms, hLength⟩ := exists_cut hLt
    by_cases hJoins : joinsMatchers list.terms index = true
    · rw [if_pos hJoins]
      exact h.unheld
    · rw [if_neg hJoins]
      rw [Bool.not_eq_true] at hJoins
      have hShaped : Shaped list.kind (withoutTerm list.terms index) := by
        rw [← hLength] at hJoins ⊢
        exact h.shaped_withoutTerm hTerms hJoins
      by_cases hEmpty : (withoutTerm list.terms index).isEmpty = true
      · rw [if_pos hEmpty]
        exact (h.splice_unheld hShaped (by simp)).restorePlaceholder
      · rw [if_neg hEmpty]
        have hPositive : 0 < (withoutTerm list.terms index).length := by
          rw [List.isEmpty_iff] at hEmpty
          exact List.length_pos_iff.mpr hEmpty
        split
        · next hStart =>
          refine h.splice_unheld hShaped ?_
          intro other hOther
          rw [Option.isNone_iff_eq_none] at hStart
          rw [hStart] at hOther
          cases hOther
        · refine h.splice_unheld hShaped ?_
          intro other hOther
          rw [← Option.some.inj hOther]
          -- The cursor's own term stayed, or the cursor goes to a neighbour.
          cases hSame : (TermList.current? { list with held := none }).bind
              Term.id with
          | none =>
              rw [Option.bind_none, Option.getD_none]
              omega
          | some id =>
              rw [Option.bind_some]
              cases hFound : (withoutTerm list.terms index).findIdx?
                  (·.id == some id) with
              | none =>
                  rw [Option.getD_none]
                  omega
              | some found =>
                  exact (List.findIdx?_eq_some_iff_getElem.mp hFound).1

/-! ## Moving and writing -/

theorem moveTo (h : WellFormed list) (term : Term) :
    WellFormed (list.moveTo term) := by
  unfold TermList.moveTo
  split
  · next index hPosition =>
    refine h.splice_unheld h.shaped ?_
    intro other hOther
    cases hOther
    exact position?_lt hPosition
  · exact h.insert term

theorem moveToStart (h : WellFormed list) : WellFormed list.moveToStart :=
  h.splice_unheld h.shaped (by simp)

/-- Rewriting a term without changing its role keeps the invariant. -/
private theorem modify (h : WellFormed list) (index : Nat) {f : Term → Term}
    (hKind : ∀ term, (f term).kind = term.kind) :
    WellFormed { list with terms := list.terms.modify index f } := by
  have hKinds : list.terms.map Term.kind =
      (list.terms.modify index f).map Term.kind := (map_modify hKind).symm
  refine h.splice (h.shaped.congr hKinds) ?_ ?_
  · intro other hOther
    rw [List.length_modify]
    exact h.cursor_lt other hOther
  · intro operator hOperator
    rw [List.length_modify]
    exact h.held_last operator hOperator

/-- Taking the placeholder keeps the invariant. -/
theorem unplaced (h : WellFormed list) :
    WellFormed { list with placeholder := none } :=
  ⟨h.shaped, h.cursor_lt, h.held_last, h.separator_kind, h.matcher_kind,
    by simp, h.parked_blank⟩

theorem write (h : WellFormed list) (value : Text) :
    WellFormed (list.write value) := by
  unfold TermList.write
  split
  · exact h.unplaced.insert _
  · split
    · refine h.modify _ ?_
      intro term
      split <;> rfl
    · exact h.insert _

/-! ## Placeholder and choices -/

theorem withPlaceholder (h : WellFormed list) (column : Option Text) :
    WellFormed (list.withPlaceholder column) := by
  refine ⟨h.shaped, h.cursor_lt, h.held_last, h.separator_kind,
    h.matcher_kind, ?_, h.parked_blank⟩
  intro term hTerm
  cases hTerm
  exact ⟨rfl, rfl, rfl⟩

theorem withoutPlaceholder (h : WellFormed list) :
    WellFormed list.withoutPlaceholder :=
  ⟨h.shaped, h.cursor_lt, h.held_last, h.separator_kind, h.matcher_kind,
    by simp [TermList.withoutPlaceholder],
    by simp [TermList.withoutPlaceholder]⟩

theorem withSeparator (h : WellFormed list) (operator : Operator) :
    WellFormed (list.withSeparator operator) := by
  unfold TermList.withSeparator
  split
  · next hOperator =>
    exact ⟨h.shaped, h.cursor_lt, h.held_last, hOperator, h.matcher_kind,
      h.placeholder_blank, h.parked_blank⟩
  · exact h

/-- With another operator for new terms, once the placeholder has it. -/
private theorem rechoose (h : WellFormed list) {operator : Operator}
    (hOperator : operator.kind = list.kind.criterion)
    {placeholder : Option Term}
    (hPlaceholder : ∀ term, placeholder = some term →
      term.value = none ∧ term.id = none ∧ term.operator = operator) :
    WellFormed { list with matcher := operator, placeholder := placeholder } :=
  ⟨h.shaped, h.cursor_lt, h.held_last, h.separator_kind, hOperator,
    hPlaceholder, h.parked_blank⟩

theorem withMatcher (h : WellFormed list) (operator : Operator) :
    WellFormed (list.withMatcher operator) := by
  simp only [TermList.withMatcher]
  split
  · exact h
  · next hFits =>
    have hOperator : operator.kind = list.kind.criterion :=
      Decidable.not_not.mp hFits
    split
    · next placeholder hPlaceholder =>
      refine h.rechoose hOperator ?_
      intro term hTerm
      cases hTerm
      have hBlank := h.placeholder_blank placeholder hPlaceholder
      exact ⟨hBlank.1, hBlank.2.1, rfl⟩
    · next index hPlaceholder hCursor =>
      have hNone : ∀ term, list.placeholder = some term →
          term.value = none ∧ term.id = none ∧ term.operator = operator := by
        simp [hPlaceholder]
      refine (h.rechoose hOperator hNone).modify index ?_
      intro term
      split
      · next hTerm => exact hOperator.trans hTerm.symm
      · rfl
    · next hPlaceholder _ =>
      exact h.rechoose hOperator (by simp [hPlaceholder])

/-! ## Other lists -/

theorem ofPhrase (text : Text) : WellFormed (ofPhrase text) :=
  (wellFormed_empty .filter).insertAll _

theorem cleared (h : WellFormed list) : WellFormed list.cleared := by
  have hEmpty := wellFormed_empty list.kind
  refine ⟨hEmpty.shaped, by simp [TermList.cleared, empty],
    by simp [TermList.cleared, empty], h.separator_kind, h.matcher_kind, ?_,
    hEmpty.parked_blank⟩
  intro term hTerm
  cases hTerm
  exact ⟨rfl, rfl, rfl⟩

/-- Every edit keeps the invariant. -/
theorem apply (h : WellFormed list) (edit : Edit) :
    WellFormed (edit.apply list) := by
  cases edit with
  | insert term expectsSeparator => exact h.insert term
  | remove term => exact h.remove term
  | moveTo term => exact h.moveTo term
  | moveToStart => exact h.moveToStart
  | write value => exact h.write value
  | withPlaceholder column => exact h.withPlaceholder column
  | withoutPlaceholder => exact h.withoutPlaceholder
  | withSeparator operator => exact h.withSeparator operator
  | withMatcher operator => exact h.withMatcher operator
  | phrase text => exact ofPhrase text
  | cleared => exact h.cleared
  | rebuild => exact h

end WellFormed

/-- Whatever edits are permitted, the lists reached are well formed. -/
theorem Reached.wellFormed {permitted : TermList → Edit → Prop}
    {list : TermList} (h : Reached permitted list) : WellFormed list :=
  h.invariant wellFormed_empty (fun _ edit hList _ => hList.apply edit)

end QueryPhrase.TermList
