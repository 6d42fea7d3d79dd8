import QueryPhrase.Proofs.TermList.Sound

/-!
# Lists built in order

Terms may be inserted one after the other in any order. A filter list that is
empty at first keeps the matchers among them. Sorters are refused, and a
separator in front of the first matcher has nothing to join. Behind a matcher a
separator is held until the next matcher comes, and a later one takes its place.
So what a list remembers of the terms since its last matcher is the operator
that it would join the next one by.

Terms that are in order to begin with come out as they went in, identifiers
aside, unless a separator says more than its operator or a column is empty.

## Main definitions

* `Term.normalized` — the matchers of some terms, each joined to the one before
  it by what stands between them.
* `Term.behind` — the same of the terms behind a matcher, one term at a time.
* `Term.Plain` — the terms that a list keeps as they are, and
  `TermList.matchersOf` the matchers of a list.

## Main results

* `TermList.AtEnd.withoutIds_insertAll` — what insertions at the end of a list
  add to it.
* `TermList.inserted_eq_normalized` — what is inserted into an empty filter list
  comes out normalized, whatever it is.
* `TermList.matchersOf_insertAll` — the matchers of a list built in order.
* `TermList.withoutIds_insertAll_filter`, `TermList.withoutIds_insertAll_sorter`
  — terms in order come out as they went in.
-/

namespace QueryPhrase

/-- A term that a list keeps as it is: its column is not empty, and a separator
is its operator and nothing else. -/
structure Term.Plain (term : Term) : Prop where
  column_ne : term.column ≠ some []
  bare : term.kind = .separator → term.column = none ∧ term.value = none

theorem Term.Plain.withoutId {term : Term} (h : term.Plain) :
    term.withoutId.Plain := ⟨h.column_ne, h.bare⟩

/-- Terms without their identifiers. -/
def Term.withoutIds (terms : List Term) : List Term := terms.map Term.withoutId

/-! ## What comes of the terms -/

namespace Term

/-- A term as a list keeps it, its identifier aside: an empty column counts as
none. -/
def stored (term : Term) : Term :=
  { term.withoutId with column := term.column.filter (· ≠ []) }

/-- A column that is not empty is kept. -/
theorem stored_of_column_ne {term : Term} (h : term.column ≠ some []) :
    stored term = term.withoutId := by
  have hColumn : term.column.filter (· ≠ []) = term.column := by
    cases hSome : term.column with
    | none => rfl
    | some column =>
        have hNe : column ≠ [] := by
          intro hEmpty
          exact h (by rw [hSome, hEmpty])
        exact Option.filter_some_pos (decide_eq_true hNe)
  rw [stored, hColumn]
  rfl

/-- The operator that joins two matchers with the terms `gap` between them: that
of the last separator there, or else the one that is chosen. -/
def joiner (chosen : Operator) (gap : List Term) : Operator :=
  ((gap.filter isSeparator).getLast?.map Term.operator).getD chosen

/-- A matcher that comes behind another one, with the separator between them. -/
def joinedBy (chosen : Operator) (gap : List Term) (matcher : Term) :
    List Term :=
  [ofSeparator (joiner chosen gap), stored matcher]

/-- The matchers of some terms in their order, each but the first joined to the
one before it by what stands between them. -/
def normalized (chosen : Operator) (terms : List Term) : List Term :=
  match terms.filter isMatcher with
  | [] => []
  | first :: others =>
    stored first :: (List.zipWith (joinedBy chosen)
      (terms.splitOnP isMatcher).tail others).flatten

/-- What comes of `terms` behind a matcher, when the terms `gap` have come
between. -/
def behind (chosen : Operator) (gap terms : List Term) : List Term :=
  (List.zipWith (joinedBy chosen)
    ((terms.splitOnP isMatcher).modifyHead (gap ++ ·))
    (terms.filter isMatcher)).flatten

section

variable {chosen : Operator} {gap rest : List Term} {term : Term}

/-- A later separator takes the place of an earlier one. -/
theorem joiner_separator (hTerm : term.kind = .separator) :
    joiner chosen (gap ++ [term]) = term.operator := by
  have hKind : term.isSeparator = true := (isSeparator_iff term).mpr hTerm
  simp [joiner, hKind]

theorem joiner_other (hTerm : term.kind ≠ .separator) :
    joiner chosen (gap ++ [term]) = joiner chosen gap := by
  have hKind : ¬ term.isSeparator = true := by rwa [isSeparator_iff]
  simp [joiner, hKind]

theorem behind_nil : behind chosen gap [] = [] := by
  simp [behind]

/-- Right behind a matcher nothing has come between. -/
theorem behind_start : behind chosen [] rest =
    (List.zipWith (joinedBy chosen) (rest.splitOnP isMatcher)
      (rest.filter isMatcher)).flatten := by
  have hSame : (rest.splitOnP isMatcher).modifyHead ([] ++ ·) =
      rest.splitOnP isMatcher := by
    cases rest.splitOnP isMatcher <;> rfl
  rw [behind, hSame]

theorem behind_matcher (hTerm : term.kind = .matcher) :
    behind chosen gap (term :: rest) =
      joinedBy chosen gap term ++ behind chosen [] rest := by
  have hKind : term.isMatcher = true := (isMatcher_iff term).mpr hTerm
  rw [behind, List.splitOnP_cons_eq_if_modifyHead, if_pos hKind,
    List.filter_cons_of_pos hKind, List.modifyHead_cons, List.append_nil,
    List.zipWith_cons_cons, List.flatten_cons, behind_start]

theorem behind_other (hTerm : term.kind ≠ .matcher) :
    behind chosen gap (term :: rest) = behind chosen (gap ++ [term]) rest := by
  have hKind : ¬ term.isMatcher = true := by rwa [isMatcher_iff]
  have hHead : ((gap ++ ·) ∘ (term :: ·) : List Term → List Term) =
      (gap ++ [term] ++ ·) := by
    funext others
    simp
  rw [behind, behind, List.splitOnP_cons_eq_if_modifyHead, if_neg hKind,
    List.filter_cons_of_neg hKind, List.modifyHead_modifyHead, hHead]

theorem normalized_matcher (hTerm : term.kind = .matcher) :
    normalized chosen (term :: rest) =
      stored term :: behind chosen [] rest := by
  have hKind : term.isMatcher = true := (isMatcher_iff term).mpr hTerm
  rw [normalized, List.filter_cons_of_pos hKind,
    List.splitOnP_cons_eq_if_modifyHead, if_pos hKind, behind_start]
  rfl

theorem normalized_other (hTerm : term.kind ≠ .matcher) :
    normalized chosen (term :: rest) = normalized chosen rest := by
  have hKind : ¬ term.isMatcher = true := by rwa [isMatcher_iff]
  rw [normalized, normalized, List.filter_cons_of_neg hKind,
    List.splitOnP_cons_eq_if_modifyHead, if_neg hKind, List.tail_modifyHead]

/-- A separator joins two matchers, if a separator is chosen. -/
theorem kind_joiner (hChosen : chosen.kind = .separator) :
    (joiner chosen gap).kind = .separator := by
  cases hLast : (gap.filter isSeparator).getLast? with
  | none => simp [joiner, hLast, hChosen]
  | some last =>
      have hMem := List.mem_of_getLast? hLast
      have hKind := (isSeparator_iff last).mp (List.mem_filter.mp hMem).2
      rw [joiner, hLast]
      exact hKind

theorem filter_isMatcher_behind (hChosen : chosen.kind = .separator)
    {terms : List Term} :
    ∀ {gap : List Term}, (behind chosen gap terms).filter isMatcher =
      (terms.filter isMatcher).map stored := by
  induction terms with
  | nil =>
      intro gap
      rw [behind_nil]
      rfl
  | cons term rest ih =>
      intro gap
      by_cases hTerm : term.kind = .matcher
      · have hKind : term.isMatcher = true := (isMatcher_iff term).mpr hTerm
        have hNoMatcher : ¬ (ofSeparator (joiner chosen gap)).isMatcher =
            true := by
          rw [isMatcher_iff, kind, ofSeparator, kind_joiner hChosen]
          decide
        have hStored : (stored term).isMatcher = true := hKind
        rw [behind_matcher hTerm, List.filter_append, ih, joinedBy,
          List.filter_cons_of_neg hNoMatcher, List.filter_cons_of_pos hStored,
          List.filter_cons_of_pos hKind]
        rfl
      · have hKind : ¬ term.isMatcher = true := by rwa [isMatcher_iff]
        rw [behind_other hTerm, ih, List.filter_cons_of_neg hKind]

/-- **Every matcher is kept, once and in order.** -/
theorem filter_isMatcher_normalized (hChosen : chosen.kind = .separator)
    {terms : List Term} :
    (normalized chosen terms).filter isMatcher =
      (terms.filter isMatcher).map stored := by
  induction terms with
  | nil => rfl
  | cons term rest ih =>
      by_cases hTerm : term.kind = .matcher
      · have hKind : term.isMatcher = true := (isMatcher_iff term).mpr hTerm
        have hStored : (stored term).isMatcher = true := hKind
        rw [normalized_matcher hTerm, List.filter_cons_of_pos hStored,
          filter_isMatcher_behind hChosen, List.filter_cons_of_pos hKind]
        rfl
      · have hKind : ¬ term.isMatcher = true := by rwa [isMatcher_iff]
        rw [normalized_other hTerm, ih, List.filter_cons_of_neg hKind]

end

end Term

namespace TermList

open Term

@[simp] theorem kind_park (before after : TermList) :
    (before.park after).kind = after.kind := by
  unfold park
  split <;> rfl

@[simp] theorem terms_park (before after : TermList) :
    (before.park after).terms = after.terms := by
  unfold park
  split <;> rfl

@[simp] theorem cursor_park (before after : TermList) :
    (before.park after).cursor = after.cursor := by
  unfold park
  split <;> rfl

@[simp] theorem nextId_park (before after : TermList) :
    (before.park after).nextId = after.nextId := by
  unfold park
  split <;> rfl

@[simp] theorem held_park (before after : TermList) :
    (before.park after).held = after.held := by
  unfold park
  split <;> rfl

@[simp] theorem separator_park (before after : TermList) :
    (before.park after).separator = after.separator := by
  unfold park
  split <;> rfl

/-- The placeholder is set aside only when the first term has come in. -/
theorem park_of_isEmpty_eq {before after : TermList}
    (h : after.isEmpty = before.isEmpty) : before.park after = after := by
  unfold park
  rw [h]
  cases before.isEmpty <;> rfl

/-- A separator comes into no empty list, so no placeholder is set aside. -/
theorem insert_separator_eq {list : TermList} {term : Term} (h : WellFormed list)
    (hKind : list.kind = .filter) (hTerm : term.kind = .separator) :
    list.insert term = list.insertSeparator list.place term := by
  rw [insert_separator hKind hTerm]
  apply park_of_isEmpty_eq
  rcases h.insertSeparator_cases hKind term with
    hSame | ⟨hHeld, _⟩ | ⟨before, old, after, hTerms, _, _, hPlaced⟩
  · rw [hSame]
  · rw [hHeld]
    rfl
  · rw [hPlaced, replaceAt_splice list term hTerms, isEmpty, isEmpty, hTerms]
    cases before <;> rfl

/-- Inserting changes neither the kind of the list nor the separator it has
chosen. -/
theorem insert_keeps (list : TermList) (term : Term) :
    (list.insert term).kind = list.kind ∧
      (list.insert term).separator = list.separator := by
  have hSeparator : ∀ index,
      (list.insertSeparator index term).kind = list.kind ∧
        (list.insertSeparator index term).separator = list.separator := by
    intro index
    unfold insertSeparator
    extract_lets left right
    split
    · exact ⟨rfl, rfl⟩
    · split
      · exact ⟨rfl, rfl⟩
      · cases left with
        | none => exact ⟨rfl, rfl⟩
        | some before => cases right <;> exact ⟨rfl, rfl⟩
  unfold insert
  split
  · exact ⟨rfl, rfl⟩
  · rw [kind_park, separator_park]
    split
    · exact hSeparator _
    · exact ⟨rfl, rfl⟩
    · exact ⟨rfl, rfl⟩

@[simp] theorem kind_insert (list : TermList) (term : Term) :
    (list.insert term).kind = list.kind := (insert_keeps list term).1

@[simp] theorem separator_insert (list : TermList) (term : Term) :
    (list.insert term).separator = list.separator := (insert_keeps list term).2

@[simp] theorem kind_insertAll {terms : List Term} :
    ∀ list : TermList, (list.insertAll terms).kind = list.kind := by
  induction terms with
  | nil => exact fun _ => rfl
  | cons term rest ih =>
      exact fun list => (ih (list.insert term)).trans (kind_insert list term)

@[simp] theorem kind_withSeparator (list : TermList) (operator : Operator) :
    (list.withSeparator operator).kind = list.kind := by
  unfold withSeparator
  split <;> rfl

@[simp] theorem kind_withMatcher (list : TermList) (operator : Operator) :
    (list.withMatcher operator).kind = list.kind := by
  unfold withMatcher
  split
  · rfl
  · cases list.placeholder with
    | some placeholder => rfl
    | none => cases list.cursor <;> rfl

/-- What a list keeps of a term that comes in. -/
theorem withoutId_placed (nextId : TermId) (term : Term) :
    (placed nextId term).withoutId = stored term := by
  have hIdentify : stored (identify nextId term).1 = stored term := by
    unfold identify
    split <;> rfl
  rw [placed, ← hIdentify, dropEmptyColumn]
  split
  · next hEmpty =>
    rw [stored, hEmpty]
    rfl
  · next hColumn => exact (stored_of_column_ne hColumn).symm

/-! ## Filters -/

section Filter

variable {list : TermList} {term : Term}

/-- The cursor is on the last term, which is a matcher. -/
def AtEnd (list : TermList) : Prop :=
  list.kind = .filter ∧ ∃ before last, list.terms = before ++ [last] ∧
    last.kind = .matcher ∧ list.cursor = some before.length

/-- The first matcher is alone, and nothing is held. -/
theorem insert_first (hKind : list.kind = .filter) (hNil : list.terms = [])
    (hCursor : list.cursor = none) (hTerm : term.kind = .matcher) :
    AtEnd (list.insert term) ∧ (list.insert term).held = none ∧
      withoutIds (list.insert term).terms = [stored term] := by
  rw [insert_matcher hKind hTerm, place, hCursor, Option.elim_none,
    insertMatcher_nil list term hNil]
  refine ⟨⟨by simp [hKind], [], placed list.nextId term, by simp,
    by simp [hTerm], by simp⟩, by simp, ?_⟩
  simp [withoutIds, withoutId_placed]

/-- Before the first matcher nothing else comes in. -/
theorem insert_ignored (hKind : list.kind = .filter) (hNil : list.terms = [])
    (hCursor : list.cursor = none) (hTerm : term.kind ≠ .matcher) :
    list.insert term = list := by
  cases hOther : term.kind with
  | matcher => exact absurd hOther hTerm
  | separator =>
      have hStart : list.terms.head?.any Term.isSeparator = false := by
        rw [hNil]
        rfl
      rw [insert_separator hKind hOther, place, hCursor, Option.elim_none,
        insertSeparator_start list term hStart, park_of_isEmpty_eq rfl]
  | sorter =>
      apply insert_refused
      rw [hKind, hOther]
      rfl

/-- At the end of a list a matcher is joined to the last one. -/
theorem AtEnd.insert_matcher (h : AtEnd list) (hTerm : term.kind = .matcher) :
    AtEnd (list.insert term) ∧ (list.insert term).held = none ∧
      withoutIds (list.insert term).terms = withoutIds list.terms ++
        [ofSeparator (list.held.getD list.separator), stored term] := by
  obtain ⟨hKind, before, last, hTerms, hLast, hCursor⟩ := h
  have hAfter : ([] : List Term).head?.any Term.isMatcher = false := rfl
  rw [TermList.insert_matcher hKind hTerm, place, hCursor, Option.elim_some,
    insertMatcher_after list term hTerms hLast hAfter]
  refine ⟨⟨by simp [hKind], before ++ [last, joining
    (identify list.nextId term).2 (list.held.getD list.separator)],
    placed list.nextId term, by simp, by simp [hTerm], by simp⟩, by simp, ?_⟩
  have hJoining : ∀ nextId operator,
      (joining nextId operator).withoutId = ofSeparator operator :=
    fun _ _ => rfl
  simp [withoutIds, hTerms, withoutId_placed, hJoining]

/-- At the end of a list a separator is held. -/
theorem AtEnd.insert_separator (h : AtEnd list)
    (hTerm : term.kind = .separator) :
    AtEnd (list.insert term) ∧ (list.insert term).held = some term.operator ∧
      (list.insert term).terms = list.terms := by
  obtain ⟨hKind, before, last, hTerms, hLast, hCursor⟩ := h
  rw [TermList.insert_separator hKind hTerm, place, hCursor, Option.elim_some,
    insertSeparator_held list term hTerms hLast]
  exact ⟨⟨by simp [hKind], before, last, by simp [hTerms], hLast,
    by simp [hCursor]⟩, by simp, by simp⟩

/-- **What insertions at the end of a list add to it.** The terms that have come
since the last matcher show in what the list would join the next one by. -/
theorem AtEnd.withoutIds_insertAll {terms : List Term} :
    ∀ {list : TermList} {gap : List Term}, AtEnd list →
      list.held.getD list.separator = joiner list.separator gap →
      withoutIds (list.insertAll terms).terms =
        withoutIds list.terms ++ behind list.separator gap terms := by
  -- A matcher empties the gap, and any other term is one more in it.
  induction terms with
  | nil =>
      intro list gap _ _
      rw [behind_nil, List.append_nil]
      rfl
  | cons term rest ih =>
      intro list gap h hGap
      show withoutIds ((list.insert term).insertAll rest).terms = _
      cases hTerm : term.kind with
      | matcher =>
          obtain ⟨hNext, hHeld, hTerms⟩ := h.insert_matcher hTerm
          have hNone : (list.insert term).held.getD
              (list.insert term).separator =
                joiner (list.insert term).separator [] := by
            rw [hHeld]
            rfl
          rw [ih hNext hNone, hTerms, separator_insert, behind_matcher hTerm,
            List.append_assoc, joinedBy, hGap]
      | separator =>
          obtain ⟨hNext, hHeld, hTerms⟩ := h.insert_separator hTerm
          have hLast : (list.insert term).held.getD
              (list.insert term).separator =
                joiner (list.insert term).separator (gap ++ [term]) := by
            rw [hHeld, joiner_separator hTerm]
            rfl
          rw [ih hNext hLast, hTerms, separator_insert,
            behind_other (by rw [hTerm]; decide)]
      | sorter =>
          have hRefused : list.insert term = list := by
            apply insert_refused
            rw [h.1, hTerm]
            rfl
          have hSame : list.held.getD list.separator =
              joiner list.separator (gap ++ [term]) := by
            rw [joiner_other (by rw [hTerm]; decide)]
            exact hGap
          rw [hRefused, ih h hSame, behind_other (by rw [hTerm]; decide)]

/-- What is inserted into an empty filter list comes out normalized. -/
theorem withoutIds_insertAll {terms : List Term} :
    ∀ {list : TermList}, list.kind = .filter → list.terms = [] →
      list.cursor = none →
      withoutIds (list.insertAll terms).terms =
        normalized list.separator terms := by
  induction terms with
  | nil =>
      intro list _ hNil _
      show withoutIds list.terms = []
      rw [hNil]
      rfl
  | cons term rest ih =>
      intro list hKind hNil hCursor
      show withoutIds ((list.insert term).insertAll rest).terms = _
      by_cases hTerm : term.kind = .matcher
      · obtain ⟨hNext, hHeld, hTerms⟩ := insert_first hKind hNil hCursor hTerm
        have hNone : (list.insert term).held.getD
            (list.insert term).separator =
              joiner (list.insert term).separator [] := by
          rw [hHeld]
          rfl
        rw [hNext.withoutIds_insertAll hNone, hTerms, separator_insert,
          normalized_matcher hTerm]
        rfl
      · rw [insert_ignored hKind hNil hCursor hTerm, ih hKind hNil hCursor,
          normalized_other hTerm]

end Filter

/-- The list of a phrase has its terms normalized. -/
theorem ofPhrase_eq_normalized (text : Text) :
    withoutIds (ofPhrase text).terms = normalized .and (Term.ofPhrase text) :=
  withoutIds_insertAll rfl rfl rfl

/-! ### Terms in order -/

/-- A bare separator is what the list itself would put in. -/
theorem withoutId_of_bare {term : Term} (h : term.Plain)
    (hKind : term.kind = .separator) :
    term.withoutId = ofSeparator term.operator := by
  obtain ⟨hColumn, hValue⟩ := h.bare hKind
  simp [ofSeparator, withoutId, hColumn, hValue]

/-- Terms in turn that are plain come out as they went in, behind a separator
that joins them. -/
private theorem behind_of_alternates {chosen : Operator} {terms : List Term}
    (h : Alternates terms) :
    ∀ {separator : Term}, separator.kind = .separator →
      (∀ term ∈ terms, term.Plain) →
      behind chosen [separator] terms =
        ofSeparator separator.operator :: withoutIds terms := by
  induction h with
  | @single term hMatcher =>
      intro separator hSeparator hPlain
      have hKind := (isMatcher_iff term).mp hMatcher
      have hJoin : joiner chosen ([] ++ [separator]) = separator.operator :=
        joiner_separator hSeparator
      rw [behind_matcher hKind, behind_nil, joinedBy, ← List.nil_append [separator],
        hJoin, stored_of_column_ne (hPlain term (by simp)).column_ne]
      rfl
  | @join term next rest hMatcher hNext _ ih =>
      intro separator hSeparator hPlain
      have hKind := (isMatcher_iff term).mp hMatcher
      have hNextKind := (isSeparator_iff next).mp hNext
      have hJoin : joiner chosen ([] ++ [separator]) = separator.operator :=
        joiner_separator hSeparator
      have hBare := withoutId_of_bare (hPlain next (by simp)) hNextKind
      have hRest := ih hNextKind
        fun other hOther => hPlain other (by simp [hOther])
      rw [behind_matcher hKind, behind_other (by rw [hNextKind]; decide),
        List.nil_append, hRest, joinedBy, ← List.nil_append [separator], hJoin,
        stored_of_column_ne (hPlain term (by simp)).column_ne, ← hBare]
      rfl

/-- **Matchers and separators in order come out as they went in.** -/
theorem withoutIds_insertAll_filter {terms : List Term}
    (hTerms : terms = [] ∨ Alternates terms)
    (hPlain : ∀ term ∈ terms, term.Plain) :
    withoutIds ((empty .filter).insertAll terms).terms = withoutIds terms := by
  rw [withoutIds_insertAll rfl rfl rfl]
  rcases hTerms with hNil | hAlternates
  · rw [hNil]
    rfl
  · cases hAlternates with
    | @single term hMatcher =>
        rw [normalized_matcher ((isMatcher_iff term).mp hMatcher), behind_nil,
          stored_of_column_ne (hPlain term (by simp)).column_ne]
        rfl
    | @join term separator rest hMatcher hSeparator hRest =>
        have hJoin := (isSeparator_iff separator).mp hSeparator
        have hBare := withoutId_of_bare (hPlain separator (by simp)) hJoin
        rw [normalized_matcher ((isMatcher_iff term).mp hMatcher),
          behind_other (by rw [hJoin]; decide), List.nil_append,
          behind_of_alternates hRest hJoin
            fun other hOther => hPlain other (by simp [hOther]),
          stored_of_column_ne (hPlain term (by simp)).column_ne, ← hBare]
        rfl

/-! ### Matchers, whatever comes between -/

/-- The matchers among some terms, without their identifiers. -/
def matchersOf (terms : List Term) : List Term :=
  (withoutIds terms).filter isMatcher

theorem matchersOf_append (a b : List Term) :
    matchersOf (a ++ b) = matchersOf a ++ matchersOf b := by
  simp [matchersOf, withoutIds]

theorem matchersOf_matcher {term : Term} (hTerm : term.kind = .matcher)
    (rest : List Term) :
    matchersOf (term :: rest) = term.withoutId :: matchersOf rest := by
  have hKind : term.withoutId.isMatcher = true := (isMatcher_iff _).mpr hTerm
  rw [matchersOf, withoutIds, List.map_cons, List.filter_cons_of_pos hKind]
  rfl

theorem matchersOf_separator {term : Term} (hTerm : term.kind = .separator)
    (rest : List Term) : matchersOf (term :: rest) = matchersOf rest := by
  have hKind : ¬ term.withoutId.isMatcher = true := by
    rw [isMatcher_iff]
    show ¬ term.kind = .matcher
    rw [hTerm]
    decide
  rw [matchersOf, withoutIds, List.map_cons, List.filter_cons_of_neg hKind]
  rfl

/-- **The matchers of a list built in order** are those that went in, whatever
separators came between them. -/
theorem matchersOf_insertAll {terms : List Term}
    (hTerms : ∀ term ∈ terms, term.Plain ∧ term.kind ≠ .sorter) :
    ((empty .filter).insertAll terms).kind = .filter ∧
      matchersOf ((empty .filter).insertAll terms).terms =
        matchersOf terms := by
  refine ⟨kind_insertAll (empty .filter), ?_⟩
  have hStored : ∀ term ∈ terms.filter isMatcher,
      stored term = term.withoutId := by
    intro term hMem
    have hPlain := (hTerms term (List.mem_filter.mp hMem).1).1
    exact stored_of_column_ne hPlain.column_ne
  rw [matchersOf, withoutIds_insertAll rfl rfl rfl,
    filter_isMatcher_normalized rfl, List.map_congr_left hStored, matchersOf,
    withoutIds, List.filter_map]
  rfl

/-! ## Sorters -/

private theorem withoutIds_insertAll_sorters {terms : List Term} :
    ∀ {list : TermList}, list.kind = .sorter → list.place = list.terms.length →
      (∀ term ∈ terms, term.kind = .sorter ∧ term.Plain) →
      withoutIds (list.insertAll terms).terms =
        withoutIds list.terms ++ withoutIds terms := by
  induction terms with
  | nil =>
      intro list _ _ _
      exact (List.append_nil _).symm
  | cons term rest ih =>
      intro list hKind hPlace hTerms
      rw [List.forall_mem_cons] at hTerms
      obtain ⟨⟨hTerm, hPlain⟩, hRest⟩ := hTerms
      have hInsert := insert_sorter hKind hTerm
      rw [insertSorter_splice, hPlace, List.insertIdx_length_self] at hInsert
      have hNextKind : (list.insert term).kind = .sorter := by
        simp [hInsert, hKind]
      have hNextPlace :
          (list.insert term).place = (list.insert term).terms.length := by
        simp [hInsert, place]
      have hNextTerms : withoutIds (list.insert term).terms =
          withoutIds list.terms ++ [term.withoutId] := by
        simp [hInsert, withoutIds, withoutId_placed,
          stored_of_column_ne hPlain.column_ne]
      have hAll := ih hNextKind hNextPlace hRest
      rw [hNextTerms, List.append_assoc] at hAll
      exact hAll

/-- **Sorters come out as they went in.** -/
theorem withoutIds_insertAll_sorter {terms : List Term}
    (hTerms : ∀ term ∈ terms, term.kind = .sorter ∧ term.Plain) :
    withoutIds ((empty .sorter).insertAll terms).terms = withoutIds terms :=
  withoutIds_insertAll_sorters rfl rfl hTerms

end TermList

end QueryPhrase
