import QueryPhrase.Proofs.TermList.Frame

/-!
# Finding a term again

Moving the cursor onto a term looks for the term, by its identifier or else by
its content, and inserts it when it is not found. When it comes in, the list may
give it an identifier, hold it, or put it in the place of another separator, and
after all of that it is found again: to move onto it once more changes nothing.

Two terms are not. One that has no identifier and an empty column is stored with
no column, so no term of any list has its content, and it comes in again with
every move. One that brings the largest word as its identifier leaves the
counter on that word, so a separator that comes in with it is given the same one,
and the term is found where the separator stands.

## Main definitions

* `TermList.LosesColumn` — the terms that are never found.
* `TermList.SharesWord` — the terms that are found in the wrong place.

## Main results

* `TermList.Reached.column_ne` — no empty column is stored but with a separator.
* `TermList.moveTo_insert` — a term that has come in is found where it stands.
* `TermList.SharesWord.moveTo_insert` — or in front of where it stands.
* `TermList.moveTo_twice_iff` — when a second move changes nothing.
-/

namespace QueryPhrase.TermList

/-- A term that is no separator, with an empty column and no identifier to be
found by. -/
def LosesColumn (list : TermList) (term : Term) : Prop :=
  term.id = none ∧ term.column = some [] ∧ term.kind = list.kind.criterion

/-- A matcher that brings the largest word and comes in behind the matcher under
the cursor. -/
def SharesWord (list : TermList) (term : Term) : Prop :=
  term.kind = .matcher ∧ list.current?.any Term.isMatcher = true ∧
    list.position? term = none ∧ ∃ id, term.id = some id ∧ id + 1 = 0

variable {list : TermList} {term : Term}

/-! ## Moves that change nothing -/

/-- The cursor is on the term that is found, and nothing is held. -/
theorem moveTo_of_found {index : Nat}
    (hFound : list.position? term = some index)
    (hCursor : list.cursor = some index) (hHeld : list.held = none) :
    list.moveTo term = list := by
  unfold moveTo
  rw [hFound]
  show { list with held := none, cursor := some index } = list
  rw [← hHeld, ← hCursor]

/-- A term that is not found is inserted. -/
theorem moveTo_of_absent (hAbsent : list.position? term = none) :
    list.moveTo term = list.insert term := by
  unfold moveTo
  rw [hAbsent]

/-! ## What stands for a term in a list -/

theorem denotes_placed (nextId : TermId)
    (h : ¬ (term.id = none ∧ term.column = some [])) :
    denotes term (placed nextId term) = true := by
  cases hId : term.id with
  | some id => simp [denotes, hId, id_identify]
  | none =>
      have hColumn : term.column ≠ some [] := fun hEmpty => h ⟨hId, hEmpty⟩
      simp [denotes, hId, placed, identify, dropEmptyColumn, hColumn,
        Term.sameAs]

theorem denotes_replacing (nextId : TermId) (old term : Term) :
    denotes term (replacing nextId old term) = true := by
  cases hId : term.id with
  | some id => simp [denotes, hId, replacing, id_identify]
  | none =>
      cases hOld : old.id <;>
        simp [denotes, hId, replacing, identify, hOld, Term.sameAs]

/-- A separator of the list's own stands for a matcher only by its identifier. -/
theorem denotes_joining {nextId : TermId} {operator : Operator}
    (hOperator : operator.kind = .separator) (hTerm : term.kind = .matcher) :
    denotes term (joining nextId operator) = true ↔ term.id = some nextId := by
  have hOther : operator ≠ term.operator := by
    intro hSame
    rw [Term.kind, ← hSame, hOperator] at hTerm
    cases hTerm
  cases hId : term.id with
  | some id =>
      have hJoining : denotes term (joining nextId operator) =
          (some nextId == some id) := by
        simp only [denotes, hId]
        rfl
      rw [hJoining, beq_iff_eq]
      exact eq_comm
  | none =>
      simp [denotes, hId, joining, identify, Term.ofSeparator, Term.sameAs,
        hOther]

/-- The counter moves past the identifier that a term brings, unless that is the
largest word. -/
theorem identify_snd_eq_iff {nextId id : TermId} (hId : term.id = some id) :
    (identify nextId term).2 = id ↔ id + 1 = 0 := by
  have hLt := id.toNat_lt
  simp only [identify, hId, succSaturating]
  split
  · next hLast =>
    refine iff_of_true ?_ hLast
    have hNext := nextId.toNat_lt
    rw [succ_eq_zero_iff, UInt64.size] at hLast
    rw [← UInt64.toNat_inj, UInt64.toNat_max]
    omega
  · next hRoom =>
    refine iff_of_false (fun hSame => ?_) hRoom
    rw [succ_eq_zero_iff, UInt64.size] at hRoom
    rw [← UInt64.toNat_inj, UInt64.toNat_max, UInt64.toNat_add,
      UInt64.toNat_one] at hSame
    omega

/-! ## Empty columns -/

/-- **No empty column is stored**, but with a separator that was inserted with
one. -/
theorem Reached.column_ne {permitted : TermList → Edit → Prop}
    (h : Reached permitted list) :
    ∀ other ∈ list.terms, other.kind ≠ .separator → other.column ≠ some [] := by
  refine h.forall_mem
    (P := fun other => other.kind ≠ .separator → other.column ≠ some []) ?_ ?_
  · intro _ _ term _ _ _
    refine ⟨fun nextId _ => ?_, fun nextId operator _ => ?_, ?_⟩
    · unfold placed dropEmptyColumn
      split
      · simp
      · assumption
    · simp [joining, identify, Term.ofSeparator]
    · intro hKind nextId id hOther
      rw [kind_identify] at hOther
      exact absurd hKind hOther
  · exact ⟨fun other value hOther hKind _ => hOther hKind,
      fun other operator hOther hKind _ _ => hOther hKind⟩

/-- A term that loses its column is not found. -/
theorem LosesColumn.position?_eq_none (h : Reachable list)
    (hLoses : LosesColumn list term) : list.position? term = none := by
  obtain ⟨hId, hColumn, hKind⟩ := hLoses
  rw [position?_eq_none_iff]
  intro other hOther
  by_contra hFound
  rw [Bool.not_eq_false] at hFound
  simp only [denotes, hId, Term.sameAs, Bool.and_eq_true, beq_iff_eq,
    hColumn] at hFound
  refine h.column_ne other hOther ?_ hFound.1.1
  have hSame : other.kind = list.kind.criterion := by
    rw [← hKind, Term.kind, hFound.1.2, Term.kind]
  rw [hSame]
  exact criterion_ne_separator list.kind

/-! ## Moving onto what has come in -/

/-- Where the cursor is on the first term that is found, and nothing is held, a
move changes nothing. -/
private theorem moveTo_of_cut {before after : List Term} {found : Term}
    (hTerms : list.terms = before ++ found :: after)
    (hCursor : list.cursor = some before.length) (hHeld : list.held = none)
    (hFound : denotes term found = true)
    (hBefore : ∀ other ∈ before, denotes term other = false) :
    list.moveTo term = list :=
  moveTo_of_found (position?_of_denotes hTerms hFound hBefore) hCursor hHeld

/-- A separator is found where it has taken the place of another one. Where it is
held it is not found, and is held once more. -/
theorem moveTo_insert_separator (h : WellFormed list)
    (hKind : list.kind = .filter) (hTerm : term.kind = .separator)
    (hAbsent : list.position? term = none) :
    (list.insert term).moveTo term = list.insert term := by
  have hNone := position?_eq_none_iff.mp hAbsent
  have hInsert := insert_separator_eq h hKind hTerm
  rcases h.insertSeparator_cases hKind term with
    hSame | ⟨hHeld, _⟩ | ⟨before, old, after, hTerms, _, hUnheld, hPlaced⟩
  · rw [hInsert, hSame, moveTo_of_absent hAbsent, hInsert, hSame]
  · have hOnce : list.insert term =
        { list with held := some term.operator } := hInsert.trans hHeld
    have hWell := h.insert term
    rw [hOnce] at hWell ⊢
    have hStill : TermList.position? { list with held := some term.operator }
        term = none := hAbsent
    rw [moveTo_of_absent hStill, insert_separator_eq hWell hKind hTerm]
    rcases hWell.insertSeparator_cases hKind term with
      hAgain | ⟨hAgain, _⟩ | ⟨_, _, _, _, _, hUnheld, _⟩
    · exact hAgain
    · exact hAgain
    · cases hUnheld
  · rw [hInsert, hPlaced, replaceAt_splice list term hTerms]
    refine moveTo_of_cut rfl rfl hUnheld (denotes_replacing _ _ _) ?_
    intro other hOther
    exact hNone other (by simp [hTerms, hOther])

/-- A sorter is found where it has come in. -/
theorem moveTo_insert_sorter (h : WellFormed list) (hKind : list.kind = .sorter)
    (hTerm : term.kind = .sorter) (hAbsent : list.position? term = none)
    (hColumn : ¬ (term.id = none ∧ term.column = some [])) :
    (list.insert term).moveTo term = list.insert term := by
  have hNone := position?_eq_none_iff.mp hAbsent
  obtain ⟨before, after, hTerms, hLength⟩ :
      ∃ before after, list.terms = before ++ after ∧
        before.length = list.place :=
    ⟨list.terms.take list.place, list.terms.drop list.place,
      (List.take_append_drop _ _).symm,
      by rw [List.length_take, Nat.min_eq_left h.place_le]⟩
  have hCut : (list.insert term).terms =
      before ++ placed list.nextId term :: after := by
    rw [insert_sorter hKind hTerm, terms_park, insertSorter_splice, hTerms,
      ← hLength, insertIdx_length_append]
  have hCursor : (list.insert term).cursor = some before.length := by
    rw [insert_sorter hKind hTerm, cursor_park, insertSorter_splice, hLength]
  have hHeld : (list.insert term).held = none := by
    rw [insert_sorter hKind hTerm, held_park, insertSorter_splice]
    exact h.held_eq_none_of_sorter hKind
  refine moveTo_of_cut hCut hCursor hHeld
    (denotes_placed list.nextId hColumn) ?_
  intro other hOther
  exact hNone other (by simp [hTerms, hOther])

/-- A matcher is found where it has come in, unless a separator in front of it
has its identifier. -/
theorem moveTo_insert_matcher (h : WellFormed list)
    (hKind : list.kind = .filter) (hTerm : term.kind = .matcher)
    (hAbsent : list.position? term = none)
    (hColumn : ¬ (term.id = none ∧ term.column = some []))
    (hShares : ¬ SharesWord list term) :
    (list.insert term).moveTo term = list.insert term := by
  have hNone := position?_eq_none_iff.mp hAbsent
  have hFound := denotes_placed list.nextId hColumn
  rw [insert_matcher hKind hTerm]
  rcases h.insertMatcher_cases hKind term with
    ⟨_, hInserted⟩ | ⟨before, next, after, hTerms, _, _, _, hInserted⟩ |
      ⟨before, current, after, hTerms, hCursor, _, hCurrent, _, hInserted⟩
  · rw [hInserted]
    have hCut : [placed list.nextId term] =
        [] ++ placed list.nextId term :: [] := rfl
    exact moveTo_of_cut ((terms_park _ _).trans hCut) (cursor_park _ _)
      (held_park _ _) hFound (by simp)
  · rw [hInserted]
    refine moveTo_of_cut (terms_park _ _) (cursor_park _ _) (held_park _ _)
      hFound ?_
    intro other hOther
    exact hNone other (by simp [hTerms, hOther])
  · let separator : Term :=
      joining (identify list.nextId term).2 (list.held.getD list.separator)
    have hOther : denotes term separator = false := by
      rw [← Bool.not_eq_true, denotes_joining h.joining_kind hTerm]
      intro hId
      have hLast := (identify_snd_eq_iff hId).mp rfl
      refine hShares ⟨hTerm, ?_, hAbsent, _, hId, hLast⟩
      simp [current?, hCursor, hTerms, hCurrent]
    have hCut : before ++ current :: separator ::
        placed list.nextId term :: after =
          (before ++ [current, separator]) ++
            placed list.nextId term :: after := by simp
    have hLength : before.length + 2 =
        (before ++ [current, separator]).length := by simp
    rw [hInserted]
    refine moveTo_of_cut ((terms_park _ _).trans hCut)
      ((cursor_park _ _).trans (congrArg some hLength)) (held_park _ _)
      hFound ?_
    intro other hMem
    rw [List.mem_append, List.mem_cons, List.mem_singleton] at hMem
    rcases hMem with hMem | hMem | hMem
    · exact hNone other (by simp [hTerms, hMem])
    · exact hNone other (by simp [hTerms, hMem])
    · rw [hMem]
      exact hOther

/-- A matcher that shares its identifier with the separator in front of it is
found where that one stands. -/
theorem SharesWord.moveTo_insert (h : WellFormed list)
    (hShares : SharesWord list term) :
    ((list.insert term).moveTo term).terms = (list.insert term).terms ∧
      ((list.insert term).moveTo term).cursor ≠ (list.insert term).cursor := by
  obtain ⟨hTerm, hOn, hAbsent, id, hId, hLast⟩ := hShares
  have hNone := position?_eq_none_iff.mp hAbsent
  rcases h.cursor_cases with hStart | ⟨before, current, after, hTerms, hCursor⟩
  · rw [current?, hStart] at hOn
    cases hOn
  · have hCurrent : current.kind = .matcher := by
      simpa [current?, hCursor, hTerms] using hOn
    have hKind := h.kind_of_matcher (by simp [hTerms]) hCurrent
    have hPlace : list.place = before.length + 1 := by
      rw [place, hCursor, Option.elim_some]
    have hInserted := insertMatcher_after list term hTerms hCurrent
      (h.next_matcher hKind hTerms hCurrent)
    have hSame : denotes term (joining (identify list.nextId term).2
        (list.held.getD list.separator)) = true := by
      rw [denotes_joining h.joining_kind hTerm, hId,
        (identify_snd_eq_iff hId).mpr hLast]
    have hFound : (list.insert term).position? term =
        some (before ++ [current]).length := by
      rw [insert_matcher hKind hTerm, hPlace, hInserted]
      refine position?_of_denotes
        ((terms_park _ _).trans (List.append_cons _ _ _)) hSame ?_
      intro other hMem
      refine hNone other ?_
      rw [hTerms, List.append_cons]
      exact List.mem_append_left after hMem
    unfold moveTo
    rw [hFound]
    refine ⟨rfl, ?_⟩
    rw [insert_matcher hKind hTerm, hPlace, cursor_park, hInserted]
    simp

/-! ## Coming in once more -/

theorem Gains.length_lt {new : Term} {before after : List Term} {index : Nat}
    (h : Gains new before after index) : before.length < after.length := by
  cases h <;>
    simp only [List.length_append, List.length_cons, List.length_nil] <;> omega

/-- A term that a list is about comes in whenever it is inserted. -/
theorem length_lt_insert (h : WellFormed list)
    (hTerm : term.kind = list.kind.criterion) :
    list.terms.length < (list.insert term).terms.length := by
  cases hKind : list.kind with
  | filter =>
      rw [hKind] at hTerm
      obtain ⟨_, hGains, _⟩ := gains_insert h hKind hTerm
      exact hGains.length_lt
  | sorter =>
      rw [hKind] at hTerm
      rw [insert_sorter hKind hTerm, terms_park, insertSorter_splice,
        List.length_insertIdx_of_le_length h.place_le]
      exact Nat.lt_succ_self _

/-- A term that is not found is found once it has come in. -/
theorem moveTo_insert (h : WellFormed list)
    (hAbsent : list.position? term = none) (hKept : ¬ LosesColumn list term)
    (hShares : ¬ SharesWord list term) :
    (list.insert term).moveTo term = list.insert term := by
  have hColumn : term.kind = list.kind.criterion →
      ¬ (term.id = none ∧ term.column = some []) :=
    fun hKind hEmpty => hKept ⟨hEmpty.1, hEmpty.2, hKind⟩
  cases hAccepts : list.kind.accepts term.kind with
  | false =>
      rw [insert_refused hAccepts, moveTo_of_absent hAbsent,
        insert_refused hAccepts]
  | true =>
      cases hKind : list.kind with
      | filter =>
          rw [hKind] at hAccepts hColumn
          cases hTerm : term.kind with
          | matcher =>
              exact moveTo_insert_matcher h hKind hTerm hAbsent (hColumn hTerm)
                hShares
          | separator => exact moveTo_insert_separator h hKind hTerm hAbsent
          | sorter =>
              rw [hTerm] at hAccepts
              cases hAccepts
      | sorter =>
          have hTerm : term.kind = .sorter := by
            simpa [hKind, ListKind.accepts] using hAccepts
          rw [hKind] at hColumn
          exact moveTo_insert_sorter h hKind hTerm hAbsent (hColumn hTerm)

/-- A term that is found is found again. -/
theorem moveTo_again_of_found {index : Nat}
    (hFound : list.position? term = some index) :
    (list.moveTo term).moveTo term = list.moveTo term := by
  have hOnce : list.moveTo term =
      { list with held := none, cursor := some index } := by
    unfold moveTo
    rw [hFound]
  rw [hOnce]
  exact moveTo_of_found hFound rfl rfl

/-- A term that loses its column comes in once more, as it is not in the list that
it has come into either. -/
theorem LosesColumn.terms_moveTo_ne (h : Reachable list)
    (hLoses : LosesColumn list term) :
    ((list.moveTo term).moveTo term).terms ≠ (list.moveTo term).terms := by
  have hMoved : Reachable (list.moveTo term) := .edit (.moveTo term) h trivial
  have hOnce := moveTo_of_absent (hLoses.position?_eq_none h)
  have hKind : (list.moveTo term).kind = list.kind := by
    rw [hOnce, (insert_keeps list term).1]
  have hTerm : term.kind = (list.moveTo term).kind.criterion := by
    rw [hKind, hLoses.2.2]
  have hAgain : LosesColumn (list.moveTo term) term :=
    ⟨hLoses.1, hLoses.2.1, hTerm⟩
  have hMore := length_lt_insert hMoved.wellFormed hTerm
  rw [moveTo_of_absent (hAgain.position?_eq_none hMoved)]
  intro hSame
  rw [hSame] at hMore
  exact absurd hMore (Nat.lt_irrefl _)

end QueryPhrase.TermList
