import Mathlib.Data.List.InsertIdx
import QueryPhrase.Proofs.TermList.Invariant
import QueryPhrase.Proofs.TermList.Rebuild

/-!
# The terms an edit leaves

After an edit a term of the list is one that stood there before, perhaps
rewritten, or one that has come in: the inserted term, or a separator of the
list's own beside it. So what holds of every term before holds of every term
afterwards, as long as it holds of whatever comes in.

## Main definitions

* `TermList.Enters` — a property of whatever comes in with a term.
* `TermList.Edit.Brings` — the terms that an edit may insert.

## Main results

* `TermList.forall_mem_apply`, `TermList.Reached.forall_mem` — what holds of
  every term after an edit, and along a run.
* `TermList.terms_remove` — the terms that are left when one is removed.
* `TermList.Reached.identified` — every term of a list has an identifier.
-/

namespace QueryPhrase.TermList

variable {list : TermList} {term : Term} {P : Term → Prop}

/-! ## Inserting -/

/-- The property holds of everything that may come into a list with `term`: the
term as it is placed, a separator that joins it to its neighbours, and the term
itself where it takes the place of another separator. -/
structure Enters (P : Term → Prop) (term : Term) : Prop where
  placed : ∀ nextId, P (placed nextId term)
  joining : ∀ nextId operator, P (joining nextId operator)
  replacing : term.kind = .separator → ∀ nextId id,
    P (identify nextId { term with id := id }).1

private theorem forall_mem_replaceAt (h : ∀ other ∈ list.terms, P other)
    (hTerm : Enters P term) (hKind : term.kind = .separator) (index : Nat) :
    ∀ other ∈ (list.replaceAt index term).terms, P other := by
  intro other hOther
  rcases List.mem_or_eq_of_mem_set hOther with hOld | hNew
  · exact h other hOld
  · rw [hNew]
    exact hTerm.replacing hKind _ _

private theorem forall_mem_insertSeparator (h : ∀ other ∈ list.terms, P other)
    (hTerm : Enters P term) (hKind : term.kind = .separator) (place : Nat) :
    ∀ other ∈ (list.insertSeparator place term).terms, P other := by
  simp only [insertSeparator]
  generalize (if place = 0 then none
    else Option.map Term.kind list.terms[place - 1]?) = left
  generalize Option.map Term.kind list.terms[place]? = right
  split
  · exact forall_mem_replaceAt h hTerm hKind _
  · split
    · exact forall_mem_replaceAt h hTerm hKind _
    · split
      · exact h
      · exact h
      · intro other hOther
        rcases List.eq_or_mem_of_mem_insertIdx hOther with hNew | hOld
        · rw [hNew]
          exact hTerm.replacing hKind _ term.id
        · exact h other hOld

private theorem forall_mem_insertMatcher (h : ∀ other ∈ list.terms, P other)
    (hTerm : Enters P term) (place : Nat) :
    ∀ other ∈ (list.insertMatcher place term).terms, P other := by
  have hJoined : ∀ (joins : Prop) [Decidable joins] (operator : Operator)
      (nextId : TermId), ∀ other ∈ (if joins then
        ([(identify nextId (.ofSeparator operator)).1],
          (identify nextId (.ofSeparator operator)).2)
        else ([], nextId)).1, P other := by
    intro joins _ operator nextId other hOther
    split at hOther
    · rw [List.mem_singleton] at hOther
      rw [hOther]
      exact hTerm.joining nextId operator
    · cases hOther
  intro other hOther
  simp only [insertMatcher, List.mem_append, List.mem_singleton] at hOther
  rcases hOther with (((hOld | hBefore) | hNew) | hAfter) | hOld
  · exact h other (List.mem_of_mem_take hOld)
  · exact hJoined _ _ _ other hBefore
  · rw [hNew]
    exact hTerm.placed list.nextId
  · exact hJoined _ _ _ other hAfter
  · exact h other (List.mem_of_mem_drop hOld)

private theorem forall_mem_insertSorter (h : ∀ other ∈ list.terms, P other)
    (hTerm : Enters P term) (place : Nat) :
    ∀ other ∈ (list.insertSorter place term).terms, P other := by
  rw [insertSorter_splice]
  intro other hOther
  rcases List.eq_or_mem_of_mem_insertIdx hOther with hNew | hOld
  · rw [hNew]
    exact hTerm.placed list.nextId
  · exact h other hOld

/-- **Inserting** leaves the terms there were and what comes in. -/
theorem forall_mem_insert (h : ∀ other ∈ list.terms, P other)
    (hTerm : Enters P term) : ∀ other ∈ (list.insert term).terms, P other := by
  cases hAccepts : list.kind.accepts term.kind with
  | false => rw [insert_refused hAccepts]; exact h
  | true =>
      cases hList : list.kind with
      | filter =>
          cases hKind : term.kind with
          | matcher =>
              rw [insert_matcher hList hKind, terms_park]
              exact forall_mem_insertMatcher h hTerm _
          | separator =>
              rw [insert_separator hList hKind, terms_park]
              exact forall_mem_insertSeparator h hTerm hKind _
          | sorter =>
              rw [hList, hKind] at hAccepts
              cases hAccepts
      | sorter =>
          have hKind : term.kind = .sorter := by
            simpa [hList, ListKind.accepts] using hAccepts
          rw [insert_sorter hList hKind, terms_park]
          exact forall_mem_insertSorter h hTerm _

theorem forall_mem_insertAll {terms : List Term} :
    ∀ {list : TermList}, (∀ other ∈ list.terms, P other) →
      (∀ term ∈ terms, Enters P term) →
      ∀ other ∈ (list.insertAll terms).terms, P other := by
  induction terms with
  | nil => intro list h _; exact h
  | cons term rest ih =>
      intro list h hTerms
      rw [List.forall_mem_cons] at hTerms
      exact ih (forall_mem_insert h hTerms.1) hTerms.2

theorem forall_mem_moveTo (h : ∀ other ∈ list.terms, P other)
    (hTerm : list.position? term = none → Enters P term) :
    ∀ other ∈ (list.moveTo term).terms, P other := by
  unfold moveTo
  split
  · exact h
  · next hPosition => exact forall_mem_insert h (hTerm hPosition)

/-! ## Removing -/

@[simp] theorem terms_restorePlaceholder (list : TermList) :
    list.restorePlaceholder.terms = list.terms := by
  unfold restorePlaceholder
  split <;> rfl

/-- The terms that are left when one is removed. -/
theorem terms_remove (list : TermList) (term : Term) :
    (list.remove term).terms =
      match list.position? term with
      | none => list.terms
      | some index =>
        if joinsMatchers list.terms index then list.terms
        else withoutTerm list.terms index := by
  have hPosition : TermList.position? { list with held := none } term =
      list.position? term := rfl
  simp only [remove, hPosition]
  cases list.position? term with
  | none => rfl
  | some index =>
      by_cases hJoins : joinsMatchers list.terms index = true
      · simp only [hJoins, if_true]
      · rw [Bool.not_eq_true] at hJoins
        simp only [hJoins, Bool.false_eq_true, if_false]
        split
        · exact terms_restorePlaceholder _
        · split <;> rfl

/-- A matcher that is removed is not one that has to stay. -/
theorem terms_remove_matcher {before after : List Term}
    (hTerms : list.terms = before ++ term :: after)
    (hTerm : term.kind = .matcher)
    (hPosition : list.position? term = some before.length) :
    (list.remove term).terms = withoutTerm list.terms before.length := by
  have hJoins : joinsMatchers list.terms before.length = false := by
    rw [hTerms]
    exact joinsMatchers_matcher hTerm
  rw [terms_remove, hPosition]
  simp only [hJoins, Bool.false_eq_true, if_false]

theorem terms_remove_sublist (list : TermList) (term : Term) :
    (list.remove term).terms.Sublist list.terms := by
  rw [terms_remove]
  split
  · exact List.Sublist.refl _
  · split
    · exact List.Sublist.refl _
    · exact withoutTerm_sublist _ _

/-- Removing a term changes neither the kind of the list nor its counter. -/
theorem remove_keeps (list : TermList) (term : Term) :
    (list.remove term).kind = list.kind ∧
      (list.remove term).nextId = list.nextId := by
  have hRestored : ∀ other : TermList,
      other.restorePlaceholder.kind = other.kind ∧
        other.restorePlaceholder.nextId = other.nextId := by
    intro other
    unfold restorePlaceholder
    split <;> exact ⟨rfl, rfl⟩
  simp only [remove]
  split
  · exact ⟨rfl, rfl⟩
  · split
    · exact ⟨rfl, rfl⟩
    · split
      · exact hRestored _
      · split <;> exact ⟨rfl, rfl⟩

/-! ## Rewriting -/

/-- Rewriting a term by a function that keeps the property. -/
theorem forall_mem_modify (h : ∀ other ∈ list.terms, P other) (index : Nat)
    {f : Term → Term} (hKept : ∀ other, P other → P (f other)) :
    ∀ other ∈ list.terms.modify index f, P other := by
  intro other hOther
  obtain ⟨i, hLt, hGet⟩ := List.mem_iff_getElem.mp hOther
  rw [List.length_modify] at hLt
  have hOld := h list.terms[i] (List.getElem_mem hLt)
  rw [List.getElem_modify] at hGet
  rw [← hGet]
  split
  · exact hKept _ hOld
  · exact hOld

/-- A written value comes in with a term that has the operator of new terms, or
into a term that is no separator. -/
theorem forall_mem_write (h : ∀ other ∈ list.terms, P other)
    (hWell : WellFormed list) (value : Text)
    (hNew : ∀ term, term.operator = list.matcher → Enters P term)
    (hKept : ∀ other, P other → other.kind ≠ .separator →
      P { other with value := some value }) :
    ∀ other ∈ (list.write value).terms, P other := by
  unfold write
  split
  · next placeholder hPlaceholder =>
    have hOperator := (hWell.placeholder_blank placeholder hPlaceholder).2.2
    exact forall_mem_insert h (hNew _ hOperator)
  · split
    · refine forall_mem_modify h _ ?_
      intro other hOther
      split
      · exact hOther
      · next hKind =>
        apply hKept other hOther
        intro hSeparator
        exact hKind ((Term.isSeparator_iff other).mpr hSeparator)
    · exact forall_mem_insert h (hNew _ rfl)

/-- Another operator for new terms changes at most that of a term. -/
theorem forall_mem_withMatcher (h : ∀ other ∈ list.terms, P other)
    (operator : Operator)
    (hKept : ∀ other, P other → other.kind = list.kind.criterion →
      operator.kind = list.kind.criterion →
      P { other with operator := operator }) :
    ∀ other ∈ (list.withMatcher operator).terms, P other := by
  simp only [withMatcher]
  split
  · exact h
  · next hFits =>
    have hOperator : operator.kind = list.kind.criterion :=
      Decidable.not_not.mp hFits
    split
    · exact h
    · refine forall_mem_modify h _ ?_
      intro other hOther
      split
      · next hKind => exact hKept other hOther hKind hOperator
      · exact hOther
    · exact h

/-! ## Every edit -/

/-- The terms that an edit of the list may insert. -/
def Edit.Brings (list : TermList) : Edit → Term → Prop
  | .insert term _, other => other = term
  | .moveTo term, other => other = term ∧ list.position? term = none
  | .write _, other => other.operator = list.matcher
  | .phrase text, other => other ∈ Term.ofPhrase text
  | _, _ => False

/-- The property stays when a value is written into a term that is no separator,
or when such a term is given another operator of new terms. -/
structure Rewritable (P : Term → Prop) : Prop where
  value : ∀ other value, P other → other.kind ≠ .separator →
    P { other with value := some value }
  operator : ∀ other operator, P other → other.kind ≠ .separator →
    operator.kind ≠ .separator → P { other with operator := operator }

/-- No list is about separators. -/
theorem criterion_ne_separator (kind : ListKind) :
    kind.criterion ≠ .separator := by
  cases kind <;> decide

/-- **What holds of every term holds of every term after an edit**, if it holds
of whatever comes in and stays when terms are rewritten. -/
theorem forall_mem_apply (h : ∀ other ∈ list.terms, P other)
    (hWell : WellFormed list) {edit : Edit}
    (hBrought : ∀ term, edit.Brings list term → Enters P term)
    (hKept : Rewritable P) : ∀ other ∈ (edit.apply list).terms, P other := by
  cases edit with
  | insert term expectsSeparator =>
      exact forall_mem_insert h (hBrought term rfl)
  | remove term =>
      exact fun other hOther =>
        h other ((terms_remove_sublist list term).subset hOther)
  | moveTo term =>
      exact forall_mem_moveTo h fun hPosition => hBrought term ⟨rfl, hPosition⟩
  | moveToStart => exact h
  | write value =>
      exact forall_mem_write h hWell value hBrought fun other =>
        hKept.value other value
  | withPlaceholder column => exact h
  | withoutPlaceholder => exact h
  | withSeparator operator =>
      change ∀ other ∈ (list.withSeparator operator).terms, P other
      unfold withSeparator
      split <;> exact h
  | withMatcher operator =>
      refine forall_mem_withMatcher h operator ?_
      intro other hOther hKind hOperator
      have hCriterion := criterion_ne_separator list.kind
      exact hKept.operator other operator hOther (hKind ▸ hCriterion)
        (hOperator ▸ hCriterion)
  | phrase text =>
      exact forall_mem_insertAll (fun _ hNone => by cases hNone) hBrought
  | cleared => exact fun _ hNone => by cases hNone
  | rebuild => exact h

/-- **What holds of every term along a run**, when it holds of whatever a
permitted edit brings in. -/
theorem Reached.forall_mem {permitted : TermList → Edit → Prop}
    (hBrought : ∀ list edit term, WellFormed list → permitted list edit →
      edit.Brings list term → Enters P term)
    (hKept : Rewritable P) (h : Reached permitted list) :
    ∀ term ∈ list.terms, P term := by
  have hBoth : WellFormed list ∧ ∀ term ∈ list.terms, P term := by
    refine h.invariant
      (P := fun list => WellFormed list ∧ ∀ term ∈ list.terms, P term) ?_ ?_
    · intro kind
      exact ⟨wellFormed_empty kind, fun _ hNone => by cases hNone⟩
    · intro list edit hList hPermitted
      refine ⟨hList.1.apply edit, forall_mem_apply hList.2 hList.1 ?_ hKept⟩
      intro term hTerm
      exact hBrought list edit term hList.1 hPermitted hTerm
  exact hBoth.2

/-! ## Identifiers -/

/-- Whatever comes in is given an identifier. -/
private theorem enters_identified (term : Term) :
    Enters (fun other => other.id.isSome = true) term := by
  have hIdentify : ∀ (nextId : TermId) (other : Term),
      (identify nextId other).1.id.isSome = true := by
    intro nextId other
    rw [id_identify]
    rfl
  refine ⟨?_, fun nextId operator => rfl, fun _ nextId id => hIdentify nextId _⟩
  intro nextId
  unfold placed dropEmptyColumn
  split
  · exact hIdentify nextId term
  · exact hIdentify nextId term

/-- **Every term of a list has an identifier.** -/
theorem Reached.identified {permitted : TermList → Edit → Prop}
    (h : Reached permitted list) : ∀ term ∈ list.terms, term.id.isSome = true :=
  h.forall_mem (fun _ _ term _ _ _ => enters_identified term)
    ⟨fun _ _ hOther _ => hOther, fun _ _ hOther _ _ => hOther⟩

end QueryPhrase.TermList
