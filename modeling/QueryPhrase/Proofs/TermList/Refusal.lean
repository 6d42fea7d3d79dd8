import QueryPhrase.Proofs.TermList.Undo

/-!
# Edits that are refused

A list refuses an edit that it has no use for: a term it cannot hold, a separator
with nothing before it, a removal of what is not there or has to stay, a value
for a separator, a choice of the wrong role. Such an edit leaves the list as it
is, with one exception. A removal lets go of the held separator before it looks
for its term, so a removal that is refused while a separator is held is noticed
when the next matcher comes in: it is joined by the separator that is chosen, and
not by the one that was held.

What is held does not show. That it is gone is told by a run that chooses another
separator and inserts a matcher, so the lists are compared after any later edits.

## Main definitions

* `TermList.Refused` — the edits that a list has no use for.
* `TermList.Forgets` — the ones that let go of a held separator.

## Main results

* `TermList.Refused.keeps` — all but the held separator stays.
* `TermList.Refused.apply_eq_iff` — nothing changes unless a held separator is
  let go of.
* `TermList.exists_noticed` — what was held shows in a later edit.
* `TermList.refused_unnoticed_iff` — the refusals that no later edit can tell.
-/

namespace QueryPhrase.TermList

/-- The edits that a list has no use for. -/
inductive Refused (list : TermList) : Edit → Prop
  /-- A term that lists of this kind do not hold. -/
  | foreign {term : Term} (expectsSeparator : Bool) :
    list.kind.accepts term.kind = false →
      Refused list (.insert term expectsSeparator)
  /-- A separator with nothing before it. -/
  | leading {term : Term} (expectsSeparator : Bool) :
    term.kind = .separator → list.cursor = none →
      Refused list (.insert term expectsSeparator)
  /-- A term that is not in the list goes. -/
  | absent {term : Term} :
    list.position? term = none → Refused list (.remove term)
  /-- A separator that joins two matchers goes. -/
  | joining {term left separator right : Term} {before after : List Term} :
    list.terms = before ++ left :: separator :: right :: after →
      left.kind = .matcher → separator.kind = .separator →
      right.kind = .matcher →
      list.position? term = some (before.length + 1) →
      Refused list (.remove term)
  /-- A value for the separator under the cursor. -/
  | valueless (value : Text) :
    list.placeholder = none → list.OnSeparator → Refused list (.write value)
  | unjoining {operator : Operator} :
    operator.kind ≠ .separator → Refused list (.withSeparator operator)
  | unfitting {operator : Operator} :
    operator.kind ≠ list.kind.criterion → Refused list (.withMatcher operator)

/-- A removal while a separator is held. -/
def Forgets (list : TermList) (edit : Edit) : Prop :=
  (∃ term, edit = .remove term) ∧ list.held.isSome = true

variable {list : TermList} {edit : Edit} {term : Term}

/-! ## What is refused -/

/-- A removal that is refused lets go of the held separator, and of nothing else.
-/
theorem Refused.remove_eq (h : Refused list (.remove term)) :
    list.remove term = { list with held := none } := by
  have hSame : TermList.position? { list with held := none } term =
      list.position? term := rfl
  cases h with
  | absent hAbsent => simp only [remove, hSame, hAbsent]
  | @joining _ left separator right before after hTerms hLeft hSeparator hRight
      hFound =>
      have hJoins : joinsMatchers list.terms (before.length + 1) = true := by
        rw [hTerms]
        exact joinsMatchers_splice hLeft hSeparator hRight
      simp only [remove, hSame, hFound, hJoins, if_true]

/-- With the cursor before the first term there is nothing to join. -/
theorem insert_leading (h : WellFormed list) (hTerm : term.kind = .separator)
    (hCursor : list.cursor = none) : list.insert term = list := by
  cases hKind : list.kind with
  | sorter =>
      apply insert_refused
      rw [hKind, hTerm]
      rfl
  | filter =>
      rw [insert_separator_eq h hKind hTerm, place, hCursor, Option.elim_none,
        insertSeparator_start list term (h.head_separator hKind)]

/-- The separator under the cursor is left as it is. -/
theorem write_onSeparator (hPlaceholder : list.placeholder = none)
    (hOn : list.OnSeparator) (value : Text) : list.write value = list := by
  unfold write
  split
  · next placeholder hSome =>
    rw [hPlaceholder] at hSome
    cases hSome
  · split
    · next index hCursor =>
      rw [OnSeparator, current?, hCursor, Option.bind_some] at hOn
      rw [modify_of_fixed]
      intro current hCurrent
      rw [hCurrent, Option.any_some] at hOn
      rw [if_pos hOn]
    · next hCursor => simp [OnSeparator, current?, hCursor] at hOn

/-- **What is refused changes nothing**, other than by a removal. -/
theorem Refused.apply_eq (h : WellFormed list) (hRefused : Refused list edit)
    (hStays : ∀ term, edit ≠ .remove term) : edit.apply list = list := by
  cases hRefused with
  | foreign _ hForeign => exact insert_refused hForeign
  | leading _ hTerm hCursor => exact insert_leading h hTerm hCursor
  | absent _ => exact absurd rfl (hStays _)
  | joining _ _ _ _ _ => exact absurd rfl (hStays _)
  | valueless value hPlaceholder hOn =>
      exact write_onSeparator hPlaceholder hOn value
  | unjoining hOperator => exact if_neg hOperator
  | unfitting hOperator => exact if_pos hOperator

/-- **All but the held separator stays**, whatever is refused. -/
theorem Refused.keeps (h : WellFormed list) (hRefused : Refused list edit) :
    { edit.apply list with held := list.held } = list := by
  by_cases hRemoves : ∃ term, edit = .remove term
  · obtain ⟨term, hRemove⟩ := hRemoves
    subst hRemove
    show { list.remove term with held := list.held } = list
    rw [hRefused.remove_eq]
  · rw [not_exists] at hRemoves
    rw [hRefused.apply_eq h hRemoves]

/-- Nothing changes unless a held separator is let go of. -/
theorem Refused.apply_eq_iff (h : WellFormed list)
    (hRefused : Refused list edit) :
    edit.apply list = list ↔ ¬ Forgets list edit := by
  by_cases hRemoves : ∃ term, edit = .remove term
  · obtain ⟨term, hRemove⟩ := hRemoves
    subst hRemove
    show list.remove term = list ↔ _
    rw [hRefused.remove_eq]
    constructor
    · intro hSame hForgets
      have hHeld := hForgets.2
      rw [← hSame] at hHeld
      cases hHeld
    · intro hKept
      have hNone : list.held = none := by
        rw [← Option.not_isSome_iff_eq_none]
        exact fun hHeld => hKept ⟨⟨term, rfl⟩, hHeld⟩
      rw [← hNone]
  · have hStays := not_exists.mp hRemoves
    exact iff_of_true (hRefused.apply_eq h hStays) fun hForgets =>
      hRemoves hForgets.1

/-! ## What a later edit can tell -/

/-- A separator is held at the end of a list. -/
theorem WellFormed.atEnd (h : WellFormed list) {operator : Operator}
    (hHeld : list.held = some operator) : AtEnd list := by
  obtain ⟨_, hKind, hLast⟩ := h.held_last operator hHeld
  have hShaped := h.shaped
  rcases h.cursor_cases with hNone | ⟨before, current, after, hTerms, hCursor⟩
  · rw [hNone] at hLast
    cases hLast
  · have hNil : after = [] := by
      rw [hCursor, hTerms, List.length_append, List.length_cons] at hLast
      have hLength := Option.some.inj hLast
      exact List.eq_nil_of_length_eq_zero (by omega)
    subst hNil
    rw [hKind, hTerms] at hShaped
    have hTurn := hShaped.alternates.cut.2
    exact ⟨hKind, before, current, hTerms,
      TermKind.eq_matcher_of_next hTurn, hCursor⟩

/-- The separator that joins the next matcher, once another one is chosen, is the
held one or else the chosen one. -/
private theorem terms_withSeparator_insert (h : AtEnd list)
    {chosen : Operator} (hChosen : chosen.kind = .separator)
    (hTerm : term.kind = .matcher) :
    Term.withoutIds (applyAll list
        [.withSeparator chosen, .insert term false]).terms =
      Term.withoutIds list.terms ++
        [.ofSeparator (list.held.getD chosen), Term.stored term] := by
  have hChoice : list.withSeparator chosen =
      { list with separator := chosen } := if_pos hChosen
  have hEnd : AtEnd (list.withSeparator chosen) := by
    rw [hChoice]
    exact h
  show Term.withoutIds ((list.withSeparator chosen).insert term).terms = _
  rw [(hEnd.insert_matcher hTerm).2.2, hChoice]

/-- **What was held shows in a later edit**: when another separator is chosen,
the next matcher is joined by it and not by the one that was held. -/
theorem exists_noticed (h : WellFormed list)
    (hHeld : list.held.isSome = true) :
    ∃ later, (applyAll { list with held := none } later).terms ≠
      (applyAll list later).terms := by
  obtain ⟨operator, hSome⟩ := Option.isSome_iff_exists.mp hHeld
  obtain ⟨chosen, hChosen, hOther⟩ :
      ∃ chosen : Operator, chosen.kind = .separator ∧ chosen ≠ operator := by
    by_cases hAnd : operator = .and
    · exact ⟨.or, rfl, by rw [hAnd]; decide⟩
    · exact ⟨.and, rfl, fun hSame => hAnd hSame.symm⟩
  have hEnd := h.atEnd hSome
  have hUnheld : AtEnd { list with held := none } := hEnd
  have hMatcher : (Term.blank .equal).kind = .matcher := rfl
  refine ⟨[.withSeparator chosen, .insert (.blank .equal) false],
    fun hSame => ?_⟩
  have hTerms := congrArg Term.withoutIds hSame
  rw [terms_withSeparator_insert hUnheld hChosen hMatcher,
    terms_withSeparator_insert hEnd hChosen hMatcher, hSome,
    List.append_cancel_left_eq, List.cons.injEq] at hTerms
  exact hOther (congrArg Term.operator hTerms.1)

/-- **Refused edits go unnoticed, but for the held separator.** In a list that
edits lead to, an edit that is refused changes nothing else; it changes nothing
at all, and no later edits can tell that it was made, exactly when it is not a
removal while a separator is held. -/
theorem refused_unnoticed_iff (h : Reachable list)
    (hRefused : Refused list edit) :
    { edit.apply list with held := list.held } = list ∧
    (edit.apply list = list ↔ ¬ Forgets list edit) ∧
    ((∀ later, (applyAll (edit.apply list) later).terms =
        (applyAll list later).terms) ↔ ¬ Forgets list edit) := by
  have hWell := h.wellFormed
  have hSame := hRefused.apply_eq_iff hWell
  refine ⟨hRefused.keeps hWell, hSame, ?_⟩
  constructor
  · rintro hUnnoticed ⟨⟨term, hRemove⟩, hHeld⟩
    subst hRemove
    obtain ⟨later, hNoticed⟩ := exists_noticed hWell hHeld
    rw [← hRefused.remove_eq] at hNoticed
    exact hNoticed (hUnnoticed later)
  · intro hKept later
    rw [hSame.mpr hKept]

/-- The `and` between two matchers is to go while an `or` is held for the third.
-/
theorem refused_unnoticed_iff_of_joining :
    let matcher (column value : Text) : Term :=
      { column := some column, operator := .equal, value := some value }
    let list := applyAll (.empty .filter)
      [.insert (matcher "a" "1") false, .insert (matcher "b" "2") false,
        .insert (.ofSeparator .or) false]
    let edit := Edit.remove (.ofSeparator .and)
    Reachable list ∧ Refused list edit ∧ Forgets list edit ∧
      { edit.apply list with held := list.held } = list ∧
      (edit.apply list = list ↔ ¬ Forgets list edit) ∧
      ((∀ later, (applyAll (edit.apply list) later).terms =
        (applyAll list later).terms) ↔ ¬ Forgets list edit) := by
  intro matcher list edit
  have hReached : Reachable list := (Reached.empty .filter).applyAll
  have hRefused : Refused list edit :=
    @Refused.joining list (.ofSeparator .and)
      { matcher "a" "1" with id := some 1 }
      { Term.ofSeparator .and with id := some 3 }
      { matcher "b" "2" with id := some 2 } [] []
      (by decide) rfl rfl rfl (by decide)
  exact ⟨hReached, hRefused, ⟨⟨_, rfl⟩, by decide⟩,
    refused_unnoticed_iff hReached hRefused⟩

/-- A term that is not there is to go, and the next matcher is joined by the
separator that was chosen before instead of the one that was held. -/
theorem refused_noticed_of_absent :
    let matcher (column value : Text) : Term :=
      { column := some column, operator := .equal, value := some value }
    let list := applyAll (.empty .filter)
      [.insert (matcher "a" "1") false, .insert (.ofSeparator .or) false]
    let edit := Edit.remove (matcher "z" "9")
    let next := Edit.insert (matcher "b" "2") false
    Reachable list ∧ Refused list edit ∧ edit.apply list ≠ list ∧
      (next.apply list).phrase = "a = 1 or b = 2" ∧
      (next.apply (edit.apply list)).phrase = "a = 1 and b = 2" := by
  intro matcher list edit next
  have hReached : Reachable list := (Reached.empty .filter).applyAll
  exact ⟨hReached, .absent (by decide), by decide, by decide, by decide⟩

end QueryPhrase.TermList
