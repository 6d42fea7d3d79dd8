import QueryPhrase.Proofs.Request.Committed
import QueryPhrase.Proofs.TermList.Frame

/-!
# Committing is removing

The committed filters of a list are the terms that are left once its matchers
without a value are removed, one after the other and in any order. A matcher
that goes takes a separator along: the one before it, or the one after it if it
is the first. Committing goes through the list once and lets a later separator
take the place of the one that waits, so it does not see the difference.

## Main definitions

* `TermList.uncommitted` — the matchers without a value.
* `TermList.removeAll` — removing terms one after the other.

## Main results

* `TermList.Drops.committed_eq` — a matcher without a value makes no difference
  to what is committed.
* `TermList.withoutIds_removeAll` — removing all of them leaves what is
  committed.
* `Model.request_filters_eq_removeAll` — the filters of a request, by removing
  and by what they join.
-/

namespace QueryPhrase

namespace TermList

open Term Model

/-- The matchers without a value, in order. -/
def uncommitted (list : TermList) : List Term :=
  list.matchers.filter (·.value.isNone)

/-- Removes terms one after the other. -/
def removeAll (list : TermList) (terms : List Term) : TermList :=
  terms.foldl remove list

/-! ## One removal -/

namespace Drops

variable {term : Term} {terms left : List Term}

/-- Among the terms of a sort that no separator is of, the one that goes is the
only one that is missing afterwards. -/
theorem perm_filter (h : Drops term terms left) {p : Term → Bool}
    (hTerm : p term = true)
    (hSeparator : ∀ other, other.kind = .separator → p other = false) :
    (terms.filter p).Perm (term :: left.filter p) := by
  cases h with
  | alone => simp [hTerm]
  | first after hKind => simp [hTerm, hSeparator _ hKind]
  | later before hKind _ =>
      simp only [List.filter_append, List.filter_cons, hSeparator _ hKind,
        hTerm, Bool.false_eq_true, if_false, if_true]
      exact List.perm_middle

/-! ### What is committed -/

/-- Committing goes through a list from the front, so terms that make no
difference in front of nothing make none behind others. -/
private theorem commit_append_congr {a b : List Term}
    (h : ∀ started waiting, commit a started waiting = commit b started waiting)
    (before : List Term) :
    ∀ started waiting,
      commit (before ++ a) started waiting =
        commit (before ++ b) started waiting := by
  induction before with
  | nil => exact h
  | cons term rest ih =>
      intro started waiting
      simp only [List.cons_append, commit, ih]

/-- A separator and a matcher without a value make no difference at the end, nor
in front of another separator. -/
private theorem commit_separator_matcher {separator : Term} {after : List Term}
    (hSeparator : separator.kind = .separator) (hTerm : term.kind = .matcher)
    (hValue : term.value = none) (hAfter : Turns .separator after .separator)
    (started : Bool) (waiting : Option Term) :
    commit (separator :: term :: after) started waiting =
      commit after started waiting := by
  rcases hAfter.separator_cases with hNil | ⟨next, rest, hRest, hNext, _⟩
  · subst hNil
    simp [commit, hSeparator, hTerm, hValue]
  · subst hRest
    -- The next separator takes the place of this one.
    cases started with
    | false => simp [commit, hSeparator, hTerm, hValue, hNext]
    | true => simp [commit, hSeparator, hTerm, hValue, hNext]

/-- **A matcher without a value makes no difference** to what is committed,
whether it stays or goes with a separator. -/
theorem committed_eq (h : Drops term terms left) (hTerm : term.kind = .matcher)
    (hValue : term.value = none) : committed left = committed terms := by
  cases h with
  | alone => simp [committed, commit, hTerm, hValue]
  | first after hSeparator =>
      simp [committed, commit, hTerm, hValue, hSeparator]
  | later before hSeparator hAfter =>
      have hSame := commit_append_congr
        (commit_separator_matcher hSeparator hTerm hValue hAfter) before
      exact (hSame false none).symm

end Drops

/-! ## Removing them all -/

variable {list : TermList}

theorem mem_uncommitted {term : Term} :
    term ∈ list.uncommitted ↔
      term ∈ list.terms ∧ term.kind = .matcher ∧ term.value = none := by
  simp only [uncommitted, matchers, List.mem_filter, Option.isNone_iff_eq_none,
    Term.isMatcher_iff, and_assoc]

/-- A matcher without a value that goes is one less. -/
theorem Drops.perm_uncommitted {term : Term} (hTerm : term.kind = .matcher)
    (hValue : term.value = none) {next : TermList}
    (h : Drops term list.terms next.terms) :
    list.uncommitted.Perm (term :: next.uncommitted) := by
  have hFilter : ∀ other : TermList, other.uncommitted =
      other.terms.filter fun term => term.value.isNone && term.isMatcher := by
    intro other
    rw [uncommitted, matchers, List.filter_filter]
  rw [hFilter, hFilter]
  apply h.perm_filter
  · simp [hTerm, hValue]
  · intro other hOther
    simp [Term.isMatcher, hOther]

/-- **Removing every matcher without a value leaves what is committed**, in
whatever order they go. One step of the induction is one removal. -/
theorem withoutIds_removeAll {order : List Term} :
    ∀ {list : TermList}, WellFormed list → list.kind = .filter →
      (list.terms.map Term.id).Nodup →
      (∀ term ∈ list.terms, term.id.isSome = true) →
      order.Perm list.uncommitted →
      withoutIds (list.removeAll order).terms = committed list.terms := by
  induction order with
  | nil =>
      intro list hWell hKind _ _ hOrder
      have hNone : list.uncommitted = [] := hOrder.symm.eq_nil
      have hShaped := hWell.shaped
      rw [hKind] at hShaped
      show withoutIds list.terms = committed list.terms
      rcases hShaped with hNil | hAlternates
      · rw [hNil]
        rfl
      · apply Eq.symm
        apply commit_of_valued hAlternates
        intro term hMem hTerm
        by_contra hValue
        have hMatcher : term.kind = .matcher := by
          obtain ⟨before, after, hCut⟩ := List.append_of_mem hMem
          rw [hCut] at hAlternates
          exact hAlternates.kind_cases.resolve_right hTerm
        have hMissing : term ∈ list.uncommitted :=
          mem_uncommitted.mpr ⟨hMem, hMatcher, by simpa using hValue⟩
        rw [hNone] at hMissing
        cases hMissing
  | cons term rest ih =>
      intro list hWell hKind hIds hIdentified hOrder
      have hMem : term ∈ list.uncommitted :=
        hOrder.mem_iff.mp List.mem_cons_self
      obtain ⟨hIn, hTerm, hValue⟩ := mem_uncommitted.mp hMem
      have hShaped := hWell.shaped
      rw [hKind] at hShaped
      have hAlternates : Alternates list.terms :=
        hShaped.resolve_left (List.ne_nil_of_mem hIn)
      have hDrops :=
        drops_remove hAlternates hIds hIn (hIdentified term hIn) hTerm
      have hNextIds : ((list.remove term).terms.map Term.id).Nodup :=
        List.Nodup.sublist ((terms_remove_sublist list term).map Term.id) hIds
      have hNextOrder : rest.Perm (list.remove term).uncommitted :=
        (hOrder.trans (hDrops.perm_uncommitted hTerm hValue)).cons_inv
      have hFilter : (list.remove term).kind = .filter := by
        rw [(remove_keeps list term).1, hKind]
      have hRest := ih (hWell.remove term) hFilter
        hNextIds (fun other hOther => hIdentified other
          ((terms_remove_sublist list term).subset hOther)) hNextOrder
      rw [hDrops.committed_eq hTerm hValue] at hRest
      exact hRest

end TermList

namespace Model

open Term TermList

/-! ## What comes through -/

/-- A matcher that has a value. -/
def Kept (term : Term) : Prop :=
  term.kind = .matcher ∧ term.value.isSome = true

/-- Every matcher with a value comes through, once and in order. -/
theorem filter_isMatcher_commit {terms : List Term} :
    ∀ {started : Bool} {waiting : Option Term},
      (∀ term ∈ waiting, term.kind = .separator) →
      (commit terms started waiting).filter isMatcher =
        withoutIds ((terms.filter isMatcher).filter (·.value.isSome)) := by
  induction terms with
  | nil => intro started waiting _; rfl
  | cons term rest ih =>
      intro started waiting hWaiting
      cases hKind : term.kind with
      | separator =>
          have hNext : ∀ other ∈ (if started then some term.withoutId
              else waiting), other.kind = .separator := by
            split
            · intro other hOther
              cases hOther
              exact hKind
            · exact hWaiting
          have hOther : term.isMatcher = false := by
            simp [Term.isMatcher, hKind]
          simp only [commit, hKind, List.filter_cons, hOther]
          exact ih hNext
      | matcher =>
          by_cases hValue : term.value.isSome = true
          · have hJoined : waiting.toList.filter isMatcher = [] := by
              rw [List.filter_eq_nil_iff]
              intro other hOther
              simp [Term.isMatcher, hWaiting other (by simpa using hOther)]
            have hSame : term.withoutId.isMatcher = true := by
              rw [isMatcher_iff]
              exact hKind
            have hMatcher : term.isMatcher = true :=
              (isMatcher_iff term).mpr hKind
            have hRest : (commit rest true none).filter isMatcher = _ :=
              ih (by simp)
            simp only [commit, hKind, hValue, if_true, List.filter_append,
              hJoined, List.nil_append, List.filter_cons, hSame, hMatcher,
              hRest]
            rfl
          · have hMatcher : term.isMatcher = true :=
              (isMatcher_iff term).mpr hKind
            simp only [commit, hKind, List.filter_cons, hMatcher, if_true]
            rw [if_neg hValue, if_neg hValue]
            exact ih hWaiting
      | sorter =>
          have hOther : term.isMatcher = false := by
            simp [Term.isMatcher, hKind]
          simp only [commit, hKind, List.filter_cons, hOther]
          exact ih hWaiting

/-- Terms in front of others are committed as they are alone, and leave behind
which separator waits. -/
theorem commit_append (before : List Term) :
    ∀ started waiting, ∃ started' waiting', ∀ rest,
      commit (before ++ rest) started waiting =
        commit before started waiting ++ commit rest started' waiting' := by
  induction before with
  | nil => exact fun started waiting => ⟨started, waiting, fun _ => rfl⟩
  | cons term others ih =>
      intro started waiting
      cases hKind : term.kind with
      | separator =>
          obtain ⟨started', waiting', hOthers⟩ :=
            ih started (if started then some term.withoutId else waiting)
          refine ⟨started', waiting', ?_⟩
          intro rest
          simp only [List.cons_append, commit, hKind]
          exact hOthers rest
      | matcher =>
          by_cases hValue : term.value.isSome = true
          · obtain ⟨started', waiting', hOthers⟩ := ih true none
            refine ⟨started', waiting', ?_⟩
            intro rest
            simp only [List.cons_append, commit, hKind, hValue, if_true,
              hOthers rest, List.append_assoc]
          · obtain ⟨started', waiting', hOthers⟩ := ih started waiting
            refine ⟨started', waiting', ?_⟩
            intro rest
            simp only [List.cons_append, commit, hKind]
            rw [if_neg hValue, if_neg hValue]
            exact hOthers rest
      | sorter =>
          obtain ⟨started', waiting', hOthers⟩ := ih started waiting
          refine ⟨started', waiting', ?_⟩
          intro rest
          simp only [List.cons_append, commit, hKind]
          exact hOthers rest

/-- Of terms that are not kept, only a separator is left to wait. -/
theorem commit_of_not_kept {between : List Term} :
    (∀ term ∈ between, ¬ Kept term) → ∀ waiting, ∃ waiting', ∀ rest,
      commit (between ++ rest) true waiting = commit rest true waiting' := by
  induction between with
  | nil => exact fun _ waiting => ⟨waiting, fun _ => rfl⟩
  | cons term others ih =>
      intro hBetween waiting
      rw [List.forall_mem_cons] at hBetween
      cases hKind : term.kind with
      | separator =>
          obtain ⟨waiting', hOthers⟩ := ih hBetween.2 (some term.withoutId)
          refine ⟨waiting', ?_⟩
          intro rest
          simp only [List.cons_append, commit, hKind, if_true]
          exact hOthers rest
      | matcher =>
          obtain ⟨waiting', hOthers⟩ := ih hBetween.2 waiting
          have hValue : ¬ term.value.isSome = true :=
            fun hSome => hBetween.1 ⟨hKind, hSome⟩
          refine ⟨waiting', ?_⟩
          intro rest
          simp only [List.cons_append, commit, hKind]
          rw [if_neg hValue]
          exact hOthers rest
      | sorter =>
          obtain ⟨waiting', hOthers⟩ := ih hBetween.2 waiting
          refine ⟨waiting', ?_⟩
          intro rest
          simp only [List.cons_append, commit, hKind]
          exact hOthers rest

/-- **Two kept matchers with none between them are joined by the separator right
before the second one.** -/
theorem committed_joins {before between after : List Term}
    {first separator second : Term} (hFirst : Kept first)
    (hBetween : ∀ term ∈ between, ¬ Kept term)
    (hSeparator : separator.kind = .separator) (hSecond : Kept second) :
    ∃ earlier later,
      committed (before ++ first :: (between ++ separator :: second :: after)) =
        earlier ++ first.withoutId :: separator.withoutId ::
          second.withoutId :: later := by
  obtain ⟨started, waiting, hBefore⟩ := commit_append before false none
  obtain ⟨waiting', hBetween⟩ := commit_of_not_kept hBetween none
  obtain ⟨hFirstKind, hFirstValue⟩ := hFirst
  obtain ⟨hSecondKind, hSecondValue⟩ := hSecond
  refine ⟨committed before ++ waiting.toList, commit after true none, ?_⟩
  calc committed (before ++ first :: (between ++ separator :: second :: after))
      = committed before ++ commit (first ::
          (between ++ separator :: second :: after)) started waiting :=
        hBefore _
    _ = committed before ++ (waiting.toList ++ first.withoutId ::
          commit (separator :: second :: after) true waiting') := by
        rw [commit]
        simp only [hFirstKind, hFirstValue, if_true, hBetween]
    _ = _ := by
        simp [commit, hSeparator, hSecondKind, hSecondValue]

/-- **The filters of a request are what removing leaves.** Whichever way the
filter list was edited, removing its matchers without a value, in any order,
leaves the filters of the request. They alternate, if there are any, they hold
each matcher with a value once and in order, and two of them that follow one
another are joined by the separator that stood right before the second. -/
theorem request_filters_eq_removeAll {model : Model}
    (hKind : model.filters.kind = .filter)
    (hReached : Reachable model.filters)
    (hIds : (model.filters.terms.map Term.id).Nodup) :
    (∀ order : List Term, order.Perm model.filters.uncommitted →
      model.request.filters =
        withoutIds (model.filters.removeAll order).terms) ∧
    (model.request.filters = [] ∨ Alternates model.request.filters) ∧
    model.request.filters.filter isMatcher =
      withoutIds (model.filters.matchers.filter (·.value.isSome)) ∧
    ∀ (before between after : List Term) (first separator second : Term),
      model.filters.terms =
        before ++ first :: (between ++ separator :: second :: after) →
      Kept first → (∀ term ∈ between, ¬ Kept term) →
      separator.kind = .separator → Kept second →
      ∃ earlier later, model.request.filters =
        earlier ++ first.withoutId :: separator.withoutId ::
          second.withoutId :: later := by
  have hWell := hReached.wellFormed
  have hShaped := hWell.shaped
  rw [hKind] at hShaped
  refine ⟨?_, committed_shaped hShaped, ?_, ?_⟩
  · intro order hOrder
    exact (withoutIds_removeAll hWell hKind hIds hReached.identified
      hOrder).symm
  · exact filter_isMatcher_commit (by simp)
  · intro before between after first separator second hTerms hFirst hBetween
      hSeparator hSecond
    show ∃ earlier later, committed model.filters.terms = _
    rw [hTerms]
    exact committed_joins hFirst hBetween hSeparator hSecond

/-- Two matchers in a row have no value, and they go from the back. -/
theorem request_filters_eq_removeAll_of_two :
    let like (name : Text) (value : Option Text) : Edit :=
      .insert { column := some name, operator := .like, value := value } false
    let list := (like "d" (some "4")).apply ((like "c" none).apply
      ((Edit.insert (.ofSeparator .or) false).apply ((like "b" none).apply
        ((like "a" (some "1")).apply (.empty .filter)))))
    let model : Model := { Model.empty with filters := list }
    Reachable list ∧ (list.terms.map Term.id).Nodup ∧
      list.uncommitted.length = 2 ∧
      model.request.filters =
        withoutIds (list.removeAll list.uncommitted.reverse).terms := by
  intro like list model
  have hReached : Reachable list :=
    .edit _ (.edit _ (.edit _ (.edit _ (.edit _ (.empty .filter) trivial)
      trivial) trivial) trivial) trivial
  have hIds : (list.terms.map Term.id).Nodup := by decide
  have hTwo : list.uncommitted.length = 2 := by decide
  have hKind : list.kind = .filter := by decide
  have hFilters : model.filters = list := by simp only [model]
  have hAll := @request_filters_eq_removeAll model
  rw [hFilters] at hAll
  exact ⟨hReached, hIds, hTwo,
    (hAll hKind hReached hIds).1 _ (List.reverse_perm _)⟩

end Model

end QueryPhrase
