import QueryPhrase.Proofs.TermList.Rebuild
import QueryPhrase.Request

/-!
# What is committed

The committed terms of a list that alternates alternate too: a matcher without a
value drops out, and of the separators around it the last one is kept, if there
is a matcher on either side of it. Committing twice changes nothing, and
identifiers do not matter, so a list with the terms of a request has this very
request.

## Main definitions

* `Term.Settled` — a term as it stands in a request, `Request.Settled` a request
  of such terms.

## Main results

* `Model.committed_shaped` — committed filters alternate, if there are any.
* `Model.settled_committed` — committed filters are settled.
* `Model.committed_of_settled`, `Model.sorters_of_settled` — settled terms are
  committed as they are.
* `Model.sorters_insertAll` — sorters are committed as they went into a list.
-/

namespace QueryPhrase

/-- A term as it stands in a request: without an identifier, plain, and with a
value unless it is a separator. -/
structure Term.Settled (term : Term) : Prop where
  id_none : term.id = none
  plain : term.Plain
  valued : term.kind ≠ .separator → term.value.isSome = true

theorem Term.withoutId_of_id_none {term : Term} (h : term.id = none) :
    term.withoutId = term := by
  cases term
  cases h
  rfl

theorem Term.withoutIds_of_settled {terms : List Term}
    (h : ∀ term ∈ terms, term.Settled) : withoutIds terms = terms := by
  have hSame : ∀ term ∈ terms, term.withoutId = term :=
    fun term hMem => withoutId_of_id_none (h term hMem).id_none
  rw [withoutIds, List.map_congr_left hSame, List.map_id']

/-- A request whose filters alternate, if there are any, and whose terms are
settled. -/
structure Request.Settled (request : Request) : Prop where
  filters_shaped : request.filters = [] ∨ Alternates request.filters
  filters : ∀ term ∈ request.filters, term.Settled
  sorters : ∀ term ∈ request.sorters, term.kind = .sorter ∧ term.Settled

namespace Model

open Term

/-! ## The shape of what is committed -/

/-- Once a matcher has come through, what comes is a separator and a matcher,
and so on. On a matcher's turn a separator waits for it. -/
private theorem turns_commit {terms : List Term} :
    ∀ {first : TermKind} {waiting : Option Term},
      Turns first terms .separator → first ≠ .sorter →
      (∀ term ∈ waiting, term.kind = .separator) →
      (first = .matcher → waiting.isSome = true) →
      Turns .separator (commit terms true waiting) .separator := by
  induction terms with
  | nil => intro first waiting _ _ _ _; rfl
  | cons term rest ih =>
      intro first waiting hTurns hFirst hWaiting hReady
      obtain ⟨hKind, hRest⟩ := hTurns
      cases first with
      | separator =>
          simp only [commit, hKind, if_true]
          refine ih hRest (by decide) ?_ (fun _ => rfl)
          intro other hOther
          cases hOther
          exact hKind
      | matcher =>
          simp only [commit, hKind]
          split
          · obtain ⟨separator, hSome⟩ :=
              Option.isSome_iff_exists.mp (hReady rfl)
            subst hSome
            refine ⟨hWaiting separator rfl, hKind, ?_⟩
            exact ih hRest (by decide) (by simp) (fun h => by cases h)
          · exact ih hRest (by decide) hWaiting (fun h => by cases h)
      | sorter => exact absurd rfl hFirst

/-- Before a matcher has come through, nothing comes. -/
private theorem turns_commit_start {terms : List Term} :
    ∀ {first : TermKind}, Turns first terms .separator → first ≠ .sorter →
      commit terms false none = [] ∨
        Turns .matcher (commit terms false none) .separator := by
  induction terms with
  | nil => intro first _ _; exact Or.inl rfl
  | cons term rest ih =>
      intro first hTurns hFirst
      obtain ⟨hKind, hRest⟩ := hTurns
      cases first with
      | separator =>
          simp only [commit, hKind]
          exact ih hRest (by decide)
      | matcher =>
          simp only [commit, hKind]
          split
          · right
            refine ⟨hKind, ?_⟩
            exact turns_commit hRest (by decide) (by simp) (fun h => by cases h)
          · exact ih hRest (by decide)
      | sorter => exact absurd rfl hFirst

/-- **Committed filters alternate**, if there are any. -/
theorem committed_shaped {terms : List Term}
    (h : terms = [] ∨ Alternates terms) :
    committed terms = [] ∨ Alternates (committed terms) := by
  rcases h with hNil | hAlternates
  · subst hNil
    exact Or.inl rfl
  · rw [alternates_iff_turns]
    exact turns_commit_start ((alternates_iff_turns terms).mp hAlternates)
      (by decide)

/-! ## The terms of what is committed -/

/-- What is committed was waiting, or is a term of the list without its
identifier. -/
private theorem mem_commit {terms : List Term} :
    ∀ {started : Bool} {waiting : Option Term} {committed : Term},
      committed ∈ commit terms started waiting →
      committed ∈ waiting ∨ ∃ term ∈ terms, committed = term.withoutId ∧
        (term.kind ≠ .separator → term.value.isSome = true) := by
  induction terms with
  | nil => intro started waiting committed h; cases h
  | cons term rest ih =>
      intro started waiting committed h
      have hLater : ∀ {started : Bool} {waiting : Option Term},
          committed ∈ commit rest started waiting →
          committed ∈ waiting ∨ ∃ other ∈ term :: rest,
            committed = other.withoutId ∧
              (other.kind ≠ .separator → other.value.isSome = true) := by
        intro started waiting hRest
        rcases ih hRest with hWaiting | ⟨other, hMem, hOther⟩
        · exact Or.inl hWaiting
        · exact Or.inr ⟨other, List.mem_cons_of_mem term hMem, hOther⟩
      cases hKind : term.kind with
      | separator =>
          simp only [commit, hKind] at h
          rcases hLater h with hWaiting | hFound
          · split at hWaiting
            · have hSame : term.withoutId = committed := by simpa using hWaiting
              exact Or.inr ⟨term, List.mem_cons_self, hSame.symm,
                fun hOther => absurd hKind hOther⟩
            · exact Or.inl hWaiting
          · exact Or.inr hFound
      | matcher =>
          simp only [commit, hKind] at h
          split at h
          · next hValue =>
            rw [List.mem_append, List.mem_cons] at h
            rcases h with hWaiting | hSame | hRest
            · exact Or.inl (Option.mem_toList.mp hWaiting)
            · exact Or.inr ⟨term, List.mem_cons_self, hSame, fun _ => hValue⟩
            · rcases hLater hRest with hNone | hFound
              · cases hNone
              · exact Or.inr hFound
          · exact hLater h
      | sorter =>
          simp only [commit, hKind] at h
          exact hLater h

/-- **Committed filters are settled** when the terms of the list are plain. -/
theorem settled_committed {terms : List Term}
    (hPlain : ∀ term ∈ terms, term.Plain) :
    ∀ term ∈ committed terms, term.Settled := by
  intro other hOther
  rcases mem_commit hOther with hNone | ⟨term, hMem, hSame, hValued⟩
  · cases hNone
  · have hKept := hPlain term hMem
    rw [hSame]
    exact ⟨rfl, hKept.withoutId, hValued⟩

/-! ## Committing again -/

/-- Matchers that have a value all come through. -/
theorem commit_of_valued {terms : List Term} (h : Alternates terms) :
    (∀ term ∈ terms, term.kind ≠ .separator → term.value.isSome = true) →
    ∀ (started : Bool) (waiting : Option Term),
      commit terms started waiting = waiting.toList ++ withoutIds terms := by
  induction h with
  | @single term hMatcher =>
      intro hValued started waiting
      have hKind := (isMatcher_iff term).mp hMatcher
      have hValue := hValued term (by simp) (by rw [hKind]; decide)
      simp [commit, hKind, hValue, withoutIds]
  | @join term separator rest hMatcher hSeparator _ ih =>
      intro hValued started waiting
      have hKind := (isMatcher_iff term).mp hMatcher
      have hJoin := (isSeparator_iff separator).mp hSeparator
      have hValue := hValued term (by simp) (by rw [hKind]; decide)
      have hRest := ih (fun other hOther => hValued other (by simp [hOther]))
      simp [commit, hKind, hJoin, hValue, hRest, withoutIds]

/-- Identifiers do not matter. -/
private theorem commit_withoutIds {terms : List Term} :
    ∀ (started : Bool) (waiting : Option Term),
      commit (withoutIds terms) started waiting =
        commit terms started waiting := by
  induction terms with
  | nil => intro started waiting; rfl
  | cons term rest ih =>
      intro started waiting
      have hKind : term.withoutId.kind = term.kind := rfl
      have hValue : term.withoutId.value = term.value := rfl
      have hTwice : term.withoutId.withoutId = term.withoutId := rfl
      rw [withoutIds] at ih ⊢
      rw [List.map_cons, commit, commit, hKind, hValue, hTwice]
      simp only [ih]

/-- **Settled filters are committed as they are**, whatever identifiers a list
has given them. -/
theorem committed_of_settled {terms settled : List Term}
    (hSame : withoutIds terms = withoutIds settled)
    (hShaped : settled = [] ∨ Alternates settled)
    (hSettled : ∀ term ∈ settled, term.Settled) :
    committed terms = settled := by
  have hCommit : committed settled = settled := by
    rcases hShaped with hNil | hAlternates
    · subst hNil
      rfl
    · rw [committed, commit_of_valued hAlternates
        (fun term hMem => (hSettled term hMem).valued)]
      exact withoutIds_of_settled hSettled
  rw [committed, ← commit_withoutIds, hSame, commit_withoutIds]
  exact hCommit

/-- **Settled sorters are committed as they are**, too. -/
theorem sorters_of_settled {terms settled : List Term}
    (hSame : withoutIds terms = withoutIds settled)
    (hSettled : ∀ term ∈ settled, term.kind = .sorter ∧ term.Settled) :
    ((terms.filter isSorter).filter (·.value.isSome)).map withoutId =
      settled := by
  have hKept : withoutIds settled = settled :=
    withoutIds_of_settled fun term hMem => (hSettled term hMem).2
  have hBehind : ∀ term ∈ terms, term.withoutId ∈ settled := by
    intro term hMem
    rw [← hKept, ← hSame]
    exact List.mem_map_of_mem hMem
  have hSorter : ∀ term ∈ terms, term.isSorter = true := by
    intro term hMem
    exact (isSorter_iff term).mpr (hSettled _ (hBehind term hMem)).1
  have hValued : ∀ term ∈ terms, term.value.isSome = true := by
    intro term hMem
    obtain ⟨hKind, hTerm⟩ := hSettled _ (hBehind term hMem)
    exact hTerm.valued (by rw [hKind]; decide)
  rw [List.filter_eq_self.mpr hSorter, List.filter_eq_self.mpr hValued]
  exact hSame.trans hKept

/-- Settled sorters are committed as they went into a list. -/
theorem sorters_insertAll {settled : List Term}
    (h : ∀ term ∈ settled, term.kind = .sorter ∧ term.Settled) :
    (((TermList.empty .sorter).insertAll settled).sorters.filter
      (·.value.isSome)).map withoutId = settled :=
  sorters_of_settled
    (TermList.withoutIds_insertAll_sorter fun term hMem =>
      ⟨(h term hMem).1, (h term hMem).2.plain⟩) h

/-! ## The request of a model -/

/-- **The request of a model is settled** when its filters alternate and the
terms of both lists are plain. -/
theorem settled_request {model : Model}
    (hShaped : model.filters.terms = [] ∨ Alternates model.filters.terms)
    (hFilters : ∀ term ∈ model.filters.terms, term.Plain)
    (hSorters : ∀ term ∈ model.sorters.terms, term.Plain) :
    model.request.Settled := by
  refine ⟨committed_shaped hShaped, settled_committed hFilters, ?_⟩
  intro other hOther
  obtain ⟨term, hMem, hSame⟩ := List.mem_map.mp hOther
  rw [List.mem_filter] at hMem
  obtain ⟨hSorter, hValue⟩ := hMem
  obtain ⟨hIn, hKind⟩ := List.mem_filter.mp hSorter
  have hKept := hSorters term hIn
  rw [← hSame]
  exact ⟨(isSorter_iff term).mp hKind, rfl, hKept.withoutId, fun _ => hValue⟩

end Model

end QueryPhrase
