import QueryPhrase.Proofs.TermList.Sound
import QueryPhrase.Request

/-!
# When a model checks out

The check of a model asks each of its two lists for a problem, and a list judges
its terms by its own kind. What the check is for is a matter of places: filters
alternate and sorters are sorters, whichever list stands there. The two agree
where each list is of the kind its place calls for. A list without terms suits
either place.

The places are open, so the two lists can change them. Each is in order by its
own kind then, the check has nothing to say, and filters that are sorters pass.

## Main definitions

* `Model.InRoles` — what the check of a model is for.
* `Model.KindsFit` — each list is of the kind its place calls for.

## Main results

* `Model.problem?_none_iff_shaped` — what the check looks at.
* `Model.problem?_none_iff_inRoles` — where it finds what it is for.
-/

namespace QueryPhrase.Model

open TermList

/-- The filters alternate, if there are any, and every sorter orders by a
column. -/
structure InRoles (model : Model) : Prop where
  filters : model.filters.terms = [] ∨ Alternates model.filters.terms
  sorters : ∀ term ∈ model.sorters.terms, term.isSorter = true

/-- Each list is of the kind its place calls for, or has no terms. -/
structure KindsFit (model : Model) : Prop where
  filters : model.filters.kind = .filter ∨ model.filters.terms = []
  sorters : model.sorters.kind = .sorter ∨ model.sorters.terms = []

/-- Without terms a list of either kind is in order. -/
theorem shaped_nil (kind : ListKind) : Shaped kind [] := by
  cases kind with
  | filter => exact Or.inl rfl
  | sorter => exact fun term hTerm => by cases hTerm

/-- **Each list is judged by its own kind.** -/
theorem problem?_none_iff_shaped {model : Model} :
    model.problem? = none ↔
      Shaped model.filters.kind model.filters.terms ∧
        Shaped model.sorters.kind model.sorters.terms := by
  simp only [problem?, Option.orElse_eq_orElse, Option.orElse_eq_or,
    Option.or_eq_none_iff, problem?_eq_none_iff]

/-- A list of filters is in order when it has no terms or they alternate. -/
theorem shaped_filters_iff {list : TermList}
    (hKind : list.kind = .filter ∨ list.terms = []) :
    Shaped list.kind list.terms ↔ list.terms = [] ∨ Alternates list.terms := by
  rcases hKind with hFilter | hNil
  · rw [hFilter]
    rfl
  · rw [hNil]
    exact iff_of_true (shaped_nil _) (Or.inl rfl)

/-- A list of sorters is in order when its terms are sorters. -/
theorem shaped_sorters_iff {list : TermList}
    (hKind : list.kind = .sorter ∨ list.terms = []) :
    Shaped list.kind list.terms ↔
      ∀ term ∈ list.terms, term.isSorter = true := by
  simp only [Term.isSorter_iff]
  rcases hKind with hSorter | hNil
  · rw [hSorter]
    rfl
  · rw [hNil]
    exact iff_of_true (shaped_nil _) (fun term hTerm => by cases hTerm)

/-- Terms that are sorters do not alternate. -/
theorem not_alternates_of_sorters {terms : List Term}
    (hSorters : ∀ term ∈ terms, term.kind = .sorter) : ¬ Alternates terms := by
  intro hAlternates
  obtain ⟨term, rest, hTerms, hMatcher, _⟩ :=
    ((alternates_iff_turns _).mp hAlternates).matcher_cases
  have hSorter := hSorters term (by simp [hTerms])
  rw [hMatcher] at hSorter
  cases hSorter

/-- A list in order that is also in a filter's role is a list of filters, if it
has terms. -/
theorem kind_of_filters {list : TermList}
    (hShaped : Shaped list.kind list.terms)
    (hRole : list.terms = [] ∨ Alternates list.terms) :
    list.kind = .filter ∨ list.terms = [] := by
  rcases hRole with hNil | hAlternates
  · exact Or.inr hNil
  · left
    cases hKind : list.kind with
    | filter => rfl
    | sorter =>
        rw [hKind] at hShaped
        exact absurd hAlternates (not_alternates_of_sorters hShaped)

/-- A list in order that is also in a sorter's role is a list of sorters, if it
has terms. -/
theorem kind_of_sorters {list : TermList}
    (hShaped : Shaped list.kind list.terms)
    (hRole : ∀ term ∈ list.terms, term.isSorter = true) :
    list.kind = .sorter ∨ list.terms = [] := by
  simp only [Term.isSorter_iff] at hRole
  cases hKind : list.kind with
  | sorter => exact Or.inl rfl
  | filter =>
      rw [hKind] at hShaped
      rcases hShaped with hNil | hAlternates
      · exact Or.inr hNil
      · exact absurd hAlternates (not_alternates_of_sorters hRole)

/-- **The check of a model says what it is for** when each list is of the kind
its place calls for, whatever the lists hold. Between lists that edits lead to,
it says so only then. -/
theorem problem?_none_iff_inRoles (model : Model) :
    (KindsFit model → (model.problem? = none ↔ InRoles model)) ∧
    (Reachable model.filters → Reachable model.sorters →
      ((model.problem? = none ↔ InRoles model) ↔ KindsFit model)) := by
  have hAgrees :
      KindsFit model → (model.problem? = none ↔ InRoles model) := by
    intro hFit
    rw [problem?_none_iff_shaped, shaped_filters_iff hFit.filters,
      shaped_sorters_iff hFit.sorters]
    exact ⟨fun h => ⟨h.1, h.2⟩, fun h => ⟨h.filters, h.sorters⟩⟩
  refine ⟨hAgrees, fun hFilters hSorters => ⟨?_, hAgrees⟩⟩
  intro hSame
  -- Both lists are in order by their own kinds, so the check finds nothing.
  have hFilterShaped := hFilters.wellFormed.shaped
  have hSorterShaped := hSorters.wellFormed.shaped
  have hRoles : InRoles model :=
    hSame.mp (problem?_none_iff_shaped.mpr ⟨hFilterShaped, hSorterShaped⟩)
  exact ⟨kind_of_filters hFilterShaped hRoles.filters,
    kind_of_sorters hSorterShaped hRoles.sorters⟩

theorem problem?_none_iff_inRoles_of_edited :
    let filters := (Edit.write "foo").apply (.empty .filter)
    let sorters := (Edit.insert (.ofSorter "name" "desc") false).apply
      (.empty .sorter)
    let model : Model :=
      { Model.empty with filters := filters, sorters := sorters }
    Reachable filters ∧ Reachable sorters ∧ KindsFit model ∧
      (model.problem? = none ↔ InRoles model) ∧
      ((model.problem? = none ↔ InRoles model) ↔ KindsFit model) := by
  intro filters sorters model
  have hFilters : Reachable filters := .edit _ (.empty .filter) trivial
  have hSorters : Reachable sorters := .edit _ (.empty .sorter) trivial
  have hFit : KindsFit model := ⟨Or.inl (by decide), Or.inl (by decide)⟩
  exact ⟨hFilters, hSorters, hFit, (problem?_none_iff_inRoles model).1 hFit,
    (problem?_none_iff_inRoles model).2 hFilters hSorters⟩

/-- With the lists exchanged the check has nothing to say of a filter that orders
by a column. -/
theorem problem?_none_of_exchanged :
    let sorters := (Edit.insert (.ofSorter "name" "desc") false).apply
      (.empty .sorter)
    let model : Model :=
      { Model.empty with filters := sorters, sorters := .empty .filter }
    Reachable model.filters ∧ Reachable model.sorters ∧
      ¬ (model.problem? = none ↔ InRoles model) := by
  intro sorters model
  have hFilters : Reachable sorters := .edit _ (.empty .sorter) trivial
  refine ⟨hFilters, .empty .filter, ?_⟩
  intro hSame
  have hRoles : InRoles model := hSame.mp (by decide)
  have hSorters : ∀ term ∈ model.filters.terms, term.kind = .sorter := by decide
  rcases hRoles.filters with hNil | hAlternates
  · exact absurd hNil (by decide)
  · exact not_alternates_of_sorters hSorters hAlternates

end QueryPhrase.Model
