import QueryPhrase.Completion
import QueryPhrase.Proofs.Text.Lowercase

/-!
# Candidates that hold the typed text

Narrowing a pool keeps the candidates that hold the typed text in lowercase, in
their order, and the whole pool when there are none. A candidate that holds the
typed text as it stands is among them unless a capital sigma of the typed text has
another form there: where the typed text ends a word, the candidate may go on.

## Main results

* `Text.hasPart_iff` — when a part occurs in a text.
* `narrow_sublist`, `narrow_eq_self` — what is offered, and when it is the whole
  pool.
* `narrow_keeps_literal_iff` — the typed texts for which no candidate is hidden
  that holds them as they stand.
-/

namespace QueryPhrase

/-- A part occurs in a text where it is one of its parts. -/
theorem Text.hasPart_iff {part text : Text} :
    Text.hasPart part text = true ↔ part <:+: text := by
  induction text with
  | nil => rw [Text.hasPart, List.isEmpty_iff, List.infix_nil]
  | cons c rest ih =>
      rw [Text.hasPart, Bool.or_eq_true, List.isPrefixOf_iff_prefix, ih,
        List.infix_cons_iff]

theorem matchesTyped_iff {typed candidate : Text} :
    matchesTyped typed candidate = true ↔
      lowercase typed <:+: lowercase candidate :=
  Text.hasPart_iff

theorem matchesTyped_self (typed : Text) : matchesTyped typed typed = true :=
  matchesTyped_iff.mpr (List.infix_refl _)

variable {candidates : List Text} {typed : Text}

/-- The whole pool is offered when nothing is typed or no candidate holds it. -/
theorem narrow_eq_self
    (h : typed = [] ∨ ∀ c ∈ candidates, matchesTyped typed c = false) :
    narrow candidates typed = candidates := by
  unfold narrow
  split
  · rfl
  · next hTyped =>
    have hNone : candidates.filter (matchesTyped typed) = [] := by
      rw [List.filter_eq_nil_iff]
      intro candidate hCandidate
      simp [h.resolve_left hTyped candidate hCandidate]
    rw [hNone]

/-- Any other time it is the candidates that hold the typed text. -/
theorem narrow_eq_filter (hTyped : typed ≠ [])
    (hSome : ∃ c ∈ candidates, matchesTyped typed c = true) :
    narrow candidates typed = candidates.filter (matchesTyped typed) := by
  obtain ⟨candidate, hMem, hMatches⟩ := hSome
  rw [narrow, if_neg hTyped]
  split
  · next hNone =>
    rw [List.filter_eq_nil_iff] at hNone
    exact absurd hMatches (hNone candidate hMem)
  · rfl

/-- Either way the candidates that hold the typed text are offered. -/
theorem filter_sublist_narrow (candidates : List Text) (typed : Text) :
    (candidates.filter (matchesTyped typed)).Sublist
      (narrow candidates typed) := by
  by_cases hWhole : typed = [] ∨ ∀ c ∈ candidates, matchesTyped typed c = false
  · rw [narrow_eq_self hWhole]
    exact List.filter_sublist
  · simp only [not_or, not_forall, Bool.not_eq_false] at hWhole
    obtain ⟨hTyped, candidate, hMem, hMatches⟩ := hWhole
    rw [narrow_eq_filter hTyped ⟨candidate, hMem, hMatches⟩]

/-- What is offered is from the pool, in its order. -/
theorem narrow_sublist (candidates : List Text) (typed : Text) :
    (narrow candidates typed).Sublist candidates := by
  by_cases hWhole : typed = [] ∨ ∀ c ∈ candidates, matchesTyped typed c = false
  · rw [narrow_eq_self hWhole]
  · simp only [not_or, not_forall, Bool.not_eq_false] at hWhole
    obtain ⟨hTyped, candidate, hMem, hMatches⟩ := hWhole
    rw [narrow_eq_filter hTyped ⟨candidate, hMem, hMatches⟩]
    exact List.filter_sublist

/-- A candidate that is lost in lowercase is hidden as soon as the typed text
itself is a candidate. -/
theorem narrow_hides {candidate : Text} (hTyped : typed ≠ [])
    (hLost : ¬ lowercase typed <:+: lowercase candidate) :
    narrow [candidate, typed] typed = [typed] := by
  have hMisses : matchesTyped typed candidate = false := by
    rwa [← Bool.not_eq_true, matchesTyped_iff]
  have hSome : ∃ c ∈ [candidate, typed], matchesTyped typed c = true :=
    ⟨typed, by simp, matchesTyped_self typed⟩
  rw [narrow_eq_filter hTyped hSome]
  simp [hMisses, matchesTyped_self typed]

/-- **Narrowing hides no literal match** exactly when the sigmas of the typed
text are settled. Whatever is typed, what is offered is from the pool, in its
order, and is the whole pool when nothing is typed or no candidate matches. -/
theorem narrow_keeps_literal_iff (typed : Text) :
    (∀ candidates, (narrow candidates typed).Sublist candidates ∧
      ((typed = [] ∨ ∀ c ∈ candidates, matchesTyped typed c = false) →
        narrow candidates typed = candidates)) ∧
    ((∀ candidates : List Text, (candidates.filter (typed <:+: ·)).Sublist
        (narrow candidates typed)) ↔ SigmasSettled typed) := by
  refine ⟨fun candidates =>
    ⟨narrow_sublist candidates typed, narrow_eq_self⟩, ?_⟩
  constructor
  · intro hKept
    by_contra hOpen
    obtain ⟨candidate, hPart, hLost⟩ := exists_lowercase_not_infix hOpen
    have hTyped : typed ≠ [] := by
      rintro rfl
      exact hOpen (sigmasSettled_of_not_mem List.not_mem_nil)
    have hBoth := (hKept [candidate, typed]).length_le
    rw [narrow_hides hTyped hLost] at hBoth
    simp [hPart] at hBoth
  · intro hSettled candidates
    refine List.Sublist.trans (List.monotone_filter_right candidates ?_)
      (filter_sublist_narrow candidates typed)
    intro candidate hPart
    rw [decide_eq_true_iff] at hPart
    exact matchesTyped_iff.mpr (hSettled.lowercase_infix hPart)

/-- A word in capitals that ends in a sigma, and the sigma alone. -/
theorem narrow_hides_final_sigma :
    let candidates : List Text := ["ΟΔΟΣ", "Σ"]
    let typed : Text := "Σ"
    (∀ candidate ∈ candidates, typed <:+: candidate) ∧
      narrow candidates typed = ([typed] : List Text) ∧
      ¬ (candidates.filter (typed <:+: ·)).Sublist
        (narrow candidates typed) := by
  intro candidates typed
  have hNarrow : narrow candidates typed = [typed] := by decide +kernel
  refine ⟨by decide, hNarrow, ?_⟩
  rw [hNarrow]
  decide

end QueryPhrase
