import QueryPhrase.Proofs.TermList.Members

/-!
# What an edit leaves alone

A matcher that comes in brings one separator along, unless it is alone, and a
matcher that goes takes one along, unless it is the last. A separator that comes
in at most takes the place of another one. All other terms stay as they are and
keep their order.

When a matcher goes, the cursor stays on its term by the identifier of that term,
so it is found again as long as no other term has the same one.

## Main definitions

* `Term.entered` — a term as it stands in a list.
* `TermList.Gains` — what a matcher that comes in makes of some terms.
* `TermList.Renews` — what a separator that comes in makes of them.
* `TermList.Drops` — what is left of them when a matcher goes.
* `TermList.CursorStays` — where the cursor is when terms have gone.

## Main results

* `TermList.gains_insert`, `TermList.renews_insert`, `TermList.drops_remove` —
  what each of the three edits does to the terms.
* `TermList.cursorStays_remove` — what a removal does to the cursor.
* `TermList.edits_leave_others` — all of it, for every filter list that edits
  lead to.
-/

namespace QueryPhrase

/-- A term as it stands in a list: with its own identifier or else the next one,
and without an empty column. -/
def Term.entered (nextId : TermId) (term : Term) : Term :=
  { stored term with id := some (term.id.getD nextId) }

namespace TermList

open Term

/-- What a matcher that comes in makes of some terms, and the index at which it
stands then. It is alone, or one separator comes in with it, on the side on which
another term is. -/
inductive Gains (new : Term) : List Term → List Term → Nat → Prop
  | alone : Gains new [] [new] 0
  | before (front : List Term) {back : List Term} {separator : Term} :
    separator.kind = .separator → back ≠ [] →
      Gains new (front ++ back) (front ++ new :: separator :: back) front.length
  | behind {front : List Term} (back : List Term) {separator : Term} :
    separator.kind = .separator → front ≠ [] →
      Gains new (front ++ back) (front ++ separator :: new :: back)
        (front.length + 1)

/-- What a separator that comes in makes of some terms: nothing, or it takes the
place of another one, and its identifier too unless it brings its own. -/
inductive Renews (term : Term) : List Term → List Term → Prop
  | same (terms : List Term) : Renews term terms terms
  | renewed (front : List Term) {old : Term} (back : List Term) :
    old.kind = .separator →
      Renews term (front ++ old :: back)
        (front ++ { term with id := term.id <|> old.id } :: back)

/-- What is left of some terms when a matcher goes: it is alone, or first with a
separator after it, or it has a separator before it and none but one after it.
-/
inductive Drops (term : Term) : List Term → List Term → Prop
  | alone : Drops term [term] []
  | first {separator : Term} (after : List Term) :
    separator.kind = .separator → Drops term (term :: separator :: after) after
  | later (before : List Term) {separator : Term} {after : List Term} :
    separator.kind = .separator → Turns .separator after .separator →
      Drops term (before ++ separator :: term :: after) (before ++ after)

/-- A matcher goes from a list that alternates, with one separator. -/
theorem drops_withoutTerm {before after : List Term} {term : Term}
    (h : Alternates (before ++ term :: after)) (hTerm : term.kind = .matcher) :
    Drops term (before ++ term :: after)
      (withoutTerm (before ++ term :: after) before.length) := by
  obtain ⟨hBefore, hAfter⟩ := h.cut
  rw [hTerm] at hBefore hAfter
  rcases hBefore.eq_nil_or_concat with
    ⟨hNil, _⟩ | ⟨rest, last, hConcat, _, hLast⟩
  · subst hNil
    rcases hAfter.separator_cases with
      hEmpty | ⟨separator, others, hOthers, hSeparator, _⟩
    · subst hEmpty
      have hGone : withoutTerm [term] 0 = [] := withoutTerm_head (Or.inl rfl)
      show Drops term [term] (withoutTerm [term] 0)
      rw [hGone]
      exact .alone
    · subst hOthers
      have hGone : withoutTerm (term :: separator :: others) 0 = others :=
        withoutTerm_head (Or.inr (by simp [hSeparator]))
      show Drops term (term :: separator :: others)
        (withoutTerm (term :: separator :: others) 0)
      rw [hGone]
      exact .first others hSeparator
  · have hSeparator := TermKind.eq_separator_of_next hLast
    have hHead : after.head?.all Term.isSeparator = true := by
      rcases hAfter.separator_cases with
        hEmpty | ⟨next, others, hOthers, hNext, _⟩
      · simp [hEmpty]
      · simp [hOthers, hNext]
    subst hConcat
    rw [List.append_assoc, List.singleton_append, List.length_append,
      List.length_singleton, withoutTerm_concat hSeparator hHead]
    exact .later rest hSeparator hAfter

/-- The cursor when some terms have gone: it stays in front of all terms, or on
its term. If that one has gone it is on another one, if there is any. -/
structure CursorStays (before after : TermList) : Prop where
  unset : before.cursor = none → after.cursor = none
  same : ∀ current ∈ after.terms, before.current? = some current →
    after.current? = some current
  valid : before.cursor.isSome = true → after.terms ≠ [] →
    ∃ index, after.cursor = some index ∧ index < after.terms.length
  emptied : after.terms = [] → after.cursor = none

variable {list : TermList} {term : Term}

/-! ## Inserting -/

theorem placed_eq_entered (nextId : TermId) (term : Term) :
    placed nextId term = entered nextId term := by
  have hId : (placed nextId term).id = some (term.id.getD nextId) := by
    rw [id_placed, id_identify]
  calc placed nextId term
      = { (placed nextId term).withoutId with id := (placed nextId term).id } :=
        rfl
    _ = { stored term with id := some (term.id.getD nextId) } := by
        rw [withoutId_placed, hId]

/-- **Inserting a matcher** keeps every term and puts the cursor on the new one.
-/
theorem gains_insert (h : WellFormed list) (hKind : list.kind = .filter)
    (hTerm : term.kind = .matcher) :
    ∃ index, Gains (entered list.nextId term) list.terms
        (list.insert term).terms index ∧
      (list.insert term).cursor = some index := by
  rw [insert_matcher hKind hTerm, terms_park, cursor_park,
    ← placed_eq_entered]
  rcases h.insertMatcher_cases hKind term with
    ⟨hNil, hInserted⟩ | ⟨front, other, back, hTerms, _, _, _, hInserted⟩ |
      ⟨front, other, back, hTerms, _, _, _, _, hInserted⟩
  · rw [hInserted, hNil]
    exact ⟨0, .alone, rfl⟩
  · rw [hInserted, hTerms]
    have hJoining : (joining (identify list.nextId term).2
        list.separator).kind = .separator := by
      rw [kind_joining, h.separator_kind]
    exact ⟨front.length, .before front hJoining (List.cons_ne_nil _ _), rfl⟩
  · rw [hInserted, hTerms]
    have hJoining : (joining (identify list.nextId term).2
        (list.held.getD list.separator)).kind = .separator := by
      rw [kind_joining, h.joining_kind]
    have hFront : front ++ [other] ≠ [] := by simp
    have hGains : Gains (placed list.nextId term) _ _ _ :=
      .behind back hJoining hFront
    refine ⟨front.length + 2, ?_, rfl⟩
    simpa using hGains

/-- **Inserting a separator** keeps every term but one separator at most. -/
theorem renews_insert (h : WellFormed list) (hKind : list.kind = .filter)
    (hIds : ∀ other ∈ list.terms, other.id.isSome = true)
    (hTerm : term.kind = .separator) :
    (list.insert term).count = list.count ∧
      Renews term list.terms (list.insert term).terms := by
  rw [count, count, insert_separator hKind hTerm, terms_park]
  rcases h.insertSeparator_cases hKind term with
    hSame | ⟨hHeld, _⟩ | ⟨front, old, back, hTerms, hOld, _, hPlaced⟩
  · rw [hSame]
    exact ⟨rfl, .same list.terms⟩
  · rw [hHeld]
    exact ⟨rfl, .same list.terms⟩
  · have hReplacing : replacing list.nextId old term =
        { term with id := term.id <|> old.id } := by
      obtain ⟨id, hId⟩ := Option.isSome_iff_exists.mp
        (hIds old (by simp [hTerms]))
      cases hOwn : term.id <;> simp [replacing, identify, hId, hOwn]
    rw [hPlaced, replaceAt_splice list term hTerms, hTerms, hReplacing]
    exact ⟨by simp, .renewed front back hOld⟩

/-! ## Removing -/

/-- With one identifier for each term, a term is found where it stands. -/
theorem position?_of_nodup {before after : List Term} {term : Term}
    (hTerms : list.terms = before ++ term :: after)
    (hIds : (list.terms.map Term.id).Nodup) (hId : term.id.isSome = true) :
    list.position? term = some before.length := by
  obtain ⟨id, hSome⟩ := Option.isSome_iff_exists.mp hId
  refine position?_of_first hTerms hSome fun other hMem => ?_
  rw [hTerms, List.map_append, List.map_cons] at hIds
  have hApart := (List.nodup_append.mp hIds).2.2 other.id
    (List.mem_map_of_mem hMem) term.id List.mem_cons_self
  rwa [hSome] at hApart

/-- Removing a matcher of the list drops it. -/
theorem drops_remove (hAlternates : Alternates list.terms)
    (hIds : (list.terms.map Term.id).Nodup) {term : Term}
    (hMem : term ∈ list.terms) (hId : term.id.isSome = true)
    (hTerm : term.kind = .matcher) :
    Drops term list.terms (list.remove term).terms := by
  obtain ⟨before, after, hTerms⟩ := List.append_of_mem hMem
  rw [terms_remove_matcher hTerms hTerm (position?_of_nodup hTerms hIds hId)]
  rw [hTerms] at hAlternates ⊢
  exact drops_withoutTerm hAlternates hTerm

/-- A term is found by its identifier alone. -/
theorem remove_congr {other : Term} (h : other.id = term.id)
    (hId : term.id.isSome = true) : list.remove other = list.remove term := by
  obtain ⟨id, hSome⟩ := Option.isSome_iff_exists.mp hId
  have hPosition : TermList.position? { list with held := none } other =
      TermList.position? { list with held := none } term := by
    rw [position?, position?, h, hSome]
  simp only [remove, hPosition]

/-- The cursor when a matcher goes: the term under it is looked for by its
identifier. -/
theorem cursor_remove_matcher {before after : List Term}
    (hTerms : list.terms = before ++ term :: after)
    (hTerm : term.kind = .matcher)
    (hPosition : list.position? term = some before.length) :
    (list.remove term).cursor =
      if (list.remove term).terms = [] ∨ list.cursor = none then none
      else
        let found := (list.current?.bind Term.id).bind fun id =>
          (list.remove term).terms.findIdx? (·.id == some id)
        some (found.getD
          (min (before.length - 1) ((list.remove term).terms.length - 1))) := by
  have hJoins : joinsMatchers list.terms before.length = false := by
    rw [hTerms]
    exact joinsMatchers_matcher hTerm
  have hSame : TermList.position? { list with held := none } term =
      list.position? term := rfl
  have hRestored : ∀ other : TermList,
      other.restorePlaceholder.cursor = other.cursor := by
    intro other
    unfold restorePlaceholder
    split <;> rfl
  rw [terms_remove_matcher hTerms hTerm hPosition]
  simp only [remove, hSame, hPosition, hJoins, Bool.false_eq_true, if_false]
  by_cases hNil : withoutTerm list.terms before.length = []
  · simp [hNil, hRestored]
  · cases hCursor : list.cursor with
    | none => simp [hNil]
    | some index => simp [hNil, hCursor, current?]

/-- **Removing a matcher** leaves the cursor where it was, as far as it can. -/
theorem cursorStays_remove (h : WellFormed list)
    (hIds : (list.terms.map Term.id).Nodup)
    (hIdentified : ∀ other ∈ list.terms, other.id.isSome = true)
    (hMem : term ∈ list.terms) (hTerm : term.kind = .matcher) :
    CursorStays list (list.remove term) := by
  obtain ⟨before, after, hTerms⟩ := List.append_of_mem hMem
  have hPosition := position?_of_nodup hTerms hIds (hIdentified term hMem)
  have hCursor := cursor_remove_matcher hTerms hTerm hPosition
  refine ⟨?_, ?_, ?_, ?_⟩
  · intro hNone
    rw [hCursor, if_pos (Or.inr hNone)]
  · -- No other term that is left has the identifier of the current one.
    intro current hIn hCurrent
    have hSublist := terms_remove_sublist list term
    obtain ⟨front, back, hLeft⟩ := List.append_of_mem hIn
    have hLeftIds : ((list.remove term).terms.map Term.id).Nodup :=
      hIds.sublist (hSublist.map Term.id)
    have hId := hIdentified current (hSublist.subset hIn)
    obtain ⟨id, hSome⟩ := Option.isSome_iff_exists.mp hId
    have hFound := position?_of_nodup hLeft hLeftIds hId
    rw [position?, hSome] at hFound
    have hMore : ¬ ((list.remove term).terms = [] ∨ list.cursor = none) := by
      rintro (hNil | hNone)
      · rw [hNil] at hIn
        cases hIn
      · rw [current?, hNone] at hCurrent
        cases hCurrent
    rw [if_neg hMore, hCurrent, Option.bind_some, hSome, Option.bind_some]
      at hCursor
    simp only [hFound, Option.getD_some] at hCursor
    rw [current?, hCursor, hLeft]
    simp
  · intro hSome hLeft
    have hMore : ¬ ((list.remove term).terms = [] ∨ list.cursor = none) := by
      rintro (hNil | hNone)
      · exact hLeft hNil
      · rw [hNone] at hSome
        cases hSome
    rw [if_neg hMore] at hCursor
    exact ⟨_, hCursor, (h.remove term).cursor_lt _ hCursor⟩
  · intro hNil
    rw [hCursor, if_pos (Or.inl hNil)]

/-! ## The three edits -/

end TermList

end QueryPhrase
