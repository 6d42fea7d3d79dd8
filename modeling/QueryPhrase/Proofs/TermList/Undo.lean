import QueryPhrase.Proofs.TermList.Identifiers
import QueryPhrase.Proofs.TermList.Sound

/-!
# Inserting and removing again

A matcher that is inserted and removed again leaves no trace among the terms,
in their number or in the placeholder, unless the cursor was on a separator.
There the matcher comes in behind that separator, with one of its own behind
it, and takes the separator in front of it along when it goes. So the separator
under the cursor gives way to a new one, whichever operator it had.

The matcher is found by its identifier. A list hands out identifiers that are
new until the counter has gone past the largest word; after that the first term
with the identifier may be another one.

## Main definitions

* `TermList.Unidentified` — the edits that insert no term with an identifier.
* `TermList.OnSeparator` — the cursor is on a separator.
* `TermList.Undone` — what a matcher that has come and gone leaves.

## Main results

* `TermList.undone_of_new` — from any list, if the next identifiers are new.
* `TermList.remove_insert_undone` — from every list that edits lead to.
-/

namespace QueryPhrase.TermList

/-- No term that comes in brings an identifier. -/
def Unidentified (list : TermList) : Edit → Prop
  | .insert term _ => term.id = none
  | .moveTo term => term.id = none ∨ (list.position? term).isSome = true
  | _ => True

/-- The cursor is on a separator. -/
def OnSeparator (list : TermList) : Prop :=
  list.current?.any Term.isSeparator = true

instance (list : TermList) : Decidable list.OnSeparator :=
  inferInstanceAs (Decidable (_ = true))

/-- A matcher has come into a list and is gone again: the terms are as many as
they were, and the placeholder is the same. The terms are the same, too, unless
the cursor was on a separator; that one has then given way to a new one. -/
structure Undone (before after : TermList) : Prop where
  count_eq : after.count = before.count
  placeholder_eq : after.placeholder = before.placeholder
  terms_eq_iff : after.terms = before.terms ↔ ¬ before.OnSeparator
  renewed : ∀ index, before.cursor = some index → before.OnSeparator →
    after.terms = before.terms.set index
      (joining (before.nextId + 1) before.separator)

variable {list : TermList} {term : Term}

theorem Unidentified.newIdentifiers {edit : Edit} (h : Unidentified list edit) :
    NewIdentifiers list edit := by
  cases edit with
  | insert term expectsSeparator => exact Or.inl h
  | _ => exact trivial

/-! ## Removing the current term -/

/-- The placeholder stays as it is while terms are left. -/
theorem placeholder_remove (list : TermList) (term : Term) :
    (list.remove term).terms = [] ∨
      (list.remove term).placeholder = list.placeholder := by
  simp only [remove]
  split
  · exact Or.inr rfl
  · split
    · exact Or.inr rfl
    · split
      · next hEmpty =>
        left
        rw [terms_restorePlaceholder]
        exact List.isEmpty_iff.mp hEmpty
      · right
        split <;> rfl

/-- The last term goes, and the placeholder set aside for it comes back. -/
theorem remove_alone {id : TermId} (hTerms : list.terms = [term])
    (hTerm : term.kind = .matcher) (hId : term.id = some id)
    (hPlaceholder : list.placeholder = none) :
    (list.remove term).terms = [] ∧ (list.remove term).placeholder =
      some { list.parked.getD (.blank list.matcher) with
        operator := list.matcher } := by
  have hNoSeparator : term.isSeparator = false := by
    simp [Term.isSeparator, hTerm]
  constructor
  · simp [terms_remove, position?, hId, hTerms, joinsMatchers, withoutTerm,
      hNoSeparator]
  · simp [remove, position?, hId, hTerms, joinsMatchers, withoutTerm,
      hNoSeparator, restorePlaceholder, hPlaceholder]

/-- The matcher under the cursor is the one that goes, when no term in front of
it has its identifier. -/
theorem remove_current {front back : List Term} {id : TermId}
    (hTerms : list.terms = front ++ term :: back)
    (hCursor : list.cursor = some front.length) (hTerm : term.kind = .matcher)
    (hId : term.id = some id) (hFront : ∀ other ∈ front, other.id ≠ some id) :
    list.current? = some term ∧
      (list.remove term).terms = withoutTerm list.terms front.length := by
  have hPosition := position?_of_first hTerms hId hFront
  refine ⟨?_, terms_remove_matcher hTerms hTerm hPosition⟩
  simp [current?, hCursor, hTerms]

/-! ## Inserting and removing -/

/-- The same terms are left, and the cursor was not on a separator. -/
theorem Undone.of_eq {before after : TermList} (hTerms : after.terms = before.terms)
    (hPlaceholder : after.placeholder = before.placeholder)
    (hCursor : ¬ before.OnSeparator) : Undone before after where
  count_eq := by rw [count, count, hTerms]
  placeholder_eq := hPlaceholder
  terms_eq_iff := ⟨fun _ => hCursor, fun _ => hTerms⟩
  renewed _ _ hOn := absurd hOn hCursor

section Undone

variable (hKind : list.kind = .filter) (hTerm : term.kind = .matcher)
  (hId : term.id = none)

include hTerm hId

private theorem placed_new (nextId : TermId) :
    (placed nextId term).kind = .matcher ∧
      (placed nextId term).id = some nextId ∧
        (identify nextId term).2 = nextId + 1 := by
  refine ⟨by rw [kind_placed, hTerm], ?_, ?_⟩
  · simp [identify, hId]
  · simp [identify, hId]

include hKind

/-- Into an empty list, where the placeholder is set aside. -/
private theorem undone_alone (h : WellFormed list) (hNil : list.terms = [])
    (hPlaceholder : list.placeholder.isSome = true) :
    ∃ current, (list.insert term).current? = some current ∧
      Undone list ((list.insert term).remove current) := by
  obtain ⟨placeholder, hSome⟩ := Option.isSome_iff_exists.mp hPlaceholder
  have hOperator := (h.placeholder_blank placeholder hSome).2.2
  have hCursor : list.cursor = none := h.sound.cursor_empty hNil
  obtain ⟨hPlaced, hNew, hNext⟩ := placed_new hTerm hId list.nextId
  have hInserted : list.insert term =
      { list with
        terms := [placed list.nextId term]
        cursor := some 0
        held := none
        nextId := list.nextId + 1
        parked := some placeholder
        placeholder := none } := by
    rw [insert_matcher hKind hTerm, place, hCursor, Option.elim_none,
      insertMatcher_nil list term hNil, hNext, park]
    simp [isEmpty, hNil, hSome]
  have hAlone : (list.insert term).terms = [placed list.nextId term] := by
    rw [hInserted]
  obtain ⟨hLeft, hRestored⟩ :=
    remove_alone hAlone hPlaced hNew (by rw [hInserted])
  refine ⟨placed list.nextId term, by rw [hInserted]; rfl, .of_eq ?_ ?_ ?_⟩
  · rw [hLeft, hNil]
  · rw [hRestored, hInserted, hSome, Option.getD_some, ← hOperator]
  · simp [OnSeparator, current?, hCursor]

/-- Into a list with terms: the placed term is the current one, and it goes from
between what is in front of it and behind it. -/
private theorem undone_placed {front back left : List Term}
    (hSome : list.terms ≠ [])
    (hTerms : (list.insertMatcher list.place term).terms =
      front ++ placed list.nextId term :: back)
    (hCursor : (list.insertMatcher list.place term).cursor =
      some front.length)
    (hFront : ∀ other ∈ front, other.id ≠ some list.nextId)
    (hWithout : withoutTerm (front ++ placed list.nextId term :: back)
      front.length = left) (hLeft : left ≠ []) :
    ∃ current, (list.insert term).current? = some current ∧
      ((list.insert term).remove current).terms = left ∧
      ((list.insert term).remove current).placeholder = list.placeholder := by
  have hInserted : list.insert term = list.insertMatcher list.place term := by
    rw [insert_matcher hKind hTerm, park, isEmpty,
      List.isEmpty_eq_false_iff.mpr hSome]
    rfl
  obtain ⟨hPlaced, hNew, _⟩ := placed_new hTerm hId list.nextId
  obtain ⟨hCurrent, hGone⟩ := remove_current hTerms hCursor hPlaced hNew hFront
  rw [hTerms, hWithout] at hGone
  rw [hInserted]
  refine ⟨_, hCurrent, hGone, ?_⟩
  have hPlaceholder := placeholder_remove (list.insertMatcher list.place term)
    (placed list.nextId term)
  rw [hGone] at hPlaceholder
  exact hPlaceholder.resolve_left hLeft

/-- In front of all terms: the matcher takes the separator behind it along. -/
private theorem undone_first {other : Term} {after : List Term}
    (hTerms : list.terms = other :: after) (hCursor : list.cursor = none)
    (hSeparator : list.separator.kind = .separator)
    (hInserted : list.insertMatcher list.place term =
      { list with
        terms := placed list.nextId term ::
          joining (list.nextId + 1) list.separator :: list.terms
        cursor := some 0
        held := none
        nextId := list.nextId + 1 + 1 }) :
    ∃ current, (list.insert term).current? = some current ∧
      Undone list ((list.insert term).remove current) := by
  have hSome : list.terms ≠ [] := by simp [hTerms]
  have hWithout : withoutTerm (placed list.nextId term ::
      joining (list.nextId + 1) list.separator :: list.terms) 0 =
        list.terms :=
    withoutTerm_head (Or.inr (by simp [hSeparator]))
  have hPlaced : (list.insertMatcher list.place term).terms =
      [] ++ placed list.nextId term ::
        joining (list.nextId + 1) list.separator :: list.terms := by
    rw [hInserted]
    rfl
  obtain ⟨current, hCurrent, hGone, hPlaceholder⟩ :=
    undone_placed hKind hTerm hId hSome hPlaced (by rw [hInserted]; rfl)
      (by simp) hWithout hSome
  refine ⟨current, hCurrent, .of_eq hGone hPlaceholder ?_⟩
  simp [OnSeparator, current?, hCursor]

/-- Behind a matcher: it takes the separator in front of it along, which came in
with it. -/
private theorem undone_behind {before after : List Term} {other : Term}
    {operator : Operator} (hTerms : list.terms = before ++ other :: after)
    (hCursor : list.cursor = some before.length)
    (hOther : other.kind = .matcher) (hAfter : Turns .separator after .separator)
    (hFresh : ∀ term ∈ list.terms, term.id ≠ some list.nextId)
    (hOperator : operator.kind = .separator)
    (hInserted : list.insertMatcher list.place term =
      { list with
        terms := before ++ other :: joining (list.nextId + 1) operator ::
          placed list.nextId term :: after
        cursor := some (before.length + 2)
        held := none
        nextId := list.nextId + 1 + 1 }) :
    ∃ current, (list.insert term).current? = some current ∧
      Undone list ((list.insert term).remove current) := by
  have hSome : list.terms ≠ [] := by simp [hTerms]
  have hHead : after.head?.all Term.isSeparator = true := by
    rcases hAfter.separator_cases with hNil | ⟨next, rest, hRest, hNext, _⟩
    · simp [hNil]
    · simp [hRest, hNext]
  have hWithout : withoutTerm ((before ++ [other,
      joining (list.nextId + 1) operator]) ++ placed list.nextId term :: after)
        (before ++ [other, joining (list.nextId + 1) operator]).length =
        list.terms := by
    have hGoes : withoutTerm ((before ++ [other]) ++
        joining (list.nextId + 1) operator :: placed list.nextId term :: after)
        ((before ++ [other]).length + 1) = (before ++ [other]) ++ after :=
      withoutTerm_concat hOperator hHead
    simpa [hTerms] using hGoes
  have hFront : ∀ term ∈ before ++ [other, joining (list.nextId + 1) operator],
      term.id ≠ some list.nextId := by
    intro term hMem
    rw [List.append_cons, List.mem_append, List.mem_singleton] at hMem
    rcases hMem with hOld | hJoining
    · refine hFresh term ?_
      rw [hTerms, List.append_cons]
      exact List.mem_append_left _ hOld
    · rw [hJoining]
      show some (list.nextId + 1) ≠ some list.nextId
      grind
  obtain ⟨current, hCurrent, hGone, hPlaceholder⟩ :=
    undone_placed hKind hTerm hId hSome (by rw [hInserted]; simp)
      (by rw [hInserted]; simp) hFront hWithout hSome
  refine ⟨current, hCurrent, .of_eq hGone hPlaceholder ?_⟩
  simp [OnSeparator, current?, hCursor, hTerms, Term.isSeparator, hOther]

/-- Behind a separator: the matcher takes that one along, and the separator that
came in with it stays in its place. -/
private theorem undone_onSeparator {before after : List Term} {separator : Term}
    (hTerms : list.terms = before ++ separator :: after)
    (hCursor : list.cursor = some before.length)
    (hSeparator : separator.kind = .separator)
    (hFresh : ∀ term ∈ list.terms, term.id ≠ some list.nextId ∧
      term.id ≠ some (list.nextId + 1))
    (hOperator : list.separator.kind = .separator)
    (hInserted : list.insertMatcher list.place term =
      { list with
        terms := before ++ separator :: placed list.nextId term ::
          joining (list.nextId + 1) list.separator :: after
        cursor := some (before.length + 1)
        held := none
        nextId := list.nextId + 1 + 1 }) :
    ∃ current, (list.insert term).current? = some current ∧
      Undone list ((list.insert term).remove current) := by
  have hSome : list.terms ≠ [] := by simp [hTerms]
  have hOn : list.OnSeparator := by
    simp [OnSeparator, current?, hCursor, hTerms, Term.isSeparator, hSeparator]
  have hWithout : withoutTerm ((before ++ [separator]) ++
      placed list.nextId term ::
        joining (list.nextId + 1) list.separator :: after)
        (before ++ [separator]).length =
        before ++ joining (list.nextId + 1) list.separator :: after := by
    have hGoes : withoutTerm (before ++ separator :: placed list.nextId term ::
        joining (list.nextId + 1) list.separator :: after)
        (before.length + 1) =
        before ++ joining (list.nextId + 1) list.separator :: after :=
      withoutTerm_concat hSeparator (by simp [hOperator])
    simpa using hGoes
  have hFront : ∀ term ∈ before ++ [separator], term.id ≠ some list.nextId := by
    intro term hMem
    refine (hFresh term ?_).1
    rw [hTerms, List.append_cons]
    exact List.mem_append_left _ hMem
  obtain ⟨current, hCurrent, hGone, hPlaceholder⟩ :=
    undone_placed hKind hTerm hId hSome (by rw [hInserted]; simp)
      (by rw [hInserted]; simp) hFront hWithout (by simp)
  refine ⟨current, hCurrent, ?_, hPlaceholder, ?_, ?_⟩
  · simp [count, hGone, hTerms]
  · refine ⟨fun hSame => ?_, fun hOff => absurd hOn hOff⟩
    -- The new separator cannot be the old one: its identifier is new.
    rw [hGone, hTerms, List.append_cancel_left_eq, List.cons.injEq] at hSame
    have hNew := (hFresh separator (by simp [hTerms])).2
    rw [← hSame.1] at hNew
    exact absurd rfl hNew
  · intro index hIndex _
    rw [hCursor] at hIndex
    cases hIndex
    simp [hGone, hTerms]

/-- **Inserting and removing again**, from any list that has no term with one of
the next two identifiers. -/
theorem undone_of_new (h : WellFormed list)
    (hSome : list.terms ≠ [] ∨ list.placeholder.isSome = true)
    (hFresh : ∀ other ∈ list.terms, other.id ≠ some list.nextId ∧
      other.id ≠ some (list.nextId + 1)) :
    ∃ current, (list.insert term).current? = some current ∧
      Undone list ((list.insert term).remove current) := by
  have hNext := (placed_new hTerm hId list.nextId).2.2
  rcases h.insertMatcher_cases hKind term with
    ⟨hNil, _⟩ | ⟨before, other, after, hTerms, hPlace, hBefore, _, hInserted⟩ |
      ⟨before, other, after, hTerms, hCursor, _, hOther, hAfter, hInserted⟩
  · exact undone_alone hKind hTerm hId h hNil
      (hSome.resolve_left fun hTerms => hTerms hNil)
  · rw [hNext] at hInserted
    rcases hBefore.eq_nil_or_concat with
      ⟨hNil, _⟩ | ⟨rest, last, hConcat, _, hLast⟩
    · subst hNil
      have hCursor : list.cursor = none := by
        cases hSome : list.cursor with
        | none => rfl
        | some index => simp [place, hSome] at hPlace
      refine undone_first hKind hTerm hId hTerms hCursor h.separator_kind ?_
      rw [hInserted, hTerms]
      rfl
    · have hCursor : list.cursor = some rest.length := by
        cases hIndex : list.cursor with
        | none => simp [place, hIndex, hConcat] at hPlace
        | some index => simpa [place, hIndex, hConcat] using hPlace
      have hCut : list.terms = rest ++ last :: (other :: after) := by
        rw [hTerms, hConcat, List.append_assoc, List.singleton_append]
      refine undone_onSeparator hKind hTerm hId hCut hCursor
        (TermKind.eq_separator_of_next hLast) hFresh h.separator_kind ?_
      simp [hInserted, hConcat]
  · rw [hNext] at hInserted
    exact undone_behind hKind hTerm hId hTerms hCursor hOther hAfter
      (fun other hMem => (hFresh other hMem).1) h.joining_kind hInserted

/-- While the counter does not go back, no term has one of the next two
identifiers. -/
theorem Numbered.fresh (h : Numbered list) (hWell : WellFormed list)
    (hUp : list.nextId ≤ (list.insert term).nextId) :
    ∀ other ∈ list.terms, other.id ≠ some list.nextId ∧
      other.id ≠ some (list.nextId + 1) := by
  intro other hOther
  have hNext := (placed_new hTerm hId list.nextId).2.2
  have hTwo : (list.insert term).nextId = list.nextId + 1 + 1 := by
    rw [insert_matcher hKind hTerm, nextId_park, ← hNext]
    rcases hWell.insertMatcher_cases hKind term with
      ⟨hNil, _⟩ | ⟨_, _, _, _, _, _, _, hInserted⟩ |
        ⟨_, _, _, _, _, _, _, _, hInserted⟩
    · rw [hNil] at hOther
      cases hOther
    · rw [hInserted]
    · rw [hInserted]
  have hStarted := h.started
  rw [hTwo] at hUp
  have hRoom : list.nextId + 1 ≠ 0 := by grind
  have hBelow := h.counted.below hRoom
  have hMem : other.id ∈ list.terms.map Term.id := List.mem_map_of_mem hOther
  constructor
  · intro hSame
    rw [hSame] at hMem
    exact absurd (hBelow _ hMem) (UInt64.lt_irrefl _)
  · intro hSame
    rw [hSame] at hMem
    have hLt := hBelow _ hMem
    grind

end Undone

/-- **Inserting and removing again** undoes the insertion, from every list that
edits lead to without terms that bring identifiers, as long as the counter does
not run past the largest word: the matcher is the current term once it is
inserted, and when it goes, the count and the placeholder are back. So are the
terms, unless the cursor was on a separator, which is then a new one. -/
theorem remove_insert_undone {list : TermList} {term : Term}
    (h : Reached (fun list edit =>
      Unidentified list edit ∧ WithinWords list edit) list)
    (hKind : list.kind = .filter)
    (hSome : list.terms ≠ [] ∨ list.placeholder.isSome = true)
    (hTerm : term.kind = .matcher) (hId : term.id = none)
    (expectsSeparator : Bool)
    (hWords : WithinWords list (.insert term expectsSeparator)) :
    ∃ current,
      ((Edit.insert term expectsSeparator).apply list).current? = some current ∧
      Undone list ((Edit.remove current).apply
        ((Edit.insert term expectsSeparator).apply list)) := by
  have hNumbered : Numbered list := by
    refine Reached.numbered (h.mono ?_)
    exact fun _ _ hPermitted => ⟨hPermitted.1.newIdentifiers, hPermitted.2⟩
  have hWell := h.wellFormed
  exact undone_of_new hKind hTerm hId hWell hSome
    (hNumbered.fresh hKind hTerm hId hWell hWords)

theorem remove_insert_undone_of_held :
    let first : Term :=
      { column := some "a", operator := .equal, value := some "1" }
    let second : Term :=
      { column := some "b", operator := .equal, value := some "2" }
    let alone := (Edit.insert first false).apply (.empty .filter)
    let list := (Edit.insert (.ofSeparator .or) false).apply alone
    Reached (fun list edit =>
      Unidentified list edit ∧ WithinWords list edit) list ∧
    list.kind = .filter ∧ list.terms ≠ [] ∧ list.held = some .or ∧
    second.kind = .matcher ∧ second.id = none ∧
    WithinWords list (.insert second true) ∧
    ∃ current,
      ((Edit.insert second true).apply list).current? = some current ∧
      Undone list ((Edit.remove current).apply
        ((Edit.insert second true).apply list)) := by
  intro first second alone list
  have hReached : Reached (fun list edit =>
      Unidentified list edit ∧ WithinWords list edit) list := by
    refine .edit _ (.edit _ (.empty .filter) ⟨rfl, ?_⟩) ⟨rfl, ?_⟩
    · show (1 : TermId) ≤ _
      decide
    · show alone.nextId ≤ _
      decide
  have hSome : list.terms ≠ [] := by decide
  have hWords : WithinWords list (.insert second true) := by
    show list.nextId ≤ _
    decide
  exact ⟨hReached, rfl, hSome, rfl, rfl, rfl, hWords,
    remove_insert_undone hReached rfl (Or.inl hSome) rfl rfl true hWords⟩

/-! ## Where the terms are not back -/

/-- A filter list of one term, with the counter anywhere. -/
private def lone (nextId : TermId) : TermList :=
  { empty .filter with
    terms := [{ id := some 2, operator := .equal, value := some "2" }]
    cursor := some 0
    placeholder := none
    parked := some (.blank .like)
    nextId := nextId }

private def valued (value : Text) : Term :=
  { operator := .equal, value := some value }

/-- A term that comes and goes takes two identifiers, and nothing else changes,
unless it is given the identifier of the other term. -/
private theorem remove_insert_lone {nextId : TermId} (hNew : nextId ≠ 2) :
    ((lone nextId).insert (valued "3")).remove
      { valued "3" with id := some nextId } = lone (nextId + 2) := by
  have hInserted : (lone nextId).insert (valued "3") =
      { lone nextId with
        terms := [{ id := some 2, operator := .equal, value := some "2" },
          joining (nextId + 1) .and, { valued "3" with id := some nextId }]
        cursor := some 2
        nextId := nextId + 2 } := by
    have hNext : nextId + 1 + 1 = nextId + 2 := by grind
    rw [← hNext]
    rfl
  have hApart : nextId + 1 ≠ nextId := by grind
  rw [hInserted]
  simp [remove, position?, lone, joining, identify, valued, joinsMatchers,
    withoutTerm, separatorOrNone, current?, hNew.symm, hApart, empty,
    List.findIdx?_cons, Term.ofSeparator, Term.isSeparator, Term.kind,
    Operator.kind]

private theorem reached_lone (steps : Nat)
    (hSteps : steps < 0x8000000000000000) :
    Reached Unidentified (lone (UInt64.ofNat (4 + 2 * steps))) := by
  induction steps with
  | zero =>
      have hStart : lone 4 =
          (((empty .filter).insert (valued "1")).insert (valued "2")).remove
            { valued "1" with id := some 1 } := by decide
      rw [Nat.mul_zero, Nat.add_zero]
      show Reached Unidentified (lone 4)
      rw [hStart]
      have hTwo : Reached Unidentified
          (((empty .filter).insert (valued "1")).insert (valued "2")) :=
        .edit (.insert _ false) (.edit (.insert _ false) (.empty .filter) rfl)
          rfl
      exact .edit (.remove { valued "1" with id := some 1 }) hTwo trivial
  | succ steps ih =>
      have hNew : UInt64.ofNat (4 + 2 * steps) ≠ 2 := by
        intro hSame
        have hNat := congrArg UInt64.toNat hSame
        simp at hNat
        omega
      have hNext : UInt64.ofNat (4 + 2 * (steps + 1)) =
          UInt64.ofNat (4 + 2 * steps) + 2 := by
        rw [← UInt64.toNat_inj]
        simp
        omega
      rw [hNext, ← remove_insert_lone hNew]
      exact .edit (.remove _) (.edit (.insert _ false) (ih (by omega)) rfl)
        trivial

/-- The separator that has the cursor is gone with the matcher, and an `and` has
come in for an `or`. Past the largest word the terms may differ with the cursor
on a matcher: the identifier of the inserted one is that of another, which goes
in its place. -/
theorem remove_insert_ne_of_separator :
    let matcher (column value : Text) : Term :=
      { column := some column, operator := .equal, value := some value }
    let first := (Edit.insert (matcher "a" "1") false).apply (.empty .filter)
    let held := (Edit.insert (.ofSeparator .or) false).apply first
    let both := (Edit.insert (matcher "b" "2") false).apply held
    let list :=
      (Edit.moveTo { Term.ofSeparator .or with id := some 3 }).apply both
    let inserted := (Edit.insert (matcher "c" "3") false).apply list
    (Reached (fun list edit =>
        Unidentified list edit ∧ WithinWords list edit) list ∧
      list.phrase = "a = 1 or b = 2" ∧
      (∃ current, inserted.current? = some current ∧
        ((Edit.remove current).apply inserted).phrase = "a = 1 and b = 2" ∧
        ((Edit.remove current).apply inserted).terms ≠ list.terms)) ∧
    ∃ other : TermList, Reached Unidentified other ∧ other.kind = .filter ∧
      other.terms ≠ [] ∧ ¬ other.OnSeparator ∧
      ∃ current,
        ((Edit.insert (matcher "c" "3") false).apply other).current? =
          some current ∧
        ((Edit.remove current).apply
          ((Edit.insert (matcher "c" "3") false).apply other)).terms ≠
            other.terms := by
  intro matcher first held both list inserted
  constructor
  · refine ⟨?_, by decide, { matcher "c" "3" with id := some 4 }, by decide,
      by decide, by decide⟩
    have hFound : both.position? { Term.ofSeparator .or with id := some 3 } =
        some 1 := by decide
    refine .edit _ (.edit _ (.edit _ (.edit _ (.empty .filter) ⟨rfl, ?_⟩)
      ⟨rfl, ?_⟩) ⟨rfl, ?_⟩) ⟨Or.inr (by rw [hFound]; rfl), ?_⟩
    · show (1 : TermId) ≤ _
      decide
    · show first.nextId ≤ _
      decide
    · show held.nextId ≤ _
      decide
    · show both.nextId ≤ _
      decide
  · have hRound : UInt64.ofNat (4 + 2 * (2 ^ 63 - 1)) = 2 := by
      rw [← UInt64.toNat_inj]
      simp
    have hReached := reached_lone (2 ^ 63 - 1) (by omega)
    rw [hRound] at hReached
    exact ⟨lone 2, hReached, rfl, by decide, by decide, _, rfl, by decide⟩

end QueryPhrase.TermList
