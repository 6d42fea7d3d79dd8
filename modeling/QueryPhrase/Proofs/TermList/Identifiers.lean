import QueryPhrase.Proofs.TermList.Members

/-!
# One identifier for each term

A list hands out identifiers in order and moves its counter past every one that
a term brings along, so the counter is ahead of all of them. That is so until the
counter comes to the largest word. A term that brings that word leaves the counter
on it, and then the next term the list identifies is given the same word.

Identifiers come from three places: a term brings its own, the counter gives one,
and a separator that takes the place of another keeps that one's. In every case
one identifier goes to the front of those that stay, so one lemma,
`Counted.identify`, is behind all of them.

## Main definitions

* `TermList.Counted` — a counter and the identifiers it is ahead of.
* `TermList.NewIdentifiers` — the edits that insert no term with an identifier
  that is taken.
* `TermList.WithinWords` — the edits that do not run the counter past the largest
  word.

## Main results

* `TermList.Numbered.apply` — such edits keep one identifier for each term.
* `TermList.reached_ids_distinct` — the terms of a list have one each.
-/

namespace QueryPhrase.TermList

/-! ## The counter -/

/-- No identifier stands twice, and until the counter has come to the largest
word it is ahead of them all. -/
structure Counted (nextId : TermId) (ids : List (Option TermId)) : Prop where
  distinct : ids.Nodup
  below : nextId + 1 ≠ 0 → ∀ id, some id ∈ ids → id < nextId

namespace Counted

variable {nextId : TermId} {ids others : List (Option TermId)} {term : Term}

theorem perm (h : Counted nextId ids) (hPerm : ids.Perm others) :
    Counted nextId others :=
  ⟨hPerm.nodup h.distinct, fun hRoom id hId =>
    h.below hRoom id (hPerm.mem_iff.mpr hId)⟩

theorem sublist (h : Counted nextId ids) (hSub : others.Sublist ids) :
    Counted nextId others :=
  ⟨h.distinct.sublist hSub, fun hRoom id hId =>
    h.below hRoom id (hSub.subset hId)⟩

private theorem lt_succ {id : TermId} (hRoom : id + 1 ≠ 0) : id < id + 1 := by
  grind

private theorem lt_max {id a b : TermId} (h : id < a ∨ id < b) :
    id < max a b := by
  simp only [UInt64.lt_iff_toNat_lt, UInt64.toNat_max] at h ⊢
  omega

/-- If the larger of two words is not the largest word, neither of them is. -/
private theorem room_of_max {a b : TermId} (hRoom : max a b + 1 ≠ 0) :
    a + 1 ≠ 0 ∧ b + 1 ≠ 0 := by
  have hA := a.toNat_lt
  have hB := b.toNat_lt
  simp only [ne_eq, succ_eq_zero_iff, UInt64.toNat_max, UInt64.size] at hRoom ⊢
  omega

private theorem lt_succSaturating {id : TermId}
    (hRoom : succSaturating id + 1 ≠ 0) : id < succSaturating id := by
  unfold succSaturating at hRoom ⊢
  split
  · next hLast =>
    rw [if_pos hLast] at hRoom
    exact absurd hLast hRoom
  · next hSome => exact lt_succ hSome

/-- **Identifying a term** puts one identifier in front of the others: its own,
which must not be there yet, or that of a counter short of the largest word. -/
theorem identify (h : Counted nextId ids) (term : Term)
    (hNew : term.id = none ∨ term.id ∉ ids)
    (hRoom : term.id = none → nextId + 1 ≠ 0) :
    Counted (identify nextId term).2
      ((TermList.identify nextId term).1.id :: ids) := by
  cases hId : term.id with
  | some id =>
      have hFresh : some id ∉ ids := by
        rw [hId] at hNew
        exact hNew.resolve_left (by simp)
      simp only [TermList.identify, hId]
      refine ⟨List.nodup_cons.mpr ⟨hFresh, h.distinct⟩, ?_⟩
      intro hNext other hOther
      obtain ⟨hOld, hOwn⟩ := room_of_max hNext
      rcases List.mem_cons.mp hOther with hSame | hMem
      · cases hSame
        exact lt_max (Or.inr (lt_succSaturating hOwn))
      · exact lt_max (Or.inl (h.below hOld other hMem))
  | none =>
      have hOld := hRoom hId
      simp only [TermList.identify, hId]
      refine ⟨List.nodup_cons.mpr ⟨?_, h.distinct⟩, ?_⟩
      · intro hMem
        exact absurd (h.below hOld nextId hMem) (UInt64.lt_irrefl nextId)
      · intro _ other hOther
        rcases List.mem_cons.mp hOther with hSame | hMem
        · cases hSame
          exact lt_succ hOld
        · exact UInt64.lt_trans (h.below hOld other hMem) (lt_succ hOld)

/-- What stands for one of the identifiers is that one, unless the term brings
its own. -/
theorem replace {old : Option TermId} (h : Counted nextId (old :: ids))
    (hNew : term.id = none ∨ term.id ∉ ids)
    (hRoom : (term.id <|> old) = none → nextId + 1 ≠ 0) :
    Counted
      (TermList.identify nextId { term with id := term.id <|> old }).2
      ((TermList.identify nextId { term with id := term.id <|> old }).1.id ::
        ids) := by
  have hOld := (List.nodup_cons.mp h.distinct).1
  refine (h.sublist (List.sublist_cons_self old ids)).identify _ ?_ hRoom
  cases hId : term.id with
  | none => exact Or.inr hOld
  | some id =>
      rw [hId] at hNew
      exact hNew

end Counted

/-! ## Numbered lists -/

/-- The counter of the list is ahead of its identifiers, and it has not come
round to zero. -/
structure Numbered (list : TermList) : Prop where
  counted : Counted list.nextId (list.terms.map Term.id)
  started : list.nextId ≠ 0

theorem numbered_empty (kind : ListKind) : Numbered (.empty kind) := by
  refine ⟨⟨List.nodup_nil, fun _ id hId => by cases hId⟩, ?_⟩
  show (1 : TermId) ≠ 0
  decide

/-- Where a list does not run out of words by identifying a term, there is one
for the term. -/
private theorem room_of_le {nextId : TermId} {term : Term}
    (hUp : nextId ≤ (identify nextId term).2) (hId : term.id = none) :
    nextId + 1 ≠ 0 := by
  simp only [identify, hId] at hUp
  grind

/-- Where it does not run out by identifying a term and a separator, there is one
for either. -/
private theorem room_of_le_succ {nextId : TermId} {term : Term}
    (hStarted : nextId ≠ 0) (hUp : nextId ≤ (identify nextId term).2 + 1) :
    (term.id = none → nextId + 1 ≠ 0) ∧ (identify nextId term).2 + 1 ≠ 0 := by
  refine ⟨fun hId => ?_, ?_⟩
  · simp only [identify, hId] at hUp
    grind
  · grind

namespace Numbered

variable {list : TermList} {term : Term}

/-- A term and a separator that joins it. -/
private theorem joined (h : Numbered list)
    (hNew : term.id = none ∨ term.id ∉ list.terms.map Term.id)
    (hUp : list.nextId ≤ (identify list.nextId term).2 + 1)
    (operator : Operator) :
    Counted ((identify list.nextId term).2 + 1)
      ((joining (identify list.nextId term).2 operator).id ::
        (placed list.nextId term).id :: list.terms.map Term.id) := by
  obtain ⟨hTerm, hSeparator⟩ := room_of_le_succ h.started hUp
  rw [id_placed]
  exact (h.counted.identify term hNew hTerm).identify
    (.ofSeparator operator) (Or.inl rfl) fun _ => hSeparator

private theorem insertMatcher (h : Numbered list) (hWell : WellFormed list)
    (hKind : list.kind = .filter)
    (hNew : term.id = none ∨ term.id ∉ list.terms.map Term.id)
    (hUp : list.nextId ≤ (list.insertMatcher list.place term).nextId) :
    Counted (list.insertMatcher list.place term).nextId
      ((list.insertMatcher list.place term).terms.map Term.id) := by
  rcases hWell.insertMatcher_cases hKind term with
    ⟨hNil, hInserted⟩ | ⟨before, other, after, hTerms, _, _, _, hInserted⟩ |
      ⟨before, other, after, hTerms, _, _, _, _, hInserted⟩
  · rw [hInserted] at hUp ⊢
    have hCounted := h.counted.identify term hNew (room_of_le hUp)
    simpa [hNil] using hCounted
  · rw [hInserted] at hUp ⊢
    have hPerm := List.perm_append_comm_assoc (before.map Term.id)
      [(placed list.nextId term).id,
        (joining (identify list.nextId term).2 list.separator).id]
      ((other :: after).map Term.id)
    refine (h.joined hNew hUp list.separator).perm ?_
    refine (List.Perm.swap _ _ _).trans ?_
    simpa [hTerms] using hPerm.symm
  · rw [hInserted] at hUp ⊢
    have hPerm := List.perm_append_comm_assoc ((before ++ [other]).map Term.id)
      [(joining (identify list.nextId term).2
          (list.held.getD list.separator)).id,
        (placed list.nextId term).id]
      (after.map Term.id)
    refine (h.joined hNew hUp (list.held.getD list.separator)).perm ?_
    simpa [hTerms] using hPerm.symm

private theorem insertSorter (h : Numbered list) (hWell : WellFormed list)
    (hNew : term.id = none ∨ term.id ∉ list.terms.map Term.id)
    (hUp : list.nextId ≤ (list.insertSorter list.place term).nextId) :
    Counted (list.insertSorter list.place term).nextId
      ((list.insertSorter list.place term).terms.map Term.id) := by
  have hPerm := (List.perm_insertIdx (placed list.nextId term) list.terms
    hWell.place_le).map Term.id
  rw [insertSorter_splice] at hUp ⊢
  refine (h.counted.identify term hNew (room_of_le hUp)).perm ?_
  simpa using hPerm.symm

/-- The separator that goes leaves its identifier to one that has none. -/
private theorem insertSeparator (h : Numbered list) (hWell : WellFormed list)
    (hKind : list.kind = .filter)
    (hNew : term.id = none ∨ term.id ∉ list.terms.map Term.id)
    (hUp : list.nextId ≤ (list.insertSeparator list.place term).nextId) :
    Counted (list.insertSeparator list.place term).nextId
      ((list.insertSeparator list.place term).terms.map Term.id) := by
  rcases hWell.insertSeparator_cases hKind term with
    hSame | ⟨hHeld, _⟩ | ⟨before, old, after, hTerms, _, _, hPlaced⟩
  · rw [hSame]
    exact h.counted
  · rw [hHeld]
    exact h.counted
  · rw [hPlaced, replaceAt_splice list term hTerms] at hUp ⊢
    have hIds : (list.terms.map Term.id).Perm
        (old.id :: (before ++ after).map Term.id) := by
      simp [hTerms]
    have hOld := h.counted.perm hIds
    have hTerm : term.id = none ∨ term.id ∉ (before ++ after).map Term.id := by
      refine hNew.imp_right fun hOther hMem => hOther ?_
      exact hIds.mem_iff.mpr (List.mem_cons_of_mem _ hMem)
    refine (hOld.replace hTerm (room_of_le hUp)).perm ?_
    simpa [replacing] using List.perm_middle.symm

/-- **Inserting** keeps one identifier for each term, if the term brings none
that is taken and the counter does not go back. -/
theorem insert (h : Numbered list) (hWell : WellFormed list)
    (hNew : term.id = none ∨ term.id ∉ list.terms.map Term.id)
    (hUp : list.nextId ≤ (list.insert term).nextId) :
    Numbered (list.insert term) := by
  have hStarted : (list.insert term).nextId ≠ 0 := by
    have hStart := h.started
    grind
  refine ⟨?_, hStarted⟩
  cases hAccepts : list.kind.accepts term.kind with
  | false =>
      rw [insert_refused hAccepts]
      exact h.counted
  | true =>
      cases hKind : list.kind with
      | filter =>
          cases hTerm : term.kind with
          | matcher =>
              rw [insert_matcher hKind hTerm, nextId_park] at hUp ⊢
              rw [terms_park]
              exact h.insertMatcher hWell hKind hNew hUp
          | separator =>
              rw [insert_separator hKind hTerm, nextId_park] at hUp ⊢
              rw [terms_park]
              exact h.insertSeparator hWell hKind hNew hUp
          | sorter =>
              rw [hKind, hTerm] at hAccepts
              cases hAccepts
      | sorter =>
          have hTerm : term.kind = .sorter := by
            simpa [hKind, ListKind.accepts] using hAccepts
          rw [insert_sorter hKind hTerm, nextId_park] at hUp ⊢
          rw [terms_park]
          exact h.insertSorter hWell hNew hUp

/-- Other terms with the same identifiers. -/
private theorem congr {other : TermList} (h : Numbered list)
    (hIds : other.terms.map Term.id = list.terms.map Term.id)
    (hNext : other.nextId = list.nextId) : Numbered other := by
  refine ⟨?_, ?_⟩
  · rw [hIds, hNext]
    exact h.counted
  · rw [hNext]
    exact h.started

theorem remove (h : Numbered list) (term : Term) :
    Numbered (list.remove term) := by
  have hNext := (remove_keeps list term).2
  refine ⟨?_, ?_⟩
  · rw [hNext]
    exact h.counted.sublist ((terms_remove_sublist list term).map Term.id)
  · rw [hNext]
    exact h.started

/-- A term that is not found has no identifier, or one that is not taken. -/
private theorem new_of_position? (hPosition : list.position? term = none) :
    term.id = none ∨ term.id ∉ list.terms.map Term.id := by
  cases hId : term.id with
  | none => exact Or.inl rfl
  | some id =>
      right
      intro hMem
      obtain ⟨other, hOther, hSame⟩ := List.mem_map.mp hMem
      have hFound := position?_eq_none_iff.mp hPosition other hOther
      simp [denotes, hId, hSame] at hFound

theorem moveTo (h : Numbered list) (hWell : WellFormed list)
    (hUp : list.nextId ≤ (list.moveTo term).nextId) :
    Numbered (list.moveTo term) := by
  unfold TermList.moveTo at hUp ⊢
  split at hUp
  · exact h.congr rfl rfl
  · next hPosition => exact h.insert hWell (new_of_position? hPosition) hUp

/-- A value goes into a term that has its identifier, or into a placeholder or a
blank term, which has none. -/
theorem write (h : Numbered list) (hWell : WellFormed list) (value : Text)
    (hUp : list.nextId ≤ (list.write value).nextId) :
    Numbered (list.write value) := by
  unfold TermList.write at hUp ⊢
  split at hUp
  · next placeholder hPlaceholder =>
    have hBlank := (hWell.placeholder_blank placeholder hPlaceholder).2.1
    have hTaken : Numbered { list with placeholder := none } :=
      h.congr rfl rfl
    exact hTaken.insert hWell.unplaced (Or.inl hBlank) hUp
  · split at hUp
    · refine h.congr (map_modify ?_) rfl
      intro term
      split <;> rfl
    · exact h.insert hWell (Or.inl rfl) hUp

theorem withMatcher (h : Numbered list) (operator : Operator) :
    Numbered (list.withMatcher operator) := by
  simp only [TermList.withMatcher]
  split
  · exact h
  · split
    · exact h.congr rfl rfl
    · refine h.congr (map_modify ?_) rfl
      intro term
      split <;> rfl
    · exact h.congr rfl rfl

end Numbered

/-! ## Runs within the words -/

/-- The counter never goes back while the terms are inserted one after the other.
-/
def CountsUp : TermList → List Term → Prop
  | _, [] => True
  | list, term :: rest =>
    list.nextId ≤ (list.insert term).nextId ∧ CountsUp (list.insert term) rest

/-- A term that is inserted brings no identifier, or one that no term of the list
has. A term the cursor is moved onto comes in only when no term has its
identifier, so nothing is asked of it. -/
def NewIdentifiers (list : TermList) : Edit → Prop
  | .insert term _ => term.id = none ∨ ∀ other ∈ list.terms, other.id ≠ term.id
  | _ => True

/-- The counter does not go back, which it does only past the largest word. The
list of a phrase and a cleared list begin to count anew. -/
def WithinWords (list : TermList) : Edit → Prop
  | .phrase text => CountsUp (.empty .filter) (Term.ofPhrase text)
  | .cleared => True
  | edit => list.nextId ≤ (edit.apply list).nextId

theorem Numbered.insertAll {terms : List Term} :
    ∀ {list : TermList}, Numbered list → WellFormed list →
      (∀ term ∈ terms, term.id = none) → CountsUp list terms →
        Numbered (list.insertAll terms) := by
  induction terms with
  | nil => exact fun h _ _ _ => h
  | cons term rest ih =>
      intro list h hWell hIds hUp
      rw [List.forall_mem_cons] at hIds
      exact ih (h.insert hWell (Or.inl hIds.1) hUp.1) (hWell.insert term)
        hIds.2 hUp.2

/-- The terms of a phrase have no identifiers yet. -/
theorem id_ofPhrase (text : Text) :
    ∀ term ∈ Term.ofPhrase text, term.id = none := by
  intro term hTerm
  obtain ⟨token, _, hToken⟩ := List.mem_filterMap.mp hTerm
  unfold Term.ofToken at hToken
  split at hToken
  · simp only [Term.ofMatcherToken, Option.bind_eq_bind,
      Option.bind_eq_some_iff, Option.pure_def, Option.some.injEq] at hToken
    obtain ⟨_, _, _, _, hSame⟩ := hToken
    rw [← hSame]
  · rw [Option.map_eq_some_iff] at hToken
    obtain ⟨_, _, hSame⟩ := hToken
    rw [← hSame]
    rfl
  · cases hToken

/-- **Every edit within the words** keeps one identifier for each term. -/
theorem Numbered.apply {list : TermList} {edit : Edit} (h : Numbered list)
    (hWell : WellFormed list) (hNew : NewIdentifiers list edit)
    (hWords : WithinWords list edit) : Numbered (edit.apply list) := by
  cases edit with
  | insert term expectsSeparator =>
      refine h.insert hWell (hNew.imp_right fun hOther hMem => ?_) hWords
      obtain ⟨other, hIn, hSame⟩ := List.mem_map.mp hMem
      exact hOther other hIn hSame
  | remove term => exact h.remove term
  | moveTo term => exact h.moveTo hWell hWords
  | moveToStart => exact h.congr rfl rfl
  | write value => exact h.write hWell value hWords
  | withPlaceholder column => exact h.congr rfl rfl
  | withoutPlaceholder => exact h.congr rfl rfl
  | withSeparator operator =>
      change Numbered (list.withSeparator operator)
      unfold withSeparator
      split
      · exact h.congr rfl rfl
      · exact h
  | withMatcher operator => exact h.withMatcher operator
  | phrase text =>
      exact (numbered_empty .filter).insertAll (wellFormed_empty .filter)
        (id_ofPhrase text) hWords
  | cleared => exact (numbered_empty list.kind).congr rfl rfl
  | rebuild => exact h

theorem Reached.numbered {list : TermList}
    (h : Reached (fun list edit =>
      NewIdentifiers list edit ∧ WithinWords list edit) list) :
    Numbered list := by
  have hBoth : WellFormed list ∧ Numbered list := by
    refine h.invariant
      (P := fun list => WellFormed list ∧ Numbered list) ?_ ?_
    · exact fun kind => ⟨wellFormed_empty kind, numbered_empty kind⟩
    · intro list edit hList hPermitted
      exact ⟨hList.1.apply edit,
        hList.2.apply hList.1 hPermitted.1 hPermitted.2⟩
  exact hBoth.2

end QueryPhrase.TermList
