import QueryPhrase.Proofs.TermList.Turns

/-!
# Edits as splices

An edit of a list at its cursor takes the terms as two pieces and puts something
between them. The lemmas here say, for each way the pieces can meet, which list
comes out, identifiers included; proofs about whole runs use them and do not
open the edits.

## Main results

* `insertMatcher_nil`, `insertMatcher_before`, `insertMatcher_after` — a matcher
  is alone, comes before a matcher, or comes after one.
* `insertSeparator_start`, `insertSeparator_onto`, `insertSeparator_next`,
  `insertSeparator_held` — a separator is dropped, takes the place of one on
  either side, or is held.
* `withoutTerm_head`, `withoutTerm_concat` — a matcher that goes takes the
  separator after it along, or the one before it.
-/

namespace QueryPhrase.TermList

/-- A term as it stands in a list once it is inserted. -/
def placed (nextId : TermId) (term : Term) : Term :=
  dropEmptyColumn (identify nextId term).1

/-- A separator put in by the list itself. -/
def joining (nextId : TermId) (operator : Operator) : Term :=
  (identify nextId (.ofSeparator operator)).1

@[simp] theorem kind_identify (nextId : TermId) (term : Term) :
    (identify nextId term).1.kind = term.kind := by
  unfold identify
  split <;> rfl

@[simp] theorem kind_dropEmptyColumn (term : Term) :
    (dropEmptyColumn term).kind = term.kind := by
  unfold dropEmptyColumn
  split <;> rfl

@[simp] theorem kind_placed (nextId : TermId) (term : Term) :
    (placed nextId term).kind = term.kind := by
  rw [placed, kind_dropEmptyColumn, kind_identify]

@[simp] theorem id_placed (nextId : TermId) (term : Term) :
    (placed nextId term).id = (identify nextId term).1.id := by
  unfold placed dropEmptyColumn
  split <;> rfl

/-- A term brings its own identifier or is given the next one. -/
theorem id_identify (nextId : TermId) (term : Term) :
    (identify nextId term).1.id = some (term.id.getD nextId) := by
  cases hId : term.id <;> simp [identify, hId]

/-- The word after the largest one is zero. -/
theorem succ_eq_zero_iff {id : TermId} :
    id + 1 = 0 ↔ id.toNat + 1 = UInt64.size := by
  rw [← UInt64.toNat_inj, UInt64.toNat_add]
  have hLt := id.toNat_lt
  simp only [UInt64.toNat_one, UInt64.toNat_zero, UInt64.size]
  omega

@[simp] theorem kind_joining (nextId : TermId) (operator : Operator) :
    (joining nextId operator).kind = operator.kind := rfl

theorem identify_ofSeparator (nextId : TermId) (operator : Operator) :
    identify nextId (.ofSeparator operator) =
      (joining nextId operator, nextId + 1) := rfl

/-- Whether looking for a term finds another one: the one with its identifier, if
it has one, or else one with its content. -/
def denotes (term other : Term) : Bool :=
  match term.id with
  | some id => other.id == some id
  | none => other.sameAs term

theorem position?_eq (list : TermList) (term : Term) :
    list.position? term = list.terms.findIdx? (denotes term) := by
  cases hId : term.id <;> simp only [position?, hId] <;>
    exact congrArg (list.terms.findIdx? ·) (by funext other; simp [denotes, hId])

theorem position?_lt {list : TermList} {term : Term} {index : Nat}
    (h : list.position? term = some index) : index < list.terms.length := by
  rw [position?_eq] at h
  exact (List.findIdx?_eq_some_iff_getElem.mp h).1

theorem position?_eq_none_iff {list : TermList} {term : Term} :
    list.position? term = none ↔
      ∀ other ∈ list.terms, denotes term other = false := by
  rw [position?_eq, List.findIdx?_eq_none_iff]

/-- A term is found at the first place where one that it denotes stands. -/
theorem position?_of_denotes {list : TermList} {before after : List Term}
    {term found : Term} (hTerms : list.terms = before ++ found :: after)
    (hFound : denotes term found = true)
    (hBefore : ∀ other ∈ before, denotes term other = false) :
    list.position? term = some before.length := by
  have hNone : before.findIdx? (denotes term) = none :=
    List.findIdx?_eq_none_iff.mpr hBefore
  simp [position?_eq, hTerms, List.findIdx?_append, hNone, List.findIdx?_cons,
    hFound]

/-- A term is found where it stands when none before it has its identifier. -/
theorem position?_of_first {list : TermList} {before after : List Term}
    {term : Term} {id : TermId} (hTerms : list.terms = before ++ term :: after)
    (hId : term.id = some id) (hBefore : ∀ other ∈ before, other.id ≠ some id) :
    list.position? term = some before.length := by
  refine position?_of_denotes hTerms (by simp [denotes, hId]) ?_
  intro other hMem
  simpa [denotes, hId] using hBefore other hMem

/-- The pieces around the term at an index. -/
theorem exists_cut {terms : List Term} {index : Nat}
    (h : index < terms.length) :
    ∃ before current after, terms = before ++ current :: after ∧
      before.length = index := by
  refine ⟨terms.take index, terms[index], terms.drop (index + 1), ?_, ?_⟩
  · rw [List.getElem_cons_drop, List.take_append_drop]
  · rw [List.length_take, Nat.min_eq_left (Nat.le_of_lt h)]

/-- What a rewriting leaves of each term it leaves of the list. -/
theorem map_modify {α : Type} {g : Term → α} {f : Term → Term}
    (hSame : ∀ term, g (f term) = g term) {terms : List Term} :
    ∀ {index : Nat}, (terms.modify index f).map g = terms.map g := by
  induction terms with
  | nil => simp
  | cons term rest ih =>
      intro index
      cases index with
      | zero => simp [hSame]
      | succ index => simp [ih]

/-- A rewriting that leaves the term at the index as it is changes nothing. -/
theorem modify_of_fixed {f : Term → Term} {terms : List Term} {index : Nat}
    (h : ∀ term, terms[index]? = some term → f term = term) :
    terms.modify index f = terms := by
  refine List.ext_getElem? fun i => ?_
  rw [List.getElem?_modify]
  split
  · next hIndex =>
    subst hIndex
    cases hTerm : terms[index]? with
    | none => rfl
    | some term => rw [Option.map_eq_map, Option.map_some, h term hTerm]
  · exact Option.map_id_apply

/-! ## Inserting a matcher -/

section InsertMatcher

variable (list : TermList) (term : Term)

theorem insertMatcher_nil (hTerms : list.terms = []) :
    list.insertMatcher 0 term =
      { list with
        terms := [placed list.nextId term]
        cursor := some 0
        held := none
        nextId := (identify list.nextId term).2 } := by
  simp [insertMatcher, matcherAt, hTerms, placed]

/-- In front of a matcher, with no matcher in front of it: a separator follows.
-/
theorem insertMatcher_before {before after : List Term} {other : Term}
    (hTerms : list.terms = before ++ other :: after)
    (hOther : other.kind = .matcher)
    (hBefore : before.getLast?.any Term.isMatcher = false) :
    list.insertMatcher before.length term =
      { list with
        terms := before ++ placed list.nextId term ::
          joining (identify list.nextId term).2 list.separator :: other :: after
        cursor := some before.length
        held := none
        nextId := (identify list.nextId term).2 + 1 } := by
  have hJoinsAfter : matcherAt list.terms before.length = true := by
    simp [matcherAt, hTerms, hOther]
  have hJoinsBefore : (decide (before.length ≠ 0) &&
      matcherAt list.terms (before.length - 1)) = false := by
    rcases List.eq_nil_or_concat before with hNil | ⟨rest, last, hConcat⟩
    · simp [hNil]
    · rw [List.concat_eq_append] at hConcat
      subst hConcat
      simpa [matcherAt, hTerms] using hBefore
  have hTake : list.terms.take before.length = before := by
    rw [hTerms, List.take_left]
  have hDrop : list.terms.drop before.length = other :: after := by
    rw [hTerms, List.drop_left]
  simp only [insertMatcher, hJoinsAfter, hJoinsBefore, hTake, hDrop,
    identify_ofSeparator, placed, if_true, Bool.false_eq_true, if_false]
  simp

/-- Behind a matcher, with no matcher behind it: a separator precedes. -/
theorem insertMatcher_after {before after : List Term} {other : Term}
    (hTerms : list.terms = before ++ other :: after)
    (hOther : other.kind = .matcher)
    (hAfter : after.head?.any Term.isMatcher = false) :
    list.insertMatcher (before.length + 1) term =
      { list with
        terms := before ++ other ::
          joining (identify list.nextId term).2
            (list.held.getD list.separator) ::
          placed list.nextId term :: after
        cursor := some (before.length + 2)
        held := none
        nextId := (identify list.nextId term).2 + 1 } := by
  have hJoinsBefore : (decide (before.length + 1 ≠ 0) &&
      matcherAt list.terms (before.length + 1 - 1)) = true := by
    simp [matcherAt, hTerms, hOther]
  have hJoinsAfter : matcherAt list.terms (before.length + 1) = false := by
    cases after with
    | nil => simp [matcherAt, hTerms]
    | cons next rest => simpa [matcherAt, hTerms] using hAfter
  have hCut : list.terms = (before ++ [other]) ++ after := by simp [hTerms]
  have hLength : before.length + 1 = (before ++ [other]).length := by simp
  have hTake : list.terms.take (before.length + 1) = before ++ [other] := by
    rw [hCut, hLength, List.take_left]
  have hDrop : list.terms.drop (before.length + 1) = after := by
    rw [hCut, hLength, List.drop_left]
  simp only [insertMatcher, hJoinsAfter, hJoinsBefore, hTake, hDrop,
    identify_ofSeparator, placed, if_true, Bool.false_eq_true, if_false]
  simp

end InsertMatcher

theorem insertIdx_length_append {before after : List Term} {term : Term} :
    (before ++ after).insertIdx before.length term =
      before ++ term :: after := by
  induction before with
  | nil => rfl
  | cons first rest ih =>
      rw [List.cons_append, List.length_cons, List.insertIdx_succ_cons, ih,
        List.cons_append]

/-- Among sorters nothing is joined. -/
theorem insertSorter_splice (list : TermList) (place : Nat) (term : Term) :
    list.insertSorter place term =
      { list with
        terms := list.terms.insertIdx place (placed list.nextId term)
        cursor := some place
        nextId := (identify list.nextId term).2 } := rfl

/-! ## Inserting a separator -/

section InsertSeparator

variable (list : TermList) (term : Term)

/-- The separator `term` as it stands in the place of another one. -/
def replacing (nextId : TermId) (old term : Term) : Term :=
  (identify nextId { term with id := term.id <|> old.id }).1

@[simp] theorem kind_replacing (nextId : TermId) (old term : Term) :
    (replacing nextId old term).kind = term.kind := by
  rw [replacing, kind_identify]
  rfl

theorem replaceAt_splice {before after : List Term} {old : Term}
    (hTerms : list.terms = before ++ old :: after) :
    list.replaceAt before.length term =
      { list with
        terms := before ++ replacing list.nextId old term :: after
        cursor := some before.length
        nextId :=
          (identify list.nextId
            { term with id := term.id <|> old.id }).2 } := by
  simp [replaceAt, hTerms, replacing]

/-- Before the first matcher there is nothing to join. -/
theorem insertSeparator_start
    (hTerms : list.terms.head?.any Term.isSeparator = false) :
    list.insertSeparator 0 term = list := by
  have hRight : list.terms[0]?.map Term.kind ≠ some .separator := by
    intro hKind
    rw [← List.head?_eq_getElem?] at hKind
    cases hHead : list.terms.head? with
    | none => simp [hHead] at hKind
    | some first =>
        rw [hHead] at hKind hTerms
        have hFirst : first.kind = .separator := by simpa using hKind
        simp [Term.isSeparator, hFirst] at hTerms
  simp [insertSeparator, hRight]

/-- With the cursor on a separator, that one is replaced. -/
theorem insertSeparator_onto {before after : List Term} {old : Term}
    (hTerms : list.terms = before ++ old :: after)
    (hOld : old.kind = .separator) :
    list.insertSeparator (before.length + 1) term =
      list.replaceAt before.length term := by
  simp [insertSeparator, hTerms, hOld]

/-- With the cursor in front of a separator, that one is replaced. -/
theorem insertSeparator_next {before after : List Term} {other old : Term}
    (hTerms : list.terms = before ++ other :: old :: after)
    (hOther : other.kind = .matcher) (hOld : old.kind = .separator) :
    list.insertSeparator (before.length + 1) term =
      list.replaceAt (before.length + 1) term := by
  simp [insertSeparator, hTerms, hOther, hOld]

/-- After the last matcher a separator is held. -/
theorem insertSeparator_held {before : List Term} {other : Term}
    (hTerms : list.terms = before ++ [other]) (hOther : other.kind = .matcher) :
    list.insertSeparator (before.length + 1) term =
      { list with held := some term.operator } := by
  simp [insertSeparator, hTerms, hOther]

end InsertSeparator

/-! ## Removing -/

/-- The first matcher takes the separator after it along. -/
theorem withoutTerm_head {term : Term} {after : List Term}
    (hAfter : after = [] ∨ after.head?.any Term.isSeparator = true) :
    withoutTerm (term :: after) 0 = after.drop 1 := by
  rcases hAfter with hNil | hSeparator
  · simp [withoutTerm, hNil]
  · simp [withoutTerm, hSeparator]

/-- Nothing comes in when a term goes, and what stays keeps its order. -/
theorem withoutTerm_sublist (terms : List Term) (index : Nat) :
    (withoutTerm terms index).Sublist terms := by
  have hLeft : (terms.eraseIdx index).Sublist terms :=
    List.eraseIdx_sublist terms index
  simp only [withoutTerm]
  split
  · split
    · exact (List.drop_sublist 1 _).trans hLeft
    · exact hLeft
  · split
    · exact (List.eraseIdx_sublist _ _).trans hLeft
    · exact hLeft

/-- Any other matcher takes the separator before it along. -/
theorem withoutTerm_concat {before after : List Term} {separator term : Term}
    (hSeparator : separator.kind = .separator)
    (hAfter : after.head?.all Term.isSeparator = true) :
    withoutTerm (before ++ separator :: term :: after) (before.length + 1) =
      before ++ after := by
  have hErase : (before ++ separator :: term :: after).eraseIdx
      (before.length + 1) = before ++ separator :: after := by
    rw [List.eraseIdx_append_of_length_le (by omega)]
    simp
  have hSeparatorAt : (before ++ separator :: after)[before.length]?.any
      Term.isSeparator = true := by
    simp [hSeparator]
  have hFollows : separatorOrNone (before ++ separator :: after)
      (before.length + 1) = true := by
    cases after with
    | nil => simp [separatorOrNone]
    | cons next rest => simpa [separatorOrNone] using hAfter
  simp only [withoutTerm, hErase, Nat.add_sub_cancel, hSeparatorAt, hFollows]
  simp [List.eraseIdx_append_of_length_le]

/-- A separator between two matchers stays. -/
theorem joinsMatchers_splice {before after : List Term}
    {left separator right : Term} (hLeft : left.kind = .matcher)
    (hSeparator : separator.kind = .separator)
    (hRight : right.kind = .matcher) :
    joinsMatchers (before ++ left :: separator :: right :: after)
      (before.length + 1) = true := by
  have hRightAt : (before ++ left :: separator :: right :: after)[
      before.length + 1 + 1]? = some right := by
    rw [List.getElem?_append_right (by omega), Nat.add_assoc,
      Nat.add_sub_cancel_left]
    rfl
  simp [joinsMatchers, matcherAt, hLeft, hSeparator, hRight, hRightAt]

/-- A matcher is not a separator that has to stay. -/
theorem joinsMatchers_matcher {before after : List Term} {term : Term}
    (hTerm : term.kind = .matcher) :
    joinsMatchers (before ++ term :: after) before.length = false := by
  have hNoSeparator : term.isSeparator = false := by
    simp [Term.isSeparator, hTerm]
  simp [joinsMatchers, hNoSeparator]

/-! ## Inserting a term -/

section Insert

variable {list : TermList} {term : Term}

/-- The index at which a term is inserted. -/
def place (list : TermList) : Nat := list.cursor.elim 0 (· + 1)

theorem insert_refused (h : list.kind.accepts term.kind = false) :
    list.insert term = list := by
  simp [insert, h]

theorem insert_separator (hList : list.kind = .filter)
    (hTerm : term.kind = .separator) :
    list.insert term = list.park (list.insertSeparator list.place term) := by
  simp [insert, hList, hTerm, ListKind.accepts, place]

theorem insert_matcher (hList : list.kind = .filter)
    (hTerm : term.kind = .matcher) :
    list.insert term = list.park (list.insertMatcher list.place term) := by
  simp [insert, hList, hTerm, ListKind.accepts, place]

theorem insert_sorter (hList : list.kind = .sorter)
    (hTerm : term.kind = .sorter) :
    list.insert term = list.park (list.insertSorter list.place term) := by
  simp [insert, hList, hTerm, ListKind.accepts, place]

end Insert

end QueryPhrase.TermList
