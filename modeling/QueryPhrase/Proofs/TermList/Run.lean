import QueryPhrase.TermList.Edit

/-!
# Runs of edits

What can be done to a term list, as data, and the lists that a run of edits
leads to. A run begins with an empty list of either kind. A side condition may
restrict which edits a run makes, and it may look at the list an edit is made
on.

## Main definitions

* `TermList.Edit` — the edits, `TermList.Edit.apply` what they do, and
  `TermList.applyAll` what they do one after the other.
* `TermList.Reached` — the lists a restricted run leads to, `TermList.Reachable`
  those any run leads to.

## Main results

* `TermList.Reached.insertAll` — inserting terms in order is a run.
* `TermList.Reached.invariant` — what holds of the empty lists and is kept by
  every permitted edit holds of every list reached.
-/

namespace QueryPhrase.TermList

/-- Something done to a list. The last three put another list in its place: that
of a phrase, an empty one, or a copy. -/
inductive Edit
  /-- Inserts a term after the cursor. The flag says whether a separator is
  expected before it, which changes nothing. -/
  | insert (term : Term) (expectsSeparator : Bool)
  | remove (term : Term)
  | moveTo (term : Term)
  | moveToStart
  | write (value : Text)
  | withPlaceholder (column : Option Text)
  | withoutPlaceholder
  | withSeparator (operator : Operator)
  | withMatcher (operator : Operator)
  | phrase (text : Text)
  | cleared
  | rebuild
deriving DecidableEq, Repr

/-- What an edit makes of a list. -/
def Edit.apply (list : TermList) : Edit → TermList
  | .insert term _ => list.insert term
  | .remove term => list.remove term
  | .moveTo term => list.moveTo term
  | .moveToStart => list.moveToStart
  | .write value => list.write value
  | .withPlaceholder column => list.withPlaceholder column
  | .withoutPlaceholder => list.withoutPlaceholder
  | .withSeparator operator => list.withSeparator operator
  | .withMatcher operator => list.withMatcher operator
  | .phrase text => ofPhrase text
  | .cleared => list.cleared
  | .rebuild => list.rebuild

/-- What edits one after the other make of a list. -/
def applyAll (list : TermList) (edits : List Edit) : TermList :=
  edits.foldl Edit.apply list

/-- The lists that edits lead to from an empty list, when each edit is permitted
on the list it is made on. -/
inductive Reached (permitted : TermList → Edit → Prop) : TermList → Prop
  | empty (kind : ListKind) : Reached permitted (.empty kind)
  | edit {list : TermList} (edit : Edit) :
    Reached permitted list → permitted list edit →
      Reached permitted (edit.apply list)

/-- The lists that any edits lead to from an empty list. -/
abbrev Reachable (list : TermList) : Prop := Reached (fun _ _ => True) list

/-- Any edits lead on from a list that they lead to. -/
theorem Reached.applyAll {edits : List Edit} :
    ∀ {list : TermList}, Reachable list → Reachable (list.applyAll edits) := by
  induction edits with
  | nil => exact fun h => h
  | cons edit rest ih => exact fun h => ih (.edit edit h trivial)

/-- Terms inserted one after the other lead from a list that is reached to one
that is, when each of them may be inserted into any list. -/
theorem Reached.insertAll {permitted : TermList → Edit → Prop}
    {terms : List Term} :
    ∀ {list : TermList}, Reached permitted list →
      (∀ term ∈ terms, ∀ other, permitted other (.insert term false)) →
      Reached permitted (list.insertAll terms) := by
  induction terms with
  | nil => exact fun h _ => h
  | cons term rest ih =>
      intro list h hTerms
      rw [List.forall_mem_cons] at hTerms
      exact ih (.edit (.insert term false) h (hTerms.1 list)) hTerms.2

/-- A run that is restricted more is one that is restricted less. -/
theorem Reached.mono {permitted allowed : TermList → Edit → Prop}
    (hAllowed : ∀ list edit, permitted list edit → allowed list edit)
    {list : TermList} (h : Reached permitted list) : Reached allowed list := by
  induction h with
  | empty kind => exact .empty kind
  | edit edit _ hPermitted ih => exact .edit edit ih (hAllowed _ _ hPermitted)

/-- An invariant of the edits holds of every list reached. -/
theorem Reached.invariant {permitted : TermList → Edit → Prop}
    {P : TermList → Prop} (hEmpty : ∀ kind, P (.empty kind))
    (hEdit : ∀ list edit, P list → permitted list edit → P (edit.apply list))
    {list : TermList} (h : Reached permitted list) : P list := by
  induction h with
  | empty kind => exact hEmpty kind
  | edit edit _ hPermitted ih => exact hEdit _ edit ih hPermitted

end QueryPhrase.TermList
