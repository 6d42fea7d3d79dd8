import QueryPhrase.Term.Phrase

/-!
# Term lists

A term list is edited at a cursor, like a line of text. A filter list holds
matchers with a separator between any two neighbours; a sorter list holds sorters
only. What is about to be typed is the placeholder, which is no term of the list
yet.

Some state is kept for later. A separator put after the last matcher is held until
a matcher follows. The placeholder is parked when the first term comes in and
restored when the last one goes. Identifiers are handed out in order, from one.

The edits themselves are in `QueryPhrase.TermList.Edit`.
-/

namespace QueryPhrase

inductive ListKind
  | filter
  | sorter
deriving DecidableEq, Repr

namespace ListKind

/-- The name of a kind of list. -/
def name : ListKind → Text
  | filter => "filter"
  | sorter => "sorter"

/-- Whether a list of this kind can hold a term of the given role. -/
def accepts : ListKind → TermKind → Bool
  | filter, kind => kind != .sorter
  | sorter, kind => kind == .sorter

/-- The role of the terms such a list is about. -/
def criterion : ListKind → TermKind
  | filter => .matcher
  | sorter => .sorter

/-- The operator of new terms unless another one is chosen. -/
def defaultOperator : ListKind → Operator
  | filter => .like
  | sorter => .orderBy

end ListKind

/-- A placeholder with the given operator and nothing else. -/
def Term.blank (operator : Operator) : Term := { operator := operator }

/-- A list of terms under edit. -/
structure TermList where
  kind : ListKind
  terms : List Term
  /-- The index of the current term; none when the cursor is before the first. -/
  cursor : Option Nat
  /-- What is about to be typed. -/
  placeholder : Option Term
  /-- The separator put between matchers. -/
  separator : Operator
  /-- The operator of new terms. -/
  matcher : Operator
  /-- The separator held for the next matcher after the last one. -/
  held : Option Operator
  /-- The placeholder set aside while the list is not empty. -/
  parked : Option Term
  /-- The next identifier to hand out. -/
  nextId : TermId
deriving DecidableEq, Repr

/-- Why a list of terms is malformed, or a keyword no operator. -/
inductive TermError
  | unknownOperator (keyword : Text)
  | wrongKind (index : Nat) (kind : TermKind) (list : ListKind)
  | alternation (index : Nat) (expected found : TermKind)
  | danglingSeparator (index : Nat)
deriving DecidableEq, Repr

/-- What is said of an error. -/
def TermError.message : TermError → Text
  | unknownOperator keyword => "unknown operator '" ++ keyword ++ "'"
  | wrongKind index kind list =>
    "term " ++ Text.ofNat index ++ " is a " ++ kind.name ++ ", which a " ++
      list.name ++ " list cannot hold"
  | alternation index expected found =>
    "term " ++ Text.ofNat index ++ " should be a " ++ expected.name ++
      " but is a " ++ found.name
  | danglingSeparator index =>
    "separator at " ++ Text.ofNat index ++ " has no matcher after it"

namespace TermList

/-- An empty list with a blank placeholder. -/
def empty (kind : ListKind) : TermList where
  kind := kind
  terms := []
  cursor := none
  placeholder := some (.blank kind.defaultOperator)
  separator := .and
  matcher := kind.defaultOperator
  held := none
  parked := none
  nextId := 1

/-! ## Looking -/

/-- The term under the cursor. -/
def current? (list : TermList) : Option Term :=
  list.cursor.bind (list.terms[·]?)

/-- How many terms the list has. -/
def count (list : TermList) : Nat := list.terms.length

/-- Whether the list has no terms. -/
def isEmpty (list : TermList) : Bool := list.terms.isEmpty

def matchers (list : TermList) : List Term := list.terms.filter Term.isMatcher

def sorters (list : TermList) : List Term := list.terms.filter Term.isSorter

/-- The term with an identifier. -/
def findId? (list : TermList) (id : TermId) : Option Term :=
  list.terms.find? (·.id == some id)

/-- The first term on a column. -/
def findColumn? (list : TermList) (column : Text) : Option Term :=
  list.terms.find? (·.column == some column)

/-- Whether a term is on a column. -/
def hasColumn (list : TermList) (column : Text) : Bool :=
  (list.findColumn? column).isSome

/-- The index of a term: by its identifier if it has one, by content if not. -/
def position? (list : TermList) (term : Term) : Option Nat :=
  match term.id with
  | some id => list.terms.findIdx? (·.id == some id)
  | none => list.terms.findIdx? (·.sameAs term)

/-- The list as phrase text: a matcher phrase for filters, `column direction`
pairs with commas between them for sorters. -/
def phrase (list : TermList) : Text :=
  match list.kind with
  | .filter => Text.joined " " (list.terms.map Term.phrase)
  | .sorter => Text.joined ", " (list.terms.map Term.shown)

/-! ## Checking -/

/-- What is wrong with the term at an index, if anything. -/
def termProblem? (kind : ListKind) (index : Nat) (term : Term) :
    Option TermError :=
  if !kind.accepts term.kind then some (.wrongKind index term.kind kind)
  else
    let expected : TermKind := if index % 2 = 0 then .matcher else .separator
    if kind = .filter && term.kind != expected then
      some (.alternation index expected term.kind)
    else none

/-- The first term, from an index on, that something is wrong with. -/
def firstProblem? (kind : ListKind) : Nat → List Term → Option TermError
  | _, [] => none
  | index, term :: rest =>
    (termProblem? kind index term) <|> firstProblem? kind (index + 1) rest

/-- What is wrong with the list, if anything: a term of the wrong role, a matcher
or separator out of turn, or a separator at the end. -/
def problem? (list : TermList) : Option TermError :=
  (firstProblem? list.kind 0 list.terms) <|>
    if list.terms.getLast?.any Term.isSeparator then
      some (.danglingSeparator (list.terms.length - 1))
    else none

/-- Whether the list is well formed. -/
def valid (list : TermList) : Bool := list.problem?.isNone

end TermList

end QueryPhrase
