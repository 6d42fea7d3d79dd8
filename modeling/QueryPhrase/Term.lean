import QueryPhrase.Text

/-!
# Query terms

A term is one criterion of a query. Its operator decides its role: a matcher
compares a column with a value, a separator joins two matchers, a sorter orders by
a column in the direction its value names. What a role has no use for is absent.
-/

namespace QueryPhrase

/-- The role of a term in a list. -/
inductive TermKind
  /-- A `column operator value` criterion. -/
  | matcher
  | separator
  /-- A `column direction` ordering. -/
  | sorter
deriving DecidableEq, Repr

/-- The name of a role. -/
def TermKind.name : TermKind → Text
  | matcher => "matcher"
  | separator => "separator"
  | sorter => "sorter"

/-- Every operator a term can have. -/
inductive Operator
  | like
  | within
  | is
  | atLeast
  | atMost
  | equal
  | or
  | and
  | orderBy
deriving DecidableEq, Repr

namespace Operator

def all : List Operator :=
  [like, within, is, atLeast, atMost, equal, or, and, orderBy]

/-- The keyword of an operator. -/
def keyword : Operator → Text
  | like => "like"
  | within => "in"
  | is => "is"
  | atLeast => ">="
  | atMost => "<="
  | equal => "="
  | or => "or"
  | and => "and"
  | orderBy => "orderBy"

/-- The role an operator gives its term. -/
def kind : Operator → TermKind
  | like | within | is | atLeast | atMost | equal => .matcher
  | or | and => .separator
  | orderBy => .sorter

/-- The operator with the given keyword, in any ASCII case. -/
def ofKeyword? (text : Text) : Option Operator :=
  all.find? fun operator => Text.eqCaseless operator.keyword text

/-- The operator of the given role with the given keyword, in any ASCII case. -/
def ofKind? (kind : TermKind) (text : Text) : Option Operator :=
  (ofKeyword? text).filter (·.kind == kind)

end Operator

/-- Identifies a term in its list: a 64-bit word. -/
abbrev TermId := UInt64

/-- How an identifier is shown. -/
def TermId.shown (id : TermId) : Text := '#' :: Text.ofNat id.toNat

/-- One criterion of a query. -/
structure Term where
  /-- Given by the list that holds the term. -/
  id : Option TermId := none
  column : Option Text := none
  operator : Operator
  /-- The value, or the direction of a sorter; none while it is not committed. -/
  value : Option Text := none
deriving DecidableEq, Repr

namespace Term

def ofSeparator (operator : Operator) : Term := { operator := operator }

/-- A term that orders by a column. -/
def ofSorter (column direction : Text) : Term :=
  { column := some column, operator := .orderBy, value := some direction }

/-- The role of a term. -/
def kind (term : Term) : TermKind := term.operator.kind

/-- Whether the term is a matcher. -/
def isMatcher (term : Term) : Bool := term.kind == .matcher

/-- Whether the term is a separator. -/
def isSeparator (term : Term) : Bool := term.kind == .separator

/-- Whether the term is a sorter. -/
def isSorter (term : Term) : Bool := term.kind == .sorter

/-- The same term without an identifier. -/
def withoutId (term : Term) : Term := { term with id := none }

/-- Whether two terms are the same criterion, identifiers aside. -/
def sameAs (a b : Term) : Bool :=
  a.column == b.column && a.operator == b.operator && a.value == b.value

/-- The term in words: what it has of column, operator and value. A sorter leaves
its operator out. -/
def shown (term : Term) : Text :=
  let operator := if term.operator = .orderBy then none
    else some term.operator.keyword
  Text.joined " " ([term.column, operator, term.value].filterMap fun part => part)

end Term

end QueryPhrase
