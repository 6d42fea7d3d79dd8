import QueryPhrase.Codec
import QueryPhrase.Completion

/-!
# Settings

What can be configured: the grammar and fixed candidates, a vocabulary, defaults
for terms, and the flat form of requests. Names of grammars and operators are kept
as they were written; one that names nothing counts as its default where it is
used.
-/

namespace QueryPhrase

/-! ## Values of columns -/

/-- Whether a text comes before another one in the order of code points. -/
def Text.precedes : Text → Text → Bool
  | _, [] => false
  | [], _ :: _ => true
  | a :: as, b :: bs =>
    if a = b then Text.precedes as bs else a.toNat < b.toNat

/-- Columns with their known values: each column once, in the order of texts. -/
abbrev ColumnValues := List (Text × List Text)

/-- Makes `values` the values of a column. -/
def ColumnValues.put (column : Text) (values : List Text) :
    ColumnValues → ColumnValues
  | [] => [(column, values)]
  | (other, known) :: rest =>
    if other = column then (column, values) :: rest
    else if column.precedes other then
      (column, values) :: (other, known) :: rest
    else (other, known) :: ColumnValues.put column values rest

/-! ## Sections -/

/-- How phrases are taken apart and completed. -/
structure AnalyzerSettings where
  grammar : Text := Grammar.word.name
  candidates : List Text := []
deriving DecidableEq, Repr

structure VocabularySettings where
  /-- The columns, in the order they are offered. -/
  columns : List Text := []
  values : ColumnValues := []
deriving DecidableEq, Repr

structure TermSettings where
  /-- The keyword of the separator put between matchers. -/
  separator : Text := Operator.and.keyword
  /-- The keyword of the operator of new matchers. -/
  matcher : Text := Operator.like.keyword
  pageSize : UInt64 := 25
deriving DecidableEq, Repr

structure Settings where
  analyzer : AnalyzerSettings := {}
  vocabulary : VocabularySettings := {}
  terms : TermSettings := {}
  codec : Codec := {}
deriving DecidableEq, Repr

/-! ## Names -/

/-- The grammar a setting names, blanks around it and case aside. -/
def Grammar.ofSetting? (name : Text) : Option Grammar :=
  Grammar.ofName? name.trimmed

/-- The operator of a role that a setting names, blanks around it and case
aside. -/
def Operator.ofSetting? (kind : TermKind) (name : Text) : Option Operator :=
  Operator.ofKind? kind name.trimmed

namespace Settings

def grammar (settings : Settings) : Grammar :=
  (Grammar.ofSetting? settings.analyzer.grammar).getD .word

/-- The separator put between matchers. -/
def separator (settings : Settings) : Operator :=
  (Operator.ofSetting? .separator settings.terms.separator).getD .and

/-- The operator of new matchers. -/
def matcher (settings : Settings) : Operator :=
  (Operator.ofSetting? .matcher settings.terms.matcher).getD .like

/-- An empty model with the page size and the choices for filters. -/
def model (settings : Settings) : Model :=
  let filters := (TermList.empty .filter).withSeparator settings.separator
  { Model.empty with
    limit := some settings.terms.pageSize
    filters := filters.withMatcher settings.matcher }

/-- Where completions come from: the vocabulary, with the candidates for plain
words, unless the grammar knows no columns or there are none. -/
def suggester (settings : Settings) : Suggester :=
  let candidates := settings.analyzer.candidates
  let known := settings.vocabulary
  if settings.grammar = .word || known.columns.isEmpty then
    .candidates candidates
  else .vocabulary ⟨known.columns, known.values, candidates⟩

end Settings

end QueryPhrase
