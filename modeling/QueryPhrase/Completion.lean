import QueryPhrase.Analysis
import QueryPhrase.Text.Lowercase

/-!
# Completions

Candidates for the text being typed at a cursor. They come from one fixed list,
or from a vocabulary of columns and their known values, in which case the place
of the cursor decides which pool is drawn from. A pool is narrowed to the
candidates that hold the typed text in any case; when none does, or nothing is
typed, the whole pool is offered.
-/

namespace QueryPhrase

/-! ## Narrowing a pool -/

/-- Whether `part` occurs in the text. -/
def Text.hasPart (part : Text) : Text → Bool
  | [] => part.isEmpty
  | c :: rest => part.isPrefixOf (c :: rest) || Text.hasPart part rest

/-- Whether a candidate holds the typed text, in any case. -/
def matchesTyped (typed candidate : Text) : Bool :=
  Text.hasPart (lowercase typed) (lowercase candidate)

/-- The candidates that hold the typed text, in order; all of them when nothing is
typed or none does. -/
def narrow (candidates : List Text) (typed : Text) : List Text :=
  if typed = [] then candidates
  else
    match candidates.filter (matchesTyped typed) with
    | [] => candidates
    | found => found

/-! ## Vocabularies -/

/-- Known columns and the known values of some of them. -/
structure Vocabulary where
  /-- The columns, in the order they are offered. -/
  columns : List Text
  /-- Columns with their values; the first entry for a column counts. -/
  values : List (Text × List Text)
  /-- Candidates for plain words; the columns stand in when there are none. -/
  fallback : List Text
deriving DecidableEq, Repr

/-- What a completion stands for at its place in the phrase. -/
inductive Slot
  | column
  | comparator
  | operator
  | separator
  /-- A value of the named column, if a column is named. -/
  | value (column : Option Text)
  | other
deriving DecidableEq, Repr

/-- The field, or else the column, that a composite token names. -/
def columnOf (token : Token) : Option Text :=
  ((token.child? .field) <|> (token.child? .column)).map Token.value

/-- The slot a cursor sits in. Between the words of a matcher that is a
comparator until one is there, and a value from then on. -/
def Analysis.slot (analysis : Analysis) : Slot :=
  let column := analysis.site.parent.bind columnOf
  match analysis.current.map Token.kind with
  | some .field | some .column => .column
  | some .comparator => .comparator
  | some .operator => .operator
  | some .separator => .separator
  | some .value | some .delimiter => .value column
  | some .whitespace =>
    match analysis.site.parent with
    | some parent =>
      if parent.kind = .matcher then
        if (parent.child? .comparator).isSome then .value column
        else .comparator
      else .other
    | none => .other
  | _ => .other

namespace Vocabulary

/-- The known values of a column. -/
def valuesOf (vocabulary : Vocabulary) (column : Text) : List Text :=
  (vocabulary.values.lookup column).getD []

/-- Everything that fits a slot. -/
def pool (vocabulary : Vocabulary) : Slot → List Text
  | .column => vocabulary.columns
  | .comparator => Keyword.matcherOperators
  | .operator => Keyword.booleanOperators
  | .separator => Keyword.separators
  | .value (some column) => vocabulary.valuesOf column
  | .value none => []
  | .other =>
    if vocabulary.fallback.isEmpty then vocabulary.columns
    else vocabulary.fallback

end Vocabulary

/-! ## Suggesting -/

inductive Suggester
  | candidates (list : List Text)
  | vocabulary (known : Vocabulary)
deriving Repr

/-- Everything a suggester has for the place of the cursor. -/
def Suggester.pool : Suggester → Analysis → List Text
  | candidates list, _ => list
  | vocabulary known, analysis => known.pool analysis.slot

/-- The completions for the text being typed. -/
def Suggester.suggest (suggester : Suggester) (analysis : Analysis) :
    List Text :=
  narrow (suggester.pool analysis) analysis.site.typed

end QueryPhrase
