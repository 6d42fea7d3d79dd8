import QueryPhrase.Settings
import QueryPhrase.Toml.Reader

/-!
# Layers of settings

What one file says: any part of the settings, and whether files further up count.
A section is a table, or a list of its values in their usual order; what it does
not know is ignored. A value of the wrong type spoils the file.
-/

namespace QueryPhrase

/-- What a file says of the analyzer. -/
structure AnalyzerLayer where
  grammar : Option Text := none
  candidates : Option (List Text) := none
deriving DecidableEq, Repr

/-- What a file says of the vocabulary. -/
structure VocabularyLayer where
  columns : Option (List Text) := none
  values : Option (List (Text × List Text)) := none
deriving DecidableEq, Repr

/-- What a file says of terms. -/
structure TermLayer where
  separator : Option Text := none
  matcher : Option Text := none
  pageSize : Option UInt64 := none
deriving DecidableEq, Repr

/-- What a file says of the flat form of requests. -/
structure CodecLayer where
  filters : Option Text := none
  sorters : Option Text := none
  offset : Option Text := none
  limit : Option Text := none
  fieldSeparator : Option Char := none
  termDelimiter : Option Char := none
deriving DecidableEq, Repr

structure Layer where
  /-- Whether files further up do not count. -/
  root : Option Bool := none
  analyzer : Option AnalyzerLayer := none
  vocabulary : Option VocabularyLayer := none
  terms : Option TermLayer := none
  codec : Option CodecLayer := none
deriving DecidableEq, Repr

namespace Layer

open Toml (Value Entries)

/-! ## Values -/

def text? : Value → Option Text
  | .text value => some value
  | _ => none

def bool? : Value → Option Bool
  | .bool value => some value
  | _ => none

/-- A text of one character. -/
def char? : Value → Option Char
  | .text [c] => some c
  | _ => none

def word? : Value → Option UInt64
  | .int (.ofNat n) => if n < UInt64.size then some (UInt64.ofNat n) else none
  | _ => none

def texts? : Value → Option (List Text)
  | .list items => items.mapM text?
  | _ => none

/-- A list of texts, or a text that stands for a list of one. -/
def textOrTexts? : Value → Option (List Text)
  | .text value => some [value]
  | value => texts? value

/-- A table of lists of texts. -/
def textLists? : Value → Option (List (Text × List Text))
  | .table _ entries =>
    entries.mapM fun (key, value) => (texts? value).map fun texts => (key, texts)
  | _ => none

/-! ## Sections -/

/-- A value that may be missing, read if it is there. -/
def orMissing? {α : Type} (read : Value → Option α) :
    Option Value → Option (Option α)
  | none => some none
  | some value => (read value).map some

/-- What a section says of each of its keys, given in their usual order. A moment
says nothing of any. -/
def fields? (keys : List Text) : Value → Option (List (Option Value))
  | .table _ entries => some (keys.map (Entries.get? entries))
  | .moment _ => some (keys.map fun _ => none)
  | .list items => some (keys.mapIdx fun index _ => items[index]?)
  | .tables items =>
    some (keys.mapIdx fun index _ => items[index]?.map (.table .header))
  | _ => none

/-- The keys of the analyzer section. -/
def analyzerKeys : List Text := ["grammar", "candidates"]

def analyzer? (value : Value) : Option AnalyzerLayer := do
  match ← fields? analyzerKeys value with
  | [grammar, candidates] =>
    return ⟨← orMissing? text? grammar, ← orMissing? textOrTexts? candidates⟩
  | _ => none

/-- The keys of the vocabulary section. -/
def vocabularyKeys : List Text := ["columns", "values"]

def vocabulary? (value : Value) : Option VocabularyLayer := do
  match ← fields? vocabularyKeys value with
  | [columns, values] =>
    return ⟨← orMissing? textOrTexts? columns, ← orMissing? textLists? values⟩
  | _ => none

/-- The keys of the section on terms. -/
def termKeys : List Text := ["default_separator", "default_matcher", "page_size"]

/-- Reads the section on terms. -/
def terms? (value : Value) : Option TermLayer := do
  match ← fields? termKeys value with
  | [separator, matcher, pageSize] =>
    return ⟨← orMissing? text? separator, ← orMissing? text? matcher,
      ← orMissing? word? pageSize⟩
  | _ => none

/-- The keys of the section on the flat form of requests. -/
def codecKeys : List Text :=
  ["filters", "sorters", "offset", "limit", "field_separator", "term_delimiter"]

/-- Reads the section on the flat form of requests. -/
def codec? (value : Value) : Option CodecLayer := do
  match ← fields? codecKeys value with
  | [filters, sorters, offset, limit, fieldSeparator, termDelimiter] =>
    return ⟨← orMissing? text? filters, ← orMissing? text? sorters,
      ← orMissing? text? offset, ← orMissing? text? limit,
      ← orMissing? char? fieldSeparator, ← orMissing? char? termDelimiter⟩
  | _ => none

/-! ## Files -/

/-- Reads the table of a file. -/
def ofEntries? (entries : Entries) : Option Layer := do
  let root ← orMissing? bool? (entries.get? "root")
  let analyzer ← orMissing? analyzer? (entries.get? "analyzer")
  let vocabulary ← orMissing? vocabulary? (entries.get? "vocabulary")
  let terms ← orMissing? terms? (entries.get? "terms")
  let codec ← orMissing? codec? (entries.get? "params")
  return ⟨root, analyzer, vocabulary, terms, codec⟩

/-- Reads the text of a file. -/
def read? (text : Text) : Option Layer := (Toml.read? text).bind ofEntries?

end Layer

end QueryPhrase
