import QueryPhrase.Settings
import QueryPhrase.Toml.Writer

/-!
# Settings as a document

Settings written in the form they are read from: every section, whether it differs
from the defaults or not.
-/

namespace QueryPhrase.Settings

open Toml (Assignment Document Section Value)

/-- An assignment of a section. -/
def assignment (key : Text) (value : Value) : Assignment := ⟨[], key, value⟩

def textList (texts : List Text) : Value := .list (texts.map .text)

def analyzerSection (settings : AnalyzerSettings) : Section :=
  ⟨false, [], "analyzer",
    [assignment "grammar" (.text settings.grammar),
      assignment "candidates" (textList settings.candidates)]⟩

def vocabularySection (settings : VocabularySettings) : Section :=
  ⟨false, [], "vocabulary",
    [assignment "columns" (textList settings.columns)]⟩

/-- The section on values, a column each. -/
def valuesSection (settings : VocabularySettings) : Section :=
  ⟨false, ["vocabulary"], "values",
    settings.values.map fun entry => assignment entry.1 (textList entry.2)⟩

def termsSection (settings : TermSettings) : Section :=
  ⟨false, [], "terms",
    [assignment "default_separator" (.text settings.separator),
      assignment "default_matcher" (.text settings.matcher),
      assignment "page_size" (.int settings.pageSize.toNat)]⟩

/-- The section on the flat form of requests. -/
def codecSection (codec : Codec) : Section :=
  ⟨false, [], "params",
    [assignment "filters" (.text codec.filters),
      assignment "sorters" (.text codec.sorters),
      assignment "offset" (.text codec.offset),
      assignment "limit" (.text codec.limit),
      assignment "field_separator" (.text [codec.fieldSeparator]),
      assignment "term_delimiter" (.text [codec.termDelimiter])]⟩

/-- The document of some settings. -/
def document (settings : Settings) : Document :=
  ⟨[], [analyzerSection settings.analyzer, vocabularySection settings.vocabulary,
    valuesSection settings.vocabulary, termsSection settings.terms,
    codecSection settings.codec]⟩

def toText (settings : Settings) : Text := Toml.documentText settings.document

end QueryPhrase.Settings
