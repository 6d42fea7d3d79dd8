import QueryPhrase.Settings

/-!
# Warnings about settings

Settings that will not do what they say: names that name nothing, and a flat form
of requests in which two things cannot be told apart.
-/

namespace QueryPhrase

/-- What is doubtful about settings. -/
inductive SettingsWarning
  | unknownGrammar (name : Text)
  /-- A name in a setting that is no operator of the right role. -/
  | unknownOperator (setting name : Text)
  /-- Fields and terms have the same separator. -/
  | ambiguousSeparator (separator : Char)
  | duplicateName (name : Text)
  | zeroPageSize
  /-- A grammar with columns, and none are known. -/
  | emptyVocabulary (grammar : Grammar)
  /-- Values of a column that is not known. -/
  | unknownValueColumn (column : Text)
deriving DecidableEq, Repr

/-- What is said of a warning. -/
def SettingsWarning.message : SettingsWarning → Text
  | unknownGrammar name =>
    "unknown grammar '" ++ name ++
      "' (expected word, field or matcher), using word"
  | unknownOperator setting name =>
    setting ++ ": '" ++ name ++ "' is not a valid operator here"
  | ambiguousSeparator separator =>
    "params.field_separator and params.term_delimiter are both '" ++
      [separator, '\'']
  | duplicateName name => "parameter name '" ++ name ++ "' is used more than once"
  | zeroPageSize => "terms.page_size is 0, queries return nothing"
  | emptyVocabulary grammar =>
    "grammar '" ++ grammar.name ++ "' is set but vocabulary.columns is empty"
  | unknownValueColumn column =>
    "vocabulary.values lists column '" ++ column ++
      "', which is not in vocabulary.columns"

/-- A hint at what to do about a warning. -/
def SettingsWarning.hint? : SettingsWarning → Option Text
  | emptyVocabulary _ =>
    some "Hint: list completable columns under [vocabulary] in .sift.toml"
  | ambiguousSeparator _ =>
    some "Hint: pick distinct params.field_separator and params.term_delimiter"
  | _ => none

/-- The members of a list that come again later, each at its first place. -/
def repeated : List Text → List Text
  | [] => []
  | name :: rest =>
    if rest.contains name then name :: (repeated rest).filter (· != name)
    else repeated rest

namespace Settings

/-- Warnings about the names of the grammar and of operators. -/
def nameWarnings (settings : Settings) : List SettingsWarning :=
  let terms := settings.terms
  (if (Grammar.ofSetting? settings.analyzer.grammar).isNone then
    [.unknownGrammar settings.analyzer.grammar] else []) ++
  (if (Operator.ofSetting? .separator terms.separator).isNone then
    [.unknownOperator "terms.default_separator" terms.separator] else []) ++
  (if (Operator.ofSetting? .matcher terms.matcher).isNone then
    [.unknownOperator "terms.default_matcher" terms.matcher] else [])

/-- Warnings about the flat form of requests. -/
def codecWarnings (codec : Codec) : List SettingsWarning :=
  (if codec.fieldSeparator = codec.termDelimiter then
    [.ambiguousSeparator codec.fieldSeparator] else []) ++
  (repeated [codec.filters, codec.sorters, codec.offset, codec.limit]).map
    .duplicateName

def vocabularyWarnings (settings : Settings) : List SettingsWarning :=
  let vocabulary := settings.vocabulary
  (if settings.grammar = .matcher && vocabulary.columns.isEmpty then
    [.emptyVocabulary settings.grammar] else []) ++
  ((vocabulary.values.map Prod.fst).filter fun column =>
    !vocabulary.columns.contains column).map .unknownValueColumn

def warnings (settings : Settings) : List SettingsWarning :=
  settings.nameWarnings ++
    (if settings.terms.pageSize = 0 then [.zeroPageSize] else []) ++
    codecWarnings settings.codec ++ settings.vocabularyWarnings

end Settings

end QueryPhrase
