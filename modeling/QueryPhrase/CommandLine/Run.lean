import QueryPhrase.CommandLine.Command
import QueryPhrase.Request.Json
import QueryPhrase.Settings.Discovery
import QueryPhrase.Settings.Document
import QueryPhrase.Settings.Template
import QueryPhrase.Settings.Warning
import QueryPhrase.Terminal.Table
import QueryPhrase.Terminal.Tree

/-!
# Running commands

What each command writes, to the two output streams and to a settings file, as a
function of its arguments and of the place it is run in.
-/

namespace QueryPhrase.CommandLine

/-- Where a command is run. -/
structure Place where
  /-- The files there are. -/
  tree : FileTree
  home : Text
  directory : Text
deriving Repr

/-- What a command leaves behind. -/
structure Outcome where
  code : Nat := 0
  /-- What it writes. -/
  output : Text := []
  /-- What it complains about. -/
  complaint : Text := []
  /-- A file it writes, with the contents. -/
  file : Option (Text × Text) := none
deriving DecidableEq, Repr

/-- Lines, each with a line feed. -/
def linesText (lines : List Text) : Text := lines.flatMap (· ++ ['\n'])

def printed (lines : List Text) : Outcome := { output := linesText lines }

/-- Complaining lines as an outcome. -/
def refused (lines : List Text) : Outcome :=
  { code := 1, complaint := linesText lines }

/-- A line two spaces to the right. -/
def shifted (line : Text) : Text := Text.spaces 2 ++ line

/-! ## Phrases -/

mutual

def tokenJson : Token → Json
  | ⟨kind, value, start, stop, children⟩ =>
    .object <|
      Json.entry "value" (.text value) ++ Json.entry "start" (.nat start) ++
        Json.entry "end" (.nat stop) ++ Json.entry "kind" (.text kind.name) ++
        match children with
        | [] => []
        | child :: rest =>
          Json.entry "children" (.list (tokensJson (child :: rest)))

def tokensJson : List Token → List Json
  | [] => []
  | token :: rest => tokenJson token :: tokensJson rest

end

def analysisJson (grammar : Grammar) (analysis : Analysis) : Json :=
  .object [("grammar", .text grammar.name), ("cursor", .nat analysis.cursor),
    ("tokens", .list (tokensJson analysis.tokens)),
    ("current", .orNull tokenJson analysis.current),
    ("parent", .orNull tokenJson analysis.parent),
    ("suggest", .object [("token", .orNull tokenJson analysis.site.token),
      ("parent", .orNull tokenJson analysis.site.parent),
      ("value", .text analysis.site.typed)])]

/-- The analysis that arguments ask for. -/
def analysisOf (settings : Settings) (arguments : PhraseArguments) :
    Grammar × Analysis :=
  let grammar := arguments.grammar.getD settings.grammar
  let cursor := arguments.cursor.elim arguments.text.length UInt64.toNat
  (grammar, grammar.analyze arguments.text cursor)

/-- A heading and, in parentheses or not, what belongs to it. -/
def headed (heading note : Text) : Text :=
  Terminal.header heading ++ ' ' :: Terminal.dimmed note

/-- Shows how a phrase is taken apart. -/
def runAnalyze (settings : Settings) (arguments : PhraseArguments) : Outcome :=
  let (grammar, analysis) := analysisOf settings arguments
  if arguments.json then printed [(analysisJson grammar analysis).pretty]
  else
    printed [
      headed "Phrase" ('(' :: (grammar.name ++ [')'])),
      shifted (Terminal.highlight analysis.tokens),
      shifted (Terminal.caret analysis.cursor),
      [],
      Terminal.header "Tokens",
      if analysis.tokens.isEmpty then shifted (Terminal.dimmed "(empty)")
      else Terminal.indent (Terminal.tree analysis.tokens) 2,
      [],
      headed "Cursor" (Text.ofNat analysis.cursor),
      "  current:    " ++ Terminal.describe analysis.current,
      "  parent:     " ++ Terminal.describe analysis.parent,
      "  completing: " ++ literal analysis.site.typed,
      "  replaces:   " ++ Terminal.describe analysis.site.token]

/-- Where a completion goes, what is typed there, and completions, as JSON. -/
def suggestionsJson (analysis : Analysis) (suggestions : List Text) : Json :=
  .object [("prefix", .text analysis.site.typed),
    ("start", .nat (analysis.site.token.elim analysis.cursor Token.start)),
    ("suggestions", .texts suggestions)]

def runSuggest (settings : Settings) (arguments : PhraseArguments) : Outcome :=
  let (_, analysis) := analysisOf settings arguments
  let suggester := if arguments.candidates.isEmpty then settings.suggester
    else .candidates arguments.candidates
  let suggestions := suggester.suggest analysis
  if arguments.json then
    printed [(suggestionsJson analysis suggestions).pretty]
  else if suggestions.isEmpty then printed [Terminal.dimmed "No suggestions."]
  else printed suggestions

/-! ## Terms -/

/-- The model that arguments ask for. -/
def modelOf (settings : Settings) (arguments : TermsArguments) : Model :=
  let model := settings.model
  { model with
    filters := model.filters.insertAll (Term.ofPhrase arguments.phrase)
    sorters := model.sorters.insertAll
      (arguments.sorters.map fun sorter => Term.ofSorter sorter.1 sorter.2)
    offset := arguments.offset
    limit := arguments.limit <|> model.limit }

/-- A section with a table of terms and their phrase; nothing but a note for
none. -/
def filterLines (terms : List Term) (phrase : Text) : List Text :=
  Terminal.header "Filters" ::
    if terms.isEmpty then [shifted (Terminal.dimmed "(none)")]
    else [Terminal.termTable terms, shifted phrase]

/-- A section with a table of sorters; nothing for none. -/
def sorterLines (terms : List Term) : List Text :=
  if terms.isEmpty then []
  else [[], Terminal.header "Sorters", Terminal.termTable terms]

/-- A request of a matcher phrase, as JSON. -/
def termsJson (codec : Codec) (model : Model) : Json :=
  let request := model.request
  .object <|
    Json.entry "phrase" (.text model.filters.phrase) ++
      Json.entry "valid" (.bool model.valid) ++
      Json.entry? "error" (fun problem => .text problem.message)
        model.problem? ++
      Json.entry "request" request.toJson ++
      Json.entry "params" (.list ((codec.encode request).map .pair)) ++
      Json.entry "query" (.text (codec.encodeQuery request))

/-- Makes a request of a matcher phrase. -/
def runTerms (settings : Settings) (arguments : TermsArguments) : Outcome :=
  let model := modelOf settings arguments
  let codec := settings.codec
  let request := model.request
  let code := if model.valid then 0 else 1
  if arguments.json then
    { printed [(termsJson codec model).pretty] with code := code }
  else
    let verdict := match model.problem? with
      | none => Terminal.success "Terms are valid."
      | some problem =>
        Terminal.warning ("Terms are invalid: " ++ problem.message)
    { printed (filterLines model.filters.terms model.filters.phrase ++
        sorterLines model.sorters.terms ++
        [[], Terminal.header "Parameters",
          Terminal.pairTable (codec.encode request),
          "  ?" ++ codec.encodeQuery request, [], verdict]) with
      code := code }

def runDecode (settings : Settings) (arguments : DecodeArguments) : Outcome :=
  let model := settings.codec.decodeQuery arguments.query
  let phrase := model.filters.phrase
  let request := model.request
  if arguments.json then
    printed [Json.pretty (.object
      [("phrase", .text phrase), ("request", request.toJson)])]
  else
    printed (filterLines request.filters phrase ++ sorterLines request.sorters ++
      [[], Terminal.header "Page",
        "  offset: " ++ countText request.offset,
        "  limit:  " ++ request.limit.elim ("none" : Text) countText] ++
      if request.parameters.isEmpty then []
      else [] :: Terminal.header "Other parameters" ::
        request.parameters.map fun pair =>
          shifted (pair.1 ++ " = " ++ pair.2))

/-! ## Settings -/

/-- Settings in the form of a file, ready for a terminal. -/
def shownFile (text : Text) : Text := text ++ Terminal.reset

def runConfig (settings : Settings) : Outcome :=
  { output := shownFile settings.toText }

/-- The line on a settings file. -/
def sourceLine (place : Place) (path : Text) : Text :=
  let scope : Text :=
    if Discovery.isGlobal place.home path then "global" else "local"
  Text.spaces 3 ++ Path.display place.home (some place.directory) path ++
    ' ' :: Terminal.dimmed ('(' :: (scope ++ [')']))

/-- The lines on where settings come from. -/
def sourceLines (place : Place) (sources : List Text) : List Text :=
  if sources.isEmpty then
    [Terminal.dimmed "No configuration files found, using defaults.", [],
      "Run " ++ Terminal.subheader "sift init" ++
        " to create a configuration file."]
  else Terminal.subheader "Config files:" :: sources.map (sourceLine place)

/-- The lines on what is configured. -/
def settingsLines (settings : Settings) : List Text :=
  let columns := settings.vocabulary.columns
  [Terminal.subheader "Analyzer:",
    "   grammar: " ++ settings.grammar.name,
    "   columns: " ++ (if columns.isEmpty then Terminal.dimmed "(none)"
      else Text.joined ", " columns),
    [],
    Terminal.subheader "Terms:",
    "   separator: " ++ settings.separator.keyword,
    "   matcher:   " ++ settings.matcher.keyword,
    "   page size: " ++ countText settings.terms.pageSize]

def warningLines (warnings : List SettingsWarning) : List Text :=
  if warnings.isEmpty then ["No issues found."]
  else
    Terminal.subheader
        ("Warnings (" ++ Text.ofNat warnings.length ++ "):") ::
      (warnings.map fun warning =>
        Text.spaces 3 ++ Terminal.warning warning.message) ++
      [[]] ++ (warnings.filterMap SettingsWarning.hint?).map Terminal.dimmed

def runCheck (place : Place) (configuration : Configuration) : Outcome :=
  let settings := configuration.settings
  let warnings := settings.warnings
  { printed (sourceLines place configuration.sources ++ [[]] ++
      settingsLines settings ++ [[]] ++ warningLines warnings) with
    code := if warnings.isEmpty then 0 else 1 }

def runInit (place : Place) (arguments : InitArguments) : Outcome :=
  let path := Discovery.initPath place.home place.directory arguments.wantsGlobal
  if place.tree.has path && !arguments.force then
    refused ["error: configuration file already exists: " ++ path,
      "use --force to overwrite"]
  else if place.tree.isDirectory path then
    refused ["error: failed to write " ++ path ++
      ": Is a directory (os error 21)"]
  else
    let text := if Discovery.isGlobal place.home path then Template.globalText
      else Template.localText
    { printed ["Created " ++ path, [],
        Terminal.subheader "Configuration written:",
        Terminal.indent (shownFile text) 2] with
      file := some (path, text) }

/-! ## All commands -/

/-- What is said when settings cannot be loaded. -/
def loadComplaint : LoadError → Text
  | .unreadable path =>
    "failed to read config file " ++ path ++
      ": stream did not contain valid UTF-8\n"
  | .malformed path => "failed to parse config file " ++ path ++ ": "

/-- Runs a command that needs the configuration. -/
def withConfiguration (place : Place) (run : Configuration → Outcome) :
    Outcome :=
  match Configuration.load place.tree place.home place.directory with
  | .ok configuration => run configuration
  | .error problem =>
    { code := 1
      complaint := "error: failed to load configuration: " ++
        loadComplaint problem }

/-- Runs a command. Creating a settings file does not need one that can be
read. -/
def run (place : Place) : Command → Outcome
  | .analyze arguments =>
    withConfiguration place (runAnalyze ·.settings arguments)
  | .suggest arguments =>
    withConfiguration place (runSuggest ·.settings arguments)
  | .terms arguments => withConfiguration place (runTerms ·.settings arguments)
  | .decode arguments => withConfiguration place (runDecode ·.settings arguments)
  | .config => withConfiguration place (runConfig ·.settings)
  | .check => withConfiguration place (runCheck place)
  | .init arguments => runInit place arguments

end QueryPhrase.CommandLine
