import QueryPhrase.CommandLine.Option
import QueryPhrase.Grammar
import QueryPhrase.Text.Number

/-!
# Commands

The commands of the program with their arguments, and how a whole command line is
read: options of the program, the name of a command, and the arguments of that
command. Logging may be asked for in front of the name or behind it; what is said
behind it counts.
-/

namespace QueryPhrase.CommandLine

/-! ## Arguments -/

/-- A phrase and what to do with it. -/
structure PhraseArguments where
  text : Text := []
  /-- The cursor; none for the end of the text. -/
  cursor : Option UInt64 := none
  /-- The grammar; none for the configured one. -/
  grammar : Option Grammar := none
  /-- Completions in the place of the configured ones. -/
  candidates : List Text := []
  json : Bool := false
deriving DecidableEq, Repr

/-- A matcher phrase and what to make of it. -/
structure TermsArguments where
  phrase : Text := []
  /-- Columns to sort by, with directions. -/
  sorters : List (Text × Text) := []
  offset : UInt64 := 0
  /-- How many results to return at most; none for the configured page size. -/
  limit : Option UInt64 := none
  json : Bool := false
deriving DecidableEq, Repr

/-- A query string to decode. -/
structure DecodeArguments where
  query : Text := []
  json : Bool := false
deriving DecidableEq, Repr

/-- Which settings file to create. -/
structure InitArguments where
  /-- Whether to create the one in the home directory. -/
  wantsGlobal : Bool := false
  /-- Whether to overwrite one that is there. -/
  force : Bool := false
deriving DecidableEq, Repr

inductive Command
  /-- Shows how a phrase is taken apart. -/
  | analyze (arguments : PhraseArguments)
  | suggest (arguments : PhraseArguments)
  /-- Makes a request of a matcher phrase. -/
  | terms (arguments : TermsArguments)
  | decode (arguments : DecodeArguments)
  | config
  | check
  | init (arguments : InitArguments)
deriving DecidableEq, Repr

/-- A command and how often more logging was asked for. -/
structure Invocation where
  command : Command
  /-- How often more logging was asked for. -/
  verbose : Nat
deriving DecidableEq, Repr

def logLevel : Nat → Text
  | 0 => "warn"
  | 1 => "debug"
  | _ => "trace"

/-! ## Values of options -/

def countValue (text : Text) : Except Text UInt64 :=
  (readCount text).mapError CountError.message

/-- Reads the name of a grammar. -/
def grammarValue (text : Text) : Except Text Grammar :=
  match Grammar.ofName? text with
  | some grammar => .ok grammar
  | none => .error (Grammar.unknownMessage text)

/-- Reads a column and a direction with a colon between them. -/
def sorterValue (text : Text) : Except Text (Text × Text) :=
  match Text.cutAt ':' text with
  | (c :: column, some (d :: direction)) => .ok (c :: column, d :: direction)
  | _ => .error ("expected column:direction, got '" ++ text ++ ['\''])

/-! ## Usages -/

/-- The options on a phrase. -/
def phraseChoices : List (Choice PhraseArguments) :=
  [{ long := "cursor", short := some 'c',
     effect := .value "CURSOR" false fun text arguments =>
      (countValue text).map fun n => { arguments with cursor := some n } },
    { long := "grammar", short := some 'g',
      effect := .value "GRAMMAR" false fun text arguments =>
        (grammarValue text).map fun grammar =>
          { arguments with grammar := some grammar } },
    { long := "json", effect := .flag fun arguments =>
        { arguments with json := true } }]

def candidateChoice : Choice PhraseArguments where
  long := "candidate"
  effect := .value "CANDIDATE" true fun text arguments =>
    .ok { arguments with candidates := arguments.candidates ++ [text] }

/-- Takes in the text of a phrase. -/
def putText (text : Text) (arguments : PhraseArguments) : PhraseArguments :=
  { arguments with text := text }

def analyzeUsage : Usage PhraseArguments where
  about := "Show how a phrase is tokenized and what the cursor touches"
  choices := phraseChoices
  plain := some putText

def suggestUsage : Usage PhraseArguments where
  about := "Complete the token under the cursor"
  choices := candidateChoice :: phraseChoices
  plain := some putText

def termsUsage : Usage TermsArguments where
  about := "Turn a matcher phrase into filter terms and request parameters"
  choices :=
    [{ long := "sort", short := some 's',
       effect := .value "COLUMN:DIR" true fun text arguments =>
        (sorterValue text).map fun sorter =>
          { arguments with sorters := arguments.sorters ++ [sorter] } },
      { long := "offset",
        effect := .value "OFFSET" false fun text arguments =>
          (countValue text).map fun n => { arguments with offset := n } },
      { long := "limit", short := some 'n',
        effect := .value "LIMIT" false fun text arguments =>
          (countValue text).map fun n => { arguments with limit := some n } },
      { long := "json", effect := .flag fun arguments =>
          { arguments with json := true } }]
  plain := some fun text arguments => { arguments with phrase := text }

def decodeUsage : Usage DecodeArguments where
  about := "Decode request parameters back into terms"
  choices := [{ long := "json", effect := .flag fun arguments =>
    { arguments with json := true } }]
  plain := some fun text arguments => { arguments with query := text }

def configUsage : Usage Unit where
  about := "Show effective configuration settings"
  choices := []

def checkUsage : Usage Unit where
  about := "Validate configuration and diagnose issues"
  choices := []

def initUsage : Usage InitArguments where
  about := "Initialize sift configuration in current directory"
  choices :=
    [{ long := "global", effect := .flag fun arguments =>
        { arguments with wantsGlobal := true } },
      { long := "force", effect := .flag fun arguments =>
        { arguments with force := true } }]

/-- What the program takes in front of the name of a command. -/
def programUsage : Usage Unit where
  about := "Analyze query phrases and build structured query terms"
  choices := []

/-! ## Whole command lines -/

/-- The name of the program. -/
def programName : Text := "sift"

/-- A named command: what is known about it and how its arguments are read. -/
structure Subcommand where
  name : Text
  /-- What is known about it. -/
  about : Text
  /-- Reads its arguments. -/
  read : List Text → Except ArgumentError (Command × Nat)

/-- The command with a usage. -/
def subcommand {α : Type} (name : Text) (usage : Usage α) (base : α)
    (make : α → Command) : Subcommand where
  name := name
  about := usage.about
  read arguments := (usage.read base arguments).map fun (arguments, verbose) =>
    (make arguments, verbose)

def subcommands : List Subcommand :=
  [subcommand "analyze" analyzeUsage {} .analyze,
    subcommand "suggest" suggestUsage {} .suggest,
    subcommand "terms" termsUsage {} .terms,
    subcommand "decode" decodeUsage {} .decode,
    subcommand "config" configUsage () fun _ => .config,
    subcommand "check" checkUsage () fun _ => .check,
    subcommand "init" initUsage {} .init]

/-- The name of the command that shows help. -/
def helpName : Text := "help"

/-- What is known about the command that shows help. -/
def helpAbout : Text :=
  "Print this message or the help of the given subcommand(s)"

/-- Everything that can be asked about, with what is known about it. -/
def topics : List (Text × Text) :=
  (subcommands.map fun c => (c.name, c.about)) ++ [(helpName, helpAbout)]

/-- The answer to a question about commands: each is a part of the one before,
and no command has parts. -/
def answerHelp : List Text → ArgumentError
  | [] => .help programUsage.about
  | name :: rest =>
    match topics.lookup name, rest with
    | none, _ => .unknownCommand name
    | some about, [] => .help about
    | some _, part :: _ => .unknownCommand part

/-- What is wrong with a command line without a command. -/
def withoutCommand (verbose : Nat) : ArgumentError :=
  if verbose = 0 then .nothing programUsage.about
  else .missingCommand programName

/-- What is wrong with a command line that has two dashes in front of the name. -/
def afterDashes (verbose : Nat) : List Text → ArgumentError
  | [] => withoutCommand verbose
  | name :: _ =>
    if (topics.lookup name).isSome then .unknownArgument name
    else .unknownCommand name

/-- Reads a command line from the given progress on. -/
def readLine : Progress Unit → List Text → Except ArgumentError Invocation
  | progress, [] => .error (withoutCommand progress.verbose)
  | progress, argument :: rest =>
    match subcommands.find? (·.name == argument) with
    | some command => do
      let (command, verbose) ← command.read rest
      .ok ⟨command, if verbose = 0 then progress.verbose else verbose⟩
    | none =>
      if argument = helpName then .error (answerHelp rest)
      else if argument = ['-', '-'] then
        .error (afterDashes progress.verbose rest)
      else
        match progress.readOption? programUsage argument with
        | some next => do readLine (← next) rest
        | none => .error (.unknownCommand argument)

/-- Reads the arguments of the program. -/
def read (arguments : List Text) : Except ArgumentError Invocation :=
  readLine { arguments := () } arguments

end QueryPhrase.CommandLine
