import QueryPhrase.Terminal.Plain

/-!
# Options of a command

A command takes options and at most one plain argument. An option has a long name
and may have a short one; its value follows it, or is attached to it: after an
equals sign, or to the short name directly. Short names may share one dash. What
comes after two dashes alone is plain.

A value is read when the next option or plain argument comes, or at the end. So
what is wrong with an argument itself is noticed before a wrong value in front
of it.
-/

namespace QueryPhrase.CommandLine

/-! ## Errors -/

/-- Why arguments are not carried out. -/
inductive ArgumentError
  /-- Help on something is asked for. -/
  | help (about : Text)
  /-- There are no arguments; what is known about the program helps. -/
  | nothing (about : Text)
  | missingCommand (program : Text)
  | unknownCommand (name : Text)
  /-- An argument that has no place. -/
  | unknownArgument (argument : Text)
  /-- A value an option cannot have. -/
  | invalidValue (value option reason : Text)
  | missingValue (option : Text)
  /-- An option that comes again. -/
  | repeatedOption (option : Text)
  /-- A value for an option that takes none. -/
  | surplusValue (value option : Text)
  | missingArgument
deriving DecidableEq, Repr

/-- A text that is wrong, in quotes. -/
def wrongText (text : Text) : Text :=
  "'" ++ Terminal.paint Terminal.yellow text ++ "'"

/-- A text that can be typed, in quotes. -/
def typedText (text : Text) : Text :=
  "'" ++ Terminal.paint Terminal.bold text ++ "'"

/-- What is said of an error, in styles. -/
def ArgumentError.complaint : ArgumentError → Text
  | help about => about
  | nothing about => about
  | missingCommand program =>
    "error: " ++ wrongText program ++
      " requires a subcommand but one was not provided"
  | unknownCommand name => "error: unrecognized subcommand " ++ wrongText name
  | unknownArgument argument =>
    "error: unexpected argument " ++ wrongText argument ++ " found"
  | invalidValue value option reason =>
    "error: invalid value " ++ wrongText value ++ " for " ++
      typedText option ++ ": " ++ reason
  | missingValue option =>
    "error: a value is required for " ++ typedText option ++
      " but none was supplied"
  | repeatedOption option =>
    "error: the argument " ++ typedText option ++
      " cannot be used multiple times"
  | surplusValue value option =>
    "error: unexpected value " ++ wrongText value ++ " for " ++
      typedText option ++ " found; no more were expected"
  | missingArgument =>
    "error: the following required arguments were not provided:"

/-- Where an error sends for help, in styles; help itself sends nowhere. -/
def ArgumentError.hint : ArgumentError → Text
  | help _ => []
  | nothing _ => []
  | _ => "\n\nFor more information, try " ++ typedText "--help" ++ "."

/-- What is said of an error, without styles. What was typed may hold escape
sequences of its own; they go with the styles around it. -/
def ArgumentError.message (error : ArgumentError) : Text :=
  Terminal.plain (error.complaint ++ error.hint)

/-- The exit code of an error: asking for help is none. -/
def ArgumentError.exitCode : ArgumentError → Nat
  | help _ => 0
  | _ => 2

/-! ## Options -/

/-- What an option does to the arguments of its command. -/
inductive Effect (α : Type)
  | help
  /-- Asks for more to be logged, each time it comes. -/
  | verbose
  /-- Sets something, once. -/
  | flag (set : α → α)
  /-- Reads a value, once unless it repeats. -/
  | value (name : Text) (repeats : Bool) (read : Text → α → Except Text α)

structure Choice (α : Type) where
  /-- The name after two dashes. -/
  long : Text
  /-- The name after one dash. -/
  short : Option Char := none
  effect : Effect α

/-- How an option is shown. -/
def Choice.shown {α : Type} (choice : Choice α) : Text :=
  let name := '-' :: '-' :: choice.long
  match choice.effect with
  | .help | .flag _ => name
  | .verbose => name ++ "..."
  | .value placeholder _ _ => name ++ " <" ++ placeholder ++ ">"

/-- What a command takes, over the type of its arguments. -/
structure Usage (α : Type) where
  /-- What is known about the command. -/
  about : Text
  choices : List (Choice α)
  /-- Takes in the plain argument, if the command has one. -/
  plain : Option (Text → α → α) := none

/-- The options every command has. -/
def commonChoices {α : Type} : List (Choice α) :=
  [{ long := "verbose", short := some 'v', effect := .verbose },
    { long := "help", short := some 'h', effect := .help }]

/-- The option with a long name. -/
def Usage.long? {α : Type} (usage : Usage α) (name : Text) :
    Option (Choice α) :=
  (usage.choices ++ commonChoices).find? (·.long == name)

/-- The option with a short name. -/
def Usage.short? {α : Type} (usage : Usage α) (name : Char) :
    Option (Choice α) :=
  (usage.choices ++ commonChoices).find? (·.short == some name)

/-! ## Reading -/

/-- How far reading has come. -/
structure Progress (α : Type) where
  arguments : α
  /-- The long names of options that must not come again. -/
  seen : List Text := []
  /-- How often more logging was asked for. -/
  verbose : Nat := 0
  /-- The option that comes next, with its value once that is there. -/
  pending : Option (Choice α × Option Text) := none
  /-- Whether the plain argument has come. -/
  filled : Bool := false

namespace Progress

variable {α : Type}

/-- Marks an option as seen, if it may come only once. -/
def once (progress : Progress α) (choice : Choice α) :
    Except ArgumentError (Progress α) :=
  if progress.seen.contains choice.long then
    .error (.repeatedOption choice.shown)
  else .ok { progress with seen := choice.long :: progress.seen }

/-- Reads the value of an option. -/
def take (progress : Progress α) (choice : Choice α) (value : Text) :
    Except ArgumentError (Progress α) :=
  match choice.effect with
  | .value _ repeats read => do
    let progress ← if repeats then .ok progress else progress.once choice
    match read value progress.arguments with
    | .ok arguments => .ok { progress with arguments := arguments }
    | .error reason => .error (.invalidValue value choice.shown reason)
  | _ => .ok progress

/-- Reads the value of the option that comes next. -/
def settle (progress : Progress α) : Except ArgumentError (Progress α) :=
  match progress.pending with
  | none => .ok progress
  | some (choice, none) => .error (.missingValue choice.shown)
  | some (choice, some value) =>
    { progress with pending := none }.take choice value

/-- Carries out an option that takes no value, or waits for the value. -/
def start (progress : Progress α) (about : Text) (choice : Choice α) :
    Except ArgumentError (Progress α) := do
  let progress ← progress.settle
  match choice.effect with
  | .help => .error (.help about)
  | .verbose => .ok { progress with verbose := min 255 (progress.verbose + 1) }
  | .flag set => do
    let progress ← progress.once choice
    .ok { progress with arguments := set progress.arguments }
  | .value .. => .ok { progress with pending := some (choice, none) }

/-- Carries out an option with an attached value. -/
def attach (progress : Progress α) (choice : Choice α) (value : Text) :
    Except ArgumentError (Progress α) :=
  match choice.effect with
  | .value .. => do (← progress.settle).take choice value
  | _ => .error (.surplusValue value choice.shown)

/-- Reads an argument that has a long name after its dashes. -/
def readLong (progress : Progress α) (usage : Usage α) (text : Text) :
    Except ArgumentError (Progress α) :=
  let (name, value) := Text.cutAt '=' text
  match usage.long? name, value with
  | none, _ => .error (.unknownArgument ('-' :: '-' :: name))
  | some choice, some value => progress.attach choice value
  | some choice, none => progress.start usage.about choice

/-- The value attached to a short name, if there is one. -/
def attached? : Text → Option Text
  | [] => none
  | '=' :: value => some value
  | value => some value

/-- Reads the short names after a dash. -/
def readShort (progress : Progress α) (usage : Usage α) :
    Text → Except ArgumentError (Progress α)
  | [] => .ok progress
  | name :: rest =>
    match usage.short? name with
    | none => .error (.unknownArgument ['-', name])
    | some choice =>
      match choice.effect, attached? rest with
      | .value .., some value => progress.attach choice value
      | _, _ => do (← progress.start usage.about choice).readShort usage rest

/-- Reads an argument that starts with a dash and says more; none if it does
not. -/
def readOption? (progress : Progress α) (usage : Usage α) (argument : Text) :
    Option (Except ArgumentError (Progress α)) :=
  match argument with
  | '-' :: '-' :: text => some (progress.readLong usage text)
  | '-' :: c :: text => some (progress.readShort usage (c :: text))
  | _ => none

def readPlain (progress : Progress α) (usage : Usage α) (argument : Text) :
    Except ArgumentError (Progress α) :=
  match usage.plain, progress.filled with
  | some put, false => do
    let progress ← progress.settle
    .ok { progress with
      arguments := put argument progress.arguments
      filled := true }
  | _, _ => .error (.unknownArgument argument)

/-- Reads the arguments of a command, those after two dashes (`true`) as plain
ones. -/
def readAll (usage : Usage α) :
    Bool → Progress α → List Text → Except ArgumentError (Progress α)
  | _, progress, [] => progress.settle
  | true, progress, argument :: rest => do
    readAll usage true (← progress.readPlain usage argument) rest
  | false, progress, argument :: rest =>
    if argument = ['-', '-'] then readAll usage true progress rest
    else
      match progress.readOption? usage argument, progress.pending with
      | some next, _ => do readAll usage false (← next) rest
      | none, some (choice, none) =>
        readAll usage false
          { progress with pending := some (choice, some argument) } rest
      | none, _ => do
        readAll usage false (← progress.readPlain usage argument) rest

end Progress

/-- Reads the arguments of a command on top of `base`, and how often more logging
was asked for. -/
def Usage.read {α : Type} (usage : Usage α) (base : α) (arguments : List Text) :
    Except ArgumentError (α × Nat) := do
  let progress ← Progress.readAll usage false { arguments := base } arguments
  if usage.plain.isSome && !progress.filled then .error .missingArgument
  else .ok (progress.arguments, progress.verbose)

end QueryPhrase.CommandLine
