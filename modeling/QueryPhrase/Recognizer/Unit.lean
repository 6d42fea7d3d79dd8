import QueryPhrase.Recognizer
import QueryPhrase.Recognizer.Field
import QueryPhrase.Recognizer.Matcher

/-!
# Grammar units

The six recognizers the built-in grammars are made of, each with the state it
keeps while reading. Four of them only gather characters and judge the buffer as
a whole; field terms and matcher triples keep more.
-/

namespace QueryPhrase

/-- One of the built-in recognizers, with its state. -/
inductive GrammarUnit
  | word (buffer : TokenBuffer)
  | whitespace (buffer : TokenBuffer)
  | operator (buffer : TokenBuffer)
  | separator (buffer : TokenBuffer)
  | field (term : FieldTerm)
  | matcher (triple : MatcherTriple)
deriving DecidableEq, Repr

namespace GrammarUnit

/-- The name of a unit. -/
def name : GrammarUnit → Text
  | word _ => "word"
  | whitespace _ => "whitespace"
  | operator _ => "operator"
  | separator _ => "separator"
  | field _ => "field"
  | matcher _ => "matcher"

/-- The unit of the same sort that has read nothing, anchored at `start`. -/
def reset (unit : GrammarUnit) (start : Nat) : GrammarUnit :=
  match unit with
  | word _ => word (.empty start)
  | whitespace _ => whitespace (.empty start)
  | operator _ => operator (.empty start)
  | separator _ => separator (.empty start)
  | field _ => field (.empty start)
  | matcher _ => matcher (.empty start)

def append (unit : GrammarUnit) (c : Char) : GrammarUnit :=
  match unit with
  | word buffer => word (buffer.append c)
  | whitespace buffer => whitespace (buffer.append c)
  | operator buffer => operator (buffer.append c)
  | separator buffer => separator (buffer.append c)
  | field term => field (term.append c)
  | matcher triple => matcher (triple.append c)

/-- Whether the unit should take over the pending run. -/
def locks (unit : GrammarUnit) (s : Scanner) : Bool :=
  match unit with
  | word _ => !s.run.isEmpty && !s.run.any isBlank
  | whitespace _ => !s.run.isEmpty && s.run.all isBlank
  | operator _ => Keyword.isBooleanOperator s.run && s.atBoundary
  | separator _ =>
    Keyword.isSeparator s.run && s.separatorBehind && s.atBoundary
  | field _ => FieldTerm.locks s
  | matcher _ => MatcherTriple.locks s

/-- The token the unit's characters make at this place, if they make one. -/
def token? (unit : GrammarUnit) (s : Scanner) : Option Token :=
  match unit with
  | word buffer =>
    if s.atBoundary && !buffer.value.any isBlank then buffer.token? .word
    else none
  | whitespace buffer =>
    if !s.blankAhead && buffer.value.all isBlank then
      buffer.token? .whitespace
    else none
  | operator buffer =>
    if Keyword.isBooleanOperator buffer.value && s.atBoundary then
      buffer.token? .operator
    else none
  | separator buffer =>
    if Keyword.isSeparator buffer.value && s.atBoundary then
      buffer.token? .separator
    else none
  | field term => term.token? s
  | matcher triple => triple.token? s

instance : Recognizer GrammarUnit where
  name := name
  reset := reset
  append := append
  locks := locks
  token? := token?

/-- The six units before any character, in alphabetical order of their names. -/
def all : List GrammarUnit :=
  [field (.empty 0), matcher (.empty 0), operator (.empty 0),
    separator (.empty 0), whitespace (.empty 0), word (.empty 0)]

/-- The unit with the given name. -/
def ofName? (text : Text) : Option GrammarUnit := all.find? (·.name == text)

end GrammarUnit

end QueryPhrase
