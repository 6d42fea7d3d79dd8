import QueryPhrase.Token.Buffer
import QueryPhrase.Scanner

/-!
# Matcher triples

`column operator value`. The recognizer follows its progress through the triple
and the quotes character by character, so it can tell where the triple ends: at
the end of the text, or where a value is present, its quotes are balanced and a
connective follows. Only then is the text cut into its groups. A triple that is
still being typed gives whatever groups are there.
-/

namespace QueryPhrase

/-- How far a run has come through `column operator value`. -/
inductive MatcherTriple.Stage
  | column
  | afterColumn
  /-- Reading the second word, which should be an operator. -/
  | operator
  | afterOperator
  | value
  /-- The second word was no operator; only the end of the text ends the run. -/
  | noOperator
deriving DecidableEq, Repr

/-- A matcher triple as it is being read. -/
structure MatcherTriple where
  buffer : TokenBuffer
  stage : MatcherTriple.Stage
  /-- The second word while it is being read. -/
  operator : Text
  quotes : QuoteState
deriving DecidableEq, Repr

namespace MatcherTriple

/-- A triple before its first character. -/
def empty (start : Nat) : MatcherTriple :=
  ⟨.empty start, .column, [], {}⟩

/-- The stage and the second word after one more character. -/
def advance : Stage → Text → Char → Stage × Text
  | .column, word, c => (if isBlank c then .afterColumn else .column, word)
  | .afterColumn, word, c =>
    if isBlank c then (.afterColumn, word) else (.operator, word ++ [c])
  | .operator, word, c =>
    if isBlank c then
      (if Keyword.isMatcherOperator word then .afterOperator else .noOperator, [])
    else (.operator, word ++ [c])
  | .afterOperator, word, c =>
    (if isBlank c then .afterOperator else .value, word)
  | .value, word, _ => (.value, word)
  | .noOperator, word, _ => (.noOperator, word)

def append (t : MatcherTriple) (c : Char) : MatcherTriple :=
  let (stage, operator) := advance t.stage t.operator c
  ⟨t.buffer.append c, stage, operator, t.quotes.push c⟩

/-- A run that does not begin with a blank may be a triple. -/
def locks (s : Scanner) : Bool := s.run.head?.any fun c => !isBlank c

/-- Whether the triple is whole at this place. -/
def complete (t : MatcherTriple) (s : Scanner) : Bool :=
  s.atEnd ||
    (t.stage == .value && t.quotes.balanced && s.separatorAhead)

/-! ## Cutting into groups -/

/-- The six groups of a span: a word, blanks, a word, blanks, everything up to
the blanks at the end, and those. -/
def groups (text : Text) : List (TokenKind × Text) :=
  let solid := fun c => !isBlank c
  let afterColumn := text.dropWhile solid
  let fromOperator := afterColumn.dropWhile isBlank
  let afterOperator := fromOperator.dropWhile solid
  let fromValue := afterOperator.dropWhile isBlank
  let value := (fromValue.reverse.dropWhile isBlank).reverse
  [(.column, text.takeWhile solid),
    (.whitespace, afterColumn.takeWhile isBlank),
    (.comparator, fromOperator.takeWhile solid),
    (.whitespace, afterOperator.takeWhile isBlank),
    (.value, value),
    (.whitespace, fromValue.drop value.length)]

/-- Leaves for the groups that hold something, one after the other. -/
def leaves : List (TokenKind × Text) → Nat → List Token
  | [], _ => []
  | (kind, part) :: rest, start =>
    if part = [] then leaves rest start
    else Token.leaf kind part start :: leaves rest (start + part.length)

/-- The parts of a matcher span that starts at `start`. -/
def split (text : Text) (start : Nat) : List Token := leaves (groups text) start

/-- The matcher token, once the triple is whole. -/
def token? (t : MatcherTriple) (s : Scanner) : Option Token :=
  if !t.buffer.isEmpty && t.complete s then
    Token.composite .matcher (split t.buffer.value t.buffer.start)
  else none

end MatcherTriple

end QueryPhrase
