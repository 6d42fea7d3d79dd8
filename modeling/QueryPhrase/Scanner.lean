import QueryPhrase.Text.Blank
import QueryPhrase.Keyword

/-!
# Scanners

A scanner is the lexer's place in its text. It divides the text in three: what
earlier tokens cover, the pending run, and what lies ahead. Recognizers see the
text only through it.

Look-ahead counts given from outside are 64-bit words, and looking further ahead
than the words reach fails.
-/

namespace QueryPhrase

/-- A place in a text. -/
structure Scanner where
  text : Text
  /-- How many characters are consumed. -/
  position : Nat
  /-- The offset where the pending run starts. -/
  start : Nat
deriving DecidableEq, Repr

namespace Scanner

/-- The place before the first character. -/
def ofText (text : Text) : Scanner := ⟨text, 0, 0⟩

/-- The characters from one offset up to another. -/
def slice (s : Scanner) (low high : Nat) : Text :=
  (s.text.drop low).take (high - low)

/-- How many characters the text has. -/
def length (s : Scanner) : Nat := s.text.length

/-- Whether the text is empty. -/
def isEmpty (s : Scanner) : Bool := s.text.isEmpty

/-- The offset of the last character of the run; none while the run is empty. -/
def stop? (s : Scanner) : Option Nat :=
  if s.start < s.position then some (s.position - 1) else none

/-- The characters consumed since the last token. -/
def run (s : Scanner) : Text := s.slice s.start s.position

/-- Everything consumed, the run included. -/
def behind (s : Scanner) : Text := s.text.take s.position

/-- Everything consumed before the run. -/
def beforeRun (s : Scanner) : Text := s.text.take s.start

def rest (s : Scanner) : Text := s.text.drop s.position

/-- Up to `count` characters ahead; fails when position and count together leave
the words. -/
def ahead? (s : Scanner) (count : UInt64) : Option Text :=
  if s.position + count.toNat < UInt64.size then
    some (s.slice s.position (min (s.position + count.toNat) s.length))
  else none

def atEnd (s : Scanner) : Bool := s.rest.isEmpty

/-- Whether a blank character is next. -/
def blankAhead (s : Scanner) : Bool := s.rest.startsBlank

/-- Whether a token may end here: at the end of the text or before a blank. -/
def atBoundary (s : Scanner) : Bool := s.atEnd || s.blankAhead

/-- Whether one of the given texts is next. -/
def startsWithAny (s : Scanner) (texts : List Text) : Bool :=
  texts.any (·.isPrefixOf s.rest)

/-- Whether the consumed text ends in one of the given texts. -/
def endsWithAny (s : Scanner) (texts : List Text) : Bool :=
  texts.any (·.isSuffixOf s.behind)

/-- Whether a connective follows between blanks: at least one blank, the keyword,
and then another blank or the end of the text. -/
def separatorAhead (s : Scanner) : Bool :=
  s.blankAhead &&
    Keyword.isSeparator
      ((s.rest.dropWhile isBlank).takeWhile fun c => !isBlank c)

/-- Whether the last word consumed is a connective: its keyword at the end, after
a blank or the start of the text. -/
def separatorBehind (s : Scanner) : Bool :=
  Keyword.isSeparator (s.behind.reverse.takeWhile fun c => !isBlank c).reverse

def advance (s : Scanner) : Scanner := { s with position := s.position + 1 }

def mark (s : Scanner) : Scanner := { s with start := s.position }

end Scanner

end QueryPhrase
