import QueryPhrase.Token.Buffer
import QueryPhrase.Scanner

/-!
# Field terms

`field:value` and `field:"quoted value"`. The part before the first colon is the
field, that colon is the delimiter, and everything after it is the value. A bare
value ends before a blank. A quoted value ends at its closing quote and takes in
blanks until then; at the end of the text it may stay unclosed.
-/

namespace QueryPhrase

/-- Which part of a field term the next character belongs to. -/
inductive FieldTerm.Part
  /-- Before the colon. -/
  | field
  /-- Right after the colon. -/
  | delimiter
  /-- After the first character of the value. -/
  | value
deriving DecidableEq, Repr

/-- A field term as it is being read. -/
structure FieldTerm where
  part : FieldTerm.Part
  /-- Whether the value begins with a quote. -/
  quoted : Bool
  field : TokenBuffer
  delimiter : TokenBuffer
  /-- The value, quotes included. -/
  value : TokenBuffer
deriving DecidableEq, Repr

namespace FieldTerm

/-- A field term before its first character. -/
def empty (start : Nat) : FieldTerm :=
  ⟨.field, false, .empty start, .empty start, .empty start⟩

def append (t : FieldTerm) (c : Char) : FieldTerm :=
  match t.part with
  | .field =>
    if c = ':' then
      { t with
        part := .delimiter
        delimiter := (TokenBuffer.empty t.field.next).append c }
    else { t with field := t.field.append c }
  | .delimiter =>
    { t with
      part := .value
      quoted := c == '"'
      value := (TokenBuffer.empty t.delimiter.next).append c }
  | .value => { t with value := t.value.append c }

/-- A run without blanks and with a colon next begins a field term. -/
def locks (s : Scanner) : Bool :=
  !s.run.isEmpty && !s.run.any isBlank && s.startsWithAny [":"]

/-- Whether the value is whole at this place. -/
def valueComplete (t : FieldTerm) (s : Scanner) : Bool :=
  s.atEnd || (if t.quoted then closesPhrase t.value.value else s.blankAhead)

/-- Whether the term is whole at this place. -/
def complete (t : FieldTerm) (s : Scanner) : Bool :=
  match t.part with
  | .field => false
  | .delimiter => s.atBoundary
  | .value => t.valueComplete s

/-- The parts that hold something. -/
def children (t : FieldTerm) : List Token :=
  [t.field.token? .field, t.delimiter.token? .delimiter,
    t.value.token? .value].filterMap id

/-- The term token, once the term is whole. -/
def token? (t : FieldTerm) (s : Scanner) : Option Token :=
  if t.complete s then Token.composite .term t.children else none

end FieldTerm

end QueryPhrase
