import QueryPhrase.Text.Escape

/-!
# Quoted phrases

A value that begins with a double quote is a phrase. It is closed when it ends
with a quote of its own that an odd run of backslashes does not escape. Two ways
of telling live here: `closesPhrase` looks at the end of a whole value, and
`QuoteState` follows the quotes one character at a time.

`quote` writes a text as a closed phrase, and `phraseText` reads the text a value
denotes.
-/

namespace QueryPhrase

/-- Whether a value begins with a double quote. -/
def isPhrase : Text → Bool
  | '"' :: _ => true
  | _ => false

/-- Whether the text ends in an even number of backslashes. -/
def endsUnescaped (text : Text) : Bool :=
  (text.reverse.takeWhile (· == '\\')).length % 2 == 0

/-- Whether a value is a phrase with an unescaped closing quote. -/
def closesPhrase : Text → Bool
  | '"' :: inner =>
    inner.getLast? == some '"' && endsUnescaped inner.dropLast
  | _ => false

/-- A value without its surrounding quotes. An unclosed phrase loses only the
opening one, and a value that is no phrase is left alone. -/
def unquoted (value : Text) : Text :=
  match value with
  | '"' :: inner => if closesPhrase value then inner.dropLast else inner
  | _ => value

/-- The text a value denotes: a phrase loses its quotes and its escapes. -/
def phraseText (value : Text) : Text :=
  if isPhrase value then unescape (unquoted value) else value

/-- Writes a text as a closed phrase. -/
def quote (text : Text) : Text :=
  '"' :: (escape (· == '"') text ++ ['"'])

/-! ## Following quotes forwards -/

/-- What has been seen of the quotes so far. -/
structure QuoteState where
  /-- Inside a quote that is not closed yet. -/
  isOpen : Bool := false
  /-- The last character was an unescaped backslash. -/
  escaped : Bool := false
deriving DecidableEq, Repr

namespace QuoteState

def push (state : QuoteState) (c : Char) : QuoteState :=
  if state.escaped then ⟨state.isOpen, false⟩
  else if c = '\\' then ⟨state.isOpen, true⟩
  else if c = '"' then ⟨!state.isOpen, false⟩
  else ⟨state.isOpen, false⟩

/-- Whether every unescaped quote read so far has a partner. -/
def balanced (state : QuoteState) : Bool := !state.isOpen

/-- The state after a whole text. -/
def ofText (text : Text) : QuoteState := text.foldl push {}

end QuoteState

end QueryPhrase
