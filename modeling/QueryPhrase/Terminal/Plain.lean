import QueryPhrase.Terminal

/-!
# Plain text

What is left of a text where a terminal has no styles. Escape sequences go, and so
do controls that are not blanks. How a sequence begins says where it ends: a
control sequence with the first character from the at sign on, a string with the
next escape character or, of one kind, with a bell, and any other sequence with
the first character from the digits on.
-/

namespace QueryPhrase.Terminal

/-- What the next character is a part of. -/
inductive Mode
  | shown
  /-- A sequence of which only the escape character has come. -/
  | escape
  | short
  | control
  /-- A string, and whether a bell ends it. -/
  | string (bell : Bool)
deriving DecidableEq, Repr

/-- Where the character after the escape character leads. -/
def Mode.afterEscape (c : Char) : Mode :=
  if c = '[' then control
  else if c = ']' then string true
  else if c = 'P' || c = 'X' || c = '^' || c = '_' then string false
  else if c < '0' then short
  else shown

/-- Whether a character is a control that is kept as a blank. -/
def isBlankControl (c : Char) : Bool :=
  c = '\t' || c = '\n' || c = '\x0c' || c = '\r'

/-- What is left of an ASCII character, and what follows it. Inside a sequence a
blank control is shown and ends it; other controls change nothing. -/
def plainAscii (mode : Mode) (c : Char) : Text × Mode :=
  match mode with
  | .string bell => ([], if bell && c = '\x07' then .shown else mode)
  | .shown | .escape | .short | .control =>
    if isBlankControl c then ([c], .shown)
    else if c < ' ' || c = '\x7f' then ([], mode)
    else
      match mode with
      | .escape => ([], .afterEscape c)
      | .short => ([], if c < '0' then .short else .shown)
      | .control => ([], if c < '@' then .control else .shown)
      | _ => ([c], .shown)

/-- What is left of a character, and what follows it. An escape character always
begins anew, and two controls always end a sequence. A sequence has no room for a
character of several bytes: it ends with the first, and the others are no text. -/
def plainStep (mode : Mode) (c : Char) : Text × Mode :=
  if c = '\x1b' then ([], .escape)
  else if c = '\x18' || c = '\x1a' then ([], .shown)
  else if c.toNat < 128 then plainAscii mode c
  else if mode = .shown then ([c], .shown)
  else (List.replicate (c.utf8Size - 1) '\ufffd', .shown)

/-- What is left of a text that begins in a mode. -/
def plainFrom (mode : Mode) : Text → Text
  | [] => []
  | c :: rest =>
    let (left, next) := plainStep mode c
    left ++ plainFrom next rest

def plain (text : Text) : Text := plainFrom .shown text

end QueryPhrase.Terminal
