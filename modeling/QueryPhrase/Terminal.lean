import QueryPhrase.Token

/-!
# Terminal styles

Escape sequences that colour text on a terminal. A styled text is wrapped in its
style and a reset. A phrase is shown token by token, each leaf in the style of its
kind; blanks and plain words stay as they are.
-/

namespace QueryPhrase.Terminal

/-- The escape sequence with the given parameter. -/
def sequence (parameter : Text) : Text := '\x1b' :: '[' :: (parameter ++ ['m'])

def bold : Text := sequence "1"

def dim : Text := sequence "2"

def green : Text := sequence "32"

def yellow : Text := sequence "33"

def magenta : Text := sequence "35"

def cyan : Text := sequence "36"

def reset : Text := sequence "0"

/-- A text in a style. -/
def paint (style text : Text) : Text := style ++ text ++ reset

def header (text : Text) : Text := paint (bold ++ cyan) text

/-- A heading of lower rank. -/
def subheader (text : Text) : Text := paint bold text

def dimmed (text : Text) : Text := paint dim text

def success (text : Text) : Text := paint green text

def warning (text : Text) : Text := paint yellow text

/-- A caret under the character at an offset. -/
def caret (offset : Nat) : Text := Text.spaces offset ++ paint bold "^"

/-- Every line behind a number of spaces, joined again. -/
def indent (text : Text) (width : Nat) : Text :=
  Text.joined "\n" ((Text.lines text).map (Text.spaces width ++ ·))

/-- The style of a kind of token; none for blanks, words and composites. -/
def style? : TokenKind → Option Text
  | .whitespace | .word | .term | .matcher => none
  | .field | .column => some cyan
  | .delimiter => some dim
  | .value => some green
  | .comparator => some yellow
  | .operator | .separator => some magenta

/-- A leaf in its style. -/
def highlightLeaf (kind : TokenKind) (value : Text) : Text :=
  match style? kind with
  | some style => paint style value
  | none => value

mutual

/-- A token in its style; a composite is shown through its parts. -/
def highlightToken : Token → Text
  | ⟨kind, value, _, _, []⟩ => highlightLeaf kind value
  | ⟨_, _, _, _, child :: children⟩ => highlight (child :: children)

/-- Tokens in their styles, one after the other. -/
def highlight : List Token → Text
  | [] => []
  | token :: rest => highlightToken token ++ highlight rest

end

/-- Strips a text, beginning inside (`true`) or outside an escape sequence. -/
def stripFrom : Bool → Text → Text
  | _, [] => []
  | true, c :: rest => stripFrom (c != 'm') rest
  | false, c :: rest =>
    if c = '\x1b' then stripFrom true rest else c :: stripFrom false rest

/-- A text without its escape sequences: each runs from the escape character to
the next `m`. -/
def strip (text : Text) : Text := stripFrom false text

end QueryPhrase.Terminal
