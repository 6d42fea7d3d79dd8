import QueryPhrase.Text.Quoted

/-!
# Tokens

A token is a labelled, contiguous span of a phrase. Offsets count characters and
`stop` is the offset of the last character, so a token over the first six
characters has `start` 0 and `stop` 5. A composite token holds its parts as
children; a leaf has none.
-/

namespace QueryPhrase

inductive TokenKind
  | whitespace
  | word
  | operator
  | term
  | field
  | delimiter
  | value
  | matcher
  | column
  | comparator
  | separator
deriving DecidableEq, Repr

namespace TokenKind

/-- Every kind, in the order above. -/
def all : List TokenKind :=
  [whitespace, word, operator, term, field, delimiter, value, matcher, column,
    comparator, separator]

/-- The lowercase name of a kind. -/
def name : TokenKind → Text
  | whitespace => "whitespace"
  | word => "word"
  | operator => "operator"
  | term => "term"
  | field => "field"
  | delimiter => "delimiter"
  | value => "value"
  | matcher => "matcher"
  | column => "column"
  | comparator => "comparator"
  | separator => "separator"

/-- The kind with the given name. -/
def ofName? (text : Text) : Option TokenKind := all.find? (·.name == text)

/-- Whether tokens of this kind are made of parts. -/
def isComposite : TokenKind → Bool
  | term | matcher => true
  | _ => false

end TokenKind

/-- A labelled span of a phrase. -/
structure Token where
  kind : TokenKind
  value : Text
  /-- The offset of its first character. -/
  start : Nat
  /-- The offset of its last character. -/
  stop : Nat
  /-- Its parts, in order; none for a leaf. -/
  children : List Token
deriving Repr

namespace Token

/-- A leaf over `value` from `start` on. An empty value still takes up the one
offset `start`. -/
def leaf (kind : TokenKind) (value : Text) (start : Nat) : Token :=
  ⟨kind, value, start, start + (value.length - 1), []⟩

/-- The token made of `children`, from the start of the first to the stop of the
last; none without children. -/
def composite (kind : TokenKind) (children : List Token) : Option Token :=
  match children.head?, children.getLast? with
  | some first, some last =>
    some ⟨kind, children.flatMap Token.value, first.start, last.stop, children⟩
  | _, _ => none

/-- How many characters the token covers. -/
def length (token : Token) : Nat := token.stop + 1 - token.start

/-- Whether a cursor touches the token; one right after it still does. -/
def contains (token : Token) (cursor : Nat) : Bool :=
  token.start ≤ cursor && cursor ≤ token.stop + 1

/-- Whether the token has parts. -/
def isComposite (token : Token) : Bool := !token.children.isEmpty

/-- The first part of the given kind. -/
def child? (token : Token) (kind : TokenKind) : Option Token :=
  token.children.find? (·.kind == kind)

/-- The text of the token up to the cursor. -/
def upTo (token : Token) (cursor : Nat) : Text :=
  token.value.take (cursor - token.start)

end Token

/-- The text a list of tokens covers. -/
def Token.textOf (tokens : List Token) : Text := tokens.flatMap Token.value

end QueryPhrase
