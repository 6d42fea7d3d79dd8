import QueryPhrase.Terminal
import QueryPhrase.Text.Literal

/-!
# Token trees

Tokens as lines: the kind, the span and the text of each token, its parts indented
below it.
-/

namespace QueryPhrase.Terminal

/-- A text filled up with spaces to a width. -/
def padded (text : Text) (width : Nat) : Text :=
  text ++ Text.spaces (width - text.length)

/-- The line of one token at a depth. -/
def treeLine (kind : TokenKind) (value : Text) (start stop depth : Nat) :
    Text :=
  Text.spaces (2 * depth) ++ padded kind.name 11 ++ " " ++
    dimmed (Text.ofNat start ++ "..=" ++ Text.ofNat stop) ++ " " ++
    literal value ++ "\n"

mutual

/-- A token and its parts, a line each. -/
def treeOf (depth : Nat) : Token → Text
  | ⟨kind, value, start, stop, children⟩ =>
    treeLine kind value start stop depth ++ treesOf (depth + 1) children

/-- Tokens and their parts, a line each. -/
def treesOf (depth : Nat) : List Token → Text
  | [] => []
  | token :: rest => treeOf depth token ++ treesOf depth rest

end

/-- Tokens as an indented tree. -/
def tree (tokens : List Token) : Text := treesOf 0 tokens

/-- A token in one line, for summaries. -/
def describe : Option Token → Text
  | some token => token.kind.name ++ " " ++ literal token.value
  | none => dimmed "none"

end QueryPhrase.Terminal
