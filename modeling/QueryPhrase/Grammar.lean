import QueryPhrase.Lexer
import QueryPhrase.Recognizer.Unit

/-!
# Grammars

The three built-in grammars, each a list of grammar units in order of precedence.

* `word`: words between blanks, as in `red apples`;
* `field`: boolean queries, as in `status:open AND priority:"very high"`;
* `matcher`: triples with connectives, as in `name like foo or status = bar`.
-/

namespace QueryPhrase

inductive Grammar
  | word
  | field
  | matcher
deriving DecidableEq, Repr

namespace Grammar

def all : List Grammar := [word, field, matcher]

/-- The lowercase name of a grammar. -/
def name : Grammar → Text
  | word => "word"
  | field => "field"
  | matcher => "matcher"

/-- The grammar with the given name, in any ASCII case. -/
def ofName? (text : Text) : Option Grammar :=
  all.find? fun grammar => Text.eqCaseless grammar.name text

/-- What is said of a name that is no grammar's. -/
def unknownMessage (text : Text) : Text :=
  "unknown grammar: " ++ text ++ " (expected word, field or matcher)"

/-- The units of a grammar, the most specific first. -/
def units : Grammar → List GrammarUnit
  | word => [.word (.empty 0), .whitespace (.empty 0)]
  | field =>
    [.field (.empty 0), .operator (.empty 0), .word (.empty 0),
      .whitespace (.empty 0)]
  | matcher =>
    [.separator (.empty 0), .matcher (.empty 0), .whitespace (.empty 0)]

/-- A lexer for a grammar. -/
def lexer (grammar : Grammar) : Lexer GrammarUnit := ⟨grammar.units⟩

/-- The tokens of a text under a grammar. -/
def tokens (grammar : Grammar) (text : Text) : List Token :=
  grammar.lexer.tokens text

end Grammar

end QueryPhrase
