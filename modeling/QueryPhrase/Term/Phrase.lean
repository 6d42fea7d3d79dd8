import QueryPhrase.Grammar
import QueryPhrase.Term

/-!
# Terms in phrases

Matcher phrases and terms say the same thing. `Term.ofTokens` reads the terms of a
tokenized phrase, and `Term.phrase` writes one term as phrase text. A value is
written as a quoted phrase wherever it would not be read back as one value.
-/

namespace QueryPhrase.Term

/-! ## Reading -/

/-- The matcher of a matcher token; none unless its comparator is an operator. -/
def ofMatcherToken (token : Token) : Option Term := do
  let comparator ← token.child? .comparator
  let operator ← Operator.ofKind? .matcher comparator.value
  return {
    column := (token.child? .column).map Token.value
    operator := operator
    value := (token.child? .value).map fun value => phraseText value.value }

/-- The term of a token at top level; none for blanks and for triples without an
operator. -/
def ofToken (token : Token) : Option Term :=
  match token.kind with
  | .matcher => ofMatcherToken token
  | .separator => (Operator.ofKind? .separator token.value).map ofSeparator
  | _ => none

/-- The terms of a tokenized matcher phrase. -/
def ofTokens (tokens : List Token) : List Term := tokens.filterMap ofToken

/-- The terms of a matcher phrase. -/
def ofPhrase (text : Text) : List Term := ofTokens (Grammar.matcher.tokens text)

/-! ## Writing -/

/-- Whether a value has to be quoted to be read back as one value. -/
def needsQuotes (value : Text) : Bool :=
  value.isEmpty || value.any (fun c => isBlank c || c == '"') ||
    Keyword.isSeparator value

/-- A value as it stands in a phrase. -/
def valuePhrase (value : Text) : Text :=
  if needsQuotes value then quote value else value

/-- A term as phrase text: a separator is its keyword, anything else what it has
of column, operator and value. -/
def phrase (term : Term) : Text :=
  if term.isSeparator then term.operator.keyword
  else
    Text.joined " " ([term.column, some term.operator.keyword,
      term.value.map valuePhrase].filterMap fun part => part)

end QueryPhrase.Term
