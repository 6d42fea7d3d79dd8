import QueryPhrase.Text

/-!
# Keywords

The fixed words of the three grammars. Comparison operators and separators are
recognized in any ASCII case, boolean operators only as written here. The order
of each list is the order in which completions offer it.
-/

namespace QueryPhrase.Keyword

/-- The boolean operators of the field grammar. -/
def booleanOperators : List Text := ["AND", "OR", "NOT", "&&", "||", "!"]

/-- The comparison operators of a matcher triple. -/
def matcherOperators : List Text := ["like", "in", "is", ">=", "<=", "="]

/-- The connectives between matcher triples. -/
def separators : List Text := ["or", "and"]

/-- Whether a word is a boolean operator. -/
def isBooleanOperator (word : Text) : Bool := booleanOperators.contains word

/-- Whether a word is a comparison operator, in any ASCII case. -/
def isMatcherOperator (word : Text) : Bool :=
  matcherOperators.any (Text.eqCaseless · word)

/-- Whether a word is a connective, in any ASCII case. -/
def isSeparator (word : Text) : Bool :=
  separators.any (Text.eqCaseless · word)

end QueryPhrase.Keyword
