import QueryPhrase.Grammar

/-!
# Analysis at a cursor

An analysis is a tokenized phrase with what a cursor in it touches: the innermost
token, the composite that holds it, and what is being completed. A cursor sits
between characters; where it touches two tokens the one that ends at it counts.

## Main statements

* `sizeOf_touching_lt`: the token found below another one is smaller, so the
  descent ends.
-/

namespace QueryPhrase

/-- What is being typed at a cursor. -/
structure CompletionSite where
  /-- The token a completion replaces; none when it is inserted. -/
  token : Option Token
  /-- The composite that holds the site. -/
  parent : Option Token
  /-- The text typed so far, from the start of the site to the cursor. -/
  typed : Text
deriving Repr

/-- A tokenized phrase and what a cursor touches in it. -/
structure Analysis where
  /-- The cursor, at most the length of the text. -/
  cursor : Nat
  /-- The tokens at top level. -/
  tokens : List Token
  /-- The innermost token the cursor touches; none only for the empty text. -/
  current : Option Token
  /-- The composite that holds `current` directly. -/
  parent : Option Token
  site : CompletionSite
deriving Repr

namespace Analysis

/-! ## Finding the token at a cursor -/

/-- The token among siblings that a cursor touches, first choice the one that
starts before it. -/
def touching (tokens : List Token) (cursor : Nat) : Option Token :=
  (tokens.find? fun t => t.start < cursor && cursor ≤ t.stop + 1) <|>
    tokens.find? fun t => t.start == cursor

theorem mem_of_touching {tokens : List Token} {cursor : Nat} {t : Token}
    (hFound : touching tokens cursor = some t) : t ∈ tokens := by
  unfold touching at hFound
  rcases hFirst : tokens.find?
      (fun t => t.start < cursor && cursor ≤ t.stop + 1) with _ | found
  · rw [hFirst] at hFound
    exact List.mem_of_find?_eq_some hFound
  · rw [hFirst] at hFound
    cases hFound
    exact List.mem_of_find?_eq_some hFirst

theorem sizeOf_touching_lt {parent child : Token} {cursor : Nat}
    (hFound : touching parent.children cursor = some child) :
    sizeOf child < sizeOf parent := by
  have hMem := List.sizeOf_lt_of_mem (mem_of_touching hFound)
  cases parent
  simp only [Token.mk.sizeOf_spec] at *
  omega

/-- The innermost token below `current` that a cursor touches, with the composite
that holds it. -/
def descend (cursor : Nat) (current : Token) (parent : Option Token) :
    Token × Option Token :=
  match _ : touching current.children cursor with
  | some child => descend cursor child (some current)
  | none => (current, parent)
termination_by sizeOf current
decreasing_by exact sizeOf_touching_lt (by assumption)

/-- The innermost token a cursor touches, with the composite that holds it. -/
def locate (tokens : List Token) (cursor : Nat) :
    Option (Token × Option Token) :=
  (touching tokens cursor).map fun t => descend cursor t none

/-! ## What is being completed -/

/-- A site where a completion is inserted. -/
def insertion (parent : Option Token) : CompletionSite := ⟨none, parent, []⟩

/-- A text without one double quote at its front. -/
def dropQuote : Text → Text
  | '"' :: rest => rest
  | text => text

/-- The site at a cursor that touches `current`. After blanks, a colon or a closed
phrase something new is inserted; anywhere else the current token is replaced.
The opening quote of a phrase is not part of what was typed. -/
def siteOf (current : Token) (parent : Option Token) (cursor : Nat) :
    CompletionSite :=
  match current.kind with
  | .whitespace | .delimiter => insertion parent
  | .value =>
    if isPhrase current.value then
      if closesPhrase current.value && current.stop < cursor then
        insertion parent
      else ⟨some current, parent, dropQuote (current.upTo cursor)⟩
    else ⟨some current, parent, current.upTo cursor⟩
  | _ => ⟨some current, parent, current.upTo cursor⟩

/-- The analysis of given tokens at a cursor. -/
def ofTokens (tokens : List Token) (cursor : Nat) : Analysis :=
  match locate tokens cursor with
  | some (current, parent) =>
    ⟨cursor, tokens, some current, parent, siteOf current parent cursor⟩
  | none => ⟨cursor, tokens, none, none, insertion none⟩

/-- The text the analysis covers. -/
def text (analysis : Analysis) : Text := Token.textOf analysis.tokens

end Analysis

/-- The analysis of a text at a cursor, and the lexer as it is afterwards. A cursor
past the end counts as one at the end. -/
def Lexer.analyze {ρ : Type} [Recognizer ρ] (lexer : Lexer ρ) (text : Text)
    (cursor : Nat) : Analysis × Lexer ρ :=
  let (tokens, next) := lexer.tokenize text
  (Analysis.ofTokens tokens (min cursor text.length), next)

/-- The analyses of several texts, each with its cursor, under one lexer. -/
def Lexer.analyzeAll {ρ : Type} [Recognizer ρ] (lexer : Lexer ρ) :
    List (Text × Nat) → List Analysis
  | [] => []
  | (text, cursor) :: rest =>
    let (analysis, next) := lexer.analyze text cursor
    analysis :: analyzeAll next rest

/-- The analysis of a text at a cursor under a grammar. -/
def Grammar.analyze (grammar : Grammar) (text : Text) (cursor : Nat) :
    Analysis :=
  (grammar.lexer.analyze text cursor).1

end QueryPhrase
