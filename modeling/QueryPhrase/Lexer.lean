import QueryPhrase.Recognizer

/-!
# The lexer

The lexer runs an ordered list of recognizers over a text in one pass.

At the start of a run the first recognizer that locks becomes active; when none
does, the last one is. After every later character only the recognizers before
the active one are asked again, so a specific recognizer may take over a run from
a general one and never the other way round. Whichever takes over is given the
whole run. When the active one has a token, the token is emitted and every
recognizer starts afresh.

At the end of the text the active recognizer is asked once more. When it declines,
the others get the run and are asked in order, and when all decline the run is
emitted as a word: nothing is ever dropped.

The recognizers keep their last states from one text to the next; `tokenize`
returns the lexer as it is afterwards.
-/

namespace QueryPhrase

/-- Recognizers in order of precedence. -/
structure Lexer (ρ : Type) where
  /-- The recognizers, the most specific first. -/
  recognizers : List ρ
deriving Repr

namespace Lexer

open Recognizer

variable {ρ : Type} [Recognizer ρ]

/-- The names of the recognizers, in order. -/
def precedence (lexer : Lexer ρ) : List Text := lexer.recognizers.map name

/-- The lexer in the middle of a text. -/
structure State (ρ : Type) where
  scanner : Scanner
  recognizers : List ρ
  /-- Which of them reads the pending run; none between two runs. -/
  active : Option Nat
  tokens : List Token

/-- The first of the recognizers that locks here. -/
def firstLock (s : Scanner) (recognizers : List ρ) : Option Nat :=
  recognizers.findIdx? (locks · s)

/-- Hands the pending run to the recognizer at `index`. -/
def seed (s : Scanner) (index : Nat) (recognizers : List ρ) : List ρ :=
  recognizers.modify index (seeded · s.start s.run)

/-- Asks the recognizer at `index` for its token. -/
def ask (s : Scanner) (index : Nat) (recognizers : List ρ) :
    Option Token × List ρ :=
  (recognizers[index]?.bind (token? · s), recognizers.modify index (asked · s))

/-- Which recognizer is active after the character `c`, and the recognizers once
it has the run. -/
def activate (s : Scanner) (active : Option Nat) (recognizers : List ρ)
    (c : Char) : Nat × List ρ :=
  match active with
  | none =>
    let index := (firstLock s recognizers).getD (recognizers.length - 1)
    (index, seed s index recognizers)
  | some index =>
    let fed := recognizers.modify index (append · c)
    match firstLock s (fed.take index) with
    | some other => (other, seed s other fed)
    | none => (index, fed)

def step (state : State ρ) (c : Char) : State ρ :=
  let s := state.scanner.advance
  let (index, fed) := activate s state.active state.recognizers c
  match ask s index fed with
  | (some token, recognizers) =>
    { scanner := s.mark
      recognizers := recognizers.map (reset · s.position)
      active := none
      tokens := state.tokens ++ [token] }
  | (none, recognizers) =>
    { scanner := s
      recognizers := recognizers
      active := some index
      tokens := state.tokens }

/-- Hands the run to the recognizers at the given places, one after the other,
until one has a token. -/
def retry (s : Scanner) : List Nat → List ρ → Option Token × List ρ
  | [], recognizers => (none, recognizers)
  | index :: rest, recognizers =>
    match ask s index (seed s index recognizers) with
    | (some token, asked) => (some token, asked)
    | (none, asked) => retry s rest asked

/-- Closes the run that is pending at the end of the text. -/
def flush (s : Scanner) (active : Nat) (recognizers : List ρ) :
    Token × List ρ :=
  match ask s active recognizers with
  | (some token, asked) => (token, asked)
  | (none, asked) =>
    let others := (List.range asked.length).filter (· != active)
    match retry s others asked with
    | (some token, tried) => (token, tried)
    | (none, tried) => (Token.leaf .word s.run s.start, tried)

/-- The state before the first character. -/
def begin (lexer : Lexer ρ) (text : Text) : State ρ :=
  { scanner := .ofText text
    recognizers := lexer.recognizers.map (reset · 0)
    active := none
    tokens := [] }

/-- The tokens of a text, and the lexer as it is afterwards. -/
def tokenize (lexer : Lexer ρ) (text : Text) : List Token × Lexer ρ :=
  let state := text.foldl step (begin lexer text)
  match state.active with
  | none => (state.tokens, ⟨state.recognizers⟩)
  | some index =>
    let (token, recognizers) := flush state.scanner index state.recognizers
    (state.tokens ++ [token], ⟨recognizers⟩)

/-- The tokens of several texts, read one after the other with one lexer, and the
lexer as it is afterwards. -/
def tokenizeAll (lexer : Lexer ρ) : List Text → List (List Token) × Lexer ρ
  | [] => ([], lexer)
  | text :: rest =>
    let (tokens, next) := lexer.tokenize text
    let (others, last) := tokenizeAll next rest
    (tokens :: others, last)

/-- The tokens of a text. -/
def tokens (lexer : Lexer ρ) (text : Text) : List Token :=
  (lexer.tokenize text).1

end Lexer

end QueryPhrase
