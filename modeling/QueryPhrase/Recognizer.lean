import QueryPhrase.Token
import QueryPhrase.Scanner

/-!
# Recognizers

A recognizer knows one kind of token. The lexer feeds it the characters of the
pending run and asks two questions: should it take over the run here, and do the
characters it holds make a whole token here? Both answers depend only on what the
recognizer holds and on the scanner.
-/

namespace QueryPhrase

/-- What the lexer asks of a recognizer. -/
class Recognizer (ρ : Type) where
  /-- A short name, for listings. -/
  name : ρ → Text
  /-- Forgets everything and anchors the next token at an offset. -/
  reset : ρ → Nat → ρ
  /-- Takes the next character of the run. -/
  append : ρ → Char → ρ
  /-- Whether it should take over the pending run. -/
  locks : ρ → Scanner → Bool
  /-- The token its characters make at this place, if they make one. -/
  token? : ρ → Scanner → Option Token
  /-- What it remembers of having been asked for its token. -/
  asked : ρ → Scanner → ρ := fun recognizer _ => recognizer

namespace Recognizer

variable {ρ : Type} [Recognizer ρ]

/-- A recognizer that has read nothing but the run `run`, from `start` on. -/
def seeded (recognizer : ρ) (start : Nat) (run : Text) : ρ :=
  run.foldl append (reset recognizer start)

end Recognizer

end QueryPhrase
