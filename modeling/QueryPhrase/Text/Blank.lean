import QueryPhrase.Text

/-!
# Blank characters

A character is blank when it has the Unicode property White_Space: twenty-five
characters, from the tabulator to the ideographic space. Neither the zero-width
space nor the byte order mark is among them.
-/

namespace QueryPhrase

/-- Whether a character has the property White_Space. -/
def isBlank (c : Char) : Bool :=
  let n := c.toNat
  (9 ≤ n && n ≤ 13) || n == 32 || n == 0x85 || n == 0xA0 || n == 0x1680 ||
    (0x2000 ≤ n && n ≤ 0x200A) || n == 0x2028 || n == 0x2029 ||
    n == 0x202F || n == 0x205F || n == 0x3000

/-- Every character that core counts as whitespace is blank. -/
theorem isBlank_of_isWhitespace {c : Char} (hSpace : c.isWhitespace = true) :
    isBlank c = true := by
  simp only [Char.isWhitespace, Bool.or_eq_true, decide_eq_true_eq] at hSpace
  rcases hSpace with ((h | h) | h) | h <;> subst h <;> decide

/-- A text without its blank characters at either end. -/
def Text.trimmed (text : Text) : Text :=
  ((text.dropWhile isBlank).reverse.dropWhile isBlank).reverse

/-- Whether the text begins with a blank character. -/
def Text.startsBlank (text : Text) : Bool := text.head?.any isBlank

end QueryPhrase
