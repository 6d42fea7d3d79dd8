import QueryPhrase.Text

/-!
# Backslash escapes

A backslash makes the character after it literal. `escape special` writes a text
so that none of its special characters stands bare, `unescape` reads it back, and
`splitUnescaped` cuts at the bare occurrences of a delimiter and leaves the
escapes in place for a later `unescape`.

## Main statements

* `unescape_escape`: reading what was written gives the text back, whatever is
  special.
-/

namespace QueryPhrase

/-- Puts a backslash before every backslash and every special character. -/
def escape (special : Char → Bool) (text : Text) : Text :=
  text.flatMap fun c => if c = '\\' || special c then ['\\', c] else [c]

/-- Drops each escaping backslash and keeps the character after it; a backslash
at the very end is dropped. -/
def unescape : Text → Text
  | [] => []
  | ['\\'] => []
  | '\\' :: c :: rest => c :: unescape rest
  | c :: rest => c :: unescape rest

/-- The parts of a text between bare occurrences of `delimiter`, escapes left in
place. A backslash escapes even when it is the delimiter itself. -/
def splitUnescaped (delimiter : Char) : Text → List Text
  | [] => [[]]
  | ['\\'] => [['\\']]
  | '\\' :: c :: rest =>
    Text.consFirst '\\' (Text.consFirst c (splitUnescaped delimiter rest))
  | c :: rest =>
    if c = delimiter then [] :: splitUnescaped delimiter rest
    else Text.consFirst c (splitUnescaped delimiter rest)

@[simp] theorem escape_nil (special : Char → Bool) : escape special [] = [] :=
  rfl

@[simp] theorem escape_cons (special : Char → Bool) (c : Char) (rest : Text) :
    escape special (c :: rest) =
      (if c = '\\' || special c then ['\\', c] else [c]) ++
        escape special rest := rfl

@[simp] theorem unescape_backslash (c : Char) (rest : Text) :
    unescape ('\\' :: c :: rest) = c :: unescape rest := by
  rw [unescape]

theorem unescape_cons_of_ne {c : Char} (hBare : c ≠ '\\') (rest : Text) :
    unescape (c :: rest) = c :: unescape rest := by
  cases rest <;> simp [unescape, hBare]

theorem unescape_escape (special : Char → Bool) (text : Text) :
    unescape (escape special text) = text := by
  induction text with
  | nil => rfl
  | cons c rest ih =>
    by_cases hSpecial : (c = '\\' || special c) = true
    · simp [hSpecial, ih]
    · have hBare : c ≠ '\\' := by
        intro h
        simp [h] at hSpecial
      simp [hSpecial, unescape_cons_of_ne hBare, ih]

end QueryPhrase
