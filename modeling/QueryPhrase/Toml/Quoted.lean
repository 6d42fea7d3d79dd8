import QueryPhrase.Text

/-!
# Quoted texts in TOML

A text is quoted in one of four ways: between double quotes, where a backslash
escapes, or between single quotes, where nothing does; and either on one line or,
between three quotes, over several. A line feed right after three quotes is left
out. Up to two quotes may stand inside such a text, also at its end.

`readQuoted?` reads any of them and `quoted` writes the plainest one that fits.
-/

namespace QueryPhrase.Toml

/-- Whether a character may stand in a comment or a quoted text. -/
def isPlain (c : Char) : Bool :=
  c == '\t' || (0x20 ≤ c.toNat && c.toNat ≠ 0x7F)

/-! ## Reading -/

/-- The value of a hexadecimal digit. -/
def hexValue? (c : Char) : Option Nat :=
  if c.isDigit then some (c.toNat - 0x30)
  else if 'a' ≤ c && c ≤ 'f' then some (c.toNat - 0x57)
  else if 'A' ≤ c && c ≤ 'F' then some (c.toNat - 0x37)
  else none

/-- The character with a code point, if there is one. -/
def charOf? (n : Nat) : Option Char :=
  if n.isValidChar then some (Char.ofNat n) else none

/-- What a backslash and a character stand for together. -/
def escaped? : Char → Option Char
  | 'b' => some '\x08'
  | 't' => some '\t'
  | 'n' => some '\n'
  | 'f' => some '\x0c'
  | 'r' => some '\r'
  | 'e' => some '\x1b'
  | '"' => some '"'
  | '\\' => some '\\'
  | _ => none

/-- How many hexadecimal digits follow a backslash and a character. -/
def escapeDigits? : Char → Option Nat
  | 'x' => some 2
  | 'u' => some 4
  | 'U' => some 8
  | _ => none

/-- Where reading a quoted text stands. -/
inductive EscapeState
  /-- Between characters. -/
  | plain
  /-- After a backslash. -/
  | backslash
  /-- Inside the digits of an escape: how many are left and the value so far. -/
  | digits (left value : Nat)
  /-- In the blanks after a backslash at the end of a line; whether the line has
  ended. -/
  | lineEnd (ended : Bool)
deriving DecidableEq, Repr

/-- Reads the escapes of a text. Over several lines a backslash at the end of a
line leaves out all blanks up to the next character. -/
def unescapeFrom? (severalLines : Bool) : EscapeState → Text → Option Text
  | .plain, [] => some []
  | .lineEnd true, [] => some []
  | _, [] => none
  | .plain, c :: rest =>
    if c = '\\' then unescapeFrom? severalLines .backslash rest
    else (unescapeFrom? severalLines .plain rest).map (c :: ·)
  | .backslash, c :: rest =>
    match escaped? c, escapeDigits? c with
    | some d, _ => (unescapeFrom? severalLines .plain rest).map (d :: ·)
    | none, some n => unescapeFrom? severalLines (.digits n 0) rest
    | none, none =>
      if severalLines && (c == ' ' || c == '\t' || c == '\r') then
        unescapeFrom? severalLines (.lineEnd false) rest
      else if severalLines && c == '\n' then
        unescapeFrom? severalLines (.lineEnd true) rest
      else none
  | .digits left value, c :: rest => do
    let value := 16 * value + (← hexValue? c)
    if left ≤ 1 then
      let d ← charOf? value
      (unescapeFrom? severalLines .plain rest).map (d :: ·)
    else unescapeFrom? severalLines (.digits (left - 1) value) rest
  | .lineEnd ended, c :: rest =>
    if c = ' ' ∨ c = '\t' ∨ c = '\r' then
      unescapeFrom? severalLines (.lineEnd ended) rest
    else if c = '\n' then unescapeFrom? severalLines (.lineEnd true) rest
    else if ended then
      if c = '\\' then unescapeFrom? severalLines .backslash rest
      else (unescapeFrom? severalLines .plain rest).map (c :: ·)
    else none

/-- The text up to a closing quote on the same line, escapes not read yet, and the
text after the quote. -/
def bodyOnLine? (quote : Char) (escapes : Bool) : Text → Option (Text × Text)
  | [] => none
  | c :: rest =>
    if c = quote then some ([], rest)
    else if !isPlain c then none
    else if escapes && c == '\\' then
      match rest with
      | [] => none
      | d :: rest =>
        if isPlain d then
          (bodyOnLine? quote escapes rest).map fun (body, after) =>
            (c :: d :: body, after)
        else none
    else
      (bodyOnLine? quote escapes rest).map fun (body, after) =>
        (c :: body, after)

/-- The quotes that end a text over several lines, as far as they belong to it, and
the text after them. -/
def closing? (quote : Char) (text : Text) : Option (Text × Text) :=
  let count := min 5 (text.takeWhile (· == quote)).length
  if 3 ≤ count then
    some (List.replicate (count - 3) quote, text.drop count)
  else none

/-- The text up to three closing quotes, escapes not read yet, and the text after
the quotes. -/
def bodyOverLines? (quote : Char) (escapes : Bool) :
    Text → Option (Text × Text)
  | [] => none
  | c :: rest =>
    match closing? quote (c :: rest) with
    | some found => some found
    | none =>
      if escapes && c == '\\' then
        match rest with
        | [] => none
        | d :: rest =>
          (bodyOverLines? quote escapes rest).map fun (body, after) =>
            (c :: d :: body, after)
      else
        (bodyOverLines? quote escapes rest).map fun (body, after) =>
          (c :: body, after)

/-- Whether a text over several lines has no character that may not stand there: a
carriage return only in front of a line feed. -/
def plainLines : Text → Bool
  | [] => true
  | '\r' :: rest => rest.head? == some '\n' && plainLines rest
  | c :: rest => (c == '\n' || isPlain c) && plainLines rest

/-- A text without a line break at its front. -/
def dropLineBreak : Text → Text
  | '\n' :: rest => rest
  | '\r' :: '\n' :: rest => rest
  | text => text

/-- Reads a text over several lines, from after its opening quotes. -/
def readOverLines? (quote : Char) (escapes : Bool) (text : Text) :
    Option (Text × Text) := do
  let (body, after) ← bodyOverLines? quote escapes (dropLineBreak text)
  if plainLines body then
    let value ← if escapes then unescapeFrom? true .plain body else some body
    return (value, after)
  else none

/-- Reads a text on one line, from after its opening quote. -/
def readOnLine? (quote : Char) (escapes : Bool) (text : Text) :
    Option (Text × Text) := do
  let (body, after) ← bodyOnLine? quote escapes text
  let value ← if escapes then unescapeFrom? false .plain body else some body
  return (value, after)

/-- Reads a quoted text of either form and gives the text after it. -/
def readQuoted? : Text → Option (Text × Text)
  | '"' :: '"' :: '"' :: rest => readOverLines? '"' true rest
  | '"' :: rest => readOnLine? '"' true rest
  | '\'' :: '\'' :: '\'' :: rest => readOverLines? '\'' false rest
  | '\'' :: rest => readOnLine? '\'' false rest
  | _ => none

/-! ## Writing -/

/-- How often `c` stands in a row at most. -/
def longestRun (c : Char) (text : Text) : Nat :=
  (text.foldl (fun (run, longest) d =>
    if d = c then (run + 1, max longest (run + 1)) else (0, longest))
    ((0 : Nat), (0 : Nat))).2

/-- Whether a text has a control character other than a tab and a line feed. -/
def hasControl (text : Text) : Bool :=
  text.any fun c => !(isPlain c || c == '\n')

/-- The four uppercase hexadecimal digits of a small number. -/
def fourHexDigits (n : Nat) : Text :=
  let digits := (Nat.toDigits 16 n).map Char.toUpper
  List.replicate (4 - digits.length) '0' ++ digits

/-- A character between double quotes. -/
def escapedChar (c : Char) : Text :=
  match c with
  | '\x08' => ['\\', 'b']
  | '\t' => ['\\', 't']
  | '\n' => ['\\', 'n']
  | '\x0c' => ['\\', 'f']
  | '\r' => ['\\', 'r']
  | '"' => ['\\', '"']
  | '\\' => ['\\', '\\']
  | _ => if isPlain c then [c] else ['\\', 'u'] ++ fourHexDigits c.toNat

/-- A text between double quotes, on one line. -/
def doubleQuoted (text : Text) : Text :=
  '"' :: (text.flatMap escapedChar ++ ['"'])

/-- A text between single quotes, on one line. -/
def singleQuoted (text : Text) : Text := '\'' :: (text ++ ['\''])

/-- The characters of a text between three double quotes, `run` double quotes
having come before in a row: line feeds stay, and of double quotes in a row every
third is escaped. -/
def escapeOverLines (run : Nat) : Text → Text
  | [] => []
  | c :: rest =>
    if c = '"' then
      if run = 2 then '\\' :: '"' :: escapeOverLines 0 rest
      else '"' :: escapeOverLines (run + 1) rest
    else if c = '\n' then '\n' :: escapeOverLines 0 rest
    else escapedChar c ++ escapeOverLines 0 rest

/-- The line feed after opening quotes in front of a text over several lines. -/
def openingBreak (text : Text) : Text :=
  if text.contains '\n' then ['\n'] else []

/-- A text between three double quotes. -/
def tripleDoubleQuoted (text : Text) : Text :=
  "\"\"\"" ++ openingBreak text ++ escapeOverLines 0 text ++ "\"\"\""

/-- A text between three single quotes. -/
def tripleSingleQuoted (text : Text) : Text :=
  "'''" ++ openingBreak text ++ text ++ "'''"

/-- A text in the first of these forms that fits: double quotes without an escape
other than for tabs, single quotes, three double quotes without an escape, three
single quotes, and else the one with double quotes that keeps lines apart. -/
def quoted (text : Text) : Text :=
  let control := hasControl text
  let lines := text.contains '\n'
  if !control && !lines && !text.contains '\\' && !text.contains '"' then
    doubleQuoted text
  else if !control && !lines && !text.contains '\'' then singleQuoted text
  else if !control && !text.contains '\\' && longestRun '"' text ≤ 2 then
    tripleDoubleQuoted text
  else if !control && longestRun '\'' text ≤ 2 then tripleSingleQuoted text
  else if lines then tripleDoubleQuoted text
  else doubleQuoted text

end QueryPhrase.Toml
