import QueryPhrase.Toml.Document
import QueryPhrase.Toml.Quoted
import QueryPhrase.Toml.Scalar

/-!
# Reading TOML

The grammar of documents. Lists and inline tables may run over several lines, with
comments and a comma after the last item; they nest to a depth of `deepest`, and so
do keys. Every reader takes the text that is left and gives what is left after it.
-/

namespace QueryPhrase.Toml

/-! ## Blanks and comments -/

/-- A text without the spaces and tabs at its front. -/
def dropBlanks (text : Text) : Text :=
  text.dropWhile fun c => c == ' ' || c == '\t'

/-- Skips blanks, line breaks and comments, beginning inside (`true`) or outside a
comment; none if a character may not stand there. -/
def skipGap? : Bool → Text → Option Text
  | _, [] => some []
  | _, '\n' :: rest => skipGap? false rest
  | _, '\r' :: '\n' :: rest => skipGap? false rest
  | true, c :: rest => if isPlain c then skipGap? true rest else none
  | false, c :: rest =>
    if c = ' ' ∨ c = '\t' then skipGap? false rest
    else if c = '#' then skipGap? true rest
    else some (c :: rest)

/-- Skips the rest of a line, which holds nothing but a comment. -/
def skipLine? (text : Text) : Option Text :=
  match dropBlanks text with
  | [] => some []
  | '\n' :: rest => some rest
  | '\r' :: '\n' :: rest => some rest
  | '#' :: rest => skipGap? true rest
  | _ => none

/-! ## Keys -/

/-- Whether a character may stand in a key without quotes. -/
def isBareChar (c : Char) : Bool := c.isAlphanum || c == '_' || c == '-'

def readKey? (text : Text) : Option (Text × Text) :=
  match text with
  | '"' :: '"' :: '"' :: _ => none
  | '\'' :: '\'' :: '\'' :: _ => none
  | '"' :: _ | '\'' :: _ => readQuoted? text
  | _ =>
    match text.takeWhile isBareChar with
    | [] => none
    | key => some (key, text.drop key.length)

/-- How deep lists, inline tables and keys with dots between them nest at most. -/
def deepest : Nat := 80

/-- Reads at most `depth` keys with dots between them: those in front and the last
one. -/
def readPath? : (depth : Nat) → Text → Option (List Text × Text × Text)
  | 0, _ => none
  | depth + 1, text => do
    let (key, rest) ← readKey? (dropBlanks text)
    match dropBlanks rest with
    | '.' :: rest =>
      let (parents, last, rest) ← readPath? depth rest
      return (key :: parents, last, rest)
    | rest => return ([], key, rest)

/-! ## Values -/

mutual

/-- Reads a value that may nest `depth` levels more. -/
def readValue? : Nat → Nat → Text → Option (Value × Text)
  | 0, _, _ => none
  | fuel + 1, depth, text =>
    match text with
    | '[' :: rest =>
      if depth = 0 then none
      else do
        let (items, rest) ← readItems? fuel (depth - 1) (← skipGap? false rest)
        return (.list items, rest)
    | '\x7b' :: rest =>
      if depth = 0 then none
      else do
        let (assignments, rest) ←
          readInline? fuel (depth - 1) (← skipGap? false rest)
        let entries ← Entries.assignAll [] assignments
        return (.table .inline entries, rest)
    | '"' :: _ | '\'' :: _ => do
      let (value, rest) ← readQuoted? text
      return (.text value, rest)
    | _ => readScalar? text

/-- Reads the items of a list, from one of them or the closing bracket on. -/
def readItems? : Nat → Nat → Text → Option (List Value × Text)
  | 0, _, _ => none
  | fuel + 1, depth, text =>
    match text with
    | ']' :: rest => some ([], rest)
    | _ => do
      let (item, rest) ← readValue? fuel depth text
      match ← skipGap? false rest with
      | ',' :: rest =>
        let (items, rest) ← readItems? fuel depth (← skipGap? false rest)
        return (item :: items, rest)
      | ']' :: rest => return ([item], rest)
      | _ => none

/-- Reads the assignments of an inline table, from one of them or the closing brace
on. -/
def readInline? : Nat → Nat → Text → Option (List Assignment × Text)
  | 0, _, _ => none
  | fuel + 1, depth, text =>
    match text with
    | '\x7d' :: rest => some ([], rest)
    | _ => do
      let (assignment, rest) ← readAssignment? fuel depth text
      match ← skipGap? false rest with
      | ',' :: rest =>
        let (others, rest) ← readInline? fuel depth (← skipGap? false rest)
        return (assignment :: others, rest)
      | '\x7d' :: rest => return ([assignment], rest)
      | _ => none

/-- Reads a key, an equals sign and a value. -/
def readAssignment? : Nat → Nat → Text → Option (Assignment × Text)
  | 0, _, _ => none
  | fuel + 1, depth, text => do
    let (parents, key, rest) ← readPath? deepest text
    match rest with
    | '=' :: rest =>
      let (value, rest) ← readValue? fuel depth (dropBlanks rest)
      return (⟨parents, key, value⟩, rest)
    | _ => none

end

/-! ## Documents -/

/-- Reads a header, from after its opening brackets. -/
def readHeader? (item : Bool) (text : Text) : Option (Statement × Text) := do
  let (parents, key, rest) ← readPath? deepest text
  match item, rest with
  | true, ']' :: ']' :: rest => return (.opening true parents key, rest)
  | false, ']' :: rest => return (.opening false parents key, rest)
  | _, _ => none

/-- Reads a header or an assignment. -/
def readStatement? (text : Text) : Option (Statement × Text) :=
  match text with
  | '[' :: '[' :: rest => readHeader? true rest
  | '[' :: rest => readHeader? false rest
  | _ =>
    (readAssignment? (text.length + 1) deepest text).map
      fun (assignment, rest) => (.assign assignment, rest)

/-- Reads statements, each on lines of its own. -/
def readStatements? : Nat → Text → Option (List Statement)
  | 0, _ => none
  | fuel + 1, text => do
    match ← skipGap? false text with
    | [] => return []
    | text =>
      let (statement, rest) ← readStatement? text
      return statement :: (← readStatements? fuel (← skipLine? rest))

/-- A text without a byte order mark at its front. -/
def dropMark : Text → Text
  | '\ufeff' :: rest => rest
  | text => text

def Document.read? (text : Text) : Option Document :=
  (readStatements? (text.length + 1) (dropMark text)).map Document.ofStatements

/-- Reads the table that a document stands for. -/
def read? (text : Text) : Option Entries :=
  (Document.read? text).bind Document.entries?

end QueryPhrase.Toml
