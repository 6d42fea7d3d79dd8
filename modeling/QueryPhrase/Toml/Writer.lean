import QueryPhrase.Toml.Document
import QueryPhrase.Toml.Quoted

/-!
# Writing TOML

Documents as text: an assignment a line, and a blank line before every header but
the first. A list of two items or more has one item a line, each with a comma.
-/

namespace QueryPhrase.Toml

/-- Whether a key needs no quotes. -/
def isBareKey (key : Text) : Bool :=
  !key.isEmpty && key.all fun c => c.isAlphanum || c == '_' || c == '-'

/-- A key: without quotes if it needs none, else on one line in any case. -/
def keyText (key : Text) : Text :=
  if isBareKey key then key
  else if !hasControl key && !key.contains '\n' && !key.contains '\\' &&
      !key.contains '"' then
    doubleQuoted key
  else if !hasControl key && !key.contains '\n' && !key.contains '\'' then
    singleQuoted key
  else doubleQuoted key

/-- Keys with dots between them. -/
def pathText (parents : List Text) (key : Text) : Text :=
  Text.joined "." ((parents ++ [key]).map keyText)

def intText : Int → Text
  | .ofNat n => Text.ofNat n
  | .negSucc n => '-' :: Text.ofNat (n + 1)

/-- An item on a line of its own. -/
def itemLine (item : Text) : Text := Text.spaces 4 ++ item ++ [',', '\n']

def bracketed (items : List Text) : Text :=
  match items with
  | [] => ['[', ']']
  | [item] => '[' :: (item ++ [']'])
  | items => '[' :: '\n' :: (items.flatMap itemLine ++ [']'])

mutual

def valueText : Value → Text
  | .text value => quoted value
  | .int value => intText value
  | .fraction written => written
  | .bool value => if value then "true" else "false"
  | .moment written => written
  | .list items => bracketed (itemTexts items)
  | .tables items => bracketed (tableTexts items)
  | .table _ entries => inlineText entries

/-- The items of a list. -/
def itemTexts : List Value → List Text
  | [] => []
  | item :: rest => valueText item :: itemTexts rest

/-- Tables as items of a list. -/
def tableTexts : List (List (Text × Value)) → List Text
  | [] => []
  | entries :: rest => inlineText entries :: tableTexts rest

/-- A table as one value. -/
def inlineText (entries : List (Text × Value)) : Text :=
  match entryTexts entries with
  | [] => ['\x7b', '\x7d']
  | parts => "\x7b " ++ Text.joined ", " parts ++ " \x7d"

/-- The entries of a table written as one value. -/
def entryTexts : List (Text × Value) → List Text
  | [] => []
  | (key, value) :: rest =>
    (keyText key ++ " = " ++ valueText value) :: entryTexts rest

end

/-- An assignment on a line of its own. -/
def assignmentText (assignment : Assignment) : Text :=
  pathText assignment.parents assignment.key ++ " = " ++
    valueText assignment.value ++ "\n"

def sectionText (part : Section) : Text :=
  (if part.item then "[[" else "[") ++ pathText part.parents part.key ++
    (if part.item then "]]\n" else "]\n") ++
    part.assignments.flatMap assignmentText

def documentText (document : Document) : Text :=
  let top := if document.top.isEmpty then []
    else [document.top.flatMap assignmentText]
  Text.joined "\n" (top ++ document.sections.map sectionText)

end QueryPhrase.Toml
