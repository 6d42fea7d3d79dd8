import QueryPhrase.Json
import QueryPhrase.Request

/-!
# Requests as JSON

Terms and requests as JSON values, and back. What is absent has no entry; so have
empty parameters. Reading gives missing entries their defaults, ignores entries it
does not know, and also takes the values of a term or a request as a list, in
order. Counts and identifiers are whole numbers that fit a 64-bit word.
-/

namespace QueryPhrase

namespace Json

/-- The value of the first entry with a name. -/
def get? (entries : List (Text × Json)) (name : Text) : Option Json :=
  entries.lookup name

def word? : Json → Option UInt64
  | .int (.ofNat n) => if n < UInt64.size then some (UInt64.ofNat n) else none
  | _ => none

def text? : Json → Option Text
  | .text value => some value
  | _ => none

/-- Reads a list, item by item. -/
def list? {α : Type} (read : Json → Option α) : Json → Option (List α)
  | .list items => items.mapM read
  | _ => none

/-- Reads a pair of texts. -/
def pair? : Json → Option (Text × Text)
  | .list [.text key, .text value] => some (key, value)
  | _ => none

/-- Reads a value that may be null. -/
def orNull? {α : Type} (read : Json → Option α) : Json → Option (Option α)
  | .null => some none
  | value => (read value).map some

/-- Reads an entry that may be missing. -/
def orDefault? {α : Type} (fallback : α) (read : Json → Option α) :
    Option Json → Option α
  | none => some fallback
  | some value => read value

end Json

namespace Operator

/-- The operator with exactly the given keyword. -/
def ofExactKeyword? (text : Text) : Option Operator :=
  all.find? (·.keyword == text)

/-- Reads an operator: its keyword, or an object whose one entry has it for its name
and no value. -/
def ofJson? : Json → Option Operator
  | .text keyword => ofExactKeyword? keyword
  | .object [(keyword, .null)] => ofExactKeyword? keyword
  | _ => none

end Operator

namespace Term

def toJson (term : Term) : Json :=
  .object <|
    Json.entry? "id" .word term.id ++
      Json.entry? "column" .text term.column ++
      Json.entry "operator" (.text term.operator.keyword) ++
      Json.entry? "value" .text term.value

/-- Reads a term from the values of its entries, if they are there. -/
def ofParts? (id column operator value : Option Json) : Option Term := do
  return {
    id := ← Json.orDefault? none (Json.orNull? Json.word?) id
    column := ← Json.orDefault? none (Json.orNull? Json.text?) column
    operator := ← operator.bind Operator.ofJson?
    value := ← Json.orDefault? none (Json.orNull? Json.text?) value }

def ofJson? : Json → Option Term
  | .object entries =>
    ofParts? (Json.get? entries "id") (Json.get? entries "column")
      (Json.get? entries "operator") (Json.get? entries "value")
  | .list (id :: column :: operator :: rest) =>
    if rest.length ≤ 1 then
      ofParts? (some id) (some column) (some operator) rest.head?
    else none
  | _ => none

end Term

namespace Request

def toJson (request : Request) : Json :=
  .object <|
    Json.entry "offset" (.word request.offset) ++
      Json.entry? "limit" .word request.limit ++
      Json.entry "filters" (.list (request.filters.map Term.toJson)) ++
      Json.entry "sorters" (.list (request.sorters.map Term.toJson)) ++
      if request.parameters.isEmpty then []
      else Json.entry "parameters" (.list (request.parameters.map Json.pair))

/-- Reads a request from the values of its entries, if they are there. -/
def ofParts? (offset limit filters sorters parameters : Option Json) :
    Option Request := do
  return {
    offset := ← Json.orDefault? 0 Json.word? offset
    limit := ← Json.orDefault? none (Json.orNull? Json.word?) limit
    filters := ← Json.orDefault? [] (Json.list? Term.ofJson?) filters
    sorters := ← Json.orDefault? [] (Json.list? Term.ofJson?) sorters
    parameters := ← Json.orDefault? [] (Json.list? Json.pair?) parameters }

def ofJson? : Json → Option Request
  | .object entries =>
    ofParts? (Json.get? entries "offset") (Json.get? entries "limit")
      (Json.get? entries "filters") (Json.get? entries "sorters")
      (Json.get? entries "parameters")
  | .list items =>
    if items.length ≤ 5 then
      ofParts? items[0]? items[1]? items[2]? items[3]? items[4]?
    else none
  | _ => none

end Request

end QueryPhrase
