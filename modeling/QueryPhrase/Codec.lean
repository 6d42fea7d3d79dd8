import QueryPhrase.Form
import QueryPhrase.Request
import QueryPhrase.Text.Number

/-!
# Flat parameters

A request as pairs of texts, and as a query string. Each list of terms is one pair
whose value joins the terms with a delimiter:

* a matcher is `column`, separator, `operator`, separator, `value`;
* a sorter is `column`, separator, `direction`;
* a separator is its bare keyword.

Separator, delimiter and backslash are escaped with a backslash inside a field.
Decoding never fails: entries it does not recognize are dropped and counts it
cannot read count as absent. Terms are read into lists by inserting them.
-/

namespace QueryPhrase

/-- The names and the separators of the flat form. -/
structure Codec where
  filters : Text := "query"
  sorters : Text := "sort"
  offset : Text := "offset"
  limit : Text := "limit"
  /-- Stands between the fields of a term. -/
  fieldSeparator : Char := ':'
  /-- Stands between terms. -/
  termDelimiter : Char := ','
deriving DecidableEq, Repr

namespace Codec

/-- Whether a name is one the codec encodes into. -/
def reserves (codec : Codec) (key : Text) : Bool :=
  [codec.filters, codec.sorters, codec.offset, codec.limit].contains key

/-! ## Encoding -/

/-- A field with everything escaped that would end it. -/
def encodeField (codec : Codec) (text : Text) : Text :=
  escape (fun c => c == codec.fieldSeparator || c == codec.termDelimiter) text

/-- The fields of a term. -/
def fieldsOf (term : Term) : List Text :=
  let column := term.column.getD []
  let value := term.value.getD []
  match term.kind with
  | .separator => [term.operator.keyword]
  | .sorter => [column, value]
  | .matcher => [column, term.operator.keyword, value]

/-- A term as an entry of a list. -/
def encodeTerm (codec : Codec) (term : Term) : Text :=
  Text.joined [codec.fieldSeparator] ((fieldsOf term).map codec.encodeField)

def encodeTerms (codec : Codec) (terms : List Term) : Text :=
  Text.joined [codec.termDelimiter] (terms.map codec.encodeTerm)

/-- The pair of a list of terms; none for an empty one. -/
def encodeList (codec : Codec) (name : Text) (terms : List Term) :
    List (Text × Text) :=
  if terms.isEmpty then [] else [(name, codec.encodeTerms terms)]

/-- A request as pairs: filters, sorters, offset, limit, and then the parameters
whose names the codec does not need for itself. -/
def encode (codec : Codec) (request : Request) : List (Text × Text) :=
  codec.encodeList codec.filters request.filters ++
    codec.encodeList codec.sorters request.sorters ++
    [(codec.offset, countText request.offset)] ++
    (request.limit.map fun limit => (codec.limit, countText limit)).toList ++
    request.parameters.filter fun pair => !codec.reserves pair.1

/-- A request as a query string. -/
def encodeQuery (codec : Codec) (request : Request) : Text :=
  Form.encode (codec.encode request)

/-! ## Decoding -/

/-- A column, where an empty one counts as none. -/
def columnOf? (field : Text) : Option Text :=
  if field = [] then none else some field

/-- The term of an entry in a list of the given kind; none if it is no such
entry. -/
def decodeTerm? (codec : Codec) (kind : ListKind) (entry : Text) :
    Option Term :=
  match kind, (splitUnescaped codec.fieldSeparator entry).map unescape with
  | .filter, [keyword] =>
    (Operator.ofKind? .separator keyword).map Term.ofSeparator
  | .filter, [column, keyword, value] =>
    (Operator.ofKind? .matcher keyword).map fun operator =>
      { column := columnOf? column, operator := operator, value := some value }
  | .sorter, [column, direction] =>
    some { column := columnOf? column, operator := .orderBy,
           value := some direction }
  | _, _ => none

/-- The terms of a value, unrecognized entries left out. -/
def decodeTerms (codec : Codec) (kind : ListKind) (value : Text) : List Term :=
  ((splitUnescaped codec.termDelimiter value).filter (!·.isEmpty)).filterMap
    (codec.decodeTerm? kind)

/-- Takes one more pair into a model. -/
def decodePair (codec : Codec) (model : Model) (pair : Text × Text) : Model :=
  let (key, value) := pair
  if key = codec.filters then
    { model with
      filters := model.filters.insertAll (codec.decodeTerms .filter value) }
  else if key = codec.sorters then
    { model with
      sorters := model.sorters.insertAll (codec.decodeTerms .sorter value) }
  else if key = codec.offset then
    { model with offset := (count? value).getD 0 }
  else if key = codec.limit then { model with limit := count? value }
  else { model with parameters := model.parameters.append key value }

/-- The model of some pairs. -/
def decode (codec : Codec) (pairs : List (Text × Text)) : Model :=
  pairs.foldl codec.decodePair .empty

/-- A query string without one question mark at its front. -/
def dropQuestionMark : Text → Text
  | '?' :: rest => rest
  | query => query

/-- The model of a query string. -/
def decodeQuery (codec : Codec) (query : Text) : Model :=
  codec.decode (Form.decode (dropQuestionMark query))

end Codec

end QueryPhrase
