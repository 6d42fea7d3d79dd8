import QueryPhrase.Parameters
import QueryPhrase.TermList.Edit

/-!
# Models and requests

A model holds everything about one query: a list of filters, a list of sorters,
how many results to skip and to return, and free parameters. Its request is what
is committed of it. Terms without a value are left out, and so is a separator that
has lost the matcher on one of its sides; no term of a request has an identifier.
-/

namespace QueryPhrase

/-- What is committed of a query. -/
structure Request where
  offset : UInt64 := 0
  limit : Option UInt64 := none
  filters : List Term := []
  sorters : List Term := []
  parameters : Parameters := []
deriving DecidableEq, Repr

structure Model where
  offset : UInt64
  limit : Option UInt64
  filters : TermList
  sorters : TermList
  parameters : Parameters
deriving DecidableEq, Repr

namespace Model

/-- A model with nothing in it and no limit. -/
def empty : Model := ⟨0, none, .empty .filter, .empty .sorter, []⟩

/-- Goes through filter terms with the separator that waits for the next matcher,
knowing whether a matcher has come through yet. -/
def commit : List Term → Bool → Option Term → List Term
  | [], _, _ => []
  | term :: rest, started, waiting =>
    match term.kind with
    | .separator =>
      commit rest started (if started then some term.withoutId else waiting)
    | .matcher =>
      if term.value.isSome then
        waiting.toList ++ term.withoutId :: commit rest true none
      else commit rest started waiting
    | .sorter => commit rest started waiting

/-- The committed ones of some filter terms: matchers with a value, each joined to
the one before by the last separator between them. -/
def committed (terms : List Term) : List Term := commit terms false none

/-- What is committed of the model. -/
def request (model : Model) : Request where
  offset := model.offset
  limit := model.limit
  filters := committed model.filters.terms
  sorters := (model.sorters.sorters.filter (·.value.isSome)).map Term.withoutId
  parameters := model.parameters

/-- What is wrong with the two lists, if anything: with the filters first. -/
def problem? (model : Model) : Option TermError :=
  model.filters.problem? <|> model.sorters.problem?

/-- Whether both lists are well formed. -/
def valid (model : Model) : Bool := model.problem?.isNone

/-- A model with nothing in it but the limit, the parameters and the choices of
the lists. -/
def reset (model : Model) : Model :=
  { model with
    offset := 0
    filters := model.filters.cleared
    sorters := model.sorters.cleared }

end Model

end QueryPhrase
