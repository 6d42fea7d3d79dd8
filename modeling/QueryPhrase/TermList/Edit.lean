import QueryPhrase.TermList

/-!
# Editing term lists

Every edit of a filter list keeps matchers and separators taking turns:

* a separator is put wherever two matchers would touch;
* a separator beside another one takes its place;
* a separator after the last matcher is held and joins the next matcher;
* a term that goes takes the separator it would leave dangling with it.

An edit the list has no use for changes nothing but, at most, the held separator.

Identifiers are 64-bit words: one given from outside pushes the next one past it
but never past the largest word, and after the largest word the next one is zero.
-/

namespace QueryPhrase.TermList

/-! ## Identifiers -/

/-- The word after `id`, or `id` itself when it is the largest. -/
def succSaturating (id : TermId) : TermId := if id + 1 = 0 then id else id + 1

/-- The term with an identifier, and the next identifier after it. -/
def identify (nextId : TermId) (term : Term) : Term × TermId :=
  match term.id with
  | some id => (term, max nextId (succSaturating id))
  | none => ({ term with id := some nextId }, nextId + 1)

/-! ## Inserting -/

/-- Puts `term` in the place of the separator at `index`, which it keeps the
identifier of unless it brings its own. -/
def replaceAt (list : TermList) (index : Nat) (term : Term) : TermList :=
  let old := list.terms[index]?.bind Term.id
  let (placed, nextId) := identify list.nextId { term with id := term.id <|> old }
  { list with
    terms := list.terms.set index placed
    cursor := some index
    nextId := nextId }

/-- Puts a separator at index `place`. -/
def insertSeparator (list : TermList) (place : Nat) (term : Term) : TermList :=
  let left := if place = 0 then none else list.terms[place - 1]?.map Term.kind
  let right := list.terms[place]?.map Term.kind
  if left = some .separator then list.replaceAt (place - 1) term
  else if right = some .separator then list.replaceAt place term
  else
    match left, right with
    | none, _ => list
    | some _, none => { list with held := some term.operator }
    | some _, some _ =>
      let (placed, nextId) := identify list.nextId term
      { list with
        terms := list.terms.insertIdx place placed
        cursor := some place
        nextId := nextId }

/-- An empty column counts as none. -/
def dropEmptyColumn (term : Term) : Term :=
  if term.column = some [] then { term with column := none } else term

/-- Whether the term at an index is a matcher. -/
def matcherAt (terms : List Term) (index : Nat) : Bool :=
  terms[index]?.any Term.isMatcher

/-- Puts a matcher at index `place`, joined to the matchers next to it: to the one
before it by the held separator, if one is held. -/
def insertMatcher (list : TermList) (place : Nat) (term : Term) : TermList :=
  let (criterion, afterTerm) := identify list.nextId term
  let placed := dropEmptyColumn criterion
  let joinsBefore := place ≠ 0 && matcherAt list.terms (place - 1)
  let joinsAfter := matcherAt list.terms place
  let (before, afterBefore) :=
    if joinsBefore then
      let (separator, next) :=
        identify afterTerm (.ofSeparator (list.held.getD list.separator))
      ([separator], next)
    else ([], afterTerm)
  let (after, afterAfter) :=
    if joinsAfter then
      let (separator, next) :=
        identify afterBefore (.ofSeparator list.separator)
      ([separator], next)
    else ([], afterBefore)
  { list with
    terms := list.terms.take place ++ before ++ [placed] ++ after ++
      list.terms.drop place
    cursor := some (place + before.length)
    held := none
    nextId := afterAfter }

/-- Puts a sorter at index `place`. -/
def insertSorter (list : TermList) (place : Nat) (term : Term) : TermList :=
  let (criterion, nextId) := identify list.nextId term
  { list with
    terms := list.terms.insertIdx place (dropEmptyColumn criterion)
    cursor := some place
    nextId := nextId }

/-- Sets the placeholder aside when the first term has come in. -/
def park (before after : TermList) : TermList :=
  if before.isEmpty && !after.isEmpty then
    { after with parked := after.placeholder, placeholder := none }
  else after

/-- Inserts a term after the cursor and moves the cursor onto it. A term the list
cannot hold is ignored. -/
def insert (list : TermList) (term : Term) : TermList :=
  if !list.kind.accepts term.kind then list
  else
    let place := list.cursor.elim 0 (· + 1)
    list.park <|
      match term.kind, list.kind with
      | .separator, _ => list.insertSeparator place term
      | _, .sorter => list.insertSorter place term
      | _, .filter => list.insertMatcher place term

/-- Inserts terms one after the other. -/
def insertAll (list : TermList) (terms : List Term) : TermList :=
  terms.foldl insert list

/-- The filter list of a matcher phrase. -/
def ofPhrase (text : Text) : TermList :=
  (empty .filter).insertAll (Term.ofPhrase text)

/-! ## Removing -/

/-- Whether the term at `index` is a separator with a matcher on both sides. -/
def joinsMatchers (terms : List Term) (index : Nat) : Bool :=
  terms[index]?.any Term.isSeparator && index ≠ 0 &&
    matcherAt terms (index - 1) && matcherAt terms (index + 1)

/-- Whether there is no term at `index`, or a separator. -/
def separatorOrNone (terms : List Term) (index : Nat) : Bool :=
  terms[index]?.all Term.isSeparator

/-- The terms without the one at `index` and the separator that this would leave
dangling. -/
def withoutTerm (terms : List Term) (index : Nat) : List Term :=
  let left := terms.eraseIdx index
  if index = 0 then
    if left.head?.any Term.isSeparator then left.drop 1 else left
  else if left[index - 1]?.any Term.isSeparator &&
      separatorOrNone left index then
    left.eraseIdx (index - 1)
  else left

/-- The placeholder of a list whose last term has gone: its own, else the parked
one, else a blank one. -/
def restorePlaceholder (list : TermList) : TermList :=
  match list.placeholder with
  | some _ => list
  | none =>
    let restored := list.parked.getD (.blank list.matcher)
    { list with
      placeholder := some { restored with operator := list.matcher }
      parked := none }

/-- Removes a term, found by its identifier or else by content. A separator
between two matchers stays. The cursor stays on its term, or goes to a neighbour
of the term that went. -/
def remove (list : TermList) (term : Term) : TermList :=
  let list := { list with held := none }
  match list.position? term with
  | none => list
  | some index =>
    if joinsMatchers list.terms index then list
    else
      let terms := withoutTerm list.terms index
      let removed := { list with terms := terms }
      if terms.isEmpty then
        { removed with cursor := none }.restorePlaceholder
      else if list.cursor.isNone then removed
      else
        let sameTerm := (list.current?.bind Term.id).bind fun id =>
          terms.findIdx? (·.id == some id)
        { removed with
          cursor := some (sameTerm.getD (min (index - 1) (terms.length - 1))) }

/-! ## Moving and writing -/

/-- Moves the cursor onto a term, which is inserted when the list does not have
it. -/
def moveTo (list : TermList) (term : Term) : TermList :=
  match list.position? term with
  | some index => { list with held := none, cursor := some index }
  | none => list.insert term

/-- Moves the cursor before the first term. -/
def moveToStart (list : TermList) : TermList :=
  { list with held := none, cursor := none }

/-- Commits a value: in the placeholder, which becomes a term, else in the current
term, else in a new one. Separators take no value. -/
def write (list : TermList) (value : Text) : TermList :=
  match list.placeholder with
  | some placeholder =>
    { list with placeholder := none }.insert
      { placeholder with value := some value }
  | none =>
    match list.cursor with
    | some index =>
      { list with
        terms := list.terms.modify index fun term =>
          if term.isSeparator then term else { term with value := some value } }
    | none =>
      list.insert { Term.blank list.matcher with value := some value }

/-! ## Placeholder and defaults -/

/-- Puts up a placeholder on a column. -/
def withPlaceholder (list : TermList) (column : Option Text) : TermList :=
  { list with
    placeholder := some { Term.blank list.matcher with column := column } }

/-- Takes the placeholder away, the parked one too. -/
def withoutPlaceholder (list : TermList) : TermList :=
  { list with placeholder := none, parked := none }

/-- Chooses the separator put between matchers. -/
def withSeparator (list : TermList) (operator : Operator) : TermList :=
  if operator.kind = .separator then { list with separator := operator }
  else list

/-- Chooses the operator of new terms, and of the placeholder or else the current
term. -/
def withMatcher (list : TermList) (operator : Operator) : TermList :=
  if operator.kind ≠ list.kind.criterion then list
  else
    let list := { list with matcher := operator }
    match list.placeholder, list.cursor with
    | some placeholder, _ =>
      { list with placeholder := some { placeholder with operator := operator } }
    | none, some index =>
      { list with
        terms := list.terms.modify index fun term =>
          if term.kind = list.kind.criterion then
            { term with operator := operator }
          else term }
    | none, none => list

/-- A copy of the list. A list is a value that no edit of another one reaches, so it
is its own copy. -/
def rebuild (list : TermList) : TermList := list

/-- An empty list of the same kind with the same choices. -/
def cleared (list : TermList) : TermList :=
  { empty list.kind with
    separator := list.separator
    matcher := list.matcher
    placeholder := some (.blank list.matcher) }

end QueryPhrase.TermList
