import QueryPhrase.Text

/-!
# TOML values

The values a TOML document is made of. A table keeps its entries in the order they
were written and remembers how it came to be, because that decides what may still
be added to it.
-/

namespace QueryPhrase.Toml

/-- How a table came to be. -/
inductive Origin
  /-- Written as one value; nothing is added to it. -/
  | inline
  /-- Opened by a header. -/
  | header
  /-- On the way to a table that a header opens. -/
  | passed
  /-- On the way to the key of an entry. -/
  | dotted
deriving DecidableEq, Repr

/-- A value. Fractions and moments are kept as they were written. -/
inductive Value
  | text (value : Text)
  /-- A whole number. -/
  | int (value : Int)
  /-- A number with a fraction or an exponent, infinite or not a number. -/
  | fraction (written : Text)
  | bool (value : Bool)
  /-- A date, a time of day or both. -/
  | moment (written : Text)
  /-- A list written as one value. -/
  | list (items : List Value)
  /-- A list of tables, each opened by a header. -/
  | tables (items : List (List (Text × Value)))
  | table (origin : Origin) (entries : List (Text × Value))
deriving Repr

/-- Names with values, each name once. -/
abbrev Entries := List (Text × Value)

/-- One line of a document that gives a value to a key, which may lie inside
further tables. -/
structure Assignment where
  /-- The tables on the way to the key. -/
  parents : List Text
  key : Text
  value : Value
deriving Repr

/-- The value of a key. -/
def Entries.get? (entries : Entries) (key : Text) : Option Value :=
  entries.lookup key

/-- Gives `value` to a key that has one already. -/
def Entries.put (entries : Entries) (key : Text) (value : Value) : Entries :=
  entries.map fun entry => if entry.1 = key then (key, value) else entry

/-- Applies `change` to the table at the end of a path. Tables that are missing on
the way are made with the origin `made`; `opens` says which others may be passed.
The last table stands for a list of tables. -/
def Entries.alter (made : Origin) (opens : Origin → Bool)
    (change : Origin → Entries → Option Entries) :
    List Text → Origin → Entries → Option Entries
  | [], origin, entries => change origin entries
  | key :: path, _, entries =>
    match entries.get? key with
    | none => do
      let inner ← Entries.alter made opens change path made []
      return entries ++ [(key, .table made inner)]
    | some (.table origin inner) =>
      if opens origin then do
        let inner ← Entries.alter made opens change path origin inner
        return entries.put key (.table origin inner)
      else none
    | some (.tables items) => do
      let last ← items.getLast?
      let inner ← Entries.alter made opens change path .header last
      return entries.put key (.tables (items.dropLast ++ [inner]))
    | some _ => none

/-- Whether a key with dots may pass a table: only one that no header has opened. -/
def Origin.opensToKey : Origin → Bool
  | passed | dotted => true
  | inline | header => false

/-- Whether a header may pass a table. -/
def Origin.opensToHeader : Origin → Bool
  | inline => false
  | header | passed | dotted => true

/-- Adds an assignment to a table. A key is given a value once, and only tables
that keys with dots have made are added to by such keys. -/
def Entries.assign (entries : Entries) (assignment : Assignment) :
    Option Entries :=
  Entries.alter .dotted Origin.opensToKey
    (fun origin inner =>
      if (origin == .dotted) == assignment.parents.isEmpty then none
      else
        match inner.get? assignment.key with
        | some _ => none
        | none => some (inner ++ [(assignment.key, assignment.value)]))
    assignment.parents .header entries

/-- Adds assignments to a table, one after the other. -/
def Entries.assignAll (entries : Entries) (assignments : List Assignment) :
    Option Entries :=
  assignments.foldlM Entries.assign entries

end QueryPhrase.Toml
