import QueryPhrase.Toml.Value

/-!
# TOML documents

A document as it is written: assignments, and then sections, each a header with
assignments below it. `Document.entries?` is the table it stands for, if it stands
for one: a table is opened by one header at most.
-/

namespace QueryPhrase.Toml

/-- A header and the assignments below it. -/
structure Section where
  /-- Whether the header adds a table to a list of tables. -/
  item : Bool
  /-- The tables on the way to the section. -/
  parents : List Text
  key : Text
  /-- The assignments below the header. -/
  assignments : List Assignment
deriving Repr

structure Document where
  /-- The assignments before the first header. -/
  top : List Assignment
  sections : List Section
deriving Repr

/-- What a line of a document says. -/
inductive Statement
  | assign (assignment : Assignment)
  | opening (item : Bool) (parents : List Text) (key : Text)
deriving Repr

/-- The document that some statements make up. -/
def Document.ofStatements : List Statement → Document
  | [] => ⟨[], []⟩
  | .assign assignment :: rest =>
    let document := Document.ofStatements rest
    { document with top := assignment :: document.top }
  | .opening item parents key :: rest =>
    let document := Document.ofStatements rest
    ⟨[], ⟨item, parents, key, document.top⟩ :: document.sections⟩

/-- Adds the table of a section to the tables around it. A header may open a table
that other headers have passed, and nothing else that is there already. -/
def Section.addTable (part : Section) (entries : Entries) : Option Entries :=
  match entries.get? part.key with
  | none => do
    let inner ← Entries.assignAll [] part.assignments
    return entries ++ [(part.key, .table .header inner)]
  | some (.table .passed inner) => do
    let inner ← Entries.assignAll inner part.assignments
    return entries.put part.key (.table .header inner)
  | some _ => none

/-- Adds the table of a section to a list of tables. -/
def Section.addItem (part : Section) (entries : Entries) : Option Entries := do
  let inner ← Entries.assignAll [] part.assignments
  match entries.get? part.key with
  | none => return entries ++ [(part.key, .tables [inner])]
  | some (.tables items) =>
    return entries.put part.key (.tables (items ++ [inner]))
  | some _ => none

/-- Adds a section to a table. -/
def Entries.addSection (entries : Entries) (part : Section) : Option Entries :=
  Entries.alter .passed Origin.opensToHeader
    (fun _ inner => if part.item then part.addItem inner else part.addTable inner)
    part.parents .header entries

/-- The table a document stands for. -/
def Document.entries? (document : Document) : Option Entries := do
  let top ← Entries.assignAll [] document.top
  document.sections.foldlM Entries.addSection top

end QueryPhrase.Toml
