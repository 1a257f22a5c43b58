import TaskProbe.Decimal.Binary64
import TaskProbe.Keyed

/-!
# TOML documents

A document is a table; the values of a table are in the order of their keys. A table remembers how it
came about, because that decides what may still be added to it: a table written in braces is closed,
one with a header of its own is not defined a second time, and one that only stands on the way to
another may still get a header.
-/

namespace TaskProbe.Toml

/-- A number with a point or an exponent. -/
inductive Real where
  | finite (x : Binary64)
  | infinite (negative : Bool)
  | nan
  | tooLarge
  deriving DecidableEq, Repr

/-- A value that has no parts. Dates and times are only told apart from other values. -/
inductive Scalar where
  | string (s : List Char)
  | integer (n : Int)
  /-- What has the outer form of an integer, but not its digits; a document may hold it where nobody
  asks for its value. -/
  | misread
  | real (x : Real)
  | boolean (b : Bool)
  | moment
  deriving DecidableEq, Repr

/-- How a table came about. -/
inductive TableKind where
  /-- The document itself, or a table with a header. -/
  | headed
  /-- A table on the way to one with a header. -/
  | implied
  /-- A table that the dots of a key made. -/
  | dotted
  /-- A table in braces. -/
  | closed
  deriving DecidableEq, Repr

/-- A value. Arrays in brackets are told apart from arrays of tables with headers. -/
inductive Node where
  | scalar (s : Scalar)
  | array (items : List Node)
  | tables (items : List (List (String × Node)))
  | table (kind : TableKind) (fields : List (String × Node))
  deriving Repr

/-- The content of a table. -/
abbrev Fields := List (String × Node)

/-- A key with dots: the tables on the way, and the last part. -/
structure KeyPath where
  parents : List String
  last : String
  deriving DecidableEq, Repr

/-! ## Finding the table to change -/

/-- A change to the content of a table of some kind, which may be refused. -/
abbrev Change := TableKind → Fields → Option Fields

/-- The last table of an array of tables, changed. -/
def changeLast (change : Fields → Option Fields) : List Fields → Option (List Fields)
  | [] => none
  | [fields] => (change fields).map ([·])
  | first :: more => (changeLast change more).map (first :: ·)

/-- Changes the table at the end of a path. Tables that are missing on the way are made; of an array
of tables the last one is meant. Closed tables cannot be entered, nor can the dots of a key enter a
table that has a header. -/
def changeAt (byDots : Bool) (change : Change) : TableKind → List String → Change
  | _, [], kind, fields => change kind fields
  | made, key :: path, _, fields =>
    match Keyed.lookup key fields with
    | none =>
      (changeAt byDots change made path made []).map fun inner =>
        Keyed.insert key (.table made inner) fields
    | some (.table kind inner) =>
      if kind = .closed ∨ (byDots ∧ kind = .headed) then none
      else
        (changeAt byDots change made path kind inner).map fun inner =>
          Keyed.insert key (.table kind inner) fields
    | some (.tables items) =>
      (changeLast (changeAt byDots change made path .headed) items).map fun items =>
        Keyed.insert key (.tables items) fields
    | some _ => none

/-! ## What statements do -/

/-- Adds a value that is not there yet. Behind dots the table must be one that dots made. -/
def addValue (key : KeyPath) (value : Node) : Change :=
  changeAt true
    (fun kind fields =>
      if (kind = .dotted) ↔ key.parents = [] then none
      else
        match Keyed.lookup key.last fields with
        | some _ => none
        | none => some (Keyed.insert key.last value fields))
    .dotted key.parents

/-- Gives a table its header: a new one, or one that stood on the way to others. -/
def addTable (key : KeyPath) : Change :=
  changeAt false
    (fun _ fields =>
      match Keyed.lookup key.last fields with
      | none => some (Keyed.insert key.last (.table .headed []) fields)
      | some (.table .implied inner) => some (Keyed.insert key.last (.table .headed inner) fields)
      | some _ => none)
    .implied key.parents

/-- Adds a table to an array of tables. -/
def addItem (key : KeyPath) : Change :=
  changeAt false
    (fun _ fields =>
      match Keyed.lookup key.last fields with
      | none => some (Keyed.insert key.last (.tables [[]]) fields)
      | some (.tables items) => some (Keyed.insert key.last (.tables (items ++ [[]])) fields)
      | some _ => none)
    .implied key.parents

/-- One line of a document, or several that belong together. -/
inductive Statement where
  | header (key : KeyPath)
  | itemHeader (key : KeyPath)
  | assignment (key : KeyPath) (value : Node)
  deriving Repr

/-- A document so far, with the path to the table that assignments go to. -/
structure Document where
  fields : Fields
  here : List String
  deriving Repr

/-- The effect of one statement. -/
def Document.apply (d : Document) : Statement → Option Document
  | .header key =>
    (addTable key .headed d.fields).map (⟨·, key.parents ++ [key.last]⟩)
  | .itemHeader key =>
    (addItem key .headed d.fields).map (⟨·, key.parents ++ [key.last]⟩)
  | .assignment key value =>
    (changeAt false (addValue key value) .implied d.here .headed d.fields).map (⟨·, d.here⟩)

/-- The table that statements describe. -/
def ofStatements (statements : List Statement) : Option Fields :=
  (statements.foldlM Document.apply ⟨[], []⟩).map (·.fields)

/-- The content of a table in braces. -/
def ofAssignments (assignments : List (KeyPath × Node)) : Option Fields :=
  assignments.foldlM (fun fields (key, value) => addValue key value .headed fields) []

end TaskProbe.Toml
