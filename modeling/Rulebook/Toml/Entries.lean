import Rulebook.Config.Value

/-!
# TOML tables under construction

While a TOML text is read, a table remembers how it came about: tables that were only implied by the
path of a header may still get a header of their own or be extended by assignments, tables made or
extended by assigning to a path may be extended by further assignments only, and values are closed.
-/

namespace Rulebook.Toml

open Config

/-- How a table came about. -/
inductive Origin where
  /-- As a part of the path of a header. -/
  | implied
  /-- By a header. -/
  | header
  /-- By the path of an assignment. -/
  | assigned
deriving DecidableEq

/-- What a key stands for. -/
inductive Entry where
  | value (value : Value)
  | table (origin : Origin) (entries : List (Text × Entry))
  /-- The last element of an array of tables, and those before, last first. -/
  | tables (last : List (Text × Entry)) (before : List (List (Text × Entry)))

/-- The entries of a table, each key once. -/
abbrev Entries := List (Text × Entry)

namespace Entries

/-- Change what a key stands for, unless the change fails. -/
def alter? (key : Text) (change : Option Entry → Option Entry) : Entries → Option Entries
  | [] => (change none).map fun entry => [(key, entry)]
  | (other, entry) :: rest =>
      if key = other then (change (some entry)).map fun entry => (key, entry) :: rest
      else (alter? key change rest).map ((other, entry) :: ·)

/-- Change the table at the path of a header. Tables that are not there are implied, and the path
goes through the last element of an array of tables. -/
def withinHeader? (change : Entries → Option Entries) : List Text → Entries → Option Entries
  | [], entries => change entries
  | key :: path, entries =>
      entries.alter? key fun entry =>
        match entry with
        | none => (withinHeader? change path []).map (.table .implied)
        | some (.table origin inner) => (withinHeader? change path inner).map (.table origin)
        | some (.tables last before) =>
            (withinHeader? change path last).map fun last => .tables last before
        | some (.value _) => none

/-- Assign a value to a path. The table that gets the value is one that no header opened, and counts
as made by assignments from then on. On the way there, the path goes through the last element of an
array of tables, too. No value is assigned twice. -/
def assign? (value : Value) : List Text → Entries → Option Entries
  | [], _ => none
  | [key], entries =>
      entries.alter? key fun entry =>
        match entry with
        | none => some (.value value)
        | some _ => none
  | key :: path, entries =>
      entries.alter? key fun entry =>
        match entry with
        | none => (assign? value path []).map (.table .assigned)
        | some (.table .header _) => none
        | some (.table origin inner) =>
            (assign? value path inner).map (.table (if path.length = 1 then .assigned else origin))
        | some (.tables last before) =>
            if path.length = 1 then none
            else (assign? value path last).map fun last => .tables last before
        | some (.value _) => none

def openTable? (key : Text) (entries : Entries) : Option Entries :=
  entries.alter? key fun entry =>
    match entry with
    | none => some (.table .header [])
    | some (.table .implied inner) => some (.table .header inner)
    | some _ => none

/-- Open a new element of an array of tables by its header. -/
def openElement? (key : Text) (entries : Entries) : Option Entries :=
  entries.alter? key fun entry =>
    match entry with
    | none => some (.tables [] [])
    | some (.tables last before) => some (.tables [] (last :: before))
    | some _ => none

mutual

/-- The value that an entry stands for. -/
def Entry.toValue : Entry → Value
  | .value value => value
  | .table _ entries => .table (tableOf entries)
  | .tables last before => .list (listOf before [.table (tableOf last)])

def tableOf : List (Text × Entry) → Table
  | [] => []
  | (key, entry) :: rest => (key, Entry.toValue entry) :: tableOf rest

/-- The elements of an array of tables, given last first, before others. -/
def listOf : List (List (Text × Entry)) → List Value → List Value
  | [], after => after
  | entries :: before, after => listOf before (.table (tableOf entries) :: after)

end

def toTable (entries : Entries) : Table :=
  tableOf entries

end Entries

end Rulebook.Toml
