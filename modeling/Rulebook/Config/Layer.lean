import Rulebook.Config.Value

/-!
# Layers of a configuration

The name of a setting may be a path: a key of the configuration, then keys with points before them
and indices in brackets. Setting the value at a path makes the tables and lists on the way. A
configuration is made of layers that are laid over each other. Where two layers give a table for
the same place, their entries are merged; otherwise the upper value hides the lower one.
-/

namespace Rulebook.Config

/-- A step from a value to a part of it. -/
inductive Step where
  | entry (key : Text)
  /-- The element of a list with an index. Negative indices count from the end. -/
  | element (index : Int)
deriving DecidableEq

/-- A path from the table of a configuration. -/
structure Path where
  key : Text
  steps : List Step
deriving DecidableEq

namespace Path

/-- Whether a text may be a key on a path. -/
def isKey (text : Text) : Bool :=
  !text.isEmpty && text.all fun c => c.isAlphanum || c == '_' || c == '-'

/-- Whether a character may stand around an index. -/
def isBlank (c : Char) : Bool :=
  c == ' ' || c == '\t'

/-- The index in what follows an opening bracket, which is closed at the end. -/
def index? (text : Text) : Option Int :=
  let number := Text.dropEndWhile isBlank (text.dropLast.dropWhile isBlank)
  if text.getLast? = some ']' ∧ number.head? ≠ some '+' then
    (Numeral.int? number).filter Range.isSigned64
  else none

/-- A key and the indices after it. -/
def level? (text : Text) : Option (Text × List Int) :=
  match Text.splitOn '[' text with
  | key :: indices =>
      if isKey key then (indices.mapM index?).map fun indices => (key, indices) else none
  | [] => none

/-- The path that a name denotes. A name that denotes none is a key of its own. -/
def ofName (name : Text) : Path :=
  match (Text.splitOn '.' name).mapM level? with
  | some ((key, indices) :: levels) =>
      ⟨key, indices.map .element ++
        levels.flatMap fun (key, indices) => .entry key :: indices.map .element⟩
  | _ => ⟨name, []⟩

end Path

/-- Change the element with an index. The list grows by elements that are nothing, at its end or,
for negative indices, at its front, until it has the element. -/
def modifyElement (index : Int) (change : Value → Value) (elements : List Value) : List Value :=
  let position := if index < 0 then elements.length + index else index
  let longer := List.replicate (-position).toNat .nothing ++ elements
  let padding := List.replicate (position.toNat + 1 - longer.length) .nothing
  (longer ++ padding).modify position.toNat change

/-- Change the part of a value that some steps lead to. What is in the way of the steps is replaced.
-/
def Value.modifyAt (change : Value → Value) : List Step → Value → Value
  | [], value => change value
  | .entry key :: steps, value =>
      .table (value.entries.set key (modifyAt change steps (value.entries.value key)))
  | .element index :: steps, value =>
      .list (modifyElement index (modifyAt change steps) value.elements)

def Table.modifyAt (change : Value → Value) (path : Path) (table : Table) : Table :=
  table.set path.key ((table.value path.key).modifyAt change path.steps)

/-- A part of a configuration: values for some places in it. Those that come later hide those
before. -/
abbrev Layer := List (Path × Value)

mutual

def Value.over : Value → Value → Value
  | .table upper, lower => .table (overlay upper lower.entries)
  | .nothing, _ => .nothing
  | .text t, _ => .text t
  | .integer n, _ => .integer n
  | .float x, _ => .float x
  | .flag b, _ => .flag b
  | .list elements, _ => .list elements

def overlay : List (Text × Value) → Table → Table
  | [], lower => lower
  | (key, value) :: rest, lower => overlay rest (lower.set key (value.over (lower.value key)))

end

namespace Layer

/-- The layer of some settings, whose names may be paths. -/
def ofSettings (settings : List (Text × Value)) : Layer :=
  settings.map fun (name, value) => (.ofName name, value)

def onto (layer : Layer) (table : Table) : Table :=
  layer.foldl (fun lower (path, value) => lower.modifyAt value.over path) table

end Layer

/-- Lay layers over a table, the lowest one first. -/
def stack (layers : List Layer) (base : Table) : Table :=
  layers.foldl (fun lower upper => upper.onto lower) base

end Rulebook.Config
