import Rulebook.Config.Value
import Rulebook.Json.Reader
import Rulebook.Toml.Document

/-!
# Formats of configuration files

A configuration file holds a table in TOML or in JSON. In JSON, null is nothing, an integer that
does not fit 64 bits with a sign counts as a number, and the nesting is limited.
-/

namespace Rulebook.Config

/-- A format of configuration files. -/
inductive Format where
  | toml
  | json
deriving DecidableEq

namespace Value

/-- The value that a JSON number stands for. -/
def ofNumber : Json.Number → Value
  | .integer n =>
      if Range.isSigned64 n then .integer n else .float (.ofDecimal (n < 0) n.natAbs 0)
  | .float x => .float (.finite x)

mutual

/-- The value that a JSON value stands for. -/
def ofJson : Json.Value → Value
  | .null => .nothing
  | .boolean b => .flag b
  | .number n => ofNumber n
  | .text t => .text t
  | .array elements => .list (ofElements elements)
  | .object members => .table (ofMembers members)

/-- The values that the elements of a JSON array stand for. -/
def ofElements : List Json.Value → List Value
  | [] => []
  | element :: rest => ofJson element :: ofElements rest

/-- The entries that the members of a JSON object stand for. -/
def ofMembers : List (Text × Json.Value) → List (Text × Value)
  | [] => []
  | (key, value) :: rest => (key, ofJson value) :: ofMembers rest

end

end Value

namespace Format

/-- All formats. Of several files that differ in their format, the first one counts. -/
def all : List Format :=
  [toml, json]

/-- The ending of the names of files in a format. -/
def ending : Format → Text
  | .toml => ".toml".toList
  | .json => ".json".toList

/-- The greatest number of JSON containers that may be open. -/
def maxNesting : Nat :=
  127

/-- The table of a text in a format. -/
def read? : Format → Text → Option Table
  | .toml, text => Toml.ofText? text
  | .json, text =>
      match Json.Value.read? (some maxNesting) text with
      | some (.object members) => some (Value.ofMembers members)
      | _ => none

end Format

end Rulebook.Config
