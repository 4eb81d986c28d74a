import Rulebook.Log.Format
import Rulebook.Number.Power

/-!
# Observability

The settings of observability say how a service names itself, which records it logs and in which
format, and where it offers its metrics. Logging starts once; further starts fail and change
nothing.
-/

namespace Rulebook

/-- The settings of observability. -/
structure Observability where
  serviceName : Text
  /-- The filter of the log, unless the environment gives another one. -/
  logLevel : Text
  logFormat : Log.Format
  metricsEnabled : Bool
  metricsPort : Nat
deriving DecidableEq

namespace Log.Format

def name : Format → Text
  | .json => "json".toList
  | .pretty => "pretty".toList

def ofName? (name : Text) : Option Format :=
  [Format.json, Format.pretty].find? (·.name == name)

end Log.Format

namespace Observability

/-- The settings where nothing else is said. -/
def standard : Observability :=
  ⟨"unknown-service".toList, "info".toList, .pretty, true, 9090⟩

/-- The same settings for another service. -/
def withServiceName (settings : Observability) (name : Text) : Observability :=
  { settings with serviceName := name }

/-- The filter of the log: that of the environment, if there is a valid one, or else that of the
settings. -/
def filter (settings : Observability) (environment : Option Text) : Log.Filter :=
  Log.Filter.choose (environment.toList ++ [settings.logLevel])

/-- The event that logging starts with. -/
def announcement (settings : Observability) : Log.Event :=
  ⟨.info, "rule_shared::observability".toList, "Observability initialized".toList,
    [⟨"service".toList, .plain settings.serviceName⟩,
      ⟨"metrics_enabled".toList, .flag settings.metricsEnabled⟩,
      ⟨"metrics_port".toList, .natural settings.metricsPort⟩]⟩

/-- Which of some attempts to start logging succeed. -/
def starts (attempts : Nat) : List Bool :=
  (List.range attempts).map (· == 0)

/-- The log of some records after some attempts to start logging. -/
def log (settings : Observability) (environment : Option Text) (attempts : Nat)
    (records : List Log.Record) : List Json.Value :=
  if attempts = 0 then []
  else
    settings.logFormat.write (settings.filter environment)
      (.event settings.announcement :: records)

/-- Set a setting to a JSON value, if it may have that value. Other names set nothing. -/
def set? (settings : Observability) (name : Text) (value : Json.Value) : Option Observability :=
  if name = "service_name".toList then
    match value with
    | .text text => some { settings with serviceName := text }
    | _ => none
  else if name = "log_level".toList then
    match value with
    | .text text => some { settings with logLevel := text }
    | _ => none
  else if name = "log_format".toList then
    match value with
    | .text text | .object [(text, .null)] =>
        (Log.Format.ofName? text).map fun format => { settings with logFormat := format }
    | _ => none
  else if name = "metrics_enabled".toList then
    match value with
    | .boolean enabled => some { settings with metricsEnabled := enabled }
    | _ => none
  else if name = "metrics_port".toList then
    match value with
    | .number (.integer n) =>
        if 0 ≤ n ∧ n < Range.natural16 then some { settings with metricsPort := n.toNat } else none
    | _ => none
  else some settings

/-- The names of the settings, in their order. -/
def names : List Text :=
  ["service_name".toList, "log_level".toList, "log_format".toList, "metrics_enabled".toList,
    "metrics_port".toList]

/-- The settings with some values set. -/
def ofValues? (values : List (Text × Json.Value)) : Option Observability :=
  values.foldlM (fun settings (name, value) => settings.set? name value) standard

/-- The settings of a JSON object, or of an array with the values of the first settings. -/
def ofJson? : Json.Value → Option Observability
  | .object members => ofValues? members
  | .array elements =>
      if elements.length ≤ names.length then ofValues? (names.zip elements) else none
  | _ => none

end Observability

end Rulebook
