import Rulebook.Config.Layer

/-!
# Configuration from the environment

Environment variables whose names begin with `RULES_` make the uppermost layer. Double underscores
in the rest of the name separate levels, letters count as lower case, and the text of the variable
is read as a truth value, an integer, a number or, failing these, itself.
-/

namespace Rulebook.Config

abbrev Environment := List (Text × Text)

namespace Environment

def get? (environment : Environment) (name : String) : Option Text :=
  (environment.find? (·.1 == name.toList)).map Prod.snd

/-- Add the variables that are not set already. -/
def extend (environment additions : Environment) : Environment :=
  additions.foldl (fun before (name, text) =>
    if before.any (·.1 == name) then before else before ++ [(name, text)]) environment

end Environment

/-- Write a point for each double underscore, from left to right. -/
def pointLevels : Text → Text
  | '_' :: '_' :: rest => '.' :: pointLevels rest
  | c :: rest => c :: pointLevels rest
  | [] => []

/-- The path that a variable sets, if its name has the prefix. -/
def variablePath? (name : Text) : Option Path :=
  (Text.after? "rules_".toList (Text.lower name)).map fun key => .ofName (pointLevels key)

/-- The value that the text of a variable stands for. -/
def Value.ofVariable (text : Text) : Value :=
  if Text.lower text = "true".toList then .flag true
  else if Text.lower text = "false".toList then .flag false
  else
    match (Numeral.int? text).filter Range.isSigned64 with
    | some n => .integer n
    | none =>
        match Extended.ofText? text with
        | some x => .float x
        | none => .text text

def Environment.layer (environment : Environment) : Layer :=
  environment.filterMap fun (name, text) =>
    (variablePath? name).map fun path => (path, .ofVariable text)

end Rulebook.Config
