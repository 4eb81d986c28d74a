import Rulebook.Rule.Operator

/-!
# Tokens of rules

A rule is cut at blank characters and at parentheses; each parenthesis is a token of its own, and
what lies between is a keyword or a word. Cutting never fails.
-/

namespace Rulebook

/-- A token of a rule. -/
inductive Token where
  | opening
  | closing
  | connective (c : Connective)
  | word (text : Text)
deriving DecidableEq

namespace Token

/-- The token of a run of characters without blanks and parentheses. -/
def ofRun (run : Text) : Token :=
  match Connective.ofKeyword? run with
  | some c => .connective c
  | none => .word run

def text : Token → Text
  | .opening => ['(']
  | .closing => [')']
  | .connective c => c.keyword
  | .word text => text

/-- Put the token of a run, read backwards, before others. An empty run makes no token. -/
def flush (current : Text) (after : List Token) : List Token :=
  if current.isEmpty then after else ofRun current.reverse :: after

/-- The tokens of a text, the first of which has `current` already read, last character first. -/
def scan (current : Text) : Text → List Token
  | [] => flush current []
  | c :: rest =>
      if Text.isBlank c then flush current (scan [] rest)
      else if c = '(' then flush current (.opening :: scan [] rest)
      else if c = ')' then flush current (.closing :: scan [] rest)
      else scan (c :: current) rest

/-- The tokens of a rule. -/
def ofText (rule : Text) : List Token :=
  scan [] rule

end Token

end Rulebook
