import Rulebook.Rule.Fault
import Rulebook.Rule.Token

/-!
# Groups of tokens

The tokens of a rule are gathered into items: words, keywords, and groups, which are what stands
between a pair of parentheses. The groups that are open form a stack, so the number of open
parentheses is its height.
-/

namespace Rulebook

/-- A word, a keyword, or what stands in a pair of parentheses. -/
inductive Item where
  | word (text : Text)
  | connective (c : Connective)
  | group (items : List Item)

namespace Item

mutual

def tokens : Item → List Token
  | .word text => [.word text]
  | .connective c => [.connective c]
  | .group items => .opening :: (tokensOf items ++ [.closing])

def tokensOf : List Item → List Token
  | [] => []
  | item :: rest => item.tokens ++ tokensOf rest

end

/-- Gather tokens into items up to a closing parenthesis without an opening one, or up to the end.
`outer` holds the items before each open parenthesis and `current` those after the last one, all
last first; at most `room` parentheses may be open. Gives the items and the tokens that are left. -/
def gather (room : Nat) (outer : List (List Item)) (current : List Item) :
    List Token → Except ParseFault (List Item × List Token)
  | [] =>
      match outer with
      | [] => .ok (current.reverse, [])
      | _ :: _ => .error .groupUnclosed
  | .closing :: rest =>
      match outer with
      | [] => .ok (current.reverse, .closing :: rest)
      | before :: outer => gather room outer (.group current.reverse :: before) rest
  | .opening :: rest =>
      if outer.length < room then gather room (current :: outer) [] rest
      else .error .groupTooDeep
  | .connective c :: rest => gather room outer (.connective c :: current) rest
  | .word text :: rest => gather room outer (.word text :: current) rest

/-- The items of tokens within `depth` open parentheses, and the tokens that are left. -/
def ofTokens (depth : Nat) (tokens : List Token) : Except ParseFault (List Item × List Token) :=
  gather (maxGroups - depth) [] [] tokens

/-- The items of a whole rule. -/
def ofRule (tokens : List Token) : Except ParseFault (List Item) :=
  match ofTokens 0 tokens with
  | .error fault => .error fault
  | .ok (items, []) => .ok items
  | .ok (_, _ :: left) => .error (.strayClosing (tokens.length - left.length))

end Item

end Rulebook
