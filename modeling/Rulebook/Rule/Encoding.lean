import Rulebook.Json.Printer
import Rulebook.Json.Reader
import Rulebook.Rule.Fault

/-!
# Stored trees

A tree is stored as a JSON object with the members `type`, `value`, `left` and `right`. A leaf has
the type `operand`, its condition as value and null on both sides; a node has the type `operator`,
its keyword as value and its sides encoded alike. Other members are ignored. Texts whose brackets
nest deeper than a tree may be are refused before they are read.
-/

namespace Rulebook

namespace Tree

/-- The member that tells a leaf from a node. -/
def typeKey : Text := ['t', 'y', 'p', 'e']

/-- The member with the condition of a leaf or the keyword of a node. -/
def valueKey : Text := ['v', 'a', 'l', 'u', 'e']

def leftKey : Text := ['l', 'e', 'f', 't']

/-- The member with the right side. -/
def rightKey : Text := ['r', 'i', 'g', 'h', 't']

def leafType : Text := ['o', 'p', 'e', 'r', 'a', 'n', 'd']

def nodeType : Text := ['o', 'p', 'e', 'r', 'a', 't', 'o', 'r']

def toJson : Tree → Json.Value
  | .leaf condition =>
      .object [(leftKey, .null), (rightKey, .null), (typeKey, .text leafType),
        (valueKey, .text condition)]
  | .node connective left right =>
      .object [(leftKey, left.toJson), (rightKey, right.toJson), (typeKey, .text nodeType),
        (valueKey, .text connective.keyword)]

def memberOnto (key : Text) (value : Text) : Text :=
  Json.Quoted.onto key (':' :: value)

/-- Write the stored form of a tree before a text, its type first. -/
def encodeOnto : Tree → Text → Text
  | .leaf condition, rest =>
      '{' :: memberOnto typeKey (Json.Quoted.onto leafType (',' :: memberOnto valueKey
        (Json.Quoted.onto condition (',' :: memberOnto leftKey (Json.Value.onto .null (',' ::
          memberOnto rightKey (Json.Value.onto .null ('}' :: rest))))))))
  | .node connective left right, rest =>
      '{' :: memberOnto typeKey (Json.Quoted.onto nodeType (',' :: memberOnto valueKey
        (Json.Quoted.onto connective.keyword (',' :: memberOnto leftKey (left.encodeOnto (',' ::
          memberOnto rightKey (right.encodeOnto ('}' :: rest))))))))

/-- The stored form of a tree. -/
def encode (tree : Tree) : Text :=
  tree.encodeOnto []

def required (members : Json.Members) (key : Text) : Except NodeFault Json.Value :=
  match members.get? key with
  | some value => .ok value
  | none => .error (.missing key)

/-- A member that must be a string. -/
def requiredText (members : Json.Members) (key : Text) : Except NodeFault Text :=
  match required members key with
  | .error fault => .error fault
  | .ok (.text text) => .ok text
  | .ok _ => .error (.notText key)

/-- What a JSON value says about a node, apart from its sides. -/
inductive NodeHead where
  | leaf (condition : Text)
  | node (connective : Connective) (left right : Json.Value)

/-- Read the members of a node, without looking into its sides. -/
def NodeHead.ofJson (value : Json.Value) : Except NodeFault NodeHead :=
  match value with
  | .object members => do
      let type ← requiredText members typeKey
      let text ← requiredText members valueKey
      let left ← required members leftKey
      let right ← required members rightKey
      if type = nodeType then
        match Connective.ofKeyword? text with
        | none => .error (.unknownConnective text)
        | some connective =>
            if left.isNull || right.isNull then .error .sideMissing
            else .ok (.node connective left right)
      else if type = leafType then
        if left.isNull && right.isNull then .ok (.leaf text) else .error .sideUnexpected
      else .error (.unknownType type)
  | _ => .error .notObject

/-- Read the node at a path; at most `room` levels may follow, itself included. -/
def ofJsonAt (room : Nat) (path : Path) (value : Json.Value) : Except EncodingFault Tree :=
  match room with
  | 0 => .error (.node path .tooDeep)
  | room + 1 =>
      match NodeHead.ofJson value with
      | .error fault => .error (.node path fault)
      | .ok (.leaf condition) => .ok (.leaf condition)
      | .ok (.node connective left right) => do
          let left ← ofJsonAt room (path ++ [.left]) left
          let right ← ofJsonAt room (path ++ [.right]) right
          .ok (.node connective left right)

/-- The tree that a JSON value encodes. -/
def ofJson (value : Json.Value) : Except EncodingFault Tree :=
  ofJsonAt maxDepth [] value

/-- Read the stored form of a tree. -/
def decode (text : Text) : Except EncodingFault Tree :=
  if maxDepth < Json.nesting text then .error (.nesting (Json.nesting text))
  else
    match Json.Value.read? none text with
    | none => .error .notJson
    | some value => ofJson value

end Tree

end Rulebook
