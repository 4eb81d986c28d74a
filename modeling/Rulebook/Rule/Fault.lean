import Rulebook.Json.Value
import Rulebook.Rule.Comparison
import Rulebook.Rule.Tree

/-!
# Faults of rules

Everything that can go wrong with a rule is a cause of its own; each cause has one code and one
text.
-/

namespace Rulebook

/-- Why a text is no rule. -/
inductive ParseFault where
  | groupTooDeep
  | groupUnclosed
  /-- A closing parenthesis without an opening one, by its place among the tokens, from one. -/
  | strayClosing (position : Nat)
  | treeTooDeep
  | emptyExpression
  | loneConnective (connective : Connective)
  | emptySide (connective : Connective) (side : Side)
  | groupBesideCondition
  | condition (text : Text) (fault : ConditionFault)
deriving DecidableEq

/-- Why a JSON value is no node of a tree. -/
inductive NodeFault where
  | tooDeep
  | notObject
  | missing (key : Text)
  | notText (key : Text)
  | unknownConnective (word : Text)
  | sideMissing
  | sideUnexpected
  | unknownType (word : Text)
deriving DecidableEq

/-- Why a text or a JSON value is no stored tree. -/
inductive EncodingFault where
  /-- The brackets nest too deeply for the text to be read at all. -/
  | nesting (levels : Nat)
  | notJson
  /-- The first faulty node, by its path from the root. -/
  | node (path : Path) (fault : NodeFault)
deriving DecidableEq

/-- The kind of a value, as it is named in a fault. -/
inductive Kind where
  | missing
  | null
  | boolean
  | number
  | integer
  | string
  | array
  | object
deriving DecidableEq

/-- Why a store does not answer, with what it reports. -/
inductive Outage where
  | ofDatabase (detail : Text)
  | ofEncoding (detail : Text)
deriving DecidableEq

/-- Why an operation on rules fails. -/
inductive RuleError where
  | parse (fault : ParseFault)
  | malformedTree (fault : EncodingFault)
  | malformedCondition (condition : Text) (fault : ConditionFault)
  | typeMismatch (field : Text) (expected actual : Kind)
  | notFound (ids : List Text)
  | emptyCombination
  | treeTooDeep (depth : Nat)
  | outage (cause : Outage)
deriving DecidableEq

/-- The text of a malformed condition. -/
def malformedConditionMessage (condition : Text) (fault : ConditionFault) : Text :=
  "无效的比较条件 '".toList ++ condition ++ "': ".toList ++ fault.message

namespace Side

def label : Side → Text
  | .left => "左".toList
  | .right => "右".toList

end Side

/-- The greatest number of parentheses that may be open at a time. -/
def maxGroups : Nat :=
  64

namespace ParseFault

/-- The text of a fault. -/
def message : ParseFault → Text
  | .groupTooDeep => "括号嵌套超过 ".toList ++ Numeral.ofNat maxGroups ++ " 层".toList
  | .groupUnclosed => "括号未闭合".toList
  | .strayClosing position =>
      "第 ".toList ++ Numeral.ofNat position ++ " 个记号处出现多余的右括号".toList
  | .treeTooDeep => "语法树深度超过 ".toList ++ Numeral.ofNat Tree.maxDepth ++ " 层".toList
  | .emptyExpression => "空表达式".toList
  | .loneConnective connective => "操作符 ".toList ++ connective.keyword ++ " 缺少操作数".toList
  | .emptySide connective side =>
      "操作符 ".toList ++ connective.keyword ++ " 的".toList ++ side.label ++ "侧为空".toList
  | .groupBesideCondition => "括号表达式不能与条件片段直接相邻".toList
  | .condition text fault => malformedConditionMessage text fault

end ParseFault

namespace NodeFault

/-- The text of a fault. -/
def message : NodeFault → Text
  | .tooDeep => "深度超过 ".toList ++ Numeral.ofNat Tree.maxDepth ++ " 层".toList
  | .notObject => "节点必须是 JSON 对象".toList
  | .missing key => "缺少字段 '".toList ++ key ++ "'".toList
  | .notText key => "字段 '".toList ++ key ++ "' 必须是字符串".toList
  | .unknownConnective word => "未知的逻辑操作符 '".toList ++ word ++ "'".toList
  | .sideMissing => "逻辑节点必须同时包含左右子节点".toList
  | .sideUnexpected => "条件节点不能包含子节点".toList
  | .unknownType word => "未知的节点类型 '".toList ++ word ++ "'".toList

end NodeFault

namespace EncodingFault

/-- The text of a fault. -/
def message : EncodingFault → Text
  | .nesting levels =>
      "JSON 嵌套 ".toList ++ Numeral.ofNat levels ++ " 层，超过上限 ".toList ++
        Numeral.ofNat Tree.maxDepth
  | .notJson => "无效的 JSON".toList
  | .node path fault => path.text ++ ": ".toList ++ fault.message

end EncodingFault

namespace Kind

def name : Kind → Text
  | .missing => "missing".toList
  | .null => "null".toList
  | .boolean => "boolean".toList
  | .number => "number".toList
  | .integer => "integer".toList
  | .string => "string".toList
  | .array => "array".toList
  | .object => "object".toList

/-- The kind of a field's value, if the field is there. -/
def ofValue? : Option Json.Value → Kind
  | none => .missing
  | some .null => .null
  | some (.boolean _) => .boolean
  | some (.number _) => .number
  | some (.text _) => .string
  | some (.array _) => .array
  | some (.object _) => .object

end Kind

namespace Literal

/-- The kind of values that a literal can be compared with in order. -/
def kind : Literal → Kind
  | .integer _ => .integer
  | .string _ => .string

end Literal

namespace Outage

/-- No connection to the database became free in time. -/
def database : Outage :=
  .ofDatabase "pool timed out while waiting for an open connection".toList

/-- An encoded value ended before it began. -/
def encoding : Outage :=
  .ofEncoding "EOF while parsing a value at line 1 column 0".toList

/-- What the failing store reports. -/
def detail : Outage → Text
  | .ofDatabase detail | .ofEncoding detail => detail

end Outage

namespace RuleError

/-- The code of an error. -/
def code : RuleError → String
  | .parse _ => "PARSE_ERROR"
  | .malformedTree _ => "MALFORMED_TREE"
  | .malformedCondition _ _ => "MALFORMED_OPERAND"
  | .typeMismatch _ _ _ => "TYPE_MISMATCH"
  | .notFound _ => "RULE_NOT_FOUND"
  | .emptyCombination => "EMPTY_COMBINATION"
  | .treeTooDeep _ => "TREE_TOO_DEEP"
  | .outage (.ofDatabase _) => "DATABASE_ERROR"
  | .outage (.ofEncoding _) => "JSON_ERROR"

/-- The text of an error. -/
def message : RuleError → Text
  | .parse fault => "规则解析失败: ".toList ++ fault.message
  | .malformedTree fault => "规则树结构损坏: ".toList ++ fault.message
  | .malformedCondition condition fault => malformedConditionMessage condition fault
  | .typeMismatch field expected actual =>
      "类型不匹配: 字段 '".toList ++ field ++ "' 期望 ".toList ++ expected.name ++
        ", 实际 ".toList ++ actual.name
  | .notFound ids => "规则未找到: ".toList ++ Text.join ", ".toList ids
  | .emptyCombination => "合并规则时至少需要一条规则".toList
  | .treeTooDeep depth =>
      "规则树深度 ".toList ++ Numeral.ofNat depth ++ " 超过上限 ".toList ++
        Numeral.ofNat Tree.maxDepth
  | .outage (.ofDatabase detail) => "数据库错误: ".toList ++ detail
  | .outage (.ofEncoding detail) => "JSON 序列化错误: ".toList ++ detail

end RuleError

end Rulebook
