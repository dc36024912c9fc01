/-
This file holds what can be wrong with a rule set, when it is compiled and when it runs. Every
fault comes with its location: the rule set and, as far as that is known, the block, condition
set, condition or action.
-/
import Rulebook.Text.Quoted

namespace Rulebook

/-- The place of a fault. -/
structure Location where
  ruleSet : Option String := none
  block : Option String := none
  conditionSet : Option String := none
  condition : Option String := none
  action : Option String := none
  deriving DecidableEq, Inhabited

namespace Location

/-- The parts of a location that are known, each with its name. -/
def parts (location : Location) : List String :=
  [("rule_set", location.ruleSet), ("block", location.block),
    ("condition_set", location.conditionSet), ("condition", location.condition),
    ("action", location.action)].filterMap fun (name, part) => part.map (name ++ "=" ++ ·)

/-- The text of a location: its parts, or a hyphen if nothing is known. -/
def display (location : Location) : String :=
  if location.parts.isEmpty then "-" else " ".intercalate location.parts

end Location

/-- What is wrong with a rule set. -/
inductive RuleFault where
  | unknownProperty (property : String)
  | unknownOperator (operator : String)
  | unknownAction (method : String)
  | invalidCombinationRule (rule : String)
  | providerConstruction (provider reason : String)
  | cyclicConditionSet
  | duplicateConditionSet (id : String)
  | unknownParentConditionSet (parent : String)
  | operatorNotAllowed (property operator : String) (allowed : List String)
  | invalidPattern (pattern reason : String)
  | typeMismatch (operator expected actual : String)
  | providerFailed (method reason : String)
  deriving DecidableEq

/-- The name of a kind of fault. -/
def RuleFault.kind : RuleFault → String
  | .unknownProperty .. => "unknown_property"
  | .unknownOperator .. => "unknown_operator"
  | .unknownAction .. => "unknown_action"
  | .invalidCombinationRule .. => "invalid_combination_rule"
  | .providerConstruction .. => "provider_construction"
  | .cyclicConditionSet => "cyclic_condition_set"
  | .duplicateConditionSet .. => "duplicate_condition_set"
  | .unknownParentConditionSet .. => "unknown_parent_condition_set"
  | .operatorNotAllowed .. => "operator_not_allowed"
  | .invalidPattern .. => "invalid_pattern"
  | .typeMismatch .. => "type_mismatch"
  | .providerFailed .. => "provider_failed"

/-- The words for a fault, without its location. -/
def RuleFault.message : RuleFault → String
  | .unknownProperty property => s!"未知的属性方法: {property}"
  | .unknownOperator operator => s!"未知的比较操作符: {operator}"
  | .unknownAction method => s!"未知的动作方法: {method}"
  | .invalidCombinationRule rule => s!"无效的组合规则: {rule}，仅支持 all/any"
  | .providerConstruction provider reason => s!"无法构造提供者 {provider}: {reason}"
  | .cyclicConditionSet => "条件组父子关系存在环"
  | .duplicateConditionSet id => s!"同一规则块中条件组 id 重复: {id}"
  | .unknownParentConditionSet parent => s!"父条件组不存在于同一规则块: {parent}"
  | .operatorNotAllowed property operator allowed =>
    s!"属性 {property} 不允许使用操作符 {operator}，允许: {Text.quotedList allowed}"
  | .invalidPattern pattern reason => s!"无效的正则表达式 '{pattern}': {reason}"
  | .typeMismatch operator expected actual =>
    s!"类型不匹配: 操作符 {operator} 期望 {expected}, 实际 {actual}"
  | .providerFailed method reason => s!"提供者方法 {method} 执行失败: {reason}"

/-- A fault at its place, or a rule definition that could not be read at all. -/
inductive RuleError where
  | located (fault : RuleFault) (location : Location)
  | unreadable (reason : String)
  deriving DecidableEq

namespace RuleError

/-- The name of a kind of error. -/
def kind : RuleError → String
  | .located fault _ => fault.kind
  | .unreadable _ => "json"

/-- Where the error is; an unreadable definition has no place. -/
def location? : RuleError → Option Location
  | .located _ location => some location
  | .unreadable _ => none

/-- The text of an error. -/
def message : RuleError → String
  | .located fault location => s!"{fault.message} ({location.display})"
  | .unreadable reason => s!"JSON 序列化错误: {reason}"

end RuleError

end Rulebook
