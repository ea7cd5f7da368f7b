import Stencil.Value.Text

/-!
# Expressions

Expressions, the outputs that send them through filters, and conditions. An expression is a
literal or a lookup, a chain of steps each of which is applied to the result of the one before.

`Expression.text` writes an expression as markup.
-/

namespace Stencil.Markup

/-! ## Expressions -/

/-- The steps of a lookup that count and pick items. -/
inductive Selector where
  | size
  | first
  | last
  deriving DecidableEq, Repr

/-- The name of a selector. -/
def Selector.name : Selector → String
  | .size => "size"
  | .first => "first"
  | .last => "last"

/-- The selector with a name. -/
def Selector.ofName? (name : String) : Option Selector :=
  [Selector.size, .first, .last].find? (·.name == name)

/-- An expression, or a step of one. -/
inductive Expression where
  /-- Steps, each applied to the result of the one before. -/
  | lookup (steps : List Expression)
  | name (identifier : String)
  | selector (s : Selector)
  | literal (value : Value)
  | subscript (key : Expression)
  deriving Inhabited

/-- Whether an expression is a subscript, which stands in brackets. -/
def Expression.isSubscript : Expression → Bool
  | .subscript _ => true
  | _ => false

/-- The markup of a literal. -/
def literalText : Value → String
  | .string s => "'" ++ s ++ "'"
  | .nil => "nil"
  | v => v.text

mutual

/-- The markup of an expression. -/
def Expression.text : Expression → String
  | .lookup [] => ""
  | .lookup (step :: steps) => step.text ++ stepsText steps
  | .name identifier => identifier
  | .selector s => s.name
  | .literal value => literalText value
  | .subscript key => "[" ++ key.text ++ "]"

/-- The markup of the steps behind the first one. -/
def stepsText : List Expression → String
  | [] => ""
  | step :: steps => (if step.isSubscript then "" else ".") ++ step.text ++ stepsText steps

end

/-! ## Outputs -/

/-- The use of a filter. -/
structure FilterCall where
  name : String
  arguments : List Expression
  /-- Arguments with names, in the order they are written. -/
  named : List (String × Expression)

/-- An expression and the filters it is sent through. -/
structure Pipeline where
  source : Expression
  filters : List FilterCall

/-! ## Conditions -/

/-- The comparisons. -/
inductive Operator where
  | equal
  | notEqual
  | less
  | greater
  | lessOrEqual
  | greaterOrEqual
  | contains
  deriving DecidableEq, Repr

/-- The comparison that a symbol stands for. -/
def Operator.ofSymbol? (symbol : String) : Option Operator :=
  [("==", Operator.equal), ("!=", .notEqual), ("<>", .notEqual), ("<", .less), (">", .greater),
    ("<=", .lessOrEqual), (">=", .greaterOrEqual), ("contains", .contains)].lookup symbol

/-- How two conditions are linked. -/
inductive Connective where
  | and
  | or
  deriving DecidableEq, Repr

/-- What a simple condition says: that a value is truthy, or how two values compare. -/
structure Comparison where
  left : Expression
  right : Option (Operator × Expression)

/-- A condition: simple ones, grouped to the right. -/
inductive Condition where
  | simple (test : Comparison)
  | linked (test : Comparison) (connective : Connective) (rest : Condition)

/-- The comparison that a condition starts with. -/
def Condition.test : Condition → Comparison
  | .simple test => test
  | .linked test _ _ => test

end Stencil.Markup
