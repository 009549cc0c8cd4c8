import SqlLoom.Error
import SqlLoom.Text.Blank
import SqlLoom.Text.Case
import SqlLoom.Value

/-!
# `SqlLoom.Condition`: conditions and their shorthand

A condition is nothing (null), raw SQL (text or an `Expression`), a hash of columns, or an operator
node. `Value.toCondition` reads the compact spelling: a mapping stands for a hash, and a list or
tuple that starts with an operator word for a node. The operands of NOT, AND and OR are conditions
themselves and are read in turn; the operands of the other operators are kept as they are.

`Operator.inClass?` gives the operators that a node class admits, for nodes built by class.
-/

set_option autoImplicit false

namespace SqlLoom

/-- The operator words of a node class and a spelling; a comparison admits any spelling. -/
def Operator.inClass? (className words : String) : Option Operator :=
  if className = "Compare" then some (.compare words)
  else special.find? fun op => op.className == className && op.keyword == words

/-- The operator that a node class stands for when none is named. -/
def Operator.ofClass? (className : String) : Option Operator :=
  if className = "Compare" then some (.compare "=")
  else special.find? (·.className == className)

/-- An operator word in any case and any spacing. -/
def Operator.ofWords (head : String) : Operator :=
  .ofKeyword (" ".intercalate ((Text.words (Text.upper head.toList)).map String.ofList))

/-- The operator at the head of a shorthand list. -/
def Value.headOperator (head : Value) : Except Error Operator :=
  match head.text? with
  | some s => .ok (.ofWords s)
  | none => .error (.build (.operatorNotText head.kindName))

/-- The value is a condition node or a raw expression. -/
def Value.isNode : Value → Bool
  | .expr _ | .hash _ | .cond .. => true
  | _ => false

mutual

/-- The condition that a value spells; null stands for no condition. -/
def Value.toCondition : Value → Except Error Value
  | .null => .ok .null
  | .map entries => .ok (if entries.isEmpty then .null else .hash entries)
  | .list items => nodeOfShorthand items
  | .tuple items => nodeOfShorthand items
  | v =>
    if v.isNode || v.text?.isSome then .ok v else .error (.build (.conditionShape v.kindName))

/-- The node that a shorthand list spells. -/
def nodeOfShorthand : List Value → Except Error Value
  | [] => .ok .null
  | head :: operands => do
    let op ← head.headOperator
    if op.isLogical then return .cond op (← logicalOperands operands) else return .cond op operands

/-- The operands of a logical operator. An empty shorthand becomes the empty text, so that the
number of operands stays; what is no shorthand is kept. -/
def logicalOperands : List Value → Except Error (List Value)
  | [] => .ok []
  | .map entries :: rest => do
    return (if entries.isEmpty then .text "" else .hash entries) :: (← logicalOperands rest)
  | .list items :: rest => do
    let node ← nodeOfShorthand items
    return (match node with | .null => .text "" | v => v) :: (← logicalOperands rest)
  | .tuple items :: rest => do
    let node ← nodeOfShorthand items
    return (match node with | .null => .text "" | v => v) :: (← logicalOperands rest)
  | v :: rest => do return v :: (← logicalOperands rest)

end

/-- Two conditions combined by an operator; nothing adds nothing. -/
def combineConditions (op : Operator) (current added : Value) : Value :=
  match current, added with
  | .null, _ => added
  | _, .null => current
  | _, _ => .cond op [current, added]

end SqlLoom
