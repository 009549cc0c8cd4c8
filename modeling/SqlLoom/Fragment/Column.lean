import SqlLoom.Dialect.Identifier
import SqlLoom.Fragment
import SqlLoom.Value.Shown

/-!
# `SqlLoom.Fragment.Column`: columns and bound values

The two positions that every operator has: a column (`columnFragment`), which is a raw expression
or a name to be quoted, and a value (`boundFragment`), which is a raw expression or a parameter.
-/

set_option autoImplicit false

namespace SqlLoom

/-- A column. A name with a parenthesis is an expression and stands as it is. -/
def columnFragment (d : Dialect) (v : Value) : Fragment :=
  match v with
  | .expr e => .ofExpression e
  | v => .ofText (d.quoteColumn v.shown)

/-- A value: an expression stands as it is, anything else is bound. -/
def boundFragment (v : Value) : Fragment :=
  match v with
  | .expr e => .ofExpression e
  | v => .bound v

/-- A value that may be absent. -/
def boundOrNull (v : Value) : Fragment :=
  match v with
  | .null => .ofText "NULL"
  | v => boundFragment v

end SqlLoom
