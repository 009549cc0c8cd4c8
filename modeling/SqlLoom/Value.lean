import SqlLoom.Text.Numeral

/-!
# `SqlLoom.Value`: what a statement is described with

A statement description is built from values of one dynamic type, `Value`: scalars, collections
and the typed parts of a description. A column position may hold a name or a raw expression, a
value position a scalar, an expression or a sub-query, and an operand of a condition anything; so
the parts of a description (`Query`, `SelectItem`, `Join`, …) and `Value` are one mutual family.

* `Operator` is what a condition node does; `Operator.keyword` is its SQL spelling.
* `Query` describes one SELECT; every clause is optional.
* `Value.kindName`, `Value.isTruthy`, `Value.isCollection` and `Value.text?` are the four
  questions that the compiler asks of a value without looking at its contents.

A floating-point number is kept as its canonical numeral: nothing here computes with one.
-/

set_option autoImplicit false

namespace SqlLoom

/-! ### Enumerations -/

/-- The type under which a parameter is bound. -/
inductive BindType where
  | str | int | bool | null | lob
  deriving DecidableEq, Repr, Inhabited

/-- The name of a bind type. -/
def BindType.name : BindType → String
  | .str => "str"
  | .int => "int"
  | .bool => "bool"
  | .null => "null"
  | .lob => "lob"

/-- The bind types. -/
def BindType.all : List BindType := [.str, .int, .bool, .null, .lob]

/-- The bind type of a name. -/
def BindType.ofName? (name : String) : Option BindType := all.find? (·.name == name)

/-- The direction of one ordering key. -/
inductive Direction where
  | asc | desc
  deriving DecidableEq, Repr, Inhabited

/-- The keyword of a direction. -/
def Direction.keyword : Direction → String
  | .asc => "ASC"
  | .desc => "DESC"

/-- The direction of a keyword in capitals. -/
def Direction.ofKeyword? : String → Option Direction
  | "ASC" => some .asc
  | "DESC" => some .desc
  | _ => none

/-- The isolation level of a transaction. -/
inductive Isolation where
  | readUncommitted | readCommitted | repeatableRead | serializable
  deriving DecidableEq, Repr, Inhabited

/-- The SQL words of an isolation level. -/
def Isolation.keyword : Isolation → String
  | .readUncommitted => "READ UNCOMMITTED"
  | .readCommitted => "READ COMMITTED"
  | .repeatableRead => "REPEATABLE READ"
  | .serializable => "SERIALIZABLE"

/-- The isolation levels, from the weakest. -/
def Isolation.all : List Isolation :=
  [.readUncommitted, .readCommitted, .repeatableRead, .serializable]

/-- The abstract type of a column, independent of any database. -/
inductive ColumnType where
  | pk | upk | bigpk | ubigpk | char | string | text | smallint | integer | bigint
  | float | double | decimal | money | datetime | timestamp | time | date | binary | boolean
  deriving DecidableEq, Repr, Inhabited

/-- The name of an abstract column type. -/
def ColumnType.name : ColumnType → String
  | .pk => "pk"
  | .upk => "upk"
  | .bigpk => "bigpk"
  | .ubigpk => "ubigpk"
  | .char => "char"
  | .string => "string"
  | .text => "text"
  | .smallint => "smallint"
  | .integer => "integer"
  | .bigint => "bigint"
  | .float => "float"
  | .double => "double"
  | .decimal => "decimal"
  | .money => "money"
  | .datetime => "datetime"
  | .timestamp => "timestamp"
  | .time => "time"
  | .date => "date"
  | .binary => "binary"
  | .boolean => "boolean"

/-- The abstract column types. -/
def ColumnType.all : List ColumnType :=
  [.pk, .upk, .bigpk, .ubigpk, .char, .string, .text, .smallint, .integer, .bigint,
   .float, .double, .decimal, .money, .datetime, .timestamp, .time, .date, .binary, .boolean]

/-- The abstract column type of a name. -/
def ColumnType.ofName? (name : String) : Option ColumnType := all.find? (·.name == name)

/-! ### Operators -/

/-- What a condition node does with its operands. -/
inductive Operator where
  /-- The negation of one condition. -/
  | not
  /-- All of the operands that are not empty. -/
  | and
  /-- At least one of the operands that are not empty. -/
  | or
  /-- A column between two bounds. -/
  | between (negated : Bool)
  /-- One or several columns among values, rows or the rows of a sub-query. -/
  | membership (negated : Bool)
  /-- A column against one or several patterns; `any` joins several with OR, and `caseless`
  ignores case. -/
  | like (any negated caseless : Bool)
  /-- A sub-query with at least one row. -/
  | existence (negated : Bool)
  /-- Any other operator, between a column and a value. -/
  | compare (symbol : String)
  deriving DecidableEq, Repr, Inhabited

/-- The words of a pattern operator without the leading OR. -/
def likeWords (negated caseless : Bool) : String :=
  (if negated then "NOT " else "") ++ (if caseless then "ILIKE" else "LIKE")

/-- The SQL words of an operator. -/
def Operator.keyword : Operator → String
  | .not => "NOT"
  | .and => "AND"
  | .or => "OR"
  | .between negated => if negated then "NOT BETWEEN" else "BETWEEN"
  | .membership negated => if negated then "NOT IN" else "IN"
  | .like any negated caseless => (if any then "OR " else "") ++ likeWords negated caseless
  | .existence negated => if negated then "NOT EXISTS" else "EXISTS"
  | .compare symbol => symbol

/-- The operators with a meaning of their own, all but the plain comparisons. -/
def Operator.special : List Operator :=
  [.not, .and, .or, .between false, .between true, .membership false, .membership true,
   .like false false false, .like false true false, .like true false false, .like true true false,
   .like false false true, .like false true true, .like true false true, .like true true true,
   .existence false, .existence true]

/-- The operator that words in capitals name. Words with no meaning of their own are a plain
comparison. -/
def Operator.ofKeyword (words : String) : Operator :=
  (special.find? (·.keyword == words)).getD (.compare words)

/-- The operands of a logical operator are conditions themselves. -/
def Operator.isLogical : Operator → Bool
  | .not | .and | .or => true
  | _ => false

/-! ### Values and the parts of a description -/

mutual

/-- Anything that may stand in a statement description. -/
inductive Value where
  | null
  | bool (b : Bool)
  | int (n : Int)
  /-- A floating-point number, as its canonical numeral. -/
  | float (numeral : Text.Numeral)
  | text (s : String)
  | bytes (octets : List UInt8)
  | list (items : List Value)
  | tuple (items : List Value)
  /-- Items that can be gone through but are neither a list nor a tuple. -/
  | stream (items : List Value)
  | map (entries : List (String × Value))
  /-- A value bound under an explicit type. -/
  | typed (value : Value) (type : BindType)
  /-- A parameter that the database fills in. `size` is its greatest length or -1, `column` the
  column that it returns, and `value` what was returned. -/
  | out (type : BindType) (size : Int) (column : Option String) (value : Value)
  | expr (e : Expression)
  /-- Columns with their values, combined by AND. -/
  | hash (columns : List (String × Value))
  /-- An operator with its operands. -/
  | cond (op : Operator) (operands : List Value)
  | query (q : Query)
  | item (i : SelectItem)
  | ref (r : TableRef)
  | join (j : Join)
  | order (o : OrderKey)
  | branch (b : UnionBranch)
  | direction (d : Direction)
  | isolation (l : Isolation)
  | columnType (t : ColumnType)

/-- Raw SQL with the named parameters it refers to. -/
structure Expression where
  text : String
  params : List (String × Value)

/-- One item of a select list. -/
structure SelectItem where
  expr : Value
  alias? : Option String

/-- One source of rows. -/
structure TableRef where
  source : Value
  alias? : Option String

/-- One joined source. `kind` is the join keyword, and `on` the condition or null. -/
structure Join where
  kind : String
  table : TableRef
  on : Value

/-- One ordering key. -/
structure OrderKey where
  expr : Value
  direction : Direction

/-- One query united with another: a `Query` or the text of one. -/
structure UnionBranch where
  query : Value
  all : Bool

/-- A SELECT statement. `filter` and `groupFilter` hold a condition or null; `distinct`, `option`,
`limit` and `offset` hold what the caller gave, which the compiler reads leniently. -/
structure Query where
  items : List SelectItem
  distinct : Value
  option : Value
  sources : List TableRef
  joins : List Join
  filter : Value
  grouping : List Value
  groupFilter : Value
  ordering : List OrderKey
  limit : Value
  offset : Value
  branches : List UnionBranch
  params : List (String × Value)

end

instance : Inhabited Value := ⟨.null⟩

/-- The query with no clause at all. -/
def Query.empty : Query :=
  ⟨[], .bool false, .null, [], [], .null, [], .null, [], .null, .null, [], []⟩

instance : Inhabited Query := ⟨.empty⟩

/-! ### Questions about a value -/

/-- The name of the node class that an operator belongs to. -/
def Operator.className : Operator → String
  | .not => "Not"
  | .and => "And"
  | .or => "Or"
  | .between _ => "Between"
  | .membership _ => "In"
  | .like .. => "Like"
  | .existence _ => "Exists"
  | .compare _ => "Compare"

/-- The name by which messages call a kind of value. -/
def Value.kindName : Value → String
  | .null => "NoneType"
  | .bool _ => "bool"
  | .int _ => "int"
  | .float _ => "float"
  | .text _ => "str"
  | .bytes _ => "bytes"
  | .list _ => "list"
  | .tuple _ => "tuple"
  | .stream _ => "list_iterator"
  | .map _ => "dict"
  | .typed .. => "TypedValue"
  | .out .. => "OutParam"
  | .expr _ => "Expression"
  | .hash _ => "Hash"
  | .cond op _ => op.className
  | .query _ => "Query"
  | .item _ => "SelectItem"
  | .ref _ => "TableRef"
  | .join _ => "JoinClause"
  | .order _ => "OrderByItem"
  | .branch _ => "UnionClause"
  | .direction _ => "SortDirection"
  | .isolation _ => "IsolationLevel"
  | .columnType _ => "ColumnType"

/-- The value is nothing. -/
def Value.isNull : Value → Bool
  | .null => true
  | _ => false

/-- The text of a value that is text: a string or a named constant. -/
def Value.text? : Value → Option String
  | .text s => some s
  | .direction d => some d.keyword
  | .isolation l => some l.keyword
  | .columnType t => some t.name
  | _ => none

/-- Whether a value counts as true: nothing, zero and whatever is empty do not. -/
def Value.isTruthy : Value → Bool
  | .null => false
  | .bool b => b
  | .int n => n != 0
  | .float numeral => numeral.text != "0.0" && numeral.text != "-0.0"
  | .text s => s != ""
  | .bytes octets => !octets.isEmpty
  | .list items | .tuple items => !items.isEmpty
  | .map entries => !entries.isEmpty
  | _ => true

/-- Whether a value is a collection of values rather than a single one. Text, octets, mappings
and the parts of a description are single values. -/
def Value.isCollection : Value → Bool
  | .list _ | .tuple _ | .stream _ => true
  | _ => false

/-- The members of a collection; a single value is its own only member. -/
def Value.members : Value → List Value
  | .list items | .tuple items | .stream items => items
  | v => [v]

end SqlLoom
