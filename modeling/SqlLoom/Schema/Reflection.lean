import SqlLoom.Schema

/-!
# `SqlLoom.Schema.Reflection`: metadata as a driver reports it

A driver describes a column by a type of its own, a server default in SQL text, and flags
(`DriverColumn`). `DriverColumn.toColumn` turns that into a `Column`:

* The abstract type is that of the first class that the driver's type belongs to
  (`DriverType.abstract`); a type of no class counts as binary if its name says so and as text
  otherwise.
* A server default that is a string literal becomes its text, one that is the current time stays an
  expression, and one that is a number becomes a number in a column of numbers
  (`DriverColumn.defaultValue`).

`readSchema` and `readTable` also tell what they ask of the database.
-/

set_option autoImplicit false

namespace SqlLoom

/-! ### Types -/

/-- A class of driver types that tells the abstract type. -/
inductive TypeClass where
  | boolean | bigInteger | smallInteger | integer | float | numeric | timestamp | dateTime | date
  | time | largeBinary | text | char | string
  deriving DecidableEq, Repr

namespace TypeClass

/-- The classes in the order in which a type is tried: one that may be part of another comes
first. -/
def ordered : List TypeClass :=
  [.boolean, .bigInteger, .smallInteger, .integer, .float, .numeric, .timestamp, .dateTime, .date,
   .time, .largeBinary, .text, .char, .string]

/-- The abstract type of a class. -/
def abstract : TypeClass → ColumnType
  | .boolean => .boolean
  | .bigInteger => .bigint
  | .smallInteger => .smallint
  | .integer => .integer
  | .float => .double
  | .numeric => .decimal
  | .timestamp => .timestamp
  | .dateTime => .datetime
  | .date => .date
  | .time => .time
  | .largeBinary => .binary
  | .text => .text
  | .char => .char
  | .string => .string

end TypeClass

/-- A type as a driver describes it. To which classes it belongs is the driver's own business;
`text?` is its SQL text, if it has one. -/
structure DriverType where
  isOf : TypeClass → Bool
  name : String
  length? : Option Int
  precision? : Option Int
  scale? : Option Int
  text? : Option String

namespace DriverType

/-- The name of a type of no class tells of octets. -/
def soundsBinary (name : String) : Bool :=
  ["BINARY", "BLOB", "BYTEA"].any fun word =>
    Text.occurs word.toList (Text.upper name.toList)

/-- The abstract type of a driver type. Text of a fixed length other than one is plain text. -/
def abstract (t : DriverType) : ColumnType :=
  match TypeClass.ordered.find? t.isOf with
  | some .char => if t.length?.getD 1 = 1 then .char else .string
  | some c => c.abstract
  | none => if soundsBinary t.name then .binary else .string

/-- The physical type: the SQL text of the type, or its name. -/
def physical (t : DriverType) : String := t.text?.getD t.name

end DriverType

/-! ### Columns and tables -/

/-- What fills a column on the side of the driver. -/
structure DriverDefault where
  name? : Option String
  isSequence : Bool

/-- A column as a driver describes it. -/
structure DriverColumn where
  name : String
  type : DriverType
  nullable : Bool
  primaryKey : Bool
  /-- The text of the default that the server fills in. -/
  serverDefault? : Option String
  default? : Option DriverDefault

/-- A table as a driver describes it. -/
structure DriverTable where
  name : String
  columns : List DriverColumn
  /-- The place of the column that the database numbers. -/
  numbered? : Option Nat

/-- The spellings of the current time, in capitals. -/
def currentTimeSpellings : List String := ["CURRENT_TIMESTAMP", "CURRENT_TIMESTAMP()", "NOW()"]

/-- The inside of a text between two quotes. -/
def betweenQuotes? (s : List Char) : Option (List Char) :=
  match s with
  | '\'' :: rest => if rest.getLast? = some '\'' then some rest.dropLast else none
  | _ => none

namespace DriverColumn

/-- What the text of a server default stands for in a column of the given type. -/
def readDefault (type : ColumnType) (s : List Char) : Value :=
  let bare := Text.trim s
  let loud := String.ofList (Text.upper bare)
  if currentTimeSpellings.contains loud then .expr ⟨"CURRENT_TIMESTAMP", []⟩
  else match betweenQuotes? bare with
    | some inside => .text (String.ofList (Text.replace ['\'', '\''] ['\''] inside))
    | none =>
      if loud = "NULL" then .null
      else if [.smallint, .integer, .bigint].contains type then
        match Text.readInt? bare with
        | some n => .int n
        | none => .text (String.ofList bare)
      else .text (String.ofList bare)

/-- The default of a column. The primary key has none. -/
def defaultValue (c : DriverColumn) : Value :=
  match c.serverDefault?, c.primaryKey with
  | some text, false => readDefault c.type.abstract text.toList
  | _, _ => .null

/-- The sequence that fills a column. -/
def sequence? (c : DriverColumn) : Option String := do
  let d ← c.default?
  let name ← d.name?
  if d.isSequence && name != "" then some name else none

/-- A column from what the driver says; `numbered` tells whether the database numbers it. -/
def toColumn (c : DriverColumn) (numbered : Bool) : Column where
  name := c.name
  type := c.type.abstract
  dbType? := some c.type.physical
  nullable := c.nullable
  primaryKey := c.primaryKey
  autoIncrement := numbered
  size? := c.type.length?
  precision? := c.type.precision?
  scale? := c.type.scale?
  default := c.defaultValue

end DriverColumn

/-- The columns of a table from the one at place `i` on. -/
def toColumns (numbered? : Option Nat) : Nat → List DriverColumn → List Column
  | _, [] => []
  | i, c :: rest => c.toColumn (numbered? == some i) :: toColumns numbered? (i + 1) rest

/-- A table from what the driver says. Of several sequences the last one counts. -/
def DriverTable.toTable (t : DriverTable) : Table where
  name := t.name
  columns := toColumns t.numbered? 0 t.columns
  sequenceName? := (t.columns.filterMap DriverColumn.sequence?).getLast?

/-- A schema from what the driver says. -/
def Schema.ofDriver (tables : List DriverTable) : Schema := ⟨tables.map DriverTable.toTable⟩

/-! ### Reading from a database -/

/-- What is asked of a database. -/
inductive ReflectionStep where
  | connect
  | disconnect
  | hasTable (name : String) (schema? : Option String)
  /-- Describes the tables of the given names, or all tables. -/
  | describe (names? : Option (List String)) (schema? : Option String)

/-- A database that metadata is read from. -/
structure Catalogue where
  /-- A connection is open already. -/
  connected : Bool
  /-- The tables, as a driver describes them. -/
  tables : List DriverTable
  /-- The names that a table is said to exist under. -/
  existing : List String

namespace Catalogue

/-- Steps on a connection that is opened for them unless there is one. -/
def within (c : Catalogue) (steps : List ReflectionStep) : List ReflectionStep :=
  if c.connected then steps else [.connect] ++ steps ++ [.disconnect]

/-- The metadata of the tables of the given names, or of all. -/
def readSchema (c : Catalogue) (names? : Option (List String)) (schema? : Option String) :
    Schema × List ReflectionStep :=
  let described := c.tables.filter fun t => (names?.map (·.contains t.name)).getD true
  (.ofDriver described, c.within [.describe names? schema?])

/-- The metadata of one table, if it exists. -/
def readTable (c : Catalogue) (name : String) (schema? : Option String) :
    Option Table × List ReflectionStep :=
  let asked := c.within [.hasTable name schema?]
  if c.existing.contains name then
    let (schema, steps) := c.readSchema (some [name]) schema?
    (schema.table? name, asked ++ steps)
  else (none, asked)

end Catalogue

end SqlLoom
