import SqlLoom.Entries
import SqlLoom.Error
import SqlLoom.Text.Blank
import SqlLoom.Text.Case
import SqlLoom.Text.Integer
import SqlLoom.Text.Search
import SqlLoom.Value.Lenient
import SqlLoom.Value.Shown

/-!
# `SqlLoom.Schema`: what is known of tables and columns

A `Schema` is a snapshot of table metadata. The compiler looks tables up in it to cast values by
column type before they are bound (`Column.cast`) and to find primary keys. Nothing depends on a
table being known: a value for an unknown column is bound as it is.
-/

set_option autoImplicit false

namespace SqlLoom

namespace ColumnType

/-- Columns of text. -/
def isTextual : ColumnType → Bool
  | .char | .string | .text => true
  | _ => false

/-- Columns of whole numbers. -/
def isInteger : ColumnType → Bool
  | .pk | .upk | .bigpk | .ubigpk | .smallint | .integer | .bigint => true
  | _ => false

/-- Columns of numbers with places. -/
def isFractional : ColumnType → Bool
  | .float | .double | .decimal | .money => true
  | _ => false

end ColumnType

/-- One column of a table. -/
structure Column where
  name : String
  type : ColumnType := .string
  dbType? : Option String := none
  nullable : Bool := true
  primaryKey : Bool := false
  autoIncrement : Bool := false
  size? : Option Int := none
  precision? : Option Int := none
  scale? : Option Int := none
  default : Value := .null

/-- One table. -/
structure Table where
  name : String
  columns : List Column := []
  sequenceName? : Option String := none

/-- The tables that are known. -/
structure Schema where
  tables : List Table := []

/-! ### Casting values -/

/-- The words that mean false in a column of truth values. -/
def falseWords : List String := ["", "0", "false", "f", "no", "n"]

/-- A value that no cast touches: nothing, a collection, a mapping or a part of a description. -/
def Value.isUncast : Value → Bool
  | .null | .list _ | .tuple _ | .map _ | .expr _ | .hash _ | .cond .. | .query _ | .item _ | .ref _
  | .join _ | .order _ | .branch _ => true
  | _ => false

/-- A value for a column of text: numbers and truth values become their text. -/
def castText (v : Value) : Value :=
  match v with
  | .bytes _ => v
  | v => .text v.shown

/-- A value for a column of whole numbers. Text that is no number stays text. -/
def castInteger (v : Value) : Value :=
  match v with
  | .bool b => .int (if b then 1 else 0)
  | v =>
    match v.text? with
    | some s => match Text.readInt? s.toList with
      | some n => .int n
      | none => v
    | none => v

/-- A value for a column of numbers with places. A decimal comma becomes a point. -/
def castFractional (v : Value) : Value :=
  match v with
  | .float numeral => .text numeral.text
  | v =>
    match v.text? with
    | some s => .text (String.ofList (Text.replaceChar ',' ['.'] s.toList))
    | none => v

/-- A value for a column of truth values. -/
def castBoolean (v : Value) : Value :=
  match v.text? with
  | some s => .bool (!falseWords.contains (String.ofList (Text.lower (Text.trim s.toList))))
  | none => .bool v.isTruthy

namespace Column

/-- Values of the column are bound as whole numbers. -/
def isInteger (c : Column) : Bool := c.type.isInteger

/-- The form in which a value is bound for the column. The empty text means nothing in a column
that is neither text nor binary. -/
def cast (c : Column) (v : Value) : Value :=
  if v.isUncast then v
  else if v.text? == some "" && !c.type.isTextual && c.type != .binary then .null
  else if c.type.isTextual then castText v
  else if c.type.isInteger then castInteger v
  else if c.type.isFractional then castFractional v
  else if c.type = .boolean then castBoolean v
  else v

end Column

namespace Table

/-- The names of the columns. -/
def columnNames (t : Table) : List String := t.columns.map (·.name)

/-- The names of the columns of the primary key. -/
def primaryKey (t : Table) : List String := (t.columns.filter (·.primaryKey)).map (·.name)

/-- The column of a name. -/
def column? (t : Table) (name : String) : Option Column := t.columns.find? (·.name == name)

end Table

namespace Schema

/-- The names of the tables. -/
def tableNames (s : Schema) : List String := s.tables.map (·.name)

/-- A name without the quote characters of any dialect. -/
def unquoted (name : List Char) : List Char := name.filter fun c => c ≠ '\x60' && c ≠ '"'

/-- The table of a name, whose quotes do not matter. A qualified name that is not known is looked
up by its last part. -/
def table? (s : Schema) (name : String) : Option Table :=
  let bare := unquoted name.toList
  let named (n : List Char) := s.tables.find? fun t => t.name.toList == n
  match named bare with
  | some t => some t
  | none => (Text.splitAtLast '.' bare).bind fun p => named p.2

/-- A column of a table, both by name. -/
def column? (s : Schema) (table column : String) : Option Column :=
  (s.table? table).bind (·.column? column)

end Schema

/-! ### Reading metadata -/

/-- A field that must be given. -/
def required {α : Type} (fields : Entries Value) (name : String) (read : Value → Option α) :
    Option α :=
  (fields.get? name).bind read

/-- A field that has a default. -/
def defaulted {α : Type} (fields : Entries Value) (name : String) (default : α)
    (read : Value → Option α) : Option α :=
  match fields.get? name with
  | some v => read v
  | none => some default

/-- The fields have no other names than these. -/
def onlyNames (names : List String) (fields : Entries Value) : Bool :=
  fields.all fun e => names.contains e.1

/-- A column type, given as a constant or by name. -/
def Value.asColumnType? (v : Value) : Option ColumnType := v.text?.bind ColumnType.ofName?

/-- The entries of a mapping. -/
def Value.asEntries? : Value → Option (Entries Value)
  | .map entries => some entries
  | _ => none

/-- The items of a collection. -/
def Value.asItems? : Value → Option (List Value)
  | .list items | .tuple items | .stream items => some items
  | _ => none

/-- A column from its fields. -/
def Column.ofFields? (fields : Entries Value) : Option Column := do
  guard (onlyNames ["name", "type", "db_type", "nullable", "primary_key", "auto_increment", "size",
    "precision", "scale", "default"] fields)
  return {
    name := ← required fields "name" Value.asText?
    type := ← defaulted fields "type" .string Value.asColumnType?
    dbType? := ← defaulted fields "db_type" none (Value.optional Value.asText?)
    nullable := ← defaulted fields "nullable" true Value.asBool?
    primaryKey := ← defaulted fields "primary_key" false Value.asBool?
    autoIncrement := ← defaulted fields "auto_increment" false Value.asBool?
    size? := ← defaulted fields "size" none (Value.optional Value.asInt?)
    precision? := ← defaulted fields "precision" none (Value.optional Value.asInt?)
    scale? := ← defaulted fields "scale" none (Value.optional Value.asInt?)
    default := (fields.get? "default").getD .null }

/-- A table from its fields. -/
def Table.ofFields? (fields : Entries Value) : Option Table := do
  guard (onlyNames ["name", "columns", "sequence_name"] fields)
  let name ← required fields "name" Value.asText?
  let columns ← defaulted fields "columns" [] Value.asItems?
  return {
    name
    columns := ← columns.mapM fun c => c.asEntries?.bind Column.ofFields?
    sequenceName? := ← defaulted fields "sequence_name" none (Value.optional Value.asText?) }

/-- A schema from its fields. -/
def Schema.ofFields? (fields : Entries Value) : Option Schema := do
  guard (onlyNames ["tables"] fields)
  let tables ← defaulted fields "tables" [] Value.asItems?
  return { tables := ← tables.mapM fun t => t.asEntries?.bind Table.ofFields? }

/-- What a reading gives, or the error that a part is malformed. -/
def orMalformed {α : Type} : Option α → Except Error α
  | some a => .ok a
  | none => .error .malformed

end SqlLoom
