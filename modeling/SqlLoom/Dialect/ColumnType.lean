import SqlLoom.Dialect
import SqlLoom.Error
import SqlLoom.Text.Blank
import SqlLoom.Text.Search
import SqlLoom.Text.Word
import SqlLoom.Value.Shown

/-!
# `SqlLoom.Dialect.ColumnType`: physical column types

`physicalType` maps an abstract column type to the physical type of a dialect. `resolveType` does
so for text: an abstract type by itself, with a size in parentheses, which takes the place of the
size of the physical type, or followed by white space and a suffix, which is kept. Any other text
is a physical type already. A backslash in a size is an escape where the size replaces another; one
that means nothing is an error, a `badValue` whatever is wrong with it.
-/

set_option autoImplicit false

namespace SqlLoom.Dialect

/-- The physical types of the base dialect. -/
def ansiType : ColumnType → String
  | .pk | .upk => "INTEGER NOT NULL PRIMARY KEY"
  | .bigpk | .ubigpk => "BIGINT NOT NULL PRIMARY KEY"
  | .char => "CHAR(1)"
  | .string => "VARCHAR(255)"
  | .text => "TEXT"
  | .smallint => "SMALLINT"
  | .integer => "INTEGER"
  | .bigint => "BIGINT"
  | .float => "FLOAT"
  | .double => "DOUBLE PRECISION"
  | .decimal => "DECIMAL(10,0)"
  | .money => "DECIMAL(19,4)"
  | .datetime | .timestamp => "TIMESTAMP"
  | .time => "TIME"
  | .date => "DATE"
  | .binary => "BLOB"
  | .boolean => "BOOLEAN"

/-- The physical types of MySQL. -/
def mysqlType : ColumnType → String
  | .pk => "int(11) NOT NULL AUTO_INCREMENT PRIMARY KEY"
  | .upk => "int(10) UNSIGNED NOT NULL AUTO_INCREMENT PRIMARY KEY"
  | .bigpk => "bigint(20) NOT NULL AUTO_INCREMENT PRIMARY KEY"
  | .ubigpk => "bigint(20) UNSIGNED NOT NULL AUTO_INCREMENT PRIMARY KEY"
  | .char => "char(1)"
  | .string => "varchar(255)"
  | .text => "text"
  | .smallint => "smallint(6)"
  | .integer => "int(11)"
  | .bigint => "bigint(20)"
  | .float => "float"
  | .double => "double"
  | .decimal => "decimal(10,0)"
  | .money => "decimal(19,4)"
  | .datetime => "datetime"
  | .timestamp => "timestamp"
  | .time => "time"
  | .date => "date"
  | .binary => "blob"
  | .boolean => "tinyint(1)"

/-- The physical types of PostgreSQL. -/
def postgresType : ColumnType → String
  | .pk | .upk => "serial NOT NULL PRIMARY KEY"
  | .bigpk | .ubigpk => "bigserial NOT NULL PRIMARY KEY"
  | .char => "char(1)"
  | .string => "varchar(255)"
  | .text => "text"
  | .smallint => "smallint"
  | .integer => "integer"
  | .bigint => "bigint"
  | .float | .double => "double precision"
  | .decimal => "numeric(10,0)"
  | .money => "numeric(19,4)"
  | .datetime | .timestamp => "timestamp(0)"
  | .time => "time(0)"
  | .date => "date"
  | .binary => "bytea"
  | .boolean => "boolean"

/-- The physical types of Oracle. -/
def oracleType : ColumnType → String
  | .pk => "NUMBER(10) NOT NULL PRIMARY KEY"
  | .upk => "NUMBER(10) UNSIGNED NOT NULL PRIMARY KEY"
  | .bigpk => "NUMBER(20) NOT NULL PRIMARY KEY"
  | .ubigpk => "NUMBER(20) UNSIGNED NOT NULL PRIMARY KEY"
  | .char => "CHAR(1)"
  | .string => "VARCHAR2(255)"
  | .text => "CLOB"
  | .smallint => "NUMBER(5)"
  | .integer => "NUMBER(10)"
  | .bigint => "NUMBER(20)"
  | .float | .double | .decimal => "NUMBER"
  | .money => "NUMBER(19,4)"
  | .datetime | .timestamp | .time => "TIMESTAMP"
  | .date => "DATE"
  | .binary => "BLOB"
  | .boolean => "NUMBER(1)"

/-- The physical type of an abstract type. -/
def physicalType (d : Dialect) (t : ColumnType) : String :=
  match d.backend with
  | .ansi => ansiType t
  | .mysql => mysqlType t
  | .postgres => postgresType t
  | .oracle => oracleType t

/-- The physical type of the abstract type of a name, if there is one. -/
def physicalOf? (d : Dialect) (name : List Char) : Option (List Char) :=
  (ColumnType.ofName? (String.ofList name)).map fun t => (d.physicalType t).toList

/-! ### Sizes and suffixes -/

/-- The parts of `name(size)rest` on one line: the name is a run of word characters, the size has
at least one character and ends at the first parenthesis after that, and a last line break is
dropped. -/
def splitSized (s : List Char) : Option (List Char × List Char × List Char) :=
  let name := s.takeWhile Text.isWord
  match s.dropWhile Text.isWord with
  | '(' :: first :: inside =>
    let size := first :: inside.takeWhile (· ≠ ')')
    match inside.dropWhile (· ≠ ')') with
    | ')' :: rest =>
      let rest := if rest.getLast? = some '\n' then rest.dropLast else rest
      if !name.isEmpty && !size.contains '\n' && !rest.contains '\n' then some (name, size, rest)
      else none
    | _ => none
  | _ => none

/-- The parts of `name` and of what follows it from a white space on. -/
def splitSuffixed (s : List Char) : Option (List Char × List Char) :=
  let name := s.takeWhile Text.isWord
  match s.dropWhile Text.isWord with
  | c :: rest => if !name.isEmpty && Text.isBlank c then some (name, c :: rest) else none
  | [] => none

/-- What one character after a backslash stands for in a size. -/
def escapedInSize : Char → Option Char
  | 'a' => some '\x07'
  | 'b' => some '\x08'
  | 'f' => some '\x0c'
  | 'n' => some '\n'
  | 'r' => some '\r'
  | 't' => some '\t'
  | 'v' => some '\x0b'
  | '\\' => some '\\'
  | _ => none

/-- A digit of base eight. -/
def isOctal (c : Char) : Bool :=
  '0' ≤ c && c ≤ '7'

/-- The character whose code is written in base eight. -/
def ofOctal (digits : List Char) : Char :=
  Char.ofNat (digits.foldl (fun n c => 8 * n + (c.toNat - '0'.toNat)) 0)

/-- What a backslash stands for in a size, from the text after it: a code in base eight, which is a
zero and at most two digits more or else three digits up to 377; the size that is replaced, named
`g<0>` with its parentheses; a letter; or itself. With it comes how many characters after it that
takes. Any other letter or digit means nothing. -/
def sizeEscape? (replaced : List Char) : List Char → Option (List Char × Nat)
  | '0' :: rest =>
    let digits := (rest.take 2).takeWhile isOctal
    some ([ofOctal digits], digits.length + 1)
  | 'g' :: '<' :: rest =>
    let zeros := rest.takeWhile (· = '0')
    if !zeros.isEmpty && rest[zeros.length]? = some '>' then some (replaced, zeros.length + 3)
    else none
  | c :: rest =>
    let digits := c :: rest.take 2
    if digits.length = 3 && digits.all isOctal && c ≤ '3' then some ([ofOctal digits], 3)
    else match escapedInSize c with
    | some e => some ([e], 1)
    | none => if c.isAlphanum then none else some (['\\'], 0)
  | [] => some (['\\'], 0)

/-- A size with its backslash escapes resolved, after the given number of characters that an escape
has taken. -/
def resolveEscapes (replaced : List Char) : Nat → List Char → Except Error (List Char)
  | taken + 1, _ :: rest => resolveEscapes replaced taken rest
  | 0, '\\' :: rest =>
    match sizeEscape? replaced rest with
    | some (text, taken) => do return text ++ (← resolveEscapes replaced taken rest)
    | none => .error .badValue
  | 0, c :: rest => do return c :: (← resolveEscapes replaced 0 rest)
  | _, [] => .ok []

/-- A physical type with the given size instead of its own, where escapes in it are resolved, or
after it if it has none. -/
def withSize (physical size : List Char) : Except Error (List Char) :=
  match Text.splitAtFirst '(' physical with
  | none => .ok (physical ++ '(' :: size ++ [')'])
  | some (before, rest) =>
    match Text.splitAtLast ')' rest with
    | some (inside, after) => do
      let size ← resolveEscapes ('(' :: inside ++ [')']) 0 size
      return before ++ '(' :: size ++ ')' :: after
    | none => .ok physical

/-- The physical type that a text names. -/
def resolveTypeChars (d : Dialect) (s : List Char) : Except Error (List Char) :=
  match d.physicalOf? s with
  | some physical => .ok physical
  | none =>
    let sized := do
      let (name, size, rest) ← splitSized s
      return (← d.physicalOf? name, size, rest)
    match sized with
    | some (physical, size, rest) => do return (← withSize physical size) ++ rest
    | none =>
      let suffixed := do
        let (name, rest) ← splitSuffixed s
        return (← d.physicalOf? name) ++ rest
      .ok (suffixed.getD s)

/-- The physical type that a value names: a constant, or the text of any other value. -/
def resolveType (d : Dialect) (v : Value) : Except Error String :=
  match v with
  | .columnType t => .ok (d.physicalType t)
  | v => do return String.ofList (← d.resolveTypeChars v.shown.toList)

end SqlLoom.Dialect
