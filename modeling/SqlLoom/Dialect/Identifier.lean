import SqlLoom.Dialect
import SqlLoom.Error
import SqlLoom.Text.Search
import SqlLoom.Text.Word

/-!
# `SqlLoom.Dialect.Identifier`: names and literals in quotes

Names of tables and columns are put in the quote character of the dialect, part by part where a
dot separates a qualifier. A name that has the quote character already is left as it is, and so is
one with an opening parenthesis or an unresolved token, which is an expression.

`quoteSql` resolves the tokens of a template: `{{table}}` and `[[column]]` stand for quoted names,
and a percent sign in a table token for the table prefix. `quoteText` writes a string literal.

All of these work on lists of characters (`quoteTableChars`, …); the functions on `String` wrap
them.
-/

set_option autoImplicit false

namespace SqlLoom.Dialect

/-! ### Names -/

/-- The characters of the dialect's quote. -/
def quoteChars (d : Dialect) : List Char := d.quote.toList

/-- The name between quotes. -/
def enclose (d : Dialect) (name : List Char) : List Char := d.quoteChars ++ name ++ d.quoteChars

/-- One part of a table name in quotes. -/
def quoteSimpleTableChars (d : Dialect) (name : List Char) : List Char :=
  if Text.occurs d.quoteChars name then name else d.enclose name

/-- One part of a column name in quotes; the star stays bare. -/
def quoteSimpleColumnChars (d : Dialect) (name : List Char) : List Char :=
  if Text.occurs d.quoteChars name || name == ['*'] then name else d.enclose name

/-- A table name with each dotted part in quotes. -/
def quoteTableChars (d : Dialect) (name : List Char) : List Char :=
  if name.contains '(' || Text.occurs ['{', '{'] name then name
  else if !name.contains '.' then d.quoteSimpleTableChars name
  else Text.join ['.'] ((Text.splitAt '.' name).map d.quoteSimpleTableChars)

/-- A column name in quotes, after the quoted table that it may be qualified with. A last part
with an unresolved table token is given back alone. -/
def quoteColumnChars (d : Dialect) (name : List Char) : List Char :=
  if name.contains '(' || Text.occurs ['[', '['] name then name
  else match Text.splitAtLast '.' name with
    | some (table, column) =>
      if Text.occurs ['{', '{'] column then column
      else d.quoteTableChars table ++ '.' :: d.quoteSimpleColumnChars column
    | none => if Text.occurs ['{', '{'] name then name else d.quoteSimpleColumnChars name

/-- One part of a table name in quotes. -/
def quoteSimpleTable (d : Dialect) (name : String) : String :=
  String.ofList (d.quoteSimpleTableChars name.toList)

/-- One part of a column name in quotes. -/
def quoteSimpleColumn (d : Dialect) (name : String) : String :=
  String.ofList (d.quoteSimpleColumnChars name.toList)

/-- A table name in quotes. -/
def quoteTable (d : Dialect) (name : String) : String :=
  String.ofList (d.quoteTableChars name.toList)

/-- A column name in quotes. -/
def quoteColumn (d : Dialect) (name : String) : String :=
  String.ofList (d.quoteColumnChars name.toList)

/-! ### Literals -/

/-- The inside of a string literal: quotes are doubled, and so are backslashes where they would
escape. -/
def literalBody (d : Dialect) (s : List Char) : List Char :=
  let plain := if d.backslashInLiterals then Text.replaceChar '\\' ['\\', '\\'] s else s
  Text.replaceChar '\'' ['\'', '\''] plain

/-- A text as a string literal. -/
def quoteTextChars (d : Dialect) (s : List Char) : List Char := '\'' :: d.literalBody s ++ ['\'']

/-- A text as a string literal. -/
def quoteText (d : Dialect) (s : String) : String := String.ofList (d.quoteTextChars s.toList)

/-- Text becomes a string literal; any other value stays. -/
def quoteValue (d : Dialect) (v : Value) : Value :=
  match v.text? with
  | some s => .text (d.quoteText s)
  | none => v

/-! ### Templates -/

/-- A token of a template. -/
inductive Token where
  | table (name : List Char)
  | column (name : List Char)

/-- A character that may stand in the name of a token. -/
def isTokenChar (c : Char) : Bool := Text.isWord c || c == '-' || c == '.' || c == ' '

/-- What follows a percent sign at the start, and that sign. -/
def splitPercent : List Char → List Char × List Char
  | '%' :: rest => (['%'], rest)
  | s => ([], s)

/-- The token at the start of a text, and the number of characters it takes after the first. -/
def tokenAt : List Char → Option (Token × Nat)
  | '{' :: '{' :: rest =>
    let (before, rest) := splitPercent rest
    let name := rest.takeWhile isTokenChar
    let (after, rest) := splitPercent (rest.dropWhile isTokenChar)
    match name, rest with
    | _ :: _, '}' :: '}' :: _ =>
      some (.table (before ++ name ++ after), before.length + name.length + after.length + 3)
    | _, _ => none
  | '[' :: '[' :: rest =>
    let name := rest.takeWhile isTokenChar
    match name, rest.dropWhile isTokenChar with
    | _ :: _, ']' :: ']' :: _ => some (.column name, name.length + 3)
    | _, _ => none
  | _ => none

/-- What a token stands for. -/
def resolveToken (d : Dialect) (tablePrefix : List Char) : Token → List Char
  | .table name => Text.replaceChar '%' tablePrefix (d.quoteTableChars name)
  | .column name => d.quoteColumnChars name

/-- `quoteSqlChars` on a text whose first `skip` characters belong to a token already resolved. -/
def quoteSqlFrom (d : Dialect) (tablePrefix : List Char) : Nat → List Char → List Char
  | _, [] => []
  | skip + 1, _ :: rest => quoteSqlFrom d tablePrefix skip rest
  | 0, c :: rest =>
    match tokenAt (c :: rest) with
    | some (token, size) => d.resolveToken tablePrefix token ++ quoteSqlFrom d tablePrefix size rest
    | none => c :: quoteSqlFrom d tablePrefix 0 rest

/-- A template with its tokens resolved from left to right. -/
def quoteSql (d : Dialect) (sql tablePrefix : String) : String :=
  String.ofList (quoteSqlFrom d tablePrefix.toList 0 sql.toList)

/-- A table token stands in a text, whose first `skip` characters belong to a token. -/
def hasTableTokenFrom : Nat → List Char → Bool
  | _, [] => false
  | skip + 1, _ :: rest => hasTableTokenFrom skip rest
  | 0, c :: rest =>
    match tokenAt (c :: rest) with
    | some (.table _, _) => true
    | some (.column _, size) => hasTableTokenFrom size rest
    | none => hasTableTokenFrom 0 rest

/-- A template with its tokens resolved, where the table prefix is any value. One that is no text
is an error in a table token and does not matter elsewhere. -/
def quoteSqlWith (d : Dialect) (sql : String) (tablePrefix : Value) : Except Error String :=
  match tablePrefix.text? with
  | some s => .ok (d.quoteSql sql s)
  | none => if hasTableTokenFrom 0 sql.toList then .error .badType else .ok (d.quoteSql sql "")

end SqlLoom.Dialect
