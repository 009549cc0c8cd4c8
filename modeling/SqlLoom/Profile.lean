import SqlLoom.Dialect
import SqlLoom.ParamTable
import SqlLoom.Profile.Url
import SqlLoom.Schema
import SqlLoom.Text.Case
import SqlLoom.Value.Items

/-!
# `SqlLoom.Profile`: how to reach a database

A `Profile` says where a database is, which family of dialects it speaks, and how statements are
compiled for it. `Profile.ofFields` reads one from its fields. A `Profile.Draft` collects settings
one by one; `Draft.build` infers the family from the driver of the data source name where none is
given, and refuses settings that do not go together.

`Profile.engineSettings` turns a profile into the address and the options of an engine.
-/

set_option autoImplicit false

namespace SqlLoom

/-- The families that the drivers of data source names belong to. -/
def driverTargets : List (String × Backend) :=
  [("mysql", .mysql), ("mysqli", .mysql), ("oci", .oracle), ("oci8", .oracle),
   ("oracle", .oracle), ("pgsql", .postgres), ("postgres", .postgres), ("postgresql", .postgres),
   ("sqlite", .ansi)]

/-- The family of a driver. -/
def Backend.ofDriver? (driver : String) : Option Backend :=
  (driverTargets.find? fun e => e.1 == driver).map Prod.snd

/-- The family of the database behind an engine, the plain one if its name is not known. -/
def Backend.ofEngine (name : String) : Backend :=
  if name = "mariadb" then .mysql else (ofDriver? name).getD .ansi

/-- The family of a name. -/
def Backend.ofName? (name : String) : Option Backend := all.find? (·.name == name)

/-- The driver in a data source name: what stands before the first colon, in small letters, up to a
plus sign. -/
def driverName? (dsn : String) : Option String :=
  (Text.splitAtFirst ':' dsn.toList).bind fun p =>
    let driver := Text.lower (Text.trim p.1)
    let base := driver.takeWhile (· ≠ '+')
    if base.isEmpty then none else some (String.ofList base)

/-- The configuration of one connection. -/
structure Profile where
  dsn : String
  target : Backend
  username? : Option String
  password? : Option String
  charset? : Option String
  tablePrefix : String
  savepoints : Bool
  mark : String
  attributes : Entries Value

namespace Profile

/-- The dialect of a profile. -/
def dialect (p : Profile) : Dialect := .standard p.target

/-- The names of the fields of a profile. -/
def fieldNames : List String :=
  ["dsn", "target", "username", "password", "charset", "table_prefix", "enable_savepoint",
   "param_prefix", "attributes"]

/-- A family, given by its exact name. -/
def asTarget? (v : Value) : Option Backend := v.text?.bind Backend.ofName?

/-- A profile from its fields. -/
def ofFields (fields : Entries Value) : Except Error Profile :=
  let profile? : Option Profile := do
    guard (onlyNames fieldNames fields)
    let optionalText (name : String) := defaulted fields name none (Value.optional Value.asText?)
    return {
      dsn := ← required fields "dsn" Value.asText?
      target := ← defaulted fields "target" .ansi asTarget?
      username? := ← optionalText "username"
      password? := ← optionalText "password"
      charset? := ← optionalText "charset"
      tablePrefix := ← defaulted fields "table_prefix" "" Value.asText?
      savepoints := ← defaulted fields "enable_savepoint" true Value.asBool?
      mark := ← defaulted fields "param_prefix" defaultMark Value.asText?
      attributes := ← defaulted fields "attributes" [] Value.asEntries? }
  orMalformed profile?

/-! ### Drafts -/

/-- Options of which none has a name that is taken. -/
def withoutNames (taken : List String) (options : Entries Value) :
    Except Error (Entries Value) :=
  if options.any fun e => taken.contains e.1 then .error .badType else .ok options

/-- Settings as they are given, before they are checked. -/
structure Draft where
  dsn : String
  target? : Option String := none
  username : Value := .null
  password : Value := .null
  charset : Value := .null
  tablePrefix : Value := .text ""
  savepoints : Value := .bool true
  mark : Value := .text defaultMark
  attributes : Entries Value := []

namespace Draft

/-- A draft with more options for the driver. The name of the draft itself is taken. -/
def addOptions (draft : Draft) (options : Value) : Except Error Draft := do
  match options with
  | .map entries =>
    return { draft with attributes := draft.attributes.merge (← withoutNames ["self"] entries) }
  | _ => throw .badType

/-- A configuration error. -/
def refuse {α : Type} (cause : ConfigError) : Except Error α := .error (.config cause)

/-- The name of the family, from the driver where none is given. -/
def targetName (draft : Draft) : Except Error String :=
  match draft.target? with
  | some name => .ok name
  | none =>
    let driver? := driverName? draft.dsn
    match driver?.bind Backend.ofDriver? with
    | some backend => .ok backend.name
    | none =>
      refuse (.unknownDriver (driver?.getD "None")
        (bracketed (driverTargets.map fun e => quotedText e.1)))

/-- The profile of a draft. -/
def build (draft : Draft) : Except Error Profile := do
  if (Text.trim draft.dsn.toList).isEmpty then refuse .emptyDsn
  let target ← draft.targetName
  if target = Backend.oracle.name && !draft.charset.isNull then refuse .charsetOutsideDsn
  if !draft.mark.isTruthy then refuse .emptyParamMark
  ofFields [("dsn", .text draft.dsn), ("target", .text target), ("username", draft.username),
    ("password", draft.password), ("charset", draft.charset),
    ("table_prefix", draft.tablePrefix), ("enable_savepoint", draft.savepoints),
    ("param_prefix", draft.mark), ("attributes", .map draft.attributes)]

end Draft

/-! ### Engines -/

/-- The option that holds what is passed on to the driver. -/
def driverOptions : String := "connect_args"

/-- The option of the driver that holds the character set. -/
def encodingOption : String := "client_encoding"

/-- Options with a character set for the driver, unless they name one already. -/
def withEncoding (options : Entries Value) (charset : String) : Except Error (Entries Value) := do
  let inner ← ((options.get? driverOptions).getD (.map [])).toEntries
  let inner := if inner.has encodingOption then inner
    else inner.put encodingOption (.text charset)
  return options.put driverOptions (.map inner)

/-- The address and the options of the engine of a profile. The credentials of the profile go
before those of its data source name, and `extra` options before its attributes. The names of the
profile and of the address are taken: no option can have them. -/
def engineSettings (p : Profile) (extra : Entries Value) : Except Error (Url × Entries Value) := do
  let extra ← withoutNames ["cls", "profile"] extra
  let url ← Url.parse p.dsn
  let url := match p.username? with
    | some name => { url with username? := some name, password? := p.password? <|> url.password? }
    | none => url
  let options := Entries.merge p.attributes extra
  let (url, options) ← match p.charset?, p.target with
    | some charset, .mysql =>
      pure ({ url with query := url.query.put "charset" (.text charset) }, options)
    | some charset, .postgres => pure (url, ← withEncoding options charset)
    | _, _ => pure (url, options)
  return (url, ← withoutNames ["url"] options)

end Profile

end SqlLoom
