import SqlLoom.Entries
import SqlLoom.Error
import SqlLoom.Text.Integer
import SqlLoom.Text.Percent
import SqlLoom.Text.Search
import SqlLoom.Text.Word
import SqlLoom.Value

/-!
# `SqlLoom.Profile.Url`: database addresses

A database address reads `driver://[user[:password]@][host][:port][/database][?name=value&...]`.
`Url.parse` takes it apart. Every part but the driver may be missing, and what follows the parts is
ignored.

The user part ends at a sign `@`. A password reaches from the first colon to the first such sign
after it; without a password the last sign before a colon or a slash counts.

Percent escapes are resolved in the user name, the password, the database and the query, once the
parts are taken apart. A name that stands several times in a query has a list of values.
-/

set_option autoImplicit false

namespace SqlLoom

/-- The parts of a database address. -/
structure Url where
  driver : String
  username? : Option String := none
  password? : Option String := none
  host? : Option String := none
  port? : Option Int := none
  database? : Option String := none
  query : Entries Value := []

namespace Url

/-- A character of a driver name. -/
def isDriverChar (c : Char) : Bool := Text.isWord c || c == '+'

/-- The driver and what follows its mark. -/
def splitDriver? (s : List Char) : Option (List Char × List Char) :=
  let driver := s.takeWhile isDriverChar
  match s.dropWhile isDriverChar with
  | ':' :: '/' :: '/' :: rest => if driver.isEmpty then none else some (driver, rest)
  | _ => none

/-- A character that ends a user name. -/
def endsUser (c : Char) : Bool := c == ':' || c == '/'

/-- The user name and the password, and what follows them; without a user part all of it follows. -/
def splitUser (s : List Char) : Option (List Char) × Option (List Char) × List Char :=
  let name := s.takeWhile fun c => !endsUser c
  let later := s.dropWhile fun c => !endsUser c
  let withPassword := match later with
    | ':' :: secret => Text.splitAtFirst '@' secret
    | _ => none
  match withPassword, Text.splitAtLast '@' name with
  | some (password, rest), _ => (some name, some password, rest)
  | none, some (user, host) => (some user, none, host ++ later)
  | none, none => (none, none, s)

/-- A character that ends an address in brackets or a port. -/
def endsPort (c : Char) : Bool := c == '/' || c == '?'

/-- The host and what follows it. An address in brackets may hold colons. -/
def splitHost (s : List Char) : Option (List Char) × List Char :=
  let plain := s.takeWhile fun c => !endsPort c && c != ':'
  let bare := if plain.isEmpty then (none, s)
    else (some plain, s.dropWhile fun c => !endsPort c && c != ':')
  match s with
  | '[' :: rest =>
    match Text.splitAtLast ']' (rest.takeWhile fun c => !endsPort c) with
    | some (c :: address, after) =>
      (some (c :: address), after ++ rest.dropWhile fun c => !endsPort c)
    | _ => bare
  | _ => bare

/-- The port and what follows it. -/
def splitPort (s : List Char) : Option (List Char) × List Char :=
  match s with
  | ':' :: rest =>
    (some (rest.takeWhile fun c => !endsPort c), rest.dropWhile fun c => !endsPort c)
  | s => (none, s)

/-- The database and what follows it. -/
def splitDatabase (s : List Char) : Option (List Char) × List Char :=
  match s with
  | '/' :: rest => (some (rest.takeWhile (· ≠ '?')), rest.dropWhile (· ≠ '?'))
  | s => (none, s)

/-- The entries of a query part that have a value. -/
def queryPairs (s : List Char) : List (String × String) :=
  (Text.splitAt '&' s).filterMap fun part =>
    match Text.splitAtFirst '=' part with
    | some (name, c :: value) =>
      some (String.ofList (Text.unescapeQuery name),
        String.ofList (Text.unescapeQuery (c :: value)))
    | _ => none

/-- Adds an entry to a query; a name that stands there already has several values. -/
def addPair (query : Entries Value) (pair : String × String) : Entries Value :=
  match query.get? pair.1 with
  | none => query.put pair.1 (.text pair.2)
  | some (.list values) => query.put pair.1 (.list (values ++ [.text pair.2]))
  | some v => query.put pair.1 (.list [v, .text pair.2])

/-- The query after its mark, up to a line break. -/
def parseQuery (s : List Char) : Entries Value :=
  match s with
  | '?' :: rest => (queryPairs (rest.takeWhile (· ≠ '\n'))).foldl addPair []
  | _ => []

/-- The number of a port. -/
def parsePort (port? : Option (List Char)) : Except Error (Option Int) :=
  match port? with
  | none => .ok none
  | some digits =>
    match Text.readInt? digits with
    | some n => .ok (some n)
    | none => .error .badValue

/-- The parts of a database address. -/
def parse (dsn : String) : Except Error Url :=
  match splitDriver? dsn.toList with
  | none => .error (.config (.notUrl dsn))
  | some (driver, rest) => do
    let (user?, password?, rest) := splitUser rest
    let (host?, rest) := splitHost rest
    let (port?, rest) := splitPort rest
    let (database?, rest) := splitDatabase rest
    return {
      driver := String.ofList driver
      username? := user?.map fun s => String.ofList (Text.unescape s)
      password? := password?.map fun s => String.ofList (Text.unescape s)
      host? := host?.map String.ofList
      port? := ← parsePort port?
      database? := database?.map fun s => String.ofList (Text.unescape s)
      query := parseQuery rest }

end Url

end SqlLoom
