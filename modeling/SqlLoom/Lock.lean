import SqlLoom.Action
import SqlLoom.Dialect
import SqlLoom.Lock.Digest
import SqlLoom.Text.Decimal
import SqlLoom.Value.Shown
import SqlLoom.Warning

/-!
# `SqlLoom.Lock`: named locks of a database session

A `Locker` takes and gives back named locks over one connection and remembers which ones it holds.
Each family of databases has its own lock calls (`Scheme`): PostgreSQL tries once and is polled
until the timeout is over (`pollUntil`), MySQL and Oracle wait themselves. Polling goes on for as
long as the clock lets it. Here it has a bound on its attempts (`attemptBound`), which is out of
reach as long as each sleep gains at least half of a delay that is positive.

* `Locker.acquire` refuses a lock that it holds already without asking the database.
* `Locker.release` forgets a lock only when the database has given it back.
* `Locker.releaseAll` tries every lock once, in the order in which they were taken, and goes on
  after a failure that this library reports.

The connection is a `LockHost`. Time is a fraction of seconds.
-/

set_option autoImplicit false

namespace SqlLoom

/-- A connection that locks are taken over, and its clock, over the states `σ`. -/
structure LockHost (σ : Type) where
  dialect : Dialect
  isOpen : σ → Bool
  /-- The first value that a query gives. -/
  query : String → Entries Value → Action σ Value
  /-- Runs a block; gives the parameters with the output parameters filled. -/
  call : String → Entries Value → Action σ (Entries Value)
  now : σ → Rat
  sleep : Rat → σ → σ

/-- How strong an Oracle lock is. -/
inductive LockMode where
  | x | nl | s | sx | ss | ssx
  deriving DecidableEq, Repr

/-- The word for a lock mode. -/
def LockMode.word : LockMode → String
  | .x => "X_MODE"
  | .nl => "NL_MODE"
  | .s => "S_MODE"
  | .sx => "SX_MODE"
  | .ss => "SS_MODE"
  | .ssx => "SSX_MODE"

/-- The lock modes. -/
def LockMode.all : List LockMode := [.x, .nl, .s, .sx, .ss, .ssx]

/-- The lock mode of a word. -/
def LockMode.ofWord? (word : String) : Option LockMode := all.find? (·.word == word)

/-- The lock calls of a family of databases, with their settings. -/
inductive Scheme where
  /-- Advisory locks, polled with a delay in milliseconds. -/
  | postgres (delay : Rat)
  | mysql
  | oracle (mode : LockMode) (releaseOnCommit : Bool)

/-- The dialect that lock calls are written for. -/
def Scheme.backend : Scheme → Backend
  | .postgres _ => .postgres
  | .mysql => .mysql
  | .oracle .. => .oracle

/-- The kind of a locker with these lock calls. -/
def Scheme.kind : Scheme → String
  | .postgres _ => "PostgresMutex"
  | .mysql => "MySQLMutex"
  | .oracle .. => "OracleMutex"

/-! ### Polling -/

/-- The number of attempts after which polling without a positive delay is given up, although there
may be time left: nothing but the attempts themselves moves the clock then. -/
def busyAttempts : Nat := 1000000

/-- A number of attempts that a timeout leaves room for. It is twice what is needed where every
sleep lasts for the whole delay, so that the deadline ends polling over any clock that gains half of
it (`Poller.Advances.run_pollUntil_eq`). Over a clock that gains less, one that stands still among
them, and with a delay that is not positive, the bound can run out before the deadline. Polling is
refused then, where it should go on. -/
def attemptBound (delay timeout : Rat) : Nat :=
  if delay ≤ 0 then busyAttempts else 2 * ((timeout * 1000 / delay).ceil.toNat + 1)

/-- At most the given number of attempts until one succeeds or the clock reaches the deadline, with
a sleep between two. When all attempts are used up the answer is no, whatever the clock says. -/
def pollUntil {σ : Type} (h : LockHost σ) (delay deadline : Rat) (attempt : Action σ Bool) :
    Nat → Action σ Bool
  | 0 => pure false
  | n + 1 => do
    if ← attempt then return true
    if deadline ≤ (← Action.read h.now) then return false
    Action.change (h.sleep (delay / 1000))
    pollUntil h delay deadline attempt n

/-- Attempts until one succeeds or the timeout is over, or until there are as many as
`attemptBound` allows; there is at least one attempt. -/
def poll {σ : Type} (h : LockHost σ) (delay timeout : Rat) (attempt : Action σ Bool) :
    Action σ Bool := do
  let start ← Action.read h.now
  pollUntil h delay (start + timeout) attempt (attemptBound delay timeout)

/-! ### Lock calls -/

/-- A whole number that a status denotes, where it denotes one. Nothing has been checked for
already. -/
def Value.asStatus (v : Value) : Except Error Int :=
  match v with
  | .int n => .ok n
  | .bool b => .ok (if b then 1 else 0)
  | .float numeral => of? (numeral.toRat?.map Text.truncate)
  | .bytes octets =>
    of? (if octets.all (· < 128) then Text.readInt? (octets.map fun o => Char.ofNat o.toNat)
      else none)
  | v =>
    match v.text? with
    | some s => of? (Text.readInt? s.toList)
    | none => .error .badType
where
  /-- A number, or the error that there is none. -/
  of? : Option Int → Except Error Int
    | some n => .ok n
    | none => .error .badValue

/-- A MySQL status tells of success. -/
def statusIsOne (status : Value) : Except Error Bool :=
  if status.isNull then .ok false else do return (← status.asStatus) == 1

/-- An Oracle status tells of success. -/
def statusIsZero (status : Value) : Bool := !status.isNull && status.shown == "0"

/-- The block that finds the handle of an Oracle lock and puts the status of a request into an
output parameter. -/
def oracleBlock (slot request : String) : String :=
  "DECLARE\n    handle VARCHAR2(128);\nBEGIN\n    DBMS_LOCK.ALLOCATE_UNIQUE(:name, handle);\n    "
    ++ slot ++ " := DBMS_LOCK." ++ request ++ ";\nEND;"

/-- The request for an Oracle lock. -/
def oracleRequest (mode : LockMode) (releaseOnCommit : Bool) (seconds : Int) : String :=
  "REQUEST(handle, DBMS_LOCK." ++ mode.word ++ ", " ++ toString seconds ++ ", "
    ++ (if releaseOnCommit then "TRUE" else "FALSE") ++ ")"

/-- The whole seconds of a timeout, whatever its sign. -/
def wholeSeconds (timeout : Rat) : Int := Text.truncate timeout.abs

/-- Runs an Oracle block and tells whether its status is one of success. -/
def callOracle {σ : Type} (h : LockHost σ) (name slot request : String) : Action σ Bool := do
  let after ← h.call (oracleBlock slot request)
    [(":name", .text name), (slot, .out .int 1 none .null)]
  match after.get? slot with
  | some (.out _ _ _ status) => return statusIsZero status
  | _ => return false

/-- The parameters of a PostgreSQL lock call. -/
def keyParams (name : String) : Entries Value :=
  let (high, low) := lockKeys name
  [(":key1", .int high), (":key2", .int low)]

namespace Scheme

variable {σ : Type}

/-- Asks the database for a lock once. -/
def attempt (c : Scheme) (h : LockHost σ) (name : String) (timeout : Rat) : Action σ Bool :=
  match c with
  | .postgres _ => do
    return (← h.query "SELECT pg_try_advisory_lock(:key1, :key2)" (keyParams name)).isTruthy
  | .mysql => do
    let status ← h.query "SELECT GET_LOCK(:name, :timeout)"
      [(":name", .text name), (":timeout", .int (wholeSeconds timeout))]
    Action.ofExcept (statusIsOne status)
  | .oracle mode releaseOnCommit =>
    callOracle h name ":lockStatus" (oracleRequest mode releaseOnCommit (wholeSeconds timeout))

/-- Asks the database for a lock. PostgreSQL does not wait for it, so it is polled. -/
def request (c : Scheme) (h : LockHost σ) (name : String) (timeout : Rat) : Action σ Bool :=
  match c with
  | .postgres delay => poll h delay timeout (c.attempt h name timeout)
  | _ => c.attempt h name timeout

/-- Gives a lock back to the database. -/
def giveBack (c : Scheme) (h : LockHost σ) (name : String) : Action σ Bool :=
  match c with
  | .postgres _ => do
    return (← h.query "SELECT pg_advisory_unlock(:key1, :key2)" (keyParams name)).isTruthy
  | .mysql => do
    Action.ofExcept (statusIsOne (← h.query "SELECT RELEASE_LOCK(:name)" [(":name", .text name)]))
  | .oracle .. => callOracle h name ":result" "RELEASE(handle)"

end Scheme

/-! ### Lockers -/

/-- Lock calls over a connection. -/
structure Locker (σ : Type) where
  scheme : Scheme
  host : LockHost σ

/-- The locks that are held, in the order in which they were taken, the warnings so far, and the
state of the connection. -/
structure Holding (σ : Type) where
  locks : List String
  warnings : List Warning
  world : σ

namespace Locker

variable {σ : Type}

/-- A locker. The connection must speak the dialect of the lock calls. -/
def make (scheme : Scheme) (host : LockHost σ) : Except Error (Locker σ) :=
  let wanted := scheme.backend.name
  if host.dialect.name = wanted then .ok ⟨scheme, host⟩
  else .error (.config (.wrongDialect scheme.kind wanted host.dialect.name))

/-- Runs an action of the connection. -/
def onHost {α : Type} (a : Action σ α) : Action (Holding σ) α :=
  a.onPart Holding.world fun world s => { s with world }

/-- Replaces the locks that are held. -/
def setLocks (f : List String → List String) : Action (Holding σ) Unit :=
  Action.change fun s => { s with locks := f s.locks }

/-- Takes a lock. Gives whether it was taken: it is not if it is held already or could not be had in
time. -/
def acquire (m : Locker σ) (name : String) (timeout : Rat) : Action (Holding σ) Bool := do
  if (← Action.read Holding.locks).contains name then return false
  if ← onHost (m.scheme.request m.host name timeout) then
    setLocks (· ++ [name])
    return true
  return false

/-- Gives a lock back. Gives whether the database agreed. -/
def release (m : Locker σ) (name : String) : Action (Holding σ) Bool := do
  if ← onHost (m.scheme.giveBack m.host name) then
    setLocks (·.erase name)
    return true
  return false

/-- Notes that a lock is still held. -/
def warnKept (name : String) : Action (Holding σ) Unit :=
  Action.change fun s => { s with warnings := s.warnings ++ [.lockKept name] }

/-- Gives a lock back, or notes that it is still held. -/
def releaseOrWarn (m : Locker σ) (name : String) : Action (Holding σ) Unit := do
  try
    if !(← m.release name) then warnKept name
  catch e => if e.isOwn then warnKept name else throw e

/-- Gives the locks of a list back. -/
def releaseEach (m : Locker σ) : List String → Action (Holding σ) Unit
  | [] => pure ()
  | name :: rest => do
    m.releaseOrWarn name
    m.releaseEach rest

/-- Gives every lock back. The locks of a connection that is closed are gone with it. -/
def releaseAll (m : Locker σ) : Action (Holding σ) Unit := do
  let s ← Action.read id
  if m.host.isOpen s.world then m.releaseEach s.locks else setLocks fun _ => []

end Locker

end SqlLoom
