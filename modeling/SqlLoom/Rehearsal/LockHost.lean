import SqlLoom.Connection.Binding
import SqlLoom.Lock
import SqlLoom.Text.Numeral

/-!
# `SqlLoom.Rehearsal.LockHost`: a connection that answers lock calls from a queue

A `ScriptedHost` records lock calls and answers them from a queue; an empty queue answers nothing.
A call can be told to fail once it is recorded. Its clock stands still but for sleeps, and shows
floating-point numbers.
-/

set_option autoImplicit false

namespace SqlLoom

/-- A lock call as it is recorded. -/
structure LockCall where
  text : String
  params : Entries Value

/-- A connection that answers lock calls from a queue. -/
structure ScriptedHost where
  isOpen : Bool := true
  calls : List LockCall := []
  failures : List Error := []
  answers : List Value := []
  clock : Rat := 0

namespace ScriptedHost

/-- Records a call, which fails if that is its turn. -/
def note (text : String) (params : Entries Value) : Action ScriptedHost Unit := fun h =>
  let h := { h with calls := h.calls ++ [LockCall.mk text params] }
  match h.failures with
  | e :: failures => (.error e, { h with failures })
  | [] => (.ok (), h)

/-- The next answer of the queue. -/
def nextAnswer : Action ScriptedHost Value := fun h =>
  match h.answers with
  | v :: answers => (.ok v, { h with answers })
  | [] => (.ok .null, h)

/-- Fills output parameters, each with the next answer. -/
def fillFromQueue : Entries Value → Action ScriptedHost (Entries Value)
  | [] => pure []
  | (name, v) :: rest => do
    let v ← if v.isOut then v.filledWith <$> nextAnswer else pure v
    return (name, v) :: (← fillFromQueue rest)

/-- The host of the script, for a dialect. -/
def host (d : Dialect) : LockHost ScriptedHost where
  dialect := d
  isOpen := ScriptedHost.isOpen
  query text params := do
    note text params
    nextAnswer
  call text params := do
    note text params
    fillFromQueue params
  now := ScriptedHost.clock
  sleep seconds h := { h with clock := Text.toFloat (h.clock + Text.toFloat seconds) }

/-- The steps of a script that concern locks. -/
inductive Cue where
  | acquire (name : String) (timeout : Rat)
  | release (name : String)
  | releaseAll
  | open_
  | close
  | answer (values : List Value)
  | failNext (e : Error)
  | fail (e : Error)
  | skip

/-- A step on the host alone. -/
def onHost (f : ScriptedHost → ScriptedHost) : Action (Holding ScriptedHost) Value := do
  Locker.onHost (Action.change f)
  return .null

/-- Runs a step. -/
def play (m : Locker ScriptedHost) : Cue → Action (Holding ScriptedHost) Value
  | .acquire name timeout => do return .bool (← m.acquire name timeout)
  | .release name => do return .bool (← m.release name)
  | .releaseAll => do
    m.releaseAll
    return .null
  | .open_ => onHost fun h => { h with isOpen := true }
  | .close => onHost fun h => { h with isOpen := false }
  | .answer values => onHost fun h => { h with answers := h.answers ++ values }
  | .failNext e => onHost fun h => { h with failures := h.failures ++ [e] }
  | .fail e => throw e
  | .skip => pure .null

/-- What came of one step. -/
structure Report where
  outcome : Except Error Value
  before : Holding ScriptedHost
  after : Holding ScriptedHost

/-- Runs a script; a step that fails does not end it. -/
def rehearse (m : Locker ScriptedHost) : List Cue → Holding ScriptedHost → List Report
  | [], _ => []
  | cue :: rest, s =>
    let (outcome, after) := play m cue s
    ⟨outcome, s, after⟩ :: rehearse m rest after

end ScriptedHost

end SqlLoom
