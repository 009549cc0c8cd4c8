import SqlLoom.Connection
import SqlLoom.Lock

/-!
# `SqlLoom.Connection.Locking`: locks over a connection

`Connection.lockHost` lets a locker work over a connection. The clock is that of the engine.
-/

set_option autoImplicit false

namespace SqlLoom.Connection

variable {σ : Type}

/-- The connection as lockers use it, with the clock of its engine. -/
def lockHost (c : Connection σ) (now : σ → Rat) (sleep : Rat → σ → σ) : LockHost (State σ) where
  dialect := c.dialect
  isOpen := State.isOpen
  query sql params := Prod.fst <$> c.queryScalar sql params
  call sql params := Prod.snd <$> c.execute sql params
  now s := now s.engine
  sleep seconds s := { s with engine := sleep seconds s.engine }

end SqlLoom.Connection
