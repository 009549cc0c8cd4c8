/-!
# `SqlLoom.Warning`: what is worth telling without being an error

Transactions and locks go on where they can do less than they were asked for. Each such case is a
`Warning`, and `Warning.message` says it.
-/

set_option autoImplicit false

namespace SqlLoom

/-- A case in which less was done than asked for. -/
inductive Warning where
  /-- The dialect takes no isolation level before a transaction begins. -/
  | isolationIgnored (level dialect : String)
  /-- A nested transaction without a savepoint became part of the one around it. -/
  | flattened (level : Nat)
  /-- A failed unit of work could not be rolled back either. -/
  | rollbackFailed
  /-- A lock is still held. -/
  | lockKept (name : String)
  deriving DecidableEq, Repr

/-- The wording of a warning. -/
def Warning.message : Warning → String
  | .isolationIgnored level dialect =>
    "Isolation level " ++ level ++ " ignored: " ++ dialect ++ " does not apply it before BEGIN. "
      ++ "Call set_isolation_level() inside the transaction instead."
  | .flattened level =>
    "Transaction not started at level " ++ toString level
      ++ ": nested transaction not supported; flattening into the outer transaction."
  | .rollbackFailed => "Rollback after a failed transaction also failed"
  | .lockKept name => "Lock '" ++ name ++ "' could not be released"

end SqlLoom
