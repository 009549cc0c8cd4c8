import SqlLoom.Entries
import SqlLoom.Value

/-!
# `SqlLoom.ParamTable`: the parameters of one statement

One table collects the parameters of a whole statement, sub-queries included. It is written in two
ways: `add` stores a value under a fresh name made of the table's mark and a number, and `merge`
takes over parameters that have names already. The number starts at the number of entries and goes
up until the name is free, so that a fresh name never meets a name that is there.
-/

set_option autoImplicit false

namespace SqlLoom

/-- The mark that generated names start with unless another is asked for. -/
def defaultMark : String := ":qp"

/-- Named parameters and the mark of generated names. -/
structure ParamTable where
  mark : String
  entries : Entries Value

namespace ParamTable

/-- A table of parameters that have names. -/
def ofEntries (mark : String) (entries : Entries Value) : ParamTable :=
  ⟨mark, Entries.merge [] entries⟩

/-- The generated name of a number. -/
def nameOf (mark : String) (n : Nat) : String := mark ++ toString n

/-- The first free name from number `n` on, after at most `tries` names that are taken. -/
def firstFree (mark : String) (entries : Entries Value) : Nat → Nat → String
  | 0, n => nameOf mark n
  | tries + 1, n =>
    if entries.has (nameOf mark n) then firstFree mark entries tries (n + 1) else nameOf mark n

/-- The name that the next `add` gives. As many names as there are entries can be taken, so the
search finds a free one. -/
def freshName (t : ParamTable) : String :=
  firstFree t.mark t.entries t.entries.length t.entries.length

/-- Stores a value under a fresh name at the end of the table, and gives the name. -/
def add (t : ParamTable) (v : Value) : String × ParamTable :=
  let name := t.freshName
  (name, { t with entries := t.entries ++ [(name, v)] })

/-- Takes over named parameters; where names meet the new value stays. -/
def merge (t : ParamTable) (params : Entries Value) : ParamTable :=
  { t with entries := t.entries.merge params }

end ParamTable

end SqlLoom
