/-!
# `SqlLoom.Entries`: ordered mappings

A mapping whose order shows is a list of pairs of a name and a value in which no name stands
twice. `get?` reads an entry, `put` writes one: a name that is there keeps its place, a new one
goes to the end. `merge` puts several entries one after the other.
-/

set_option autoImplicit false

namespace SqlLoom

/-- An ordered mapping from names. -/
abbrev Entries (α : Type) := List (String × α)

namespace Entries

variable {α : Type}

/-- The value under a name. -/
def get? (name : String) : Entries α → Option α
  | [] => none
  | (k, v) :: rest => if k = name then some v else get? name rest

/-- The name has an entry. -/
def has (name : String) (entries : Entries α) : Bool := entries.any fun e => e.1 = name

/-- The names, in order. -/
def names (entries : Entries α) : List String := entries.map Prod.fst

/-- Writes an entry. -/
def put (name : String) (value : α) : Entries α → Entries α
  | [] => [(name, value)]
  | (k, v) :: rest => if k = name then (k, value) :: rest else (k, v) :: put name value rest

/-- Writes the entries of `added` in order; where names meet the added value stays. -/
def merge (entries added : Entries α) : Entries α :=
  added.foldl (fun es e => es.put e.1 e.2) entries

end Entries

end SqlLoom
