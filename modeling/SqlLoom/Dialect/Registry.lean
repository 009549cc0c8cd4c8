import SqlLoom.Dialect
import SqlLoom.Error
import SqlLoom.Text.Case
import SqlLoom.Value.Shown

/-!
# `SqlLoom.Dialect.Registry`: dialects by target name

A registry finds dialects by the names of their targets, in any case. `Registry.builtIn` knows each
family under its usual names; further dialects can be registered under new names or in place of
known ones.
-/

set_option autoImplicit false

namespace SqlLoom

/-- Dialects under the small-letter names of their targets. -/
abbrev Registry := Entries Dialect

namespace Registry

/-- The usual target names of each family. -/
def builtIn : Registry :=
  [("ansi", .ansi), ("sqlite", .ansi), ("mysql", .mysql), ("mysqli", .mysql),
   ("postgres", .postgres), ("postgresql", .postgres), ("pgsql", .postgres), ("oracle", .oracle),
   ("oci", .oracle), ("oci8", .oracle)].map fun e => (e.1, Dialect.standard e.2)

/-- A target name in small letters. -/
def key (name : String) : String := String.ofList (Text.lower name.toList)

/-- The names in order. -/
def sortNames (names : List String) : List String := names.mergeSort fun a b => !(b < a)

/-- The target names that are known, in order. -/
def targets (r : Registry) : List String := sortNames (Entries.names r)

/-- Registers a dialect under a target name. -/
def register (r : Registry) (name : String) (d : Dialect) : Registry := Entries.put (key name) d r

/-- The dialect of a target. -/
def create (r : Registry) (name : String) : Except Error Dialect :=
  match Entries.get? (key name) r with
  | some d => .ok d
  | none => .error (.build (.unknownTarget name (bracketed (r.targets.map quotedText))))

end Registry

end SqlLoom
