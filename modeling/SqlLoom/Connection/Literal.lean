import SqlLoom.Text.Word

/-!
# `SqlLoom.Connection.Literal`: colons in a statement text

In the text that goes to an engine a colon before a name marks a bound parameter. A colon inside a
string literal is to mark none, so `escapeColons` puts a backslash before each colon of a literal
that a name follows.

A literal starts at a quote and ends at the next quote that stands alone: a doubled quote is part
of it, and so is any character after a backslash where the dialect has such escapes. Where the text
ends before that, the literal ends at the first quote of the last doubled one, and without one there
is no literal.
-/

set_option autoImplicit false

namespace SqlLoom

/-- The number of characters up to the end of a literal, after its opening quote. `n` characters
have been read, and `fallback` is the end that counts if no quote stands alone. -/
def literalLength (backslash : Bool) (n : Nat) (fallback : Option Nat) : List Char → Option Nat
  | [] => fallback
  | '\'' :: '\'' :: rest => literalLength backslash (n + 2) (some (n + 1)) rest
  | '\'' :: _ => some (n + 1)
  | '\\' :: rest =>
    if backslash then
      match rest with
      | [] => fallback
      | _ :: rest => literalLength backslash (n + 2) fallback rest
    else literalLength backslash (n + 1) fallback rest
  | _ :: rest => literalLength backslash (n + 1) fallback rest

/-- A backslash before each colon that a word character follows. -/
def escapeBinds : List Char → List Char
  | [] => []
  | ':' :: c :: rest =>
    if Text.isWord c then '\\' :: ':' :: escapeBinds (c :: rest) else ':' :: escapeBinds (c :: rest)
  | c :: rest => c :: escapeBinds rest

/-- `escapeColons` on a text whose first `skip` characters belong to a literal already written. -/
def escapeColonsFrom (backslash : Bool) : Nat → List Char → List Char
  | _, [] => []
  | skip + 1, _ :: rest => escapeColonsFrom backslash skip rest
  | 0, c :: rest =>
    if c = '\'' then
      match literalLength backslash 0 none rest with
      | some n => escapeBinds (c :: rest.take n) ++ escapeColonsFrom backslash n rest
      | none => c :: escapeColonsFrom backslash 0 rest
    else c :: escapeColonsFrom backslash 0 rest

/-- A statement text in which the colons of literals are escaped. -/
def escapeColons (backslash : Bool) (sql : String) : String :=
  String.ofList (escapeColonsFrom backslash 0 sql.toList)

end SqlLoom
