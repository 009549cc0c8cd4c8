import SqlLoom.Text.Integer
import SqlLoom.Text.Search

/-!
# `SqlLoom.Text.Whole`: whole numbers as fields hold them

`readWhole?` reads a text in ASCII digits as a whole number. It leaves out what does not change the
number and reads the rest, which has to be in its plain form (`plainInt?`):

* blanks around it, and one plus sign (`unsigned?`);
* zeros in front, also with underscores between them (`significant?`);
* a point with zeros behind it (`wholePart?`);
* single underscores between digits (`joined?`).

A minus sign may stand in front, or behind the zeros.
-/

set_option autoImplicit false

namespace SqlLoom.Text

/-- What is left behind zeros and underscores, of which `last` is the last one. It stays where
nothing else does, and in front of a point. -/
def behindZeros (last : Char) : List Char → Option (List Char)
  | [] => some [last]
  | c :: rest =>
    if c == '0' || c == '_' then behindZeros c rest
    else if c.isDigit || c == '-' then some (c :: rest)
    else if c == '.' then some (last :: c :: rest)
    else none

/-- A number without the zeros in front. It has to begin with a digit. -/
def significant? : List Char → Option (List Char)
  | [] => none
  | c :: rest =>
    if c == '0' then behindZeros c rest else if c.isDigit then some (c :: rest) else none

/-- A number with neither a plus sign nor zeros in front. -/
def unsigned? : List Char → Option (List Char)
  | '+' :: rest => significant? rest
  | '-' :: rest => (significant? rest).map ('-' :: ·)
  | s => significant? s

/-- A number without its places, which have to be zeros. -/
def wholePart? (s : List Char) : Option (List Char) :=
  match splitAtFirst '.' s with
  | none => some s
  | some (whole, places) =>
    if !places.isEmpty && places.all (· == '0') then some whole else none

/-- A number without the underscores in it, each of which has to stand by itself. -/
def joined? (s : List Char) : Option (List Char) :=
  if s.head? == some '_' || s.getLast? == some '_' || occurs ['_', '_'] s then none
  else some (s.filter (· != '_'))

/-- The number that plain digits denote, of which the first is zero only if it is the only one. -/
def plainNat? (s : List Char) : Option Nat :=
  if s.isEmpty || (s.head? == some '0' && s.length != 1) || !s.all Char.isDigit then none
  else some (ofDigits (s.map fun c => c.toNat - 48))

/-- The whole number of a plain text, which has a limited length. -/
def plainInt? (s : List Char) : Option Int :=
  if maxDigits < s.length then none
  else match s with
    | '-' :: rest => (plainNat? rest).map fun n => -(n : Int)
    | s => (plainNat? s).map fun n => (n : Int)

/-- The whole number that a text denotes as a field. -/
def readWhole? (s : List Char) : Option Int := do
  plainInt? (← joined? (← wholePart? (← unsigned? (trimOf isPlainBlank s))))

end SqlLoom.Text
