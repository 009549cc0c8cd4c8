import SqlLoom.Error
import SqlLoom.Fragment.Column

/-!
# `SqlLoom.Fragment.Membership`: a column among values

A membership test compares one column with values, or several columns with rows. Rows and values
may be mappings, from which the entry of the column is taken. An empty list of values is never
matched, a single value is compared with `=`, and a list longer than the ceiling of the dialect is
tested in consecutive chunks, which OR joins (AND for the negated test).
-/

set_option autoImplicit false

namespace SqlLoom

/-- The test that no value or no column is there to match. -/
def nothingMatches (negated : Bool) : Fragment := if negated then .empty else .ofText "0=1"

/-- The operator of a membership test, between spaces. -/
def membershipWords (negated : Bool) : Fragment :=
  .ofText (" " ++ (Operator.membership negated).keyword ++ " ")

/-- The value may be a key of a mapping: it never changes. -/
def Value.isKey : Value → Bool
  | .tuple items => keysOnly items
  | .typed v _ => v.isKey
  | .list _ | .map _ | .out .. | .expr _ | .hash _ | .cond .. | .query _ | .item _ | .ref _
  | .join _ | .order _ | .branch _ => false
  | _ => true
where
  /-- All of the values may be keys. -/
  keysOnly : List Value → Bool
    | [] => true
    | v :: rest => v.isKey && keysOnly rest

/-- The entry of a column in a row that is a mapping, null if there is none. -/
def entryOf (column : Value) (row : Entries Value) : Except Error Value :=
  match column.text? with
  | some name => .ok ((row.get? name).getD .null)
  | none => if column.isKey then .ok .null else .error .badType

/-! ### One column -/

/-- One value of the list for a single column. -/
def memberFragment (column : Value) (v : Value) : Except Error Fragment :=
  match v with
  | .map row => do return boundOrNull (← entryOf column row)
  | v => .ok (boundOrNull v)

/-- One column among values. The values are bound before the parameters of the column are taken
over. -/
def singleMembership (d : Dialect) (negated : Bool) (column : Value) (values : List Value) :
    Except Error Fragment := do
  let members ← values.mapM (memberFragment column)
  let name := columnFragment d column
  match members with
  | [] => return nothingMatches negated
  | [one] => return name.afterStepsOf (.ofText (if negated then "<>" else "=") ++ one)
  | _ =>
    return name.afterStepsOf
      (membershipWords negated ++ (Fragment.join ", " members).parens)

/-! ### Several columns -/

/-- The entry of the `i`-th column in a row; what is no row has none. -/
def rowEntry (row : Value) (i : Nat) (column : Value) : Except Error Value :=
  match row with
  | .map entries => entryOf column entries
  | .list items | .tuple items => .ok ((items[i]?).getD .null)
  | _ => .ok .null

/-- One entry of a row. -/
def rowEntryFragment (v : Value) : Fragment :=
  match v with
  | .null => .ofText "NULL"
  | v => .bound v

/-- The entries of a row for the columns from the `i`-th on. -/
def rowFragments (row : Value) (i : Nat) : List Value → Except Error (List Fragment)
  | [] => .ok []
  | column :: rest => do
    return rowEntryFragment (← rowEntry row i column) :: (← rowFragments row (i + 1) rest)

/-- Several columns among rows. -/
def rowMembership (d : Dialect) (negated : Bool) (columns rows : List Value) :
    Except Error Fragment := do
  let groups ← rows.mapM fun row => do
    return (Fragment.join ", " (← rowFragments row 0 columns)).parens
  if groups.isEmpty then return nothingMatches negated
  let names := (Fragment.join ", " (columns.map (columnFragment d))).parens
  return names.afterStepsOf
    (membershipWords negated ++ (Fragment.join ", " groups).parens)

/-! ### Lists up to the ceiling and beyond -/

/-- The columns that a column position names. -/
def Value.asColumns : Value → List Value
  | .list columns | .tuple columns => columns
  | v => [v]

/-- A membership test over values that fit into one list. -/
def chunkMembership (d : Dialect) (negated : Bool) (column : Value) (values : List Value) :
    Except Error Fragment :=
  match column.asColumns with
  | [one] => singleMembership d negated one values
  | columns => rowMembership d negated columns values

/-- Consecutive chunks of `size` values, the last one perhaps shorter. -/
def chunks {α : Type} (size : Nat) (values : List α) : List (List α) :=
  (List.range ((values.length + size - 1) / size)).map fun i => (values.drop (i * size)).take size

/-- The chunks that a list has to be split into, none if it fits. A ceiling below zero leaves no
chunk, and a ceiling of zero has no meaning. -/
def splitMembers (d : Dialect) (values : List Value) : Except Error (Option (List (List Value))) :=
  match d.maxInList? with
  | none => .ok none
  | some ceiling =>
    if (values.length : Int) ≤ ceiling then .ok none
    else if ceiling = 0 then .error .badValue
    else .ok (some (chunks ceiling.toNat values))

/-- The logical operator that joins the tests of chunks. -/
def chunkJoiner (negated : Bool) : Operator := if negated then .and else .or

/-- A membership test over any number of values. -/
def membershipFragment (d : Dialect) (negated : Bool) (column : Value) (values : List Value) :
    Except Error Fragment := do
  match ← splitMembers d values with
  | none => chunkMembership d negated column values
  | some parts =>
    return .grouped (chunkJoiner negated).keyword (← parts.mapM (chunkMembership d negated column))

/-- The values of a sequence, and how a part of them is a sequence again. -/
def Value.sequence? : Value → Option (List Value × (List Value → Except Error Value))
  | .list items => some (items, fun part => .ok (.list part))
  | .tuple items => some (items, fun part => .ok (.tuple part))
  | .bytes octets =>
    some (octets.map fun o => .int o.toNat, fun part => .ok (.bytes (part.map fun
      | .int n => .ofNat n.toNat
      | _ => 0)))
  | .map entries => some (entries.map fun e => .text e.1, fun _ => .error .badType)
  | v => v.text?.map fun s =>
    (s.toList.map fun c => .text (String.ofList [c]),
      fun part => .ok (.text (String.join (part.map Value.shown))))

/-- The condition that a membership test over a sequence of too many values is split into, or
nothing. Only a test that is split has to be one of the two membership tests. -/
def splitMembership (d : Dialect) (op column values : Value) : Except Error Value := do
  if d.maxInList?.isNone then return .null
  match values.sequence? with
  | none => throw .badType
  | some (members, again) =>
    match ← splitMembers d members with
    | none => return .null
    | some parts =>
      let negated := op.text? != some "IN"
      let tests ← parts.mapM fun part => do
        let part ← again part
        if negated && op.text? != some "NOT IN" then throw .malformed
        return .cond (.membership negated) [column, part]
      return .cond (chunkJoiner negated) tests

end SqlLoom
