import SqlLoom.Error
import SqlLoom.Fragment.Column

/-!
# `SqlLoom.Fragment.Pattern`: a column against patterns

A pattern value stands for the texts that contain it: its special characters are escaped by a
mapping and a percent sign is put on both sides. An escape operand that counts as false says that
the values are patterns already; a null one means the mapping of the dialect. Several values are
joined by AND, or by OR where the operator says so.
-/

set_option autoImplicit false

namespace SqlLoom

/-- The text with the keys of a mapping replaced in one pass, longest key first. -/
def replaceKeys (table : Entries String) (s : String) : String :=
  String.ofList (Text.substitute (table.map fun e => (e.1.toList, e.2.toList)) s.toList)

/-- The keys of an escape operand other than a mapping. -/
def Value.escapeKeys? : Value → Option (List String)
  | .list items | .tuple items => items.mapM Value.text?
  | .stream (key :: keys) => (key :: keys).mapM Value.text?
  | v => v.text?.map fun s => s.toList.map fun c => String.ofList [c]

/-- The text of an entry of an escape mapping; null stands for no text. -/
def escapeText? : Value → Option String
  | .null => some ""
  | v => v.text?

/-- The text escaped by an operand that counts as true. A key that has no text of its own is an
error where it stands in the text. -/
def escapeBy (escape : Value) (s : String) : Except Error String :=
  match escape with
  | .map entries =>
    if entries.all fun e => (escapeText? e.2).isSome || !Text.occurs e.1.toList s.toList then
      .ok (replaceKeys (entries.map fun e => (e.1, (escapeText? e.2).getD "")) s)
    else .error .badType
  | v =>
    match v.escapeKeys? with
    | some keys =>
      if keys.any fun k => Text.occurs k.toList s.toList then .error .badType else .ok s
    | none => .error .badType

/-- The escape operand that counts: the mapping of the dialect in place of null. -/
def effectiveEscape (d : Dialect) (escape : Value) : Value :=
  match escape with
  | .null => .map (d.likeEscapes.map fun e => (e.1, .text e.2))
  | v => v

/-- The escape operand has keys for every value that it is asked for: one that can be gone through
only once has them for a single value, and expressions do not ask. -/
def servesAll (escape : Value) (values : List Value) : Bool :=
  match escape with
  | .stream _ => (values.filter fun | .expr _ => false | _ => true).length ≤ 1
  | _ => true

/-- The pattern for one value. -/
def patternFragment (escape : Value) (v : Value) : Except Error Fragment :=
  match v with
  | .expr e => .ok (.ofExpression e)
  | v =>
    if escape.isTruthy then do
      return .bound (.text ("%" ++ (← escapeBy escape v.shown) ++ "%"))
    else .ok (.bound v)

/-- The words of a pattern operator as the dialect knows them: case is not ignored where the
database has no word for that. -/
def Dialect.likeOperator (d : Dialect) (words : String) : String :=
  if d.ilike then words
  else String.ofList (Text.replace ['I', 'L', 'I', 'K', 'E'] ['L', 'I', 'K', 'E'] words.toList)

/-- The declaration of the escape character, where the dialect has one. -/
def Dialect.escapeClause (d : Dialect) : String :=
  match d.likeEscape? with
  | some c => if c.isEmpty then "" else " ESCAPE '" ++ c ++ "'"
  | none => ""

/-- A column against the pattern of each value. Without values a test for any match fails, and a
test that nothing matches is no condition. -/
def likeFragment (d : Dialect) (any negated caseless : Bool) (column values escape : Value) :
    Except Error Fragment := do
  if values.members.isEmpty then
    return if negated then .empty else .ofText "0=1"
  let name := columnFragment d column
  let words := d.likeOperator (likeWords negated caseless)
  let escape := effectiveEscape d escape
  if !servesAll escape values.members then throw .badType
  let patterns ← values.members.mapM (patternFragment escape)
  let tests := patterns.map fun p =>
    name.textOnly ++ .ofText (" " ++ words ++ " ") ++ p ++ .ofText d.escapeClause
  return ⟨name.steps, []⟩ ++ .join (if any then " OR " else " AND ") tests

end SqlLoom
