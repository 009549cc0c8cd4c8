import SqlLoom.Text.Numeral
import SqlLoom.Text.Whole
import SqlLoom.Value

/-!
# `SqlLoom.Value.Lenient`: reading a field of a fixed type

The fields of a record have types, and a value of a neighbouring kind is accepted where it stands
for one of the right kind: a truth value may be given as 0 and 1 or as one of a few words, a whole
number as a truth value, as text or as a float without places, and text as octets.
-/

set_option autoImplicit false

namespace SqlLoom.Value

/-- A field of type text. -/
def asText? (v : Value) : Option String :=
  match v with
  | .bytes octets => String.fromUTF8? ⟨octets.toArray⟩
  | v => v.text?

/-- The words for true and false. -/
def boolOfWord? (word : String) : Option Bool :=
  let small := word.toList.map Char.toLower
  if ["1", "on", "t", "true", "y", "yes"].any (·.toList == small) then some true
  else if ["0", "off", "f", "false", "n", "no"].any (·.toList == small) then some false
  else none

/-- A field that is a truth value. -/
def asBool? (v : Value) : Option Bool :=
  match v with
  | .bool b => some b
  | .int 0 => some false
  | .int 1 => some true
  | .float numeral =>
    match numeral.toRat? with
    | some q => if q = 0 then some false else if q = 1 then some true else none
    | none => none
  | v => v.asText?.bind boolOfWord?

/-- The bound of the floating-point numbers that stand for whole numbers. -/
def wholeBound : Nat := Nat.pow 2 63

/-- The whole number that a floating-point number is, if it is one within bounds. -/
def wholeOfNumeral? (numeral : Text.Numeral) : Option Int := do
  let q := Text.toFloat (← numeral.toRat?)
  if q.den = 1 && q.num.natAbs < wholeBound then some q.num else none

/-- A field that is a whole number. -/
def asInt? (v : Value) : Option Int :=
  match v with
  | .int n => some n
  | .bool b => some (if b then 1 else 0)
  | .float numeral => wholeOfNumeral? numeral
  | v => v.asText?.bind fun s => Text.readWhole? s.toList

/-- A field that may be null. -/
def optional {α : Type} (read : Value → Option α) (v : Value) : Option (Option α) :=
  match v with
  | .null => some none
  | v => (read v).map some

end SqlLoom.Value
