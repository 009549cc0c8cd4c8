import SqlLoom.Text.Integer

/-!
# `SqlLoom.Text.Decimal`: reading decimal numbers

`readDecimal?` reads a decimal number (`1.5`, `-0.0`, `1e+16`) as a fraction, exactly, and
`truncate` cuts a fraction to its whole part.
-/

set_option autoImplicit false

namespace SqlLoom.Text

/-- The number `mantissa * 10 ^ exponent` as a fraction. -/
def scaled (mantissa : Int) (exponent : Int) : Rat :=
  if 0 ≤ exponent then mkRat (mantissa * Nat.pow 10 exponent.toNat) 1
  else mkRat mantissa (Nat.pow 10 (-exponent).toNat)

/-- Reads a decimal number with optional sign, places and exponent. Infinities and what is not a
number have no fraction. -/
def readDecimal? (s : List Char) : Option Rat := do
  let (negative, unsigned) := match s with
    | '-' :: rest => (true, rest)
    | rest => (false, rest)
  let whole := unsigned.takeWhile (·.isDigit)
  let rest := unsigned.dropWhile (·.isDigit)
  let (places, rest) := match rest with
    | '.' :: rest => (rest.takeWhile (·.isDigit), rest.dropWhile (·.isDigit))
    | rest => ([], rest)
  let exponent ← match rest with
    | [] => some 0
    | 'e' :: rest => readInt? rest
    | _ => none
  let n ← readNat? (whole ++ places)
  let mantissa : Int := if negative then -n else n
  return scaled mantissa (exponent - places.length)

/-- The whole part of a fraction, towards zero. -/
def truncate (q : Rat) : Int := q.num.tdiv q.den

end SqlLoom.Text
