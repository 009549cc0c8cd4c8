import SqlLoom.Text.Decimal

/-!
# `SqlLoom.Text.Numeral`: floating-point numbers in canonical text

A floating-point number has a significand of 53 bits and an exponent of 2 that is at least -1074.
Its canonical numeral has the fewest digits that read back as the same number, and of those texts
the nearest one. It is positional from 0.0001 up to 10 ^ 16 and has an exponent of at least two
digits elsewhere: `1.5`, `100000.0`, `1e+16`, `1e-05`.

`nearestFloat` rounds a fraction to a floating-point number, `shortest` finds the digits, and
`numeral` writes them. All of it is exact arithmetic on fractions. A `Numeral` is a text that is
written so, or one of the four that no fraction has.
-/

set_option autoImplicit false

namespace SqlLoom.Text

/-! ### Rounding -/

/-- A power of two. -/
def powTwo (e : Int) : Rat :=
  if 0 ≤ e then mkRat (Nat.pow 2 e.toNat) 1 else mkRat 1 (Nat.pow 2 (-e).toNat)

/-- A power of ten. -/
def powTen (e : Int) : Rat := scaled 1 e

/-- The nearest whole number, the even one of two. -/
def roundEven (q : Rat) : Int :=
  let low := q.floor
  let rest := q - low
  if rest < 1 / 2 then low
  else if 1 / 2 < rest then low + 1
  else if low % 2 = 0 then low else low + 1

/-- The exponent of two of the last significant bit of a positive fraction. -/
def lastBit (q : Rat) : Int :=
  let guess : Int := (Nat.log2 q.num.natAbs : Int) - Nat.log2 q.den
  let top := if q < powTwo guess then guess - 1 else guess
  max (top - 52) (-1074)

/-- The least significand of 53 bits. -/
def leastFull : Nat := Nat.pow 2 52

/-- A positive floating-point number: `significand * 2 ^ exponent`. -/
structure Binary where
  significand : Nat
  exponent : Int

/-- The value of a floating-point number. -/
def Binary.value (b : Binary) : Rat := b.significand * powTwo b.exponent

/-- The nearest floating-point number to a positive fraction. A significand that rounds up to one
bit more is halved. -/
def nearestFloat (q : Rat) : Binary :=
  let e := lastBit q
  let m := (roundEven (q / powTwo e)).toNat
  if m = 2 * leastFull then ⟨leastFull, e + 1⟩ else ⟨m, e⟩

/-- The value of the floating-point number nearest to a fraction. -/
def toFloat (q : Rat) : Rat :=
  if q = 0 then 0 else if q < 0 then -(nearestFloat (-q)).value else (nearestFloat q).value

/-! ### The shortest digits -/

/-- The exponent of ten of the first digit of a positive fraction. -/
def firstDigit (q : Rat) : Int :=
  let guess : Int := ((toString q.num).length : Int) - (toString q.den).length
  if q < powTen guess then guess - 1 else guess

/-- The number is what a fraction rounds to. Half a step up is one, half a step down is shorter
where the significand is the least of its exponent; an even significand takes the ends. -/
def Binary.takes (b : Binary) (q : Rat) : Bool :=
  let step := powTwo b.exponent
  let below := if b.significand = leastFull && -1074 < b.exponent then step / 4 else step / 2
  let low := b.value - below
  let high := b.value + step / 2
  if b.significand % 2 = 0 then low ≤ q && q ≤ high else low < q && q < high

/-- The whole number `n` for which `n * 10 ^ place` is nearest to the number among those that round
to it, if there is one. -/
def Binary.onGrid (b : Binary) (place : Int) : Option Nat :=
  let step := powTen place
  let low := (b.value / step).floor.toNat
  let near := fun n : Nat => (b.value - n * step).abs
  match [low, low + 1].filter fun n : Nat => b.takes (n * step) with
  | [n] => some n
  | [n, k] => some (if near n < near k || (near n = near k && n % 2 = 0) then n else k)
  | _ => none

/-- The fewest digits that read back, and the exponent of ten of the last one. Seventeen digits
always suffice. -/
def shortest (b : Binary) : Nat × Int :=
  let first := firstDigit b.value
  let tried := (List.range 17).findSome? fun (n : Nat) =>
    (b.onGrid (first - n)).map fun digits => (digits, first - (n : Int))
  tried.getD (b.significand, 0)

/-! ### Writing -/

/-- Digits without the zeros at the end. -/
def dropZeros (digits : List Char) : List Char := (digits.reverse.dropWhile (· == '0')).reverse

/-- A decimal exponent with its sign and at least two digits. -/
def exponentText (e : Int) : List Char :=
  let digits := (toString e.natAbs).toList
  (if e < 0 then '-' else '+') :: (if digits.length < 2 then '0' :: digits else digits)

/-- Significant digits as a numeral, with the decimal point after the first `point` of them. -/
def placeDigits (digits : List Char) (point : Int) : List Char :=
  if -4 < point && point ≤ 16 then
    if point ≤ 0 then '0' :: '.' :: (List.replicate (-point).toNat '0' ++ digits)
    else
      let whole := digits.take point.toNat
      let places := digits.drop point.toNat
      whole ++ List.replicate (point.toNat - whole.length) '0'
        ++ '.' :: (if places.isEmpty then ['0'] else places)
  else
    digits.take 1 ++ (if digits.length = 1 then [] else '.' :: digits.drop 1)
      ++ 'e' :: exponentText (point - 1)

/-- The numeral of the floating-point number nearest to a positive fraction. -/
def positiveNumeral (q : Rat) : List Char :=
  let b := nearestFloat q
  if b.significand = 0 then "0.0".toList
  else if powTwo 1024 ≤ b.value then "inf".toList
  else
    let (n, place) := shortest b
    let digits := (toString n).toList
    placeDigits (dropZeros digits) (digits.length + place)

/-- The numeral of the floating-point number nearest to a fraction. -/
def numeral (q : Rat) : List Char :=
  if q = 0 then "0.0".toList
  else if q < 0 then '-' :: positiveNumeral (-q)
  else positiveNumeral q

/-! ### Numerals -/

/-- The numerals that no fraction has. -/
def specialNumerals : List String := ["nan", "inf", "-inf", "-0.0"]

/-- A floating-point number, as its canonical numeral. -/
structure Numeral where
  text : String
  canonical : text ∈ specialNumerals ∨ ∃ q : Rat, text = String.ofList (numeral q)

namespace Numeral

/-- The floating-point number nearest to a fraction. -/
def ofRat (q : Rat) : Numeral := ⟨String.ofList (numeral q), .inr ⟨q, rfl⟩⟩

/-- The floating-point number that a text denotes, if it denotes one. Zero keeps its sign. -/
def ofText? (s : String) : Option Numeral :=
  if h : s ∈ specialNumerals then some ⟨s, .inl h⟩
  else (readDecimal? s.toList).map fun q =>
    if q = 0 && s.toList.head? = some '-' then ⟨"-0.0", .inl (by decide)⟩ else ofRat q

/-- The fraction that a floating-point number is. Infinities and what is not a number have none. -/
def toRat? (n : Numeral) : Option Rat := readDecimal? n.text.toList

end Numeral

end SqlLoom.Text
