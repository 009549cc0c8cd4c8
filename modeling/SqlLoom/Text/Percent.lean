/-!
# `SqlLoom.Text.Percent`: percent escapes

A percent sign with two hexadecimal digits stands for an octet. Consecutive escapes are the UTF-8
encoding of characters (`unescape`); octets that encode none become replacement characters, one for
each broken encoding. In a query part a plus sign stands for a blank (`unescapeQuery`).
-/

set_option autoImplicit false

namespace SqlLoom.Text

/-- The value of a hexadecimal digit. -/
def hexValue? (c : Char) : Option Nat :=
  let n := c.toNat
  if 48 ≤ n && n ≤ 57 then some (n - 48)
  else if 65 ≤ n && n ≤ 70 then some (n - 55)
  else if 97 ≤ n && n ≤ 102 then some (n - 87)
  else none

/-- The octet of an escape with the two given digits. -/
def escapedOctet? (high low : Char) : Option UInt8 := do
  return .ofNat (16 * (← hexValue? high) + (← hexValue? low))

/-- The one character that octets encode, if they encode one. -/
def encodedChar? (octets : List UInt8) : Option Char :=
  (String.fromUTF8? ⟨octets.toArray⟩).bind fun s =>
    match s.toList with
    | [c] => some c
    | _ => none

/-- The octets are the beginning of the encoding of some character. If they are the beginning of
any, they are that of one that ends in octets which are all the least or all the greatest. -/
def startsChar (octets : List UInt8) : Bool :=
  [1, 2, 3].any fun n => [0x80, 0xBF].any fun last =>
    (encodedChar? (octets ++ List.replicate n last)).isSome

/-- The number of octets that count as one broken character: as many as begin an encoding, or else
one. -/
def brokenLength (octets : List UInt8) : Nat :=
  ([3, 2].find? fun n => n ≤ octets.length && startsChar (octets.take n)).getD 1

/-- The characters that octets encode. A broken one becomes a replacement character; `fuel` bounds
the number of octets. -/
def decodeOctets : Nat → List UInt8 → List Char
  | 0, _ => []
  | _, [] => []
  | fuel + 1, octets =>
    let encoded := [4, 3, 2, 1].findSome? fun n =>
      (encodedChar? (octets.take n)).map fun c => (c, n)
    match encoded with
    | some (c, n) => c :: decodeOctets fuel (octets.drop n)
    | none => '\uFFFD' :: decodeOctets fuel (octets.drop (brokenLength octets))

/-- The characters of octets. -/
def ofOctets (octets : List UInt8) : List Char := decodeOctets octets.length octets

/-- `unescape` after the octets of the escapes read so far, in reverse. -/
def unescapeAfter (octets : List UInt8) : List Char → List Char
  | '%' :: high :: low :: rest =>
    match escapedOctet? high low with
    | some octet => unescapeAfter (octet :: octets) rest
    | none => ofOctets octets.reverse ++ '%' :: unescapeAfter [] (high :: low :: rest)
  | c :: rest => ofOctets octets.reverse ++ c :: unescapeAfter [] rest
  | [] => ofOctets octets.reverse

/-- The text with its percent escapes resolved. -/
def unescape (s : List Char) : List Char := unescapeAfter [] s

/-- The text of a query part with its escapes resolved. -/
def unescapeQuery (s : List Char) : List Char :=
  unescape (s.map fun c => if c = '+' then ' ' else c)

end SqlLoom.Text
