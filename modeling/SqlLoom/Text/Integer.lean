import SqlLoom.Text.Blank

/-!
# `SqlLoom.Text.Integer`: whole numbers in text

`readInt?` reads a text as a whole number: blanks around it are ignored, one sign may lead, the
digits may be those of any script, and single underscores may stand between digits. A number of
more than 4300 digits is not read. What is written (`Value.shown`) has no such limit.
-/

set_option autoImplicit false

namespace SqlLoom.Text

/-- The zeros of the scripts that have decimal digits; nine more digits follow each. -/
def digitZeros : List Nat := [
  0x30,
  0x660, 0x6F0, 0x7C0, 0x966, 0x9E6, 0xA66, 0xAE6, 0xB66, 0xBE6, 0xC66, 0xCE6, 0xD66, 0xDE6,
  0xE50, 0xED0, 0xF20, 0x1040, 0x1090, 0x17E0, 0x1810, 0x1946, 0x19D0, 0x1A80, 0x1A90, 0x1B50,
  0x1BB0, 0x1C40, 0x1C50, 0xA620, 0xA8D0, 0xA900, 0xA9D0, 0xA9F0, 0xAA50, 0xABF0, 0xFF10,
  0x104A0, 0x10D30, 0x11066, 0x110F0, 0x11136, 0x111D0, 0x112F0, 0x11450, 0x114D0, 0x11650,
  0x116C0, 0x11730, 0x118E0, 0x11950, 0x11C50, 0x11D50, 0x11DA0, 0x16A60, 0x16AC0, 0x16B50,
  0x1D7CE, 0x1D7D8, 0x1D7E2, 0x1D7EC, 0x1D7F6, 0x1E140, 0x1E2F0, 0x1E950, 0x1FBF0]

/-- The value of a decimal digit of any script. -/
def digitValue? (c : Char) : Option Nat :=
  (digitZeros.find? fun first => first ≤ c.toNat && c.toNat < first + 10).map fun first =>
    c.toNat - first

/-- The most digits of a number that is read. -/
def maxDigits : Nat := 4300

/-- Digits with single underscores between them, as the list of their values. -/
def digits? : List Char → Option (List Nat)
  | [] => none
  | [c] => (digitValue? c).map ([·])
  | c :: '_' :: rest => do return (← digitValue? c) :: (← digits? rest)
  | c :: rest => do return (← digitValue? c) :: (← digits? rest)

/-- The number that decimal digits denote, the first being the most significant. -/
def ofDigits (ds : List Nat) : Nat := ds.foldl (fun n d => 10 * n + d) 0

/-- One of the four information separators. -/
def isSeparator (c : Char) : Bool := 28 ≤ c.toNat && c.toNat ≤ 31

/-- White space but for the information separators. -/
def isPlainBlank (c : Char) : Bool := isBlank c && !isSeparator c

/-- A blank that may stand around the number in `s`. Information separators are blanks only in a
text that has characters beyond ASCII. -/
def isBlankAround (s : List Char) (c : Char) : Bool :=
  if s.any fun x => 127 < x.toNat then isBlank c else isPlainBlank c

/-- The unsigned number that a text denotes. -/
def readNat? (s : List Char) : Option Nat := do
  let ds ← digits? s
  if ds.length ≤ maxDigits then some (ofDigits ds) else none

/-- The whole number that a text denotes. -/
def readInt? (s : List Char) : Option Int :=
  let bare := trimOf (isBlankAround s) s
  match bare with
  | '-' :: rest => (readNat? rest).map fun n => -(n : Int)
  | '+' :: rest => (readNat? rest).map fun n => (n : Int)
  | _ => (readNat? bare).map fun n => (n : Int)

end SqlLoom.Text
