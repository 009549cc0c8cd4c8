import SqlLoom.Text.PrintableTable
import SqlLoom.Text.Word

/-!
# `SqlLoom.Text.Quoted`: text shown inside other text

`quoted` shows a text, and `quotedOctets` a string of octets, in quotes with escapes, the way
messages and rendered lists show them. Single quotes are used unless the text has a single quote
and no double quote. A backslash escapes itself and the quote in use; characters without a
visible form are written by number.
-/

set_option autoImplicit false

namespace SqlLoom.Text

/-- A hexadecimal digit in small letters. -/
def hexDigit (n : Nat) : Char := if n < 10 then Char.ofNat (48 + n) else Char.ofNat (87 + n)

/-- The last `width` hexadecimal digits of `n`. -/
def hex : Nat → Nat → List Char
  | 0, _ => []
  | width + 1, n => hex width (n / 16) ++ [hexDigit (n % 16)]

/-- The character has a visible form (or is the ASCII space). -/
def isPrintable (c : Char) : Bool :=
  if c.toNat < 128 then 32 ≤ c.toNat && c.toNat ≠ 127 else !inRanges hiddenRanges c

/-- The quote that a text is shown in. -/
def quoteFor (s : List Char) : Char := if s.contains '\'' && !s.contains '"' then '"' else '\''

/-- A character as it stands between quotes `q`. -/
def escaped (q c : Char) : List Char :=
  if c == q || c == '\\' then ['\\', c]
  else if c == '\t' then ['\\', 't']
  else if c == '\n' then ['\\', 'n']
  else if c == '\r' then ['\\', 'r']
  else if isPrintable c then [c]
  else if c.toNat < 0x100 then ['\\', 'x'] ++ hex 2 c.toNat
  else if c.toNat < 0x10000 then ['\\', 'u'] ++ hex 4 c.toNat
  else ['\\', 'U'] ++ hex 8 c.toNat

/-- The text in quotes. -/
def quoted (s : List Char) : List Char :=
  let q := quoteFor s
  q :: s.flatMap (escaped q) ++ [q]

/-- Octets in quotes after a `b`; only ASCII stands as itself. -/
def quotedOctets (octets : List UInt8) : List Char :=
  let s := octets.map fun o => Char.ofNat o.toNat
  let q := quoteFor s
  let shown (c : Char) : List Char :=
    if 128 ≤ c.toNat then ['\\', 'x'] ++ hex 2 c.toNat else escaped q c
  'b' :: q :: s.flatMap shown ++ [q]

end SqlLoom.Text
