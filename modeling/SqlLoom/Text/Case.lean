import SqlLoom.Text.CaseTable
import SqlLoom.Text.Word

/-!
# `SqlLoom.Text.Case`: upper and lower case

The full case maps of Unicode: one character may become several (`ß` is `SS` in capitals), and a
capital sigma becomes the final small sigma at the end of a word. `sameLetter` compares with one
ASCII letter regardless of case; the long s counts as an `s`.
-/

set_option autoImplicit false

namespace SqlLoom.Text

/-- The run holds the character `c`. -/
def CaseRun.holds (r : CaseRun) (c : Char) : Bool :=
  r.first ≤ c.toNat && c.toNat ≤ r.last && (c.toNat - r.first) % r.step == 0

/-- The character that a run of the tables assigns to `c`. -/
def shifted (runs : List CaseRun) (c : Char) : Option Char :=
  (runs.find? (·.holds c)).map fun r => Char.ofNat ((c.toNat : Int) + r.shift).toNat

/-- The several characters that a table assigns to `c`. -/
def sequence (table : List (Nat × List Nat)) (c : Char) : Option (List Char) :=
  (table.find? fun e => e.1 == c.toNat).map fun e => e.2.map Char.ofNat

/-- The upper case of one character. -/
def upperChar (c : Char) : List Char :=
  if c.toNat < 128 then [c.toUpper]
  else match sequence upperSequences c with
    | some s => s
    | none => [(shifted upperRuns c).getD c]

/-- The lower case of one character, the final sigma apart. -/
def lowerChar (c : Char) : List Char :=
  if c.toNat < 128 then [c.toLower]
  else match sequence lowerSequences c with
    | some s => s
    | none => [(shifted lowerRuns c).getD c]

/-- The text in capitals. -/
def upper (s : List Char) : List Char := s.flatMap upperChar

/-- Whether the first character that is not passed over has case. -/
def casedAhead : List Char → Bool
  | [] => false
  | c :: rest => if inRanges passedRanges c then casedAhead rest else inRanges casedRanges c

/-- The lower case of a text that follows a letter (`afterLetter`) or does not. A capital sigma
after a letter and before none is final. -/
def lowerAfter (afterLetter : Bool) : List Char → List Char
  | [] => []
  | c :: rest =>
    let here :=
      if c == 'Σ' then (if afterLetter && !casedAhead rest then ['ς'] else ['σ']) else lowerChar c
    let letter := if inRanges passedRanges c then afterLetter else inRanges casedRanges c
    here ++ lowerAfter letter rest

/-- The text in small letters. -/
def lower (s : List Char) : List Char := lowerAfter false s

/-- Whether `c` is the ASCII letter `letter` (given as a small one) in any case. -/
def sameLetter (letter c : Char) : Bool :=
  c.toLower == letter || (letter == 's' && c == 'ſ')

/-- What follows the ASCII word `word` (given in small letters) at the start of a text, if it
stands there in any case. -/
def afterWord : List Char → List Char → Option (List Char)
  | [], s => some s
  | _ :: _, [] => none
  | w :: word, c :: rest => if sameLetter w c then afterWord word rest else none

end SqlLoom.Text
