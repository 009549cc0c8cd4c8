import SqlLoom.Text.WordTable

/-!
# `SqlLoom.Text.Word`: word characters

A word character is a letter, a number or the underscore. Names in templates, sized column types
and parameter markers are runs of word characters.
-/

set_option autoImplicit false

namespace SqlLoom.Text

/-- The code point of `c` lies in one of the closed ranges. -/
def inRanges (ranges : List (Nat × Nat)) (c : Char) : Bool :=
  ranges.any fun r => r.1 ≤ c.toNat && c.toNat ≤ r.2

/-- A letter, a number or the underscore. -/
def isWord (c : Char) : Bool :=
  c.isAlphanum || c == '_' || (128 ≤ c.toNat && inRanges wordRanges c)

end SqlLoom.Text
