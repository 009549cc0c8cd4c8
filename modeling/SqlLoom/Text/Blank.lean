/-!
# `SqlLoom.Text.Blank`: white space

White space is the Unicode class: the ASCII blanks, the four information separators, the no-break
and typographic spaces, and the line and paragraph separators. On it rest the trimming of names
(`trim`) and the reading of an operator as a run of words (`words`).

Texts are lists of characters in all modules under `Text`, so that a function on them is a
recursion on the list; `String.toList` and `String.ofList` stand where a text enters or leaves.
-/

set_option autoImplicit false

namespace SqlLoom.Text

/-- White space. -/
def isBlank (c : Char) : Bool :=
  let n := c.toNat
  (9 ≤ n && n ≤ 13) || (28 ≤ n && n ≤ 32) || n == 0x85 || n == 0xA0 || n == 0x1680
    || (0x2000 ≤ n && n ≤ 0x200A) || n == 0x2028 || n == 0x2029 || n == 0x202F || n == 0x205F
    || n == 0x3000

/-- The text without the characters of a kind at its start. -/
def trimStartOf (blank : Char → Bool) (s : List Char) : List Char := s.dropWhile blank

/-- The text without the characters of a kind at its end. -/
def trimEndOf (blank : Char → Bool) (s : List Char) : List Char :=
  (s.reverse.dropWhile blank).reverse

/-- The text without the characters of a kind at either end. -/
def trimOf (blank : Char → Bool) (s : List Char) : List Char :=
  trimEndOf blank (trimStartOf blank s)

/-- The text without the white space at its start. -/
def trimStart (s : List Char) : List Char := trimStartOf isBlank s

/-- The text without the white space at its end. -/
def trimEnd (s : List Char) : List Char := trimEndOf isBlank s

/-- The text without the white space at either end. -/
def trim (s : List Char) : List Char := trimEnd (trimStart s)

/-- The words of `s` after the letters `open_` of an unfinished word, last letter first. -/
def wordsAfter (open_ : List Char) : List Char → List (List Char)
  | [] => if open_.isEmpty then [] else [open_.reverse]
  | c :: rest =>
    if isBlank c then
      if open_.isEmpty then wordsAfter [] rest else open_.reverse :: wordsAfter [] rest
    else wordsAfter (c :: open_) rest

/-- The maximal runs of characters that are not white space, in order. -/
def words (s : List Char) : List (List Char) := wordsAfter [] s

end SqlLoom.Text
