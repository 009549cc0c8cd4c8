/-!
# `SqlLoom.Text.Search`: finding, splitting and replacing

Plain searches in a text: `occurs` for a substring, `splitAt` and `splitAtLast` for one
separating character, `replace` for every occurrence of a text from left to right, and
`replaceChar` for a single character. `substitute` replaces by a table of keys in one pass: at
each place the longest key that stands there wins, and what has been put in is not read again.
-/

set_option autoImplicit false

namespace SqlLoom.Text

/-- The text `key` stands somewhere in the second argument. -/
def occurs (key : List Char) : List Char → Bool
  | [] => key.isEmpty
  | c :: rest => key.isPrefixOf (c :: rest) || occurs key rest

/-- The parts of a text between the occurrences of one character; there is one part more than
there are occurrences. -/
def splitAt (sep : Char) : List Char → List (List Char)
  | [] => [[]]
  | c :: rest =>
    if c = sep then [] :: splitAt sep rest
    else match splitAt sep rest with
      | [] => [[c]]
      | part :: parts => (c :: part) :: parts

/-- The text before and after the first occurrence of a character, if there is one. -/
def splitAtFirst (sep : Char) : List Char → Option (List Char × List Char)
  | [] => none
  | c :: rest =>
    if c = sep then some ([], rest)
    else (splitAtFirst sep rest).map fun p => (c :: p.1, p.2)

/-- The text before and after the last occurrence of a character, if there is one. -/
def splitAtLast (sep : Char) : List Char → Option (List Char × List Char)
  | [] => none
  | c :: rest =>
    match splitAtLast sep rest with
    | some (before, after) => some (c :: before, after)
    | none => if c = sep then some ([], rest) else none

/-- The parts joined by a separating text. -/
def join (sep : List Char) (parts : List (List Char)) : List Char :=
  List.intercalate sep parts

/-- Every occurrence of the character `c` gives way to the text `new`. -/
def replaceChar (c : Char) (new : List Char) (s : List Char) : List Char :=
  s.flatMap fun d => if d = c then new else [d]

/-- `replace` on a text whose first `skip` characters belong to an occurrence already
replaced. -/
def replaceFrom (old new : List Char) : Nat → List Char → List Char
  | _, [] => []
  | skip + 1, _ :: rest => replaceFrom old new skip rest
  | 0, c :: rest =>
    if old.isPrefixOf (c :: rest) then new ++ replaceFrom old new (old.length - 1) rest
    else c :: replaceFrom old new 0 rest

/-- Every occurrence of the non-empty text `old` gives way to `new`, from left to right and
without overlap. -/
def replace (old new : List Char) (s : List Char) : List Char := replaceFrom old new 0 s

/-! ### Replacing by a table -/

/-- What to put for the key that stands at the start of `s`, and the length of that key. Of
several keys the first of the table is taken. -/
def keyAt (table : List (List Char × List Char)) (s : List Char) : Option (Nat × List Char) :=
  (table.find? fun entry => entry.1.isPrefixOf s).map fun entry => (entry.1.length, entry.2)

/-- `substitute` over a table already in order, on a text whose first `skip` characters belong
to a key already replaced. The empty key stands before every character at which no other key
does, and at the end. -/
def substituteFrom (table : List (List Char × List Char)) : Nat → List Char → List Char
  | _, [] =>
    match keyAt table [] with
    | some (_, new) => new
    | none => []
  | skip + 1, _ :: rest => substituteFrom table skip rest
  | 0, c :: rest =>
    match keyAt table (c :: rest) with
    | some (0, new) => new ++ c :: substituteFrom table 0 rest
    | some (size + 1, new) => new ++ substituteFrom table size rest
    | none => c :: substituteFrom table 0 rest

/-- Replaces the keys of `table` in one pass, the longest key first. -/
def substitute (table : List (List Char × List Char)) (s : List Char) : List Char :=
  if table.isEmpty then s
  else substituteFrom (table.mergeSort fun a b => b.1.length ≤ a.1.length) 0 s

end SqlLoom.Text
