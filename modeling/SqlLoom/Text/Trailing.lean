import SqlLoom.Text.Blank
import SqlLoom.Text.Case
import SqlLoom.Text.Word

/-!
# `SqlLoom.Text.Trailing`: what stands at the end of a line

A select item may end in an alias, a source too, and an ordering key in a direction. Each is cut
off at the first place of the line from which the rest has the right shape (`splitLine`), so the
part in front is as short as can be. The shapes are `aliasTail`, `sourceAliasTail` and
`directionTail`.
-/

set_option autoImplicit false

namespace SqlLoom.Text

/-- The shortest part of the first line after which the rest has the shape `tail`, and what `tail`
reads there. -/
def splitLine {α : Type} (tail : List Char → Option α) : List Char → Option (List Char × α)
  | [] => (tail []).map fun a => ([], a)
  | c :: rest =>
    match tail (c :: rest) with
    | some a => some ([], a)
    | none =>
      if c = '\n' then none else (splitLine tail rest).map fun p => (c :: p.1, p.2)

/-- What follows the white space at the start, if there is any. -/
def afterBlanks : List Char → Option (List Char)
  | [] => none
  | c :: rest => if isBlank c then some (trimStart rest) else none

/-- The end of a text, before or after a last line break. -/
def isEnd (s : List Char) : Bool := s == [] || s == ['\n']

/-- A character of an alias in a select list. -/
def isAliasChar (c : Char) : Bool := isWord c || c == '-' || c == '.'

/-- An alias that reaches to the end. -/
def aliasToEnd (s : List Char) : Option (List Char) :=
  let name := s.takeWhile isAliasChar
  if !name.isEmpty && isEnd (s.dropWhile isAliasChar) then some name else none

/-- White space and then an alias, with or without AS in front of it. -/
def aliasTail (s : List Char) : Option (List Char) := do
  let rest ← afterBlanks s
  let named := do aliasToEnd (← afterBlanks (← afterWord ['a', 's'] rest))
  named <|> aliasToEnd rest

/-- White space and then an alias of a source, which is anything without a space. Where there is
nothing but white space its last character is the alias. -/
def sourceAlias (s : List Char) : Option (List Char) := do
  let rest ← afterBlanks s
  let name := if rest.isEmpty then (s.drop 1).drop (s.length - 2) else rest
  if !name.isEmpty && !name.contains ' ' then some name else none

/-- An alias of a source, with or without AS in front of it. -/
def sourceAliasTail (s : List Char) : Option (List Char) :=
  let named := do sourceAlias (← afterWord ['a', 's'] (← afterBlanks s))
  named <|> sourceAlias s

/-- White space and then a direction: true for a descending one. -/
def directionTail (s : List Char) : Option Bool := do
  let rest ← afterBlanks s
  let asc := (afterWord ['a', 's', 'c'] rest).filter isEnd
  let desc := (afterWord ['d', 'e', 's', 'c'] rest).filter isEnd
  (asc.map fun _ => false) <|> (desc.map fun _ => true)

end SqlLoom.Text
