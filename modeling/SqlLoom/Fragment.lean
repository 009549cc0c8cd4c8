import SqlLoom.ParamTable

/-!
# `SqlLoom.Fragment`: SQL before its parameters have names

Compilation does not touch a parameter table. It yields a `Fragment`: the steps to take on a table,
in order, and the text as pieces, with a `slot` wherever the name of a generated parameter belongs.
The n-th slot takes the name that the n-th `add` step gives. `Fragment.bind` runs the steps on a
table and fills the slots.

So what a description compiles to does not depend on the parameters that are there already, nor on
the mark of generated names: the same steps and the same pieces serve for all of them.
-/

set_option autoImplicit false

namespace SqlLoom

/-- One write to a parameter table. -/
inductive TableStep where
  /-- Store a value under a fresh name. -/
  | add (v : Value)
  /-- Take over named parameters. -/
  | merge (params : Entries Value)

/-- One piece of SQL text. -/
inductive Piece where
  | text (s : String)
  /-- The place of a generated name. -/
  | slot

/-- SQL text with slots, and the table steps that give the names for them. -/
structure Fragment where
  steps : List TableStep
  pieces : List Piece

namespace Fragment

/-- The fragment without text and steps. -/
def empty : Fragment := ⟨[], []⟩

instance : Inhabited Fragment := ⟨empty⟩

/-- Plain text. -/
def ofText (s : String) : Fragment := ⟨[], [.text s]⟩

/-- A value bound under a fresh name, whose place this is. -/
def bound (v : Value) : Fragment := ⟨[.add v], [.slot]⟩

/-- Named parameters taken over without text. -/
def merging (params : Entries Value) : Fragment := ⟨[.merge params], []⟩

/-- A raw expression: its parameters are taken over and its text stands as it is. -/
def ofExpression (e : Expression) : Fragment := ⟨[.merge e.params], [.text e.text]⟩

/-- One fragment after another, in text and in steps. -/
def append (f g : Fragment) : Fragment := ⟨f.steps ++ g.steps, f.pieces ++ g.pieces⟩

instance : Append Fragment := ⟨append⟩

/-- The text of `g` after that of `f`, the steps of `g` before those of `f`. Slots keep their
names only where `f` has none. -/
def afterStepsOf (f g : Fragment) : Fragment := ⟨g.steps ++ f.steps, f.pieces ++ g.pieces⟩

/-- The fragments one after another. -/
def concat (fs : List Fragment) : Fragment := ⟨fs.flatMap steps, fs.flatMap pieces⟩

/-- The fragments one after another with a text between them. -/
def join (sep : String) (fs : List Fragment) : Fragment :=
  concat (fs.intersperse (ofText sep))

/-- The fragment in parentheses. -/
def parens (f : Fragment) : Fragment := ofText "(" ++ f ++ ofText ")"

/-- There is no text, whatever the names are: a generated name is never empty. -/
def isEmpty (f : Fragment) : Bool :=
  f.pieces.all fun
    | .text s => s.isEmpty
    | .slot => false

/-- Only the text, without the table steps. -/
def textOnly (f : Fragment) : Fragment := ⟨[], f.pieces⟩

/-- Only the table steps, without the text. -/
def withoutText (f : Fragment) : Fragment := ⟨f.steps, []⟩

/-- The fragments that have text, with a text between them. The steps of all are taken. -/
def joinShown (sep : String) (fs : List Fragment) : Fragment :=
  ⟨fs.flatMap steps, (join sep (fs.filter fun f => !f.isEmpty)).pieces⟩

/-- The fragments that have text, each in parentheses, with an operator between them. -/
def grouped (op : String) (fs : List Fragment) : Fragment :=
  let body := joinShown (") " ++ op ++ " (") fs
  if body.isEmpty then body else body.parens

/-- A keyword in front of a fragment that has text. -/
def headed (keyword : String) (f : Fragment) : Fragment :=
  if f.isEmpty then f else ofText (keyword ++ " ") ++ f

/-! ### Filling the slots -/

/-- Runs table steps; gives the names of the `add` steps in order, and the table. -/
def run : List TableStep → ParamTable → List String × ParamTable
  | [], t => ([], t)
  | .add v :: rest, t =>
    let (name, t') := t.add v
    let (names, t'') := run rest t'
    (name :: names, t'')
  | .merge params :: rest, t => run rest (t.merge params)

/-- The text with names in the slots. -/
def fill : List Piece → List String → List String
  | [], _ => []
  | .text s :: rest, names => s :: fill rest names
  | .slot :: rest, name :: names => name :: fill rest names
  | .slot :: rest, [] => fill rest []

/-- The text that a fragment has over a table, and the table afterwards. -/
def bind (f : Fragment) (t : ParamTable) : String × ParamTable :=
  let (names, t') := run f.steps t
  (String.join (fill f.pieces names), t')

end Fragment

end SqlLoom
