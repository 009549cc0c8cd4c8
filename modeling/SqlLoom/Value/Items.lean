import SqlLoom.Entries
import SqlLoom.Error
import SqlLoom.Value

/-!
# `SqlLoom.Value.Items`: going through a value

A collection can be gone through member by member, a mapping key by key, text character by
character, and a part of a description field by field, each field being a pair of its name and its
value (`Value.goThrough`). What cannot be gone through is of the wrong kind.

A mapping may be spelled as a sequence of pairs (`Value.toEntries`).
-/

set_option autoImplicit false

namespace SqlLoom

/-- Text, or nothing. -/
def Value.ofOption : Option String → Value
  | some s => .text s
  | none => .null

/-- The fields of a query, each under its name. -/
def Query.fields (q : Query) : Entries Value :=
  [("SELECT", .list (q.items.map .item)), ("DISTINCT", q.distinct), ("SELECT_OPTION", q.option),
   ("FROM", .list (q.sources.map .ref)), ("JOIN", .list (q.joins.map .join)),
   ("WHERE", q.filter), ("GROUP_BY", .list q.grouping), ("HAVING", q.groupFilter),
   ("ORDER_BY", .list (q.ordering.map .order)), ("LIMIT", q.limit), ("OFFSET", q.offset),
   ("UNION", .list (q.branches.map .branch)), ("PARAMS", .map q.params)]

/-- The fields of a part of a description, each under its name. -/
def Value.fields? : Value → Option (Entries Value)
  | .expr e => some [("text", .text e.text), ("params", .map e.params)]
  | .hash columns => some [("columns", .map columns)]
  | .cond op operands => some [("op", .text op.keyword), ("operands", .list operands)]
  | .query q => some q.fields
  | .item i => some [("expr", i.expr), ("alias", .ofOption i.alias?)]
  | .ref r => some [("source", r.source), ("alias", .ofOption r.alias?)]
  | .join j => some [("type", .text j.kind), ("table", .ref j.table), ("on", j.on)]
  | .order o => some [("expr", o.expr), ("direction", .direction o.direction)]
  | .branch b => some [("query", b.query), ("all", .bool b.all)]
  | _ => none

/-- The items of a value that can be gone through: the members of a collection, the keys of a
mapping, the characters of a text, the numbers of octets, the fields of a part. -/
def Value.goThrough (v : Value) : Except Error (List Value) :=
  match v with
  | .list items | .tuple items | .stream items => .ok items
  | .map entries => .ok (entries.map fun e => .text e.1)
  | .bytes octets => .ok (octets.map fun o => .int o.toNat)
  | v =>
    match v.text?, v.fields? with
    | some s, _ => .ok (s.toList.map fun c => .text (String.ofList [c]))
    | none, some fields => .ok (fields.map fun f => .tuple [.text f.1, f.2])
    | none, none => .error .badType

/-- The entry that a pair spells. Its key has to be text. -/
def Value.toEntry (v : Value) : Except Error (String × Value) := do
  match ← v.goThrough with
  | [key, value] =>
    match key.text? with
    | some name => return (name, value)
    | none => throw .badType
  | _ => throw .badValue

/-- The mapping that a value spells: a mapping, or pairs, of which the last one of a key counts. -/
def Value.toEntries (v : Value) : Except Error (Entries Value) :=
  match v with
  | .map entries => .ok entries
  | v => do return Entries.merge [] (← (← v.goThrough).mapM Value.toEntry)

end SqlLoom
