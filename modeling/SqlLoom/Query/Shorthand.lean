import SqlLoom.Text.Search
import SqlLoom.Text.Trailing
import SqlLoom.Value.Items
import SqlLoom.Value.Shown

/-!
# `SqlLoom.Query.Shorthand`: the short spellings of a clause

Select lists, sources, grouping columns and orderings can be given as text (`"a, b DESC"`), as a
mapping, as a single part, or as a list of any of those. The functions of this module read them
all: `Value.toSelectItems`, `Value.toTableRefs`, `Value.toColumns` and `Value.toOrderKeys`.

Three of the clauses are lists of parts. A `Reading` says which values such a clause reads as a
whole; any other value is gone through item by item (`Value.spelled`), and where that cannot be done
it is of the wrong kind. A part of another clause is gone through field by field.
-/

set_option autoImplicit false

namespace SqlLoom

/-- The text without the white space around it. -/
def trimmed (s : String) : String := String.ofList (Text.trim s.toList)

/-- The names of a comma-separated list. A text with a parenthesis is one expression and is not
split. -/
def splitNames (s : String) : List String :=
  if s.toList.contains '(' then [trimmed s]
  else ((Text.splitAt ',' s.toList).map Text.trim).filterMap fun part =>
    if part.isEmpty then none else some (String.ofList part)

/-! ### Lists of parts -/

/-- How a clause reads the values in its list. -/
structure Reading (β : Type) where
  /-- The parts that a value spells as a whole; none where it has to be gone through. Lists are gone
  through, and nothing, text, mappings and expressions are read as a whole. -/
  whole? : Value → Option (Except Error (List β))
  /-- The part that a text in a list spells. -/
  ofText : String → β

namespace Reading

variable {β : Type}

/-- The parts that a value spells, `others` being those of its items. -/
def read (r : Reading β) (v : Value) (others : Except Error (List β)) : Except Error (List β) :=
  (r.whole? v).getD others

/-- The parts that a member of a list spells, `others` being those of a member that is no text. -/
def member (r : Reading β) (v : Value) (others : Except Error (List β)) : Except Error (List β) :=
  match v.text? with
  | some s => .ok [r.ofText s]
  | none => others

/-- The parts that a field spells: that of its name, and those of its value. -/
def field (r : Reading β) (name : String) (v : Value) (others : Except Error (List β)) :
    Except Error (List β) := do
  return r.ofText name :: (← r.member v others)

/-- The parts that a field spells whose value is read as a whole. -/
def plainField (r : Reading β) (name : String) (v : Value) : Except Error (List β) :=
  r.field name v (r.read v (.error .badType))

/-- The parts that a field spells whose value is a list. -/
def listField (r : Reading β) (name : String) (others : Except Error (List β)) :
    Except Error (List β) := do
  return r.ofText name :: (← others)

end Reading

/-- Parts group after group. The first group that cannot be read decides. -/
def inOrder {β : Type} (groups : List (Except Error (List β))) : Except Error (List β) := do
  return (← groups.mapM id).flatten

mutual

/-- The parts that a value spells. -/
def Value.spelled {β : Type} (r : Reading β) (v : Value) : Except Error (List β) :=
  r.read v (match v with
    | .list items => spelledItems r items
    | .tuple items => spelledItems r items
    | .stream items => spelledItems r items
    | .bytes [] => .ok []
    | .hash columns => r.plainField "columns" (.map columns)
    | .cond op operands =>
      inOrder [r.plainField "op" (.text op.keyword),
        r.listField "operands" (spelledItems r operands)]
    | .query q => q.spelled r
    | .item i => i.spelled r
    | .ref t => t.spelled r
    | .join j => j.spelled r
    | .order o => o.spelled r
    | .branch b => b.spelled r
    | _ => .error .badType)

/-- The parts that the items of a list spell. -/
def spelledItems {β : Type} (r : Reading β) : List Value → Except Error (List β)
  | [] => .ok []
  | v :: rest => do
    let first ← r.member v (v.spelled r)
    return first ++ (← spelledItems r rest)

/-- The parts that the fields of a query spell. -/
def Query.spelled {β : Type} (r : Reading β) : Query → Except Error (List β)
  | ⟨items, distinct, option, sources, joins, filter, grouping, groupFilter, ordering, limit,
      offset, branches, params⟩ =>
    inOrder [r.listField "SELECT" (spelledSelect r items),
      r.field "DISTINCT" distinct (distinct.spelled r),
      r.field "SELECT_OPTION" option (option.spelled r),
      r.listField "FROM" (spelledSources r sources), r.listField "JOIN" (spelledJoins r joins),
      r.field "WHERE" filter (filter.spelled r),
      r.listField "GROUP_BY" (spelledItems r grouping),
      r.field "HAVING" groupFilter (groupFilter.spelled r),
      r.listField "ORDER_BY" (spelledOrdering r ordering),
      r.field "LIMIT" limit (limit.spelled r), r.field "OFFSET" offset (offset.spelled r),
      r.listField "UNION" (spelledBranches r branches), r.plainField "PARAMS" (.map params)]

/-- The parts that the fields of a select item spell. -/
def SelectItem.spelled {β : Type} (r : Reading β) : SelectItem → Except Error (List β)
  | ⟨expr, alias?⟩ =>
    inOrder [r.field "expr" expr (expr.spelled r), r.plainField "alias" (.ofOption alias?)]

/-- The parts that the fields of a source spell. -/
def TableRef.spelled {β : Type} (r : Reading β) : TableRef → Except Error (List β)
  | ⟨source, alias?⟩ =>
    inOrder [r.field "source" source (source.spelled r), r.plainField "alias" (.ofOption alias?)]

/-- The parts that the fields of a join spell. -/
def Join.spelled {β : Type} (r : Reading β) : Join → Except Error (List β)
  | ⟨kind, table, on⟩ =>
    inOrder [r.plainField "type" (.text kind),
      r.listField "table" (r.read (.ref table) (table.spelled r)),
      r.field "on" on (on.spelled r)]

/-- The parts that the fields of an ordering key spell. -/
def OrderKey.spelled {β : Type} (r : Reading β) : OrderKey → Except Error (List β)
  | ⟨expr, direction⟩ =>
    inOrder [r.field "expr" expr (expr.spelled r), r.plainField "direction" (.direction direction)]

/-- The parts that the fields of a union branch spell. -/
def UnionBranch.spelled {β : Type} (r : Reading β) : UnionBranch → Except Error (List β)
  | ⟨query, all⟩ =>
    inOrder [r.field "query" query (query.spelled r), r.plainField "all" (.bool all)]

/-- The parts that select items spell. -/
def spelledSelect {β : Type} (r : Reading β) : List SelectItem → Except Error (List β)
  | [] => .ok []
  | i :: rest => do
    let first ← r.read (.item i) (i.spelled r)
    return first ++ (← spelledSelect r rest)

/-- The parts that sources spell. -/
def spelledSources {β : Type} (r : Reading β) : List TableRef → Except Error (List β)
  | [] => .ok []
  | t :: rest => do
    let first ← r.read (.ref t) (t.spelled r)
    return first ++ (← spelledSources r rest)

/-- The parts that joins spell. -/
def spelledJoins {β : Type} (r : Reading β) : List Join → Except Error (List β)
  | [] => .ok []
  | j :: rest => do
    let first ← r.read (.join j) (j.spelled r)
    return first ++ (← spelledJoins r rest)

/-- The parts that ordering keys spell. -/
def spelledOrdering {β : Type} (r : Reading β) : List OrderKey → Except Error (List β)
  | [] => .ok []
  | o :: rest => do
    let first ← r.read (.order o) (o.spelled r)
    return first ++ (← spelledOrdering r rest)

/-- The parts that union branches spell. -/
def spelledBranches {β : Type} (r : Reading β) : List UnionBranch → Except Error (List β)
  | [] => .ok []
  | b :: rest => do
    let first ← r.read (.branch b) (b.spelled r)
    return first ++ (← spelledBranches r rest)

end

/-! ### Select items and sources -/

/-- How the SELECT clause reads its list. -/
def selectReading : Reading SelectItem where
  whole? v := match v with
    | .null => some (.ok [])
    | .item i => some (.ok [i])
    | .map entries => some (.ok (entries.map fun e => ⟨e.2, some e.1⟩))
    | .expr e => some (.ok [⟨.expr e, none⟩])
    | .query q => some (.ok [⟨.query q, none⟩])
    | v => v.text?.map fun s => .ok ((splitNames s).map fun name => ⟨.text name, none⟩)
  ofText s := ⟨.text (trimmed s), none⟩

/-- The select items that a value spells. -/
def Value.toSelectItems (v : Value) : Except Error (List SelectItem) := v.spelled selectReading

/-- How the FROM clause reads its list. -/
def sourceReading : Reading TableRef where
  whole? v := match v with
    | .null => some (.ok [])
    | .ref r => some (.ok [r])
    | .map entries => some (.ok (entries.map fun e => ⟨e.2, some e.1⟩))
    | .expr e => some (.ok [⟨.expr e, none⟩])
    | .query q => some (.ok [⟨.query q, none⟩])
    | v => v.text?.map fun s => .ok ((splitNames s).map fun name => ⟨.text name, none⟩)
  ofText s := ⟨.text (trimmed s), none⟩

/-- The sources that a value spells. -/
def Value.toTableRefs (v : Value) : Except Error (List TableRef) := v.spelled sourceReading

/-! ### Grouping columns -/

/-- The grouping columns that a value spells. -/
def Value.toColumns : Value → Except Error (List Value)
  | .null => .ok []
  | .expr e => .ok [.expr e]
  | v =>
    match v.text? with
    | some s => .ok ((splitNames s).map .text)
    | none => v.goThrough

/-! ### Ordering keys -/

/-- The ordering key that a text spells: a name, and a direction if the text ends in one. -/
def orderKeyOfText (s : String) : OrderKey :=
  let bare := Text.trim s.toList
  match Text.splitLine Text.directionTail bare with
  | some (name, descending) => ⟨.text (String.ofList name), if descending then .desc else .asc⟩
  | none => ⟨.text (String.ofList bare), .asc⟩

/-- The direction that a value names, in any case and with white space around it. -/
def Value.toDirection (v : Value) : Except Error Direction :=
  match v with
  | .direction d => .ok d
  | v =>
    match Direction.ofKeyword? (String.ofList (Text.upper (Text.trim v.shown.toList))) with
    | some d => .ok d
    | none => .error .badValue

/-- The ordering keys that a mapping of names to directions spells. -/
def orderKeysOfEntries : List (String × Value) → Except Error (List OrderKey)
  | [] => .ok []
  | (name, d) :: rest => do return ⟨.text name, ← d.toDirection⟩ :: (← orderKeysOfEntries rest)

/-- How the ORDER BY clause reads its list. -/
def orderReading : Reading OrderKey where
  whole? v := match v with
    | .null => some (.ok [])
    | .order o => some (.ok [o])
    | .expr e => some (.ok [⟨.expr e, .asc⟩])
    | .map entries => some (orderKeysOfEntries entries)
    | v => v.text?.map fun s => .ok ((splitNames s).map orderKeyOfText)
  ofText := orderKeyOfText

/-- The ordering keys that a value spells. -/
def Value.toOrderKeys (v : Value) : Except Error (List OrderKey) := v.spelled orderReading

end SqlLoom
