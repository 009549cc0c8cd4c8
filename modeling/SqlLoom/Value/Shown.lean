import SqlLoom.Text.Quoted
import SqlLoom.Value

/-!
# `SqlLoom.Value.Shown`: the text of a value

`Value.shown` is the text that a value turns into where text is asked for: a pattern, a literal
of a batch insert, a column that is not given by name. `Value.nested` is its text as part of a
collection, where text stands in quotes and the parts of a description name their fields.

A whole number is written in full, however many digits it has. `Text.maxDigits` is a limit on what
is read (`Text.readInt?`); where an environment limits the digits that are written too, longer
numbers are outside of this model.
-/

set_option autoImplicit false

namespace SqlLoom

/-- A text in quotes. -/
def quotedText (s : String) : String := String.ofList (Text.quoted s.toList)

/-- Texts joined by commas. -/
def commaJoined (parts : List String) : String := ", ".intercalate parts

/-- The two truth values. -/
def boolWord (b : Bool) : String := if b then "True" else "False"

/-- A text in quotes, or the word for nothing. -/
def quotedOption : Option String → String
  | some s => quotedText s
  | none => "None"

/-- A named constant: its family, its own name and its text. -/
def constantForm (family member text : String) : String :=
  "<" ++ family ++ "." ++ member ++ ": " ++ quotedText text ++ ">"

/-- An isolation level as an identifier. -/
def Isolation.identifier (l : Isolation) : String :=
  String.ofList (l.keyword.toList.map fun c => if c = ' ' then '_' else c)

/-- The ASCII text in capitals. -/
def capitals (s : String) : String := String.ofList (s.toList.map Char.toUpper)

/-- A bind type as a named constant. -/
def BindType.constant (t : BindType) : String := constantForm "ParamType" (capitals t.name) t.name

/-- The fields of a record, each after its name. -/
def fieldList (sep : String) (fields : List (String × String)) : String :=
  sep.intercalate (fields.map fun f => f.1 ++ "=" ++ f.2)

/-- A record: its kind and its fields. -/
def recordForm (kind : String) (fields : List (String × String)) : String :=
  kind ++ "(" ++ fieldList ", " fields ++ ")"

/-- Items in brackets. -/
def bracketed (items : List String) : String := "[" ++ commaJoined items ++ "]"

/-- Items in parentheses; a single item is followed by a comma. -/
def parenthesized : List String → String
  | [one] => "(" ++ one ++ ",)"
  | items => "(" ++ commaJoined items ++ ")"

/-- Entries in braces. -/
def braced (entries : List (String × String)) : String :=
  "\x7b" ++ commaJoined (entries.map fun e => quotedText e.1 ++ ": " ++ e.2) ++ "\x7d"

mutual

/-- The text of a value inside a collection. -/
def Value.nested : Value → String
  | .null => "None"
  | .bool b => boolWord b
  | .int n => toString n
  | .float numeral => numeral.text
  | .text s => quotedText s
  | .bytes octets => String.ofList (Text.quotedOctets octets)
  | .list items => bracketed (nestedItems items)
  | .tuple items => parenthesized (nestedItems items)
  | .stream _ => "<list_iterator object>"
  | .map entries => braced (nestedEntries entries)
  | .typed value type => recordForm "TypedValue" [("value", value.nested), ("type", type.constant)]
  | .out type size column value =>
    recordForm "OutParam" [("type", type.constant), ("size", toString size),
      ("column", quotedOption column), ("value", value.nested)]
  | .expr ⟨text, params⟩ =>
    recordForm "Expression" [("text", quotedText text), ("params", braced (nestedEntries params))]
  | .hash columns => recordForm "Hash" [("columns", braced (nestedEntries columns))]
  | .cond op operands =>
    recordForm op.className [("op", quotedText op.keyword),
      ("operands", bracketed (nestedItems operands))]
  | .query q => recordForm "Query" q.nestedFields
  | .item i => i.nested
  | .ref r => r.nested
  | .join j => j.nested
  | .order o => o.nested
  | .branch b => b.nested
  | .direction d => constantForm "SortDirection" d.keyword d.keyword
  | .isolation l => constantForm "IsolationLevel" l.identifier l.keyword
  | .columnType t => constantForm "ColumnType" (capitals t.name) t.name

/-- The fields of a query with their texts. -/
def Query.nestedFields : Query → List (String × String)
  | ⟨items, distinct, option, sources, joins, filter, grouping, groupFilter, ordering, limit,
      offset, branches, params⟩ =>
    [("SELECT", bracketed (nestedSelect items)), ("DISTINCT", distinct.nested),
     ("SELECT_OPTION", option.nested), ("FROM", bracketed (nestedSources sources)),
     ("JOIN", bracketed (nestedJoins joins)), ("WHERE", filter.nested),
     ("GROUP_BY", bracketed (nestedItems grouping)), ("HAVING", groupFilter.nested),
     ("ORDER_BY", bracketed (nestedOrdering ordering)), ("LIMIT", limit.nested),
     ("OFFSET", offset.nested), ("UNION", bracketed (nestedBranches branches)),
     ("PARAMS", braced (nestedEntries params))]

/-- The text of a select item as a record. -/
def SelectItem.nested : SelectItem → String
  | ⟨expr, alias?⟩ =>
    recordForm "SelectItem" [("expr", expr.nested), ("alias", quotedOption alias?)]

/-- The text of a source as a record. -/
def TableRef.nested : TableRef → String
  | ⟨source, alias?⟩ =>
    recordForm "TableRef" [("source", source.nested), ("alias", quotedOption alias?)]

/-- The text of a join as a record. -/
def Join.nested : Join → String
  | ⟨kind, table, on⟩ =>
    recordForm "JoinClause" [("type", quotedText kind), ("table", table.nested), ("on", on.nested)]

/-- The text of an ordering key as a record. -/
def OrderKey.nested : OrderKey → String
  | ⟨expr, d⟩ =>
    recordForm "OrderByItem" [("expr", expr.nested),
      ("direction", constantForm "SortDirection" d.keyword d.keyword)]

/-- The text of a union branch as a record. -/
def UnionBranch.nested : UnionBranch → String
  | ⟨query, all⟩ => recordForm "UnionClause" [("query", query.nested), ("all", boolWord all)]

/-- The texts of the items of a collection. -/
def nestedItems : List Value → List String
  | [] => []
  | v :: rest => v.nested :: nestedItems rest

/-- The texts of the values of a mapping, under their keys. -/
def nestedEntries : List (String × Value) → List (String × String)
  | [] => []
  | (k, v) :: rest => (k, v.nested) :: nestedEntries rest

/-- The texts of select items. -/
def nestedSelect : List SelectItem → List String
  | [] => []
  | i :: rest => i.nested :: nestedSelect rest

/-- The texts of sources. -/
def nestedSources : List TableRef → List String
  | [] => []
  | r :: rest => r.nested :: nestedSources rest

/-- The texts of joins. -/
def nestedJoins : List Join → List String
  | [] => []
  | j :: rest => j.nested :: nestedJoins rest

/-- The texts of ordering keys. -/
def nestedOrdering : List OrderKey → List String
  | [] => []
  | o :: rest => o.nested :: nestedOrdering rest

/-- The texts of union branches. -/
def nestedBranches : List UnionBranch → List String
  | [] => []
  | b :: rest => b.nested :: nestedBranches rest

end

/-- The text of a value where text is asked for. -/
def Value.shown : Value → String
  | .text s => s
  | .expr e => e.text
  | .direction d => "SortDirection." ++ d.keyword
  | .isolation l => "IsolationLevel." ++ l.identifier
  | .columnType t => "ColumnType." ++ capitals t.name
  | .query q => fieldList " " q.nestedFields
  | .hash columns => fieldList " " [("columns", braced (nestedEntries columns))]
  | .cond op operands =>
    fieldList " " [("op", quotedText op.keyword), ("operands", bracketed (nestedItems operands))]
  | .item i => fieldList " " [("expr", i.expr.nested), ("alias", quotedOption i.alias?)]
  | .ref r => fieldList " " [("source", r.source.nested), ("alias", quotedOption r.alias?)]
  | .join j =>
    fieldList " " [("type", quotedText j.kind), ("table", j.table.nested), ("on", j.on.nested)]
  | .order o =>
    fieldList " " [("expr", o.expr.nested),
      ("direction", constantForm "SortDirection" o.direction.keyword o.direction.keyword)]
  | .branch b => fieldList " " [("query", b.query.nested), ("all", boolWord b.all)]
  | v => v.nested

end SqlLoom
