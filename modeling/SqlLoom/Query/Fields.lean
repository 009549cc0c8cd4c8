import SqlLoom.Condition
import SqlLoom.Query.Shorthand
import SqlLoom.Schema

/-!
# `SqlLoom.Query.Fields`: descriptions from their fields

Each part of a description can be made from named fields, in any of their short spellings. The
fields are looked at in a fixed order. A field that does not have the form it must have makes the
whole part malformed, which is reported once all fields have been looked at; any other error is
reported at once (`fieldCheck`).
-/

set_option autoImplicit false

namespace SqlLoom

/-- The outcome of looking at one field: none where the field is malformed. -/
def fieldCheck {α : Type} (read : Except Error α) : Except Error (Option α) :=
  match read with
  | .ok a => .ok (some a)
  | .error .malformed | .error .badValue => .ok none
  | .error e => .error e

/-- Looks at a field that has a default. -/
def checkField {α : Type} (fields : Entries Value) (name : String) (default : α)
    (read : Value → Except Error α) : Except Error (Option α) :=
  match fields.get? name with
  | some v => fieldCheck (read v)
  | none => .ok (some default)

/-- A reading that fails only for a malformed field. -/
def strictly {α : Type} (read : Value → Option α) (v : Value) : Except Error α :=
  orMalformed (read v)

/-! ### Items, sources, keys -/

/-- A select item from its expression and its alias. -/
def SelectItem.make (expr alias_ : Value) : Except Error SelectItem := do
  return ⟨expr, ← strictly (Value.optional Value.asText?) alias_⟩

/-- A source from what it names and its alias. -/
def TableRef.make (source alias_ : Value) : Except Error TableRef := do
  return ⟨source, ← strictly (Value.optional Value.asText?) alias_⟩

/-- A direction given as a constant or as its keyword. -/
def Value.asDirection? (v : Value) : Option Direction := v.text?.bind Direction.ofKeyword?

/-- An ordering key from its expression and its direction. -/
def OrderKey.make (expr direction : Value) : Except Error OrderKey := do
  return ⟨expr, ← strictly Value.asDirection? direction⟩

/-- The single source that a value spells. -/
def Value.toTableRef (v : Value) : Except Error TableRef := do
  match ← v.toTableRefs with
  | [r] => return r
  | _ => throw .badValue

/-- A join from its fields. -/
def Join.ofFields (fields : Entries Value) : Except Error Join := do
  let kind ← checkField fields "type" "INNER JOIN" (strictly Value.asText?)
  let table ← match fields.get? "table" with
    | some v => fieldCheck v.toTableRef
    | none => pure none
  let on ← checkField fields "on" .null Value.toCondition
  match kind, table, on, onlyNames ["type", "table", "on"] fields with
  | some kind, some table, some on, true => return ⟨kind, table, on⟩
  | _, _, _, _ => throw .malformed

/-- The query of a union branch: a query, its fields, or the text of one. -/
def Value.asBranchQuery (nested : Entries Value → Except Error Query) (v : Value) :
    Except Error Value :=
  match v with
  | .query q => .ok (.query q)
  | .map fields => do return .query (← nested fields)
  | v => do return .text (← strictly Value.asText? v)

/-- A union branch from its query and whether duplicates stay. -/
def UnionBranch.makeWith (nested : Entries Value → Except Error Query) (query all : Value) :
    Except Error UnionBranch := do
  let query? ← fieldCheck (query.asBranchQuery nested)
  let all? ← fieldCheck (strictly Value.asBool? all)
  match query?, all? with
  | some query, some all => return ⟨query, all⟩
  | _, _ => throw .malformed

/-! ### Queries -/

/-- The name by which an expression refers to itself; no field may have it. -/
def selfName : String := "self"

/-- An expression from its fields. Its text has to be there; parameters that count as false are
none. -/
def Expression.ofFields (fields : Entries Value) : Except Error Expression :=
  match fields.get? "text" with
  | none => .error .badType
  | some text =>
    if fields.has selfName then .error .badType
    else
      let params := (fields.get? "params").getD .null
      orMalformed do
        guard (onlyNames ["text", "params"] fields)
        return ⟨← text.asText?, ← if params.isTruthy then params.asEntries? else some []⟩

/-- A limit or an offset: nothing, an expression, its fields, or a whole number. -/
def Value.asCount : Value → Except Error Value
  | .null => .ok .null
  | .expr e => .ok (.expr e)
  | .map fields => do return .expr (← Expression.ofFields fields)
  | v => do return .int (← strictly Value.asInt? v)

/-- An item of a list of joins. -/
def Value.asJoin (v : Value) : Except Error Join :=
  match v with
  | .join j => .ok j
  | .map fields => Join.ofFields fields
  | _ => .error .malformed

/-- An item of a list of union branches. -/
def Value.asBranch (nested : Entries Value → Except Error Query) (v : Value) :
    Except Error UnionBranch :=
  match v with
  | .branch b => .ok b
  | .map fields => do
    let query := (Entries.get? "query" fields).getD .null
    let all := (Entries.get? "all" fields).getD (.bool false)
    let branch? ← fieldCheck (UnionBranch.makeWith nested query all)
    match branch?, onlyNames ["query", "all"] fields with
    | some made, true => return made
    | _, _ => throw .malformed
  | _ => .error .malformed

/-- A list of which each item is looked at. -/
def listOf {α : Type} (read : Value → Except Error α) (v : Value) : Except Error (List α) := do
  let parts ← (← orMalformed v.asItems?).mapM fun item => fieldCheck (read item)
  orMalformed (parts.mapM id)

/-- The names of the fields of a query. -/
def queryFieldNames : List String :=
  ["SELECT", "DISTINCT", "SELECT_OPTION", "FROM", "JOIN", "WHERE", "GROUP_BY", "HAVING",
   "ORDER_BY", "LIMIT", "OFFSET", "UNION", "PARAMS"]

/-- A query from its fields, where `nested` reads the fields of the queries united with it. -/
def Query.ofFieldsWith (nested : Entries Value → Except Error Query) (fields : Entries Value) :
    Except Error Query := do
  let items ← checkField fields "SELECT" [] Value.toSelectItems
  let distinct ← checkField fields "DISTINCT" (.bool false)
    fun v => strictly (fun v => v.asBool?.map .bool) v
  let option ← checkField fields "SELECT_OPTION" .null
    fun v => strictly (fun v => if v.isNull then some v else v.asText?.map .text) v
  let sources ← checkField fields "FROM" [] Value.toTableRefs
  let joins ← checkField fields "JOIN" [] (listOf Value.asJoin)
  let filter ← checkField fields "WHERE" .null Value.toCondition
  let grouping ← checkField fields "GROUP_BY" [] Value.toColumns
  let groupFilter ← checkField fields "HAVING" .null Value.toCondition
  let ordering ← checkField fields "ORDER_BY" [] Value.toOrderKeys
  let limit ← checkField fields "LIMIT" .null Value.asCount
  let offset ← checkField fields "OFFSET" .null Value.asCount
  let branches ← checkField fields "UNION" [] (listOf (Value.asBranch nested))
  let params ← checkField fields "PARAMS" [] (strictly Value.asEntries?)
  let query : Option Query := do
    guard (onlyNames queryFieldNames fields)
    return ⟨← items, ← distinct, ← option, ← sources, ← joins, ← filter, ← grouping,
      ← groupFilter, ← ordering, ← limit, ← offset, ← branches, ← params⟩
  orMalformed query

mutual

/-- How deep mappings stand in one another. -/
def Value.depth : Value → Nat
  | .list items => depthOfItems items
  | .tuple items => depthOfItems items
  | .stream items => depthOfItems items
  | .map entries => depthOfEntries entries + 1
  | _ => 0

/-- How deep mappings stand in one another in a list. -/
def depthOfItems : List Value → Nat
  | [] => 0
  | v :: rest => max v.depth (depthOfItems rest)

/-- How deep mappings stand in one another in the values of a mapping. -/
def depthOfEntries : List (String × Value) → Nat
  | [] => 0
  | (_, v) :: rest => max v.depth (depthOfEntries rest)

end

/-- A query from its fields, in which queries are united to the given depth. -/
def Query.ofFieldsTo : Nat → Entries Value → Except Error Query
  | 0, _ => .error .malformed
  | n + 1, fields => Query.ofFieldsWith (ofFieldsTo n) fields

/-- A query from its fields. The mappings in the fields bound the depth of united queries. -/
def Query.ofFields (fields : Entries Value) : Except Error Query :=
  Query.ofFieldsTo (depthOfEntries fields + 1) fields

/-- A union branch from its query and whether duplicates stay. -/
def UnionBranch.make (query all : Value) : Except Error UnionBranch :=
  UnionBranch.makeWith Query.ofFields query all

end SqlLoom
