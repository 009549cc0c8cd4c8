import SqlLoom.Proofs.Parentheses.Names

/-!
# `SqlLoom.Proofs.Texts`: the texts of a description

`Value.conditionTexts` and `Query.texts` list every text that a description can write into a
statement: raw conditions and the texts of raw expressions, the names of columns, tables and
aliases, operators, join kinds and select options. A name that is not given as text is listed as
the text it shows. The values of a description are not listed, because they are bound.

The list depends on the description alone. Other than `Value.conditionParts` it also names what
contributes nothing to the parameters, and it does not ask whether the dialect has a position at
all.
-/

set_option autoImplicit false

namespace SqlLoom

/-- The text of a name that may be given by any value. -/
def Value.nameText (v : Value) : String := v.text?.getD v.shown

/-- The text of a value that is written out only if it is a raw expression. -/
def Value.expressionTexts : Value → List String
  | .expr e => [e.text]
  | _ => []

/-- The texts of one value of a list. A mapping stands for its entries. -/
def memberTexts : Value → List String
  | .map row => row.flatMap fun e => e.2.expressionTexts
  | v => v.expressionTexts

mutual

/-- The texts of a condition in any spelling. -/
def Value.conditionTexts : Value → List String
  | .expr e => [e.text]
  | .map columns => columnsTexts columns
  | .hash columns => columnsTexts columns
  | .list items => shorthandTexts items
  | .tuple items => shorthandTexts items
  | .cond op operands => op.symbol?.toList ++ nodeTexts op operands
  | v => v.text?.toList

/-- The texts of a shorthand list, the operator as it is spelled. -/
def shorthandTexts : List Value → List String
  | [] => []
  | head :: operands =>
    head.text?.toList ++ match head.headOperator with
      | .ok op => nodeTexts op operands
      | .error _ => []

/-- The texts of a hash. -/
def columnsTexts : List (String × Value) → List String
  | [] => []
  | (column, value) :: rest => column :: value.comparedTexts ++ columnsTexts rest

/-- The texts of what a column is compared with. -/
def Value.comparedTexts : Value → List String
  | .query q => q.texts
  | v => v.members.flatMap memberTexts

/-- The texts of the operands of an operator. -/
def nodeTexts : Operator → List Value → List String
  | .and, v :: rest => v.conditionTexts ++ operandsTexts rest
  | .or, v :: rest => v.conditionTexts ++ operandsTexts rest
  | .not, [operand] => operand.conditionTexts
  | .between _, [column, low, high] => column.shown :: low.expressionTexts ++ high.expressionTexts
  | .membership _, [column, values] => column.asColumns.map Value.shown ++ values.comparedTexts
  | .like _ _ _, column :: values :: _ => column.shown :: values.members.flatMap memberTexts
  | .existence _, [value] => value.comparedTexts
  | .compare _, [column, value] => column.shown :: value.comparedTexts
  | _, _ => []

/-- The texts of conditions. -/
def operandsTexts : List Value → List String
  | [] => []
  | v :: rest => v.conditionTexts ++ operandsTexts rest

/-- The texts of a query. -/
def Query.texts : Query → List String
  | ⟨items, _, option, sources, joins, filter, grouping, groupFilter, ordering, limit, offset,
      branches, _⟩ =>
    option.shown :: itemsTexts items ++ sourcesTexts sources ++ joinsTexts joins
      ++ filter.conditionTexts ++ grouping.map Value.nameText ++ groupFilter.conditionTexts
      ++ ordering.map (fun key => key.expr.nameText) ++ limit.expressionTexts
      ++ offset.expressionTexts ++ branchesTexts branches

/-- The texts of a value that may be a query, and of its alias. -/
def Value.aliasedTexts (alias? : Option String) : Value → List String
  | .query q => q.texts ++ alias?.toList
  | v => v.shown :: alias?.toList

/-- The texts of a select list. -/
def itemsTexts : List SelectItem → List String
  | [] => []
  | ⟨expr, alias?⟩ :: rest => expr.aliasedTexts alias? ++ itemsTexts rest

/-- The texts of sources. -/
def sourcesTexts : List TableRef → List String
  | [] => []
  | ⟨source, alias?⟩ :: rest => source.aliasedTexts alias? ++ sourcesTexts rest

/-- The texts of joins. -/
def joinsTexts : List Join → List String
  | [] => []
  | ⟨kind, ⟨source, alias?⟩, on⟩ :: rest =>
    kind :: source.aliasedTexts alias? ++ on.conditionTexts ++ joinsTexts rest

/-- The texts of united queries, which may be given as text. -/
def branchesTexts : List UnionBranch → List String
  | [] => []
  | ⟨query, _⟩ :: rest => query.aliasedTexts none ++ branchesTexts rest

end

/-- Every text of a list is balanced. -/
def AllBalanced (texts : List String) : Prop := ∀ s ∈ texts, Text.Balanced s.toList

instance (texts : List String) : Decidable (AllBalanced texts) :=
  inferInstanceAs (Decidable (∀ s ∈ texts, Text.Balanced s.toList))

theorem allBalanced_nil : AllBalanced [] := fun _ hs => absurd hs List.not_mem_nil

@[simp]
theorem allBalanced_append (ss ts : List String) :
    AllBalanced (ss ++ ts) ↔ AllBalanced ss ∧ AllBalanced ts :=
  List.forall_mem_append

@[simp]
theorem allBalanced_cons (s : String) (ts : List String) :
    AllBalanced (s :: ts) ↔ Text.Balanced s.toList ∧ AllBalanced ts :=
  List.forall_mem_cons

end SqlLoom
