import SqlLoom.Proofs.WellTyped

/-!
# `SqlLoom.Proofs.WellFormed`: exactly the well-formed conditions compile

A condition is well formed if every operator in it has the operands that it takes and every
sub-query in it can be compiled (`WellFormed`). Shorthand is well formed if it spells a well-formed
condition.

* `WellFormed.of_read`: it makes no difference whether shorthand among the operands of a node has
  been read already.
* `nodeFragment_succeeds_iff`: a node compiles if and only if its operator admits the operands. For
  a logical operator these are conditions that compile.
* `compiles_iff_wellFormed`: a typed condition compiles if and only if it is well formed, by
  recursion over the condition, and fails with an error of building otherwise.
-/

set_option autoImplicit false

namespace SqlLoom

open Fragment

variable {d : Dialect} {subqueries : Bool}

/-! ### Well-formed conditions -/

/-- What stands in the place of a sub-query can be compiled: a query is there to be compiled, and
any other value is bound. -/
def Builds (d : Dialect) (subqueries : Bool) (v : Value) : Prop :=
  ∀ q, v = .query q → subqueries = true ∧ Succeeds (q.fragment d)

/-- The operands that an operator takes which is not a logical one. Without a column nothing is
asked of the values of a membership test. -/
def Operator.Admits (d : Dialect) (subqueries : Bool) : Operator → List Value → Prop
  | .between _, [column, low, high] =>
    column.isNull = false ∧ low.isNull = false ∧ high.isNull = false
  | .membership _, [column, values] =>
    column.isNull = false ∧ values.isNull = false ∧
      (column.asColumns = [] ∨ Builds d subqueries values)
  | .like _ _ _, column :: values :: rest =>
    column.isNull = false ∧ values.isNull = false ∧ rest.length ≤ 1
  | .existence _, [.query q] => Builds d subqueries (.query q)
  | .compare _, [_, value] => Builds d subqueries value
  | _, _ => False

/-- A mapping, a list or a tuple. -/
def Value.isShorthand : Value → Bool
  | .map _ | .list _ | .tuple _ => true
  | _ => false

/-- Conditions whose operators have the operands that they take. -/
inductive WellFormed (d : Dialect) (subqueries : Bool) : Value → Prop where
  | null : WellFormed d subqueries .null
  | text {v : Value} (h : v.text?.isSome = true) : WellFormed d subqueries v
  | expr (e : Expression) : WellFormed d subqueries (.expr e)
  /-- The condition that shorthand spells. -/
  | shorthand {v w : Value} (h : v.isShorthand = true) (hread : v.toCondition = .ok w)
      (hw : WellFormed d subqueries w) : WellFormed d subqueries v
  | hash {columns : List (String × Value)} (h : ∀ e ∈ columns, Builds d subqueries e.2) :
      WellFormed d subqueries (.hash columns)
  /-- NOT has one operand, AND and OR have any number. -/
  | logical {op : Operator} {operands : List Value} (hop : op.isLogical = true)
      (hcount : op = .not → operands.length = 1) (h : ∀ v ∈ operands, WellFormed d subqueries v) :
      WellFormed d subqueries (.cond op operands)
  | test {op : Operator} {operands : List Value} (h : op.Admits d subqueries operands) :
      WellFormed d subqueries (.cond op operands)

namespace WellFormed

/-- Shorthand is well formed if what it spells is. -/
theorem shorthand_iff {v w : Value} (h : v.isShorthand = true) (hread : v.toCondition = .ok w) :
    WellFormed d subqueries v ↔ WellFormed d subqueries w := by
  refine ⟨fun hv => ?_, .shorthand h hread⟩
  cases hv with
  | shorthand _ hread' hw =>
      obtain rfl : w = _ := Except.ok.inj (hread.symm.trans hread')
      exact hw
  | text htext =>
      cases v with
      | map _ | list _ | tuple _ => cases htext
      | _ => cases h
  | _ => cases h

theorem shorthand_read {v : Value} (h : v.isShorthand = true) (hv : WellFormed d subqueries v) :
    ∃ w, v.toCondition = .ok w := by
  cases hv with
  | shorthand _ hread _ => exact ⟨_, hread⟩
  | text htext =>
      cases v with
      | map _ | list _ | tuple _ => cases htext
      | _ => cases h
  | _ => cases h

theorem hash_iff (columns : List (String × Value)) :
    WellFormed d subqueries (.hash columns) ↔ ∀ e ∈ columns, Builds d subqueries e.2 := by
  refine ⟨fun h => ?_, .hash⟩
  cases h with
  | hash h => exact h
  | text htext => cases htext
  | shorthand h => cases h

/-- A test is a node whose operator is no logical one. -/
theorem test_iff {op : Operator} (hop : op.isLogical = false) (operands : List Value) :
    WellFormed d subqueries (.cond op operands) ↔ op.Admits d subqueries operands := by
  refine ⟨fun h => ?_, .test⟩
  cases h with
  | test h => exact h
  | logical hlogical =>
      rw [hop] at hlogical
      cases hlogical
  | text htext => cases htext
  | shorthand h => cases h

theorem logical_iff {op : Operator} (hop : op.isLogical = true) (operands : List Value) :
    WellFormed d subqueries (.cond op operands) ↔
      (op = .not → operands.length = 1) ∧ ∀ v ∈ operands, WellFormed d subqueries v := by
  refine ⟨fun h => ?_, fun h => .logical hop h.1 h.2⟩
  cases h with
  | logical _ hcount h => exact ⟨hcount, h⟩
  | test h => cases op with
    | not | and | or => cases h
    | _ => cases hop
  | text htext => cases htext
  | shorthand h => cases h

/-! ### Reading shorthand -/

/-- Reading keeps what is well formed. -/
theorem of_read {v w : Value} (h : v.expanded false = .ok w) :
    WellFormed d subqueries w ↔ WellFormed d subqueries v := by
  cases v with
  | map entries =>
      cases entries with
      | nil =>
          -- Nothing at all is read as the empty text, and as no condition where it stands alone.
          cases h
          exact iff_of_true (.text rfl) (.shorthand rfl rfl .null)
      | cons entry rest =>
          cases h
          exact (shorthand_iff (v := .map (entry :: rest)) rfl rfl).symm
  | list items | tuple items =>
      cases items with
      | nil =>
          cases h
          refine iff_of_true (.text rfl) (.shorthand rfl ?_ .null)
          rw [Value.toCondition, nodeOfShorthand]
      | cons head operands =>
          refine (shorthand_iff rfl ?_).symm
          rw [Value.toCondition, nodeOfShorthand_eq]
          exact h
  | _ =>
      cases h
      exact Iff.rfl

/-- Reading the operands of a logical operator keeps whether all are well formed, and their
number. -/
theorem of_read_operands {operands ws : List Value} (h : expandedOperands false operands = .ok ws) :
    ((∀ w ∈ ws, WellFormed d subqueries w) ↔ ∀ v ∈ operands, WellFormed d subqueries v) ∧
      ws.length = operands.length := by
  induction operands generalizing ws with
  | nil =>
      cases h
      exact ⟨by simp, rfl⟩
  | cons v rest ih =>
      rw [expandedOperands] at h
      cases hv : v.expanded false with
      | error e => rw [hv] at h; cases h
      | ok w =>
          cases hrest : expandedOperands false rest with
          | error e => rw [hv, hrest] at h; cases h
          | ok ws' =>
              rw [hv, hrest] at h
              cases h
              obtain ⟨hall, hlength⟩ := ih hrest
              rw [List.forall_mem_cons, List.forall_mem_cons, of_read hv, hall]
              exact ⟨Iff.rfl, congrArg (· + 1) hlength⟩

/-- A shorthand list that can be read is well formed if the node with its operands as they stand
is. -/
theorem of_read_list {head : Value} {operands : List Value} {op : Operator} {w : Value}
    (hhead : head.headOperator = .ok op) (h : expandedList false (head :: operands) = .ok w) :
    WellFormed d subqueries w ↔ WellFormed d subqueries (.cond op operands) := by
  rw [expandedList, hhead] at h
  change (if op.isLogical then _ else _) = _ at h
  cases hop : op.isLogical with
  | false =>
      rw [hop] at h
      cases h
      exact Iff.rfl
  | true =>
      rw [hop, if_pos rfl] at h
      cases hoperands : expandedOperands false operands with
      | error e => rw [hoperands] at h; cases h
      | ok ws =>
          rw [hoperands] at h
          cases h
          obtain ⟨hall, hlength⟩ := @of_read_operands d subqueries _ _ hoperands
          rw [logical_iff hop, logical_iff hop, hall, hlength]

end WellFormed

/-! ### Sub-queries -/

/-- A query is compiled and gone on with if it can be compiled. -/
theorem builds_iff (q : Query) (k : Fragment → Except Error Fragment)
    (hk : ∀ rows, Succeeds (k rows)) :
    Succeeds (if subqueries then q.fragment d >>= k else buildError .noSubqueries) ↔
      Builds d subqueries (.query q) := by
  cases subqueries with
  | false =>
      refine iff_of_false ?_ fun h => ?_
      · rintro ⟨f, hf⟩
        cases hf
      · obtain ⟨hsub, -⟩ := h q rfl
        cases hsub
  | true =>
      rw [if_pos rfl]
      constructor
      · rintro hsucceeds r ⟨⟩
        cases hq : q.fragment d with
        | ok rows => exact ⟨rfl, rows, rfl⟩
        | error e =>
            obtain ⟨f, hf⟩ := hsucceeds
            rw [hq] at hf
            cases hf
      · intro h
        exact (h q rfl).2.bind hk

/-- Any other value builds. -/
theorem builds_of_not_query {v : Value} (h : ∀ q, v = .query q → False) : Builds d subqueries v :=
  fun q hq => (h q hq).elim

/-! ### Tests -/

theorem columnTest_succeeds_iff (hd : d.maxInList? ≠ some 0) (subqueries : Bool) (column : String)
    (value : Value) :
    Succeeds (columnTest d subqueries column value) ↔ Builds d subqueries value := by
  rcases value.query_or_not with ⟨q, rfl⟩ | hquery
  · exact builds_iff q _ fun _ => .pure _
  · refine iff_of_true ?_ (builds_of_not_query hquery)
    fun_cases columnTest d subqueries column value with
    | case1 => exact .pure _
    | case2 q hsub => exact (hquery q rfl).elim
    | case3 q hsub => exact (hquery q rfl).elim
    | case4 v hnull _ hcollection =>
        have hcolumn : ∀ c ∈ (Value.text column).asColumns, c.text?.isSome = true := by
          intro c hc
          obtain rfl := List.mem_singleton.mp hc
          rfl
        exact membershipFragment_succeeds hd false hcolumn _
    | case5 => exact .pure _

theorem columnTests_succeeds_iff (hd : d.maxInList? ≠ some 0) (subqueries : Bool)
    (columns : List (String × Value)) :
    Succeeds (columnTests d subqueries columns) ↔ ∀ e ∈ columns, Builds d subqueries e.2 := by
  induction columns with
  | nil => exact iff_of_true (.ok []) (by simp)
  | cons e rest ih =>
      obtain ⟨column, value⟩ := e
      rw [columnTests_cons, List.forall_mem_cons, ← ih,
        ← columnTest_succeeds_iff hd subqueries column value]
      constructor
      · rintro ⟨fs, hfs⟩
        cases hfirst : columnTest d subqueries column value with
        | error e => rw [hfirst] at hfs; cases hfs
        | ok f =>
            cases hrest : columnTests d subqueries rest with
            | error e => rw [hfirst, hrest] at hfs; cases hfs
            | ok fs' => exact ⟨⟨f, rfl⟩, ⟨fs', rfl⟩⟩
      · rintro ⟨hfirst, hrest⟩
        exact hfirst.bind fun _ => hrest.bind fun _ => .pure _

theorem not_succeeds_build {α : Type} (cause : BuildError) :
    ¬ Succeeds (buildError cause : Except Error α) := by
  rintro ⟨a, ha⟩
  cases ha

theorem between_succeeds_iff (d : Dialect) (subqueries negated : Bool) (operands : List Value) :
    Succeeds (betweenFragment d negated operands) ↔
      (Operator.between negated).Admits d subqueries operands := by
  match operands with
  | [column, low, high] =>
      rw [betweenFragment, Operator.Admits]
      split
      · rename_i hnull
        refine iff_of_false (not_succeeds_build _) ?_
        rintro ⟨hcolumn, hlow, hhigh⟩
        simp [hcolumn, hlow, hhigh] at hnull
      · rename_i hnull
        refine iff_of_true (.ok _) ?_
        simpa [and_assoc] using hnull
  | [] | [_] | [_, _] | _ :: _ :: _ :: _ :: _ => exact iff_of_false (not_succeeds_build _) id

theorem pattern_succeeds_iff (d : Dialect) (subqueries any negated caseless : Bool)
    {operands : List Value} (h : nodeTyped (.like any negated caseless) operands = true) :
    Succeeds (patternTest d any negated caseless operands) ↔
      (Operator.like any negated caseless).Admits d subqueries operands := by
  -- With a column and values that are there, it is the escape operand that decides.
  have hguarded {column values : Value} {x : Except Error Fragment} (hx : Succeeds x) :
      Succeeds (if column.isNull || values.isNull then
          buildError (.twoOperands (Operator.like any negated caseless).keyword) else x) ↔
        column.isNull = false ∧ values.isNull = false := by
    rw [← Bool.or_eq_false_iff]
    cases column.isNull || values.isNull with
    | true => exact iff_of_false (not_succeeds_build _) nofun
    | false => exact iff_of_true hx rfl
  rcases operands with _ | ⟨column, _ | ⟨values, _ | ⟨escape, _ | ⟨more, rest⟩⟩⟩⟩
  · exact iff_of_false (not_succeeds_build _) id
  · exact iff_of_false (not_succeeds_build _) id
  · have hlike : Succeeds (likeFragment d any negated caseless column values .null) :=
      likeFragment_succeeds d any negated caseless column values rfl
    refine (hguarded hlike).trans ?_
    simp [Operator.Admits]
  · rw [nodeTyped] at h
    have hlike := likeFragment_succeeds d any negated caseless column values h
    refine (hguarded hlike).trans ?_
    simp [Operator.Admits]
  · refine iff_of_false ?_ fun h => ?_
    · show ¬ Succeeds (if column.isNull || values.isNull then buildError _ else buildError _)
      split
      · exact not_succeeds_build _
      · exact not_succeeds_build _
    · obtain ⟨-, -, hcount⟩ := h
      simp at hcount

theorem membership_succeeds_iff (hd : d.maxInList? ≠ some 0) (subqueries negated : Bool)
    {column values : Value} (hcolumns : ∀ c ∈ column.asColumns, c.text?.isSome = true) :
    Succeeds (nodeFragment d subqueries (.membership negated) [column, values]) ↔
      (Operator.membership negated).Admits d subqueries [column, values] := by
  rw [Operator.Admits]
  cases hnull : column.isNull || values.isNull with
  | true =>
      have hfails : nodeFragment d subqueries (.membership negated) [column, values]
          = buildError (.twoOperands (Operator.membership negated).keyword) := by
        cases values <;> simp [nodeFragment, hnull]
      rw [hfails]
      refine iff_of_false (not_succeeds_build _) ?_
      rintro ⟨hcolumn, hvalues, -⟩
      simp [hcolumn, hvalues] at hnull
  | false =>
      obtain ⟨hcolumn, hvalues⟩ := Bool.or_eq_false_iff.mp hnull
      rw [hcolumn, hvalues]
      simp only [true_and]
      rcases values.query_or_not with ⟨q, rfl⟩ | hquery
      · rw [nodeFragment, if_neg (by simpa using hnull)]
        cases hempty : column.asColumns with
        | nil =>
            -- Without columns the sub-query is not compiled at all.
            exact iff_of_true (.ok _) (.inl rfl)
        | cons _ _ =>
            rw [if_neg (by simp), builds_iff q _ fun _ => .pure _]
            simp
      · rw [nodeFragment]
        · rw [if_neg (by simpa using hnull)]
          refine iff_of_true ?_ (.inr (builds_of_not_query hquery))
          split
          · exact .ok _
          · exact membershipFragment_succeeds hd negated hcolumns values.members
        · exact hquery

theorem existence_succeeds_iff (subqueries negated : Bool) (operands : List Value) :
    Succeeds (nodeFragment d subqueries (.existence negated) operands) ↔
      (Operator.existence negated).Admits d subqueries operands := by
  match operands with
  | [value] =>
      cases value with
      | query q =>
          rw [nodeFragment, Operator.Admits]
          exact builds_iff q _ fun _ => .pure _
      | _ => exact iff_of_false (not_succeeds_build _) id
  | [] => exact iff_of_false (not_succeeds_build _) id
  | _ :: _ :: _ =>
      rw [nodeFragment]
      · exact iff_of_false (not_succeeds_build _) (by simp [Operator.Admits])
      · exact fun q h => by cases h

theorem compare_succeeds_iff (subqueries : Bool) (symbol : String) (operands : List Value) :
    Succeeds (nodeFragment d subqueries (.compare symbol) operands) ↔
      (Operator.compare symbol).Admits d subqueries operands := by
  match operands with
  | [column, value] =>
      rw [Operator.Admits]
      rcases value.query_or_not with ⟨q, rfl⟩ | hquery
      · rw [nodeFragment]
        exact builds_iff q _ fun _ => .pure _
      · rw [nodeFragment]
        · exact iff_of_true (.ok _) (builds_of_not_query hquery)
        · exact hquery
  | [] | [_] | _ :: _ :: _ :: _ => exact iff_of_false (not_succeeds_build _) id

/-- A test compiles if and only if its operator admits the operands. -/
theorem test_succeeds_iff (hd : d.maxInList? ≠ some 0) (subqueries : Bool) {op : Operator}
    (hop : op.isLogical = false) {operands : List Value} (h : nodeTyped op operands = true) :
    Succeeds (nodeFragment d subqueries op operands) ↔ op.Admits d subqueries operands := by
  cases op with
  | not | and | or => cases hop
  | between negated =>
      rw [nodeFragment]
      exact between_succeeds_iff d subqueries negated operands
  | membership negated =>
      match operands, h with
      | [column, values], h =>
          rw [nodeTyped, Bool.and_eq_true] at h
          exact membership_succeeds_iff hd subqueries negated (List.all_eq_true.mp h.1)
      | [], _ | [_], _ | _ :: _ :: _ :: _, _ => exact iff_of_false (not_succeeds_build _) id
  | like any negated caseless =>
      rw [nodeFragment]
      exact pattern_succeeds_iff d subqueries any negated caseless h
  | existence negated => exact existence_succeeds_iff subqueries negated operands
  | compare symbol => exact compare_succeeds_iff subqueries symbol operands

/-! ### Logical operators -/

theorem mapM_succeeds_iff {parts : List (Except Error Fragment)} :
    Succeeds (parts.mapM id) ↔ ∀ part ∈ parts, Succeeds part := by
  refine ⟨fun h => ?_, fun h => .mapM h⟩
  induction parts with
  | nil => simp
  | cons first rest ih =>
      obtain ⟨fs, hfs⟩ := h
      rw [List.mapM_cons] at hfs
      cases hfirst : id first with
      | error e => rw [hfirst] at hfs; cases hfs
      | ok f =>
          cases hrest : rest.mapM id with
          | error e => rw [hfirst, hrest] at hfs; cases hfs
          | ok fs' => exact List.forall_mem_cons.mpr ⟨⟨f, hfirst⟩, ih ⟨fs', hrest⟩⟩

/-- What goes on after a computation and cannot fail does not decide. -/
theorem bind_succeeds_iff {α β : Type} (x : Except Error α) {k : α → Except Error β}
    (hk : ∀ a, Succeeds (k a)) : Succeeds (x >>= k) ↔ Succeeds x := by
  refine ⟨?_, fun hx => hx.bind hk⟩
  rintro ⟨b, hb⟩
  cases x with
  | ok a => exact .ok a
  | error e => cases hb

theorem map_succeeds_iff {α β : Type} (g : α → β) (x : Except Error α) :
    Succeeds (x.map g) ↔ Succeeds x := by
  cases x with
  | ok a => exact iff_of_true (.ok _) (.ok _)
  | error e => exact iff_of_false (by rintro ⟨_, h⟩; cases h) (by rintro ⟨_, h⟩; cases h)

/-- A logical operator compiles if its operands do, of which NOT takes one. -/
theorem logicalFragment_succeeds_iff {op : Operator} (hop : op.isLogical = true)
    (parts : List (Except Error Fragment)) :
    Succeeds (logicalFragment op parts) ↔
      (op = .not → parts.length = 1) ∧ ∀ part ∈ parts, Succeeds part := by
  have hgroup : Succeeds ((parts.mapM id).map (grouped op.keyword)) ↔
      ∀ part ∈ parts, Succeeds part := (map_succeeds_iff _ _).trans mapM_succeeds_iff
  cases op with
  | not =>
      match parts with
      | [part] =>
          have hone : Succeeds (logicalFragment .not [part]) ↔ Succeeds part :=
            map_succeeds_iff negation part
          simpa using hone
      | [] | _ :: _ :: _ =>
          refine iff_of_false (not_succeeds_build _) fun h => ?_
          have hcount := h.1 rfl
          simp at hcount
  | and | or =>
      refine hgroup.trans ?_
      simp
  | _ => cases hop

/-! ### The recursion -/

mutual

/-- A typed condition compiles if and only if it is well formed. -/
theorem Value.conditionFragment_succeeds_iff (hd : d.maxInList? ≠ some 0) (subqueries : Bool) :
    (v : Value) → v.isTyped = true →
      (Succeeds (v.conditionFragment d subqueries) ↔ WellFormed d subqueries v)
  | .null, _ => iff_of_true (.ok _) .null
  | .expr e, _ => iff_of_true (.ok _) (.expr e)
  | .hash columns, _ => by
      rw [Value.conditionFragment, WellFormed.hash_iff,
        ← columnTests_succeeds_iff hd subqueries columns]
      exact bind_succeeds_iff _ fun _ => .pure _
  | .map columns, _ => by
      -- A mapping is compiled as the hash that it spells.
      rw [Value.conditionFragment, ← WellFormed.of_read (v := .map columns) rfl]
      refine (bind_succeeds_iff _ fun _ => .pure _).trans ?_
      rw [columnTests_succeeds_iff hd subqueries columns]
      cases columns with
      | nil => exact iff_of_true (by simp) (.text rfl)
      | cons e rest => exact (WellFormed.hash_iff (e :: rest)).symm
  | .list items, h | .tuple items, h => by
      rw [Value.isTyped] at h
      rw [Value.conditionFragment, shorthandFragment_succeeds_iff hd subqueries items h]
      -- What a list spells is found out before anything is compiled.
      constructor
      · rintro ⟨w, hread, hw⟩
        exact .shorthand rfl (by rw [Value.toCondition, hread]) hw
      · intro hv
        obtain ⟨w, hread⟩ := hv.shorthand_read rfl
        refine ⟨w, ?_, (WellFormed.shorthand_iff rfl hread).mp hv⟩
        rwa [Value.toCondition] at hread
  | .cond op operands, h => by
      rw [Value.isTyped] at h
      exact nodeFragment_succeeds_iff hd subqueries op operands h
  | .text _, _ | .direction _, _ | .isolation _, _ | .columnType _, _ =>
      iff_of_true (.ok _) (.text rfl)
  | .bool _, _ | .int _, _ | .float _, _ | .bytes _, _ | .stream _, _ | .typed .., _ | .out .., _
  | .query _, _ | .item _, _ | .ref _, _ | .join _, _ | .order _, _ | .branch _, _ => by
      refine iff_of_false (not_succeeds_build _) fun h => ?_
      cases h with
      | text h => cases h
      | shorthand h => cases h

theorem shorthandFragment_succeeds_iff (hd : d.maxInList? ≠ some 0) (subqueries : Bool) :
    (items : List Value) → shorthandTyped items = true →
      (Succeeds (shorthandFragment d subqueries items) ↔
        ∃ w, nodeOfShorthand items = .ok w ∧ WellFormed d subqueries w)
  | [], _ => iff_of_true (.ok _) ⟨.null, by rw [nodeOfShorthand], .null⟩
  | head :: operands, h => by
      rw [shorthandTyped] at h
      rw [shorthandFragment_eq, nodeOfShorthand_eq]
      cases hread : expandedList false (head :: operands) with
      | error e =>
          refine iff_of_false ?_ ?_
          · rintro ⟨f, hf⟩
            cases hf
          · rintro ⟨w, hw, -⟩
            cases hw
      | ok w =>
          cases hhead : head.headOperator with
          | error e =>
              -- The list could not have been read.
              rw [expandedList, hhead] at hread
              cases hread
          | ok op =>
              rw [hhead] at h
              have hnode := nodeFragment_succeeds_iff hd subqueries op operands h
              rw [← WellFormed.of_read_list hhead hread] at hnode
              show Succeeds (nodeFragment d subqueries op operands) ↔ _
              rw [hnode]
              simp

theorem nodeFragment_succeeds_iff (hd : d.maxInList? ≠ some 0) (subqueries : Bool) :
    (op : Operator) → (operands : List Value) → nodeTyped op operands = true →
      (Succeeds (nodeFragment d subqueries op operands) ↔
        WellFormed d subqueries (.cond op operands))
  | op, operands, h => by
      cases hop : op.isLogical with
      | false =>
          rw [WellFormed.test_iff hop]
          exact test_succeeds_iff hd subqueries hop h
      | true =>
          -- The operands are conditions, each of which compiles by itself.
          have htyped : operandsTyped operands = true := by
            cases operands with
            | nil => rfl
            | cons v rest =>
                cases op with
                | not | and | or => rwa [nodeTyped] at h
                | _ => cases hop
          rw [nodeFragment_logical d subqueries hop, logicalFragment_succeeds_iff hop,
            WellFormed.logical_iff hop, List.length_map, List.forall_mem_map,
            operands_succeed_iff hd subqueries operands htyped]

theorem operands_succeed_iff (hd : d.maxInList? ≠ some 0) (subqueries : Bool) :
    (operands : List Value) → operandsTyped operands = true →
      ((∀ v ∈ operands, Succeeds (v.conditionFragment d subqueries)) ↔
        ∀ v ∈ operands, WellFormed d subqueries v)
  | [], _ => iff_of_true (by simp) (by simp)
  | v :: rest, h => by
      rw [operandsTyped, Bool.and_eq_true] at h
      rw [List.forall_mem_cons, List.forall_mem_cons,
        v.conditionFragment_succeeds_iff hd subqueries h.1,
        operands_succeed_iff hd subqueries rest h.2]

end

/-! ### The main theorem -/

/-- A typed condition compiles if and only if it is well formed, and otherwise fails with an error
of building. No built-in dialect has a ceiling of 0, which a list could not be split by
(`Dialect.standard_holdsValues`). -/
theorem compiles_iff_wellFormed (hd : d.maxInList? ≠ some 0) (subqueries : Bool) {v : Value}
    (hv : v.isTyped = true) :
    ((∃ f, v.conditionFragment d subqueries = .ok f) ↔ WellFormed d subqueries v) ∧
      (¬ WellFormed d subqueries v →
        ∃ cause, v.conditionFragment d subqueries = .error (.build cause)) := by
  have hiff := v.conditionFragment_succeeds_iff hd subqueries hv
  refine ⟨hiff, fun hnot => ?_⟩
  have hblames := v.conditionFragment_blames hd subqueries hv
  cases hfragment : v.conditionFragment d subqueries with
  | ok f => exact absurd (hiff.mp ⟨f, hfragment⟩) hnot
  | error e =>
      obtain ⟨cause, rfl⟩ := hblames e hfragment
      exact ⟨cause, rfl⟩

/-- A sub-query that cannot be compiled, among whose rows no columns are: it is left alone. Beside
it an interval without an upper bound, which is reported. -/
theorem compiles_iff_wellFormed_between :
    let d := Dialect.standard .oracle
    let unbuilt : Query := { Query.empty with joins := [⟨"", ⟨.text "t", none⟩, .null⟩] }
    let left := Value.list [.text "not in", .list [], .query unbuilt]
    let bad := Value.list [.text "or", left, .list [.text "between", .text "a", .int 1]]
    d.maxInList? ≠ some 0 ∧ left.isTyped = true ∧ bad.isTyped = true ∧
      WellFormed d true left ∧ ¬ WellFormed d true bad ∧
      ∃ cause, bad.conditionFragment d true = .error (.build cause) := by
  intro d unbuilt left bad
  have hd : d.maxInList? ≠ some 0 := by decide
  have hleft : left.isTyped = true := by decide +kernel
  have hbad : bad.isTyped = true := by decide +kernel
  have hwell : WellFormed d true left := by
    have hcompiled : (left.conditionFragment d true).toBool = true := by decide +kernel
    refine (compiles_iff_wellFormed hd true hleft).1.mp ?_
    cases hfragment : left.conditionFragment d true with
    | ok f => exact ⟨f, rfl⟩
    | error e =>
        rw [hfragment] at hcompiled
        cases hcompiled
  have hill : ¬ WellFormed d true bad := by
    intro h
    have hfails : (bad.conditionFragment d true).toBool = false := by decide +kernel
    obtain ⟨f, hf⟩ := (compiles_iff_wellFormed hd true hbad).1.mpr h
    rw [hf] at hfails
    cases hfails
  exact ⟨hd, hleft, hbad, hwell, hill, (compiles_iff_wellFormed hd true hbad).2 hill⟩

end SqlLoom
