import SqlLoom.Proofs.Grouping

/-!
# `SqlLoom.Proofs.Shorthand`: shorthand is read early or late

A condition may be read before it is compiled (`Value.toCondition`); what shorthand is left inside
of typed nodes is read while they are compiled. `Value.expanded` reads shorthand at every place
where a condition is expected, also inside of typed nodes where `deep` holds, and keeps an empty one
as the empty text.

Reading a condition is expanding it, though not inside of typed nodes (`nodeOfShorthand_eq`). What
was expanded compiles to the same text and steps as what it was before, or fails with the same error
(`Value.expanded_faithful`): a logical operator leaves out what is empty, and looks at nothing of
its operands but what they compile to (`nodeFragment_logical`). Expansion does not know in which
order operands are compiled. So where it fails, compilation fails too, but maybe at an operand that
stands before.
-/

set_option autoImplicit false

namespace SqlLoom

open Fragment

variable {d : Dialect} {subqueries : Bool}

/-! ### Fragments with one text -/

/-- The fragments take the same steps and have the same text. An empty text may be in pieces. -/
structure Fragment.Same (f g : Fragment) : Prop where
  steps : f.steps = g.steps
  pieces : f.pieces = g.pieces ∨ f.isEmpty = true ∧ g.isEmpty = true

namespace Fragment

variable {f g : Fragment}

theorem Same.refl (f : Fragment) : Same f f := ⟨rfl, .inl rfl⟩

theorem Same.isEmpty_eq (h : Same f g) : f.isEmpty = g.isEmpty := by
  rcases h.pieces with hpieces | ⟨hf, hg⟩
  · rw [isEmpty, isEmpty, hpieces]
  · rw [hf, hg]

/-- Where there is a text, the fragments are the same. -/
theorem Same.eq_of_shown (h : Same f g) (hf : f.isEmpty = false) : f = g := by
  rcases h.pieces with hpieces | ⟨hempty, -⟩
  · obtain ⟨steps, pieces⟩ := f
    obtain ⟨steps', pieces'⟩ := g
    obtain rfl : steps = steps' := h.steps
    obtain rfl : pieces = pieces' := hpieces
    rfl
  · rw [hf] at hempty
    cases hempty

theorem join_fill_of_isEmpty (hf : f.isEmpty = true) (names : List String) :
    String.join (fill f.pieces names) = "" := by
  obtain ⟨steps, pieces⟩ := f
  show String.join (fill pieces names) = ""
  change (pieces.all _) = true at hf
  induction pieces with
  | nil => rfl
  | cons p rest ih =>
      rw [List.all_cons, Bool.and_eq_true] at hf
      cases p with
      | text s => rw [fill, String.join_cons, ih hf.2, String.isEmpty_iff.mp hf.1]; rfl
      | slot => cases hf.1

theorem Same.bind_eq (h : Same f g) (t : ParamTable) : f.bind t = g.bind t := by
  rw [bind, bind, h.steps]
  rcases h.pieces with hpieces | ⟨hf, hg⟩
  · rw [hpieces]
  · simp only [join_fill_of_isEmpty hf, join_fill_of_isEmpty hg]

theorem Same.negation (h : Same f g) : Same (negation f) (negation g) := by
  cases hf : f.isEmpty with
  | true =>
      -- What says nothing is not negated.
      have hg : g.isEmpty = true := h.isEmpty_eq ▸ hf
      rw [SqlLoom.negation, SqlLoom.negation, if_pos hf, if_pos hg]
      exact h
  | false =>
      rw [h.eq_of_shown hf]
      exact .refl _

theorem flatMap_steps_congr {fs gs : List Fragment} (h : List.Forall₂ Same fs gs) :
    fs.flatMap steps = gs.flatMap steps := by
  induction h with
  | nil => rfl
  | cons hfg _ ih => rw [List.flatMap_cons, List.flatMap_cons, hfg.steps, ih]

theorem filter_shown_congr {fs gs : List Fragment} (h : List.Forall₂ Same fs gs) :
    (fs.filter fun f => !f.isEmpty) = gs.filter fun g => !g.isEmpty := by
  induction h with
  | nil => rfl
  | @cons f g _ _ hfg _ ih =>
      rw [List.filter_cons, List.filter_cons, ← hfg.isEmpty_eq, ih]
      cases hf : f.isEmpty with
      | true => rfl
      | false => rw [hfg.eq_of_shown hf]

/-- A group leaves out what is empty, so its members may differ there. -/
theorem grouped_congr (op : String) {fs gs : List Fragment} (h : List.Forall₂ Same fs gs) :
    grouped op fs = grouped op gs := by
  have hbody : joinShown (") " ++ op ++ " (") fs = joinShown (") " ++ op ++ " (") gs := by
    rw [joinShown, joinShown, flatMap_steps_congr h, filter_shown_congr h]
  rw [grouped, grouped, hbody]

end Fragment

/-! ### Logical operators -/

/-- What a logical operator makes of its compiled operands. -/
def logicalFragment (op : Operator) (parts : List (Except Error Fragment)) :
    Except Error Fragment :=
  match op, parts with
  | .not, [part] => part.map negation
  | .not, _ => buildError (.oneOperand Operator.not.keyword)
  | op, parts => (parts.mapM id).map (grouped op.keyword)

theorem operandFragments_eq_mapM (d : Dialect) (subqueries : Bool) (operands : List Value) :
    operandFragments d subqueries operands
      = (operands.map (Value.conditionFragment d subqueries)).mapM id :=
  calc operandFragments d subqueries operands
      = operandFragments d subqueries (operands.map id) := by rw [List.map_id]
    _ = operands.mapM (Value.conditionFragment d subqueries) := operandFragments_map fun _ _ => rfl
    _ = (operands.map (Value.conditionFragment d subqueries)).mapM id := by
      rw [List.mapM_map, Function.id_comp]

/-- A logical operator looks at nothing of its operands but what they compile to. -/
theorem nodeFragment_logical (d : Dialect) (subqueries : Bool) {op : Operator}
    (hop : op.isLogical = true) (operands : List Value) :
    nodeFragment d subqueries op operands
      = logicalFragment op (operands.map (Value.conditionFragment d subqueries)) := by
  cases op with
  | and =>
      rw [nodeFragment_junction d subqueries (.inl rfl), operandFragments_eq_mapM]
      rfl
  | or =>
      rw [nodeFragment_junction d subqueries (.inr rfl), operandFragments_eq_mapM]
      rfl
  | not =>
      match operands with
      | [] => rfl
      | [operand] =>
          rw [nodeFragment]
          exact bind_pure_comp _ _
      | _ :: _ :: _ => rfl
  | _ => cases hop

theorem mapM_agrees {xs ys : List (Except Error Fragment)}
    (h : List.Forall₂ (Agrees Same) xs ys) :
    Agrees (List.Forall₂ Same) (xs.mapM id) (ys.mapM id) := by
  induction h with
  | nil => exact .ok .nil
  | cons hx _ ih =>
      rw [List.mapM_cons, List.mapM_cons]
      exact hx.bind fun f g hfg => ih.bind fun fs gs hall => .ok (.cons hfg hall)

/-- Operands that agree make conditions that agree. -/
theorem logicalFragment_agrees (op : Operator) {xs ys : List (Except Error Fragment)}
    (h : List.Forall₂ (Agrees Same) xs ys) :
    Agrees Same (logicalFragment op xs) (logicalFragment op ys) := by
  have hgroup : Agrees Same ((xs.mapM id).map (grouped op.keyword))
      ((ys.mapM id).map (grouped op.keyword)) :=
    (mapM_agrees h).map fun _ _ hall => grouped_congr op.keyword hall ▸ .refl _
  cases op with
  | not =>
      -- Anything but one operand is the same error, whatever the operands are.
      cases h with
      | nil => exact .error _
      | cons hx hrest =>
          cases hrest with
          | nil => exact hx.map fun _ _ hfg => hfg.negation
          | cons _ _ => exact .error _
  | _ => exact hgroup

/-- An operand that fails makes a condition that fails. -/
theorem logicalFragment_fails (op : Operator) {parts : List (Except Error Fragment)}
    (h : ∃ part ∈ parts, ∃ e, part = .error e) : ∃ e, logicalFragment op parts = .error e := by
  -- The error is that of the first operand that fails, which may be another one.
  have hmapM : ∃ e, parts.mapM id = .error e := by
    obtain ⟨part, hmem, e, rfl⟩ := h
    induction parts with
    | nil => cases hmem
    | cons first rest ih =>
        rw [List.mapM_cons]
        cases first with
        | error e' => exact ⟨e', rfl⟩
        | ok f =>
            obtain ⟨e', he'⟩ := ih (by simpa using hmem)
            exact ⟨e', by rw [he']; rfl⟩
  obtain ⟨e, he⟩ := hmapM
  have hgroup : ∃ e, (parts.mapM id).map (grouped op.keyword) = .error e := ⟨e, by rw [he]; rfl⟩
  cases op with
  | not =>
      match parts, h with
      | [], _ => exact ⟨_, rfl⟩
      | [part], h =>
          obtain ⟨part', hmem, e', rfl⟩ := h
          rw [← List.mem_singleton.mp hmem]
          exact ⟨e', rfl⟩
      | _ :: _ :: _, _ => exact ⟨_, rfl⟩
  | _ => exact hgroup

/-! ### Expansion -/

mutual

/-- The value with each shorthand in the place of a condition replaced by what it spells, an empty
one by the empty text. Inside of typed nodes this is done where `deep` holds. -/
def Value.expanded (deep : Bool) : Value → Except Error Value
  | .map entries => .ok (if entries.isEmpty then .text "" else .hash entries)
  | .list items => expandedList deep items
  | .tuple items => expandedList deep items
  | .cond op operands => do
    if deep && op.isLogical then return .cond op (← expandedOperands deep operands)
    return .cond op operands
  | v => .ok v

def expandedList (deep : Bool) : List Value → Except Error Value
  | [] => .ok (.text "")
  | head :: operands => do
    let op ← head.headOperator
    if op.isLogical then return .cond op (← expandedOperands deep operands)
    return .cond op operands

def expandedOperands (deep : Bool) : List Value → Except Error (List Value)
  | [] => .ok []
  | v :: rest => do
    let first ← v.expanded deep
    return first :: (← expandedOperands deep rest)

end

/-! ### Reading is expanding -/

/-- A shorthand list that is not empty spells a node. -/
theorem nodeOfShorthand_eq_cond {head node : Value} {operands : List Value}
    (h : nodeOfShorthand (head :: operands) = .ok node) : ∃ op args, node = .cond op args := by
  rw [nodeOfShorthand] at h
  cases hhead : head.headOperator with
  | error e =>
      rw [hhead] at h
      cases h
  | ok op =>
      rw [hhead] at h
      change (if op.isLogical then _ else _) = _ at h
      split at h
      · cases hoperands : logicalOperands operands with
        | error e =>
            rw [hoperands] at h
            cases h
        | ok args =>
            rw [hoperands] at h
            cases h
            exact ⟨op, args, rfl⟩
      · cases h
        exact ⟨op, operands, rfl⟩

mutual

/-- Reading a shorthand list expands it, though not inside of typed nodes. -/
theorem nodeOfShorthand_eq (head : Value) (operands : List Value) :
    nodeOfShorthand (head :: operands) = expandedList false (head :: operands) := by
  rw [nodeOfShorthand, expandedList, logicalOperands_eq operands]

/-- Reading the operands of a logical operator expands them, an empty list to the empty text. -/
theorem logicalOperands_eq :
    (operands : List Value) → logicalOperands operands = expandedOperands false operands
  | [] => by rw [logicalOperands, expandedOperands]
  | .list items :: rest | .tuple items :: rest => by
      rw [logicalOperands, expandedOperands, logicalOperands_eq rest, Value.expanded]
      exact operandOfShorthand_eq items fun v => do return v :: (← expandedOperands false rest)
  | .map _ :: rest | .cond .. :: rest | .null :: rest | .bool _ :: rest | .int _ :: rest
  | .float _ :: rest | .text _ :: rest | .bytes _ :: rest | .stream _ :: rest
  | .typed .. :: rest | .out .. :: rest | .expr _ :: rest | .hash _ :: rest | .query _ :: rest
  | .item _ :: rest | .ref _ :: rest | .join _ :: rest | .order _ :: rest | .branch _ :: rest
  | .direction _ :: rest | .isolation _ :: rest | .columnType _ :: rest => by
      simp only [logicalOperands]
      rw [expandedOperands, logicalOperands_eq rest]
      rfl

theorem operandOfShorthand_eq {α : Type} :
    (items : List Value) → (k : Value → Except Error α) →
      (nodeOfShorthand items >>= fun node => k (match node with | .null => .text "" | v => v))
        = expandedList false items >>= k
  | [], k => by
      rw [nodeOfShorthand, expandedList]
      rfl
  | head :: operands, k => by
      rw [← nodeOfShorthand_eq head operands]
      cases h : nodeOfShorthand (head :: operands) with
      | error e => rfl
      | ok node =>
          obtain ⟨op, args, rfl⟩ := nodeOfShorthand_eq_cond h
          rfl

end

/-! ### Expansion and compilation -/

mutual

/-- What can be expanded everywhere can be expanded outside of typed nodes. -/
theorem Value.expanded_follows (deep : Bool) :
    (v : Value) → Follows (v.expanded deep) (v.expanded false) Anything
  | .list items | .tuple items => expandedList_follows deep items
  | .map _ | .cond .. | .null | .bool _ | .int _ | .float _ | .text _ | .bytes _ | .stream _
  | .typed .. | .out .. | .expr _ | .hash _ | .query _ | .item _ | .ref _ | .join _ | .order _
  | .branch _ | .direction _ | .isolation _ | .columnType _ => fun _ _ => ⟨_, rfl, trivial⟩

theorem expandedList_follows (deep : Bool) :
    (items : List Value) → Follows (expandedList deep items) (expandedList false items) Anything
  | [] => .same (fun _ => trivial) _
  | head :: operands => by
      rw [expandedList, expandedList]
      refine Follows.bind (Follows.same (R := Eq) (fun _ => rfl) head.headOperator) ?_
      rintro op _ rfl
      split
      · exact Follows.bind (expandedOperands_follows deep operands) fun _ _ _ => .pure trivial
      · exact .pure trivial

theorem expandedOperands_follows (deep : Bool) :
    (operands : List Value) →
      Follows (expandedOperands deep operands) (expandedOperands false operands) Anything
  | [] => .same (fun _ => trivial) _
  | v :: rest => by
      rw [expandedOperands, expandedOperands]
      refine Follows.bind (v.expanded_follows deep) fun _ _ _ => ?_
      exact Follows.bind (expandedOperands_follows deep rest) fun _ _ _ => .pure trivial

end

/-- An error of building. -/
def Error.IsBuild (e : Error) : Prop := ∃ cause, e = .build cause

/-- What was expanded compiles as `compiled` says. An expansion that fails does so with an error of
building, and nothing was compiled. -/
inductive Faithful (d : Dialect) (subqueries : Bool) (compiled : Except Error Fragment) :
    Except Error Value → Prop where
  | ok {w : Value} (h : Agrees Same compiled (w.conditionFragment d subqueries)) :
      Faithful d subqueries compiled (.ok w)
  | error {e e' : Error} (he : e.IsBuild) (h : compiled = .error e') :
      Faithful d subqueries compiled (.error e)

/-- The same of the operands of an operator, one of which is enough to fail. -/
inductive FaithfulAll (d : Dialect) (subqueries : Bool) (compiled : List (Except Error Fragment)) :
    Except Error (List Value) → Prop where
  | ok {ws : List Value}
      (h : List.Forall₂ (Agrees Same) compiled (ws.map (Value.conditionFragment d subqueries))) :
      FaithfulAll d subqueries compiled (.ok ws)
  | error {e : Error} (he : e.IsBuild) (h : ∃ part ∈ compiled, ∃ e', part = .error e') :
      FaithfulAll d subqueries compiled (.error e)

theorem headOperator_isBuild {head : Value} {e : Error} (h : head.headOperator = .error e) :
    e.IsBuild := by
  rw [Value.headOperator] at h
  split at h
  · cases h
  · cases h
    exact ⟨_, rfl⟩

/-- A shorthand list compiles to the node that it spells, if it can be read. -/
theorem shorthandFragment_eq (head : Value) (operands : List Value) :
    shorthandFragment d subqueries (head :: operands)
      = expandedList false (head :: operands) >>= fun _ =>
        head.headOperator >>= fun op => nodeFragment d subqueries op operands := by
  rw [shorthandFragment, nodeOfShorthand_eq]

/-- A reading that has to succeed first changes nothing, where expansion fails if it does. -/
theorem Faithful.of_read {α : Type} {compiled : Except Error Fragment}
    {expanded : Except Error Value} {read : Except Error α}
    (h : Faithful d subqueries compiled expanded) (hread : Follows expanded read Anything) :
    Faithful d subqueries (read >>= fun _ => compiled) expanded := by
  cases hok : read with
  | ok _ => exact h
  | error e =>
      cases h with
      | ok _ =>
          obtain ⟨_, ha, -⟩ := hread _ rfl
          rw [hok] at ha
          cases ha
      | error he _ => exact .error he rfl

/-- A logical operator and its operands expanded. -/
theorem FaithfulAll.node {op : Operator} (hop : op.isLogical = true) {operands : List Value}
    {expanded : Except Error (List Value)}
    (h : FaithfulAll d subqueries (operands.map (Value.conditionFragment d subqueries)) expanded) :
    Faithful d subqueries (nodeFragment d subqueries op operands)
      (expanded >>= fun ws => pure (.cond op ws)) := by
  rw [nodeFragment_logical d subqueries hop]
  cases h with
  | ok hall =>
      refine .ok ?_
      rw [Value.conditionFragment, nodeFragment_logical d subqueries hop]
      exact logicalFragment_agrees op hall
  | error he hpart =>
      obtain ⟨e', he'⟩ := logicalFragment_fails op hpart
      exact .error he he'

/-- One operand and the others expanded. -/
theorem Faithful.cons {compiled : Except Error Fragment} {parts : List (Except Error Fragment)}
    {expanded : Except Error Value} {others : Except Error (List Value)}
    (h : Faithful d subqueries compiled expanded)
    (hothers : FaithfulAll d subqueries parts others) :
    FaithfulAll d subqueries (compiled :: parts)
      (expanded >>= fun w => others >>= fun ws => pure (w :: ws)) := by
  cases h with
  | error he h => exact .error he ⟨_, List.mem_cons_self, _, h⟩
  | ok h =>
      cases hothers with
      | ok hall => exact .ok (.cons h hall)
      | error he hpart =>
          obtain ⟨part, hmem, herror⟩ := hpart
          exact .error he ⟨part, List.mem_cons_of_mem _ hmem, herror⟩

mutual

/-- Expansion keeps what a condition compiles to. -/
theorem Value.expanded_faithful (d : Dialect) (subqueries deep : Bool) :
    (v : Value) → Faithful d subqueries (v.conditionFragment d subqueries) (v.expanded deep)
  | .list items | .tuple items => expandedList_faithful d subqueries deep items
  | .map entries => by
      cases entries with
      -- No pieces are not the same as a piece without letters, but both are empty.
      | nil => exact .ok (.ok ⟨rfl, .inr ⟨rfl, rfl⟩⟩)
      | cons _ _ => exact .ok (.same .refl _)
  | .cond op operands => by
      rw [Value.conditionFragment, Value.expanded]
      split
      · rename_i hop
        rw [Bool.and_eq_true] at hop
        exact (expandedOperands_faithful d subqueries deep operands).node hop.2
      · exact .ok (.same .refl _)
  | .null | .bool _ | .int _ | .float _ | .text _ | .bytes _ | .stream _ | .typed .. | .out ..
  | .expr _ | .hash _ | .query _ | .item _ | .ref _ | .join _ | .order _ | .branch _
  | .direction _ | .isolation _ | .columnType _ => .ok (.same .refl _)

theorem expandedList_faithful (d : Dialect) (subqueries deep : Bool) :
    (items : List Value) →
      Faithful d subqueries (shorthandFragment d subqueries items) (expandedList deep items)
  | [] => .ok (.ok ⟨rfl, .inr ⟨rfl, rfl⟩⟩)
  | head :: operands => by
      rw [shorthandFragment_eq]
      -- The list is read before its parts are compiled, and what can be expanded can be read.
      refine Faithful.of_read ?_ (expandedList_follows deep (head :: operands))
      rw [expandedList]
      cases hhead : head.headOperator with
      | error e => exact .error (headOperator_isBuild hhead) rfl
      | ok op =>
          show Faithful d subqueries (nodeFragment d subqueries op operands) (if _ then _ else _)
          split
          · rename_i hop
            exact (expandedOperands_faithful d subqueries deep operands).node hop
          · exact .ok (.same .refl _)

theorem expandedOperands_faithful (d : Dialect) (subqueries deep : Bool) :
    (operands : List Value) →
      FaithfulAll d subqueries (operands.map (Value.conditionFragment d subqueries))
        (expandedOperands deep operands)
  | [] => .ok .nil
  | v :: rest => by
      rw [expandedOperands, List.map_cons]
      exact (v.expanded_faithful d subqueries deep).cons
        (expandedOperands_faithful d subqueries deep rest)

end

/-! ### Reading and compilation -/

/-- What is read compiles to what the list does. -/
theorem nodeOfShorthand_agrees {items : List Value} {w : Value}
    (h : nodeOfShorthand items = .ok w) :
    Agrees Same (shorthandFragment d subqueries items) (w.conditionFragment d subqueries) := by
  cases items with
  | nil =>
      rw [nodeOfShorthand] at h
      cases h
      exact .same .refl _
  | cons head operands =>
      have hlist := expandedList_faithful d subqueries false (head :: operands)
      rw [← nodeOfShorthand_eq, h] at hlist
      cases hlist with
      | ok hagrees => exact hagrees

/-- A list that cannot be read is not compiled, for the same reason. -/
theorem nodeOfShorthand_fails {items : List Value} {e : Error}
    (h : nodeOfShorthand items = .error e) :
    e.IsBuild ∧ shorthandFragment d subqueries items = .error e := by
  cases items with
  | nil =>
      rw [nodeOfShorthand] at h
      cases h
  | cons head operands =>
      have hlist := expandedList_faithful d subqueries false (head :: operands)
      rw [← nodeOfShorthand_eq, h] at hlist
      cases hlist with
      | error he _ =>
          refine ⟨he, ?_⟩
          rw [shorthandFragment_eq, ← nodeOfShorthand_eq, h]
          rfl

/-- A condition compiles as it does once it is read. -/
theorem Value.toCondition_agrees {v w : Value} (h : v.toCondition = .ok w) :
    Agrees Same (v.conditionFragment d subqueries) (w.conditionFragment d subqueries) := by
  cases v with
  | list items | tuple items => exact nodeOfShorthand_agrees h
  | map entries =>
      cases entries with
      | nil | cons _ _ =>
          cases h
          exact .same .refl _
  | null | expr _ | hash _ | cond _ _ | text _ | direction _ | isolation _ | columnType _ =>
      cases h
      exact .same .refl _
  | _ => cases h

/-- What is no condition is neither read nor compiled, with an error of building both times. -/
theorem Value.toCondition_fails (d : Dialect) (subqueries : Bool) {v : Value} {e : Error}
    (h : v.toCondition = .error e) :
    e.IsBuild ∧ ∃ e', e'.IsBuild ∧ v.conditionFragment d subqueries = .error e' := by
  cases v with
  | list items | tuple items =>
      obtain ⟨he, hlist⟩ := nodeOfShorthand_fails h
      exact ⟨he, e, he, hlist⟩
  | map entries => cases entries <;> cases h
  | null | expr _ | hash _ | cond _ _ | text _ | direction _ | isolation _ | columnType _ => cases h
  | _ =>
      cases h
      exact ⟨⟨_, rfl⟩, _, ⟨_, rfl⟩, rfl⟩

/-! ### Over a table of parameters -/

/-- What a condition compiles to over a table of parameters: its text, and the table afterwards. -/
def Value.compiled (d : Dialect) (subqueries : Bool) (t : ParamTable) (v : Value) :
    Except Error (String × ParamTable) :=
  (v.conditionFragment d subqueries).map fun f => f.bind t

theorem compiled_eq_of_agrees {v w : Value}
    (h : Agrees Same (v.conditionFragment d subqueries) (w.conditionFragment d subqueries))
    (t : ParamTable) : w.compiled d subqueries t = v.compiled d subqueries t :=
  (h.map_eq fun _ _ hfg => hfg.bind_eq t).symm

theorem Value.compiled_expanded {deep : Bool} {v w : Value} (h : v.expanded deep = .ok w)
    (t : ParamTable) : w.compiled d subqueries t = v.compiled d subqueries t := by
  have hv := v.expanded_faithful d subqueries deep
  rw [h] at hv
  cases hv with
  | ok hagrees => exact compiled_eq_of_agrees hagrees t

theorem Value.compiled_of_expanded_error (d : Dialect) (subqueries : Bool) {deep : Bool} {v : Value}
    {e : Error} (h : v.expanded deep = .error e) (t : ParamTable) :
    e.IsBuild ∧ ∃ e', v.compiled d subqueries t = .error e' := by
  have hv := v.expanded_faithful d subqueries deep
  rw [h] at hv
  cases hv with
  | error he hfails =>
      rw [compiled, hfails]
      exact ⟨he, _, rfl⟩

theorem Value.compiled_of_toCondition_error (d : Dialect) (subqueries : Bool) {v : Value}
    {e : Error} (h : v.toCondition = .error e) (t : ParamTable) :
    e.IsBuild ∧ ∃ e', e'.IsBuild ∧ v.compiled d subqueries t = .error e' := by
  obtain ⟨he, e', he', hfails⟩ := Value.toCondition_fails d subqueries h
  rw [compiled, hfails]
  exact ⟨he, e', he', rfl⟩

end SqlLoom
