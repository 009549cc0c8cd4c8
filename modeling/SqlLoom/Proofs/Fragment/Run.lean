import Mathlib.Tactic.Tauto
import SqlLoom.Fragment
import SqlLoom.Proofs.ParamTable

/-!
# `SqlLoom.Proofs.Fragment.Run`: table steps on a table

`Fragment.run` takes the steps of a fragment one after another. The theorems say what is in the
table afterwards:

* `run_append`: a run over two lists of steps is two runs.
* `mem_names_run`: the names afterwards are the old ones, the generated ones and the merged ones.
* `get?_run_of_mem`, `get?_run_added`: a name that is in the table keeps its value until a merge
  brings the name again. `overriding` is the value that the merges bring last.
* `mem_run`: an entry afterwards was there before, has been stored (`added`) or has been merged.
-/

set_option autoImplicit false

namespace SqlLoom.Fragment

/-! ### Counting -/

/-- The number of generated names. -/
def adds : List TableStep → Nat
  | [] => 0
  | .add _ :: rest => adds rest + 1
  | .merge _ :: rest => adds rest

/-- The number of places for generated names. -/
def slots : List Piece → Nat
  | [] => 0
  | .text _ :: rest => slots rest
  | .slot :: rest => slots rest + 1

@[simp]
theorem adds_append (ss ts : List TableStep) : adds (ss ++ ts) = adds ss + adds ts := by
  induction ss with
  | nil => simp [adds]
  | cons s rest ih =>
      cases s with
      | add v => rw [List.cons_append, adds, ih, adds, Nat.add_right_comm]
      | merge params => rw [List.cons_append, adds, ih, adds]

@[simp]
theorem slots_append (ps qs : List Piece) : slots (ps ++ qs) = slots ps + slots qs := by
  induction ps with
  | nil => simp [slots]
  | cons p rest ih =>
      cases p with
      | text s => rw [List.cons_append, slots, ih, slots]
      | slot => rw [List.cons_append, slots, ih, slots, Nat.add_right_comm]

/-! ### Runs -/

theorem run_add (v : Value) (rest : List TableStep) (t : ParamTable) :
    run (.add v :: rest) t = (t.freshName :: (run rest (t.add v).2).1, (run rest (t.add v).2).2) :=
  rfl

theorem run_merge (params : Entries Value) (rest : List TableStep) (t : ParamTable) :
    run (.merge params :: rest) t = run rest (t.merge params) := rfl

/-- A run over two lists of steps is a run over the first and one over the second from there. -/
theorem run_append (ss ts : List TableStep) (t : ParamTable) :
    run (ss ++ ts) t
      = ((run ss t).1 ++ (run ts (run ss t).2).1, (run ts (run ss t).2).2) := by
  induction ss generalizing t with
  | nil => rfl
  | cons s rest ih =>
      cases s with
      | add v => rw [List.cons_append, run_add, run_add, ih]; rfl
      | merge params => rw [List.cons_append, run_merge, run_merge, ih]

/-- Each `add` gives one name. -/
theorem length_run_names (ss : List TableStep) (t : ParamTable) :
    (run ss t).1.length = adds ss := by
  induction ss generalizing t with
  | nil => rfl
  | cons s rest ih =>
      cases s with
      | add v => rw [run_add, List.length_cons, ih, adds]
      | merge params => rw [run_merge, ih, adds]

/-- The names after a run: those before it, the generated ones and the merged ones. -/
theorem mem_names_run (name : String) (ss : List TableStep) (t : ParamTable) :
    name ∈ (run ss t).2.entries.names ↔
      name ∈ t.entries.names ∨ name ∈ (run ss t).1 ∨
        ∃ params, TableStep.merge params ∈ ss ∧ name ∈ params.names := by
  induction ss generalizing t with
  | nil => simp [run]
  | cons s rest ih =>
      cases s with
      | add v =>
          rw [run_add, ih, ParamTable.names_add, List.mem_append, List.mem_singleton,
            List.mem_cons]
          simp only [List.mem_cons, reduceCtorEq, false_or, or_assoc]
      | merge params =>
          rw [run_merge, ih, ParamTable.merge_entries, Entries.mem_names_merge]
          simp only [List.mem_cons, TableStep.merge.injEq, or_and_right, exists_or,
            exists_eq_left]
          tauto

/-- A run keeps the mark. -/
theorem mark_run (ss : List TableStep) (t : ParamTable) : (run ss t).2.mark = t.mark := by
  induction ss generalizing t with
  | nil => rfl
  | cons s rest ih =>
      cases s with
      | add v => rw [run_add, ih, ParamTable.add_mark]
      | merge params => rw [run_merge, ih, ParamTable.merge_mark]

/-- A run writes no name twice. -/
theorem distinct_run (ss : List TableStep) {t : ParamTable} (h : t.Distinct) :
    (run ss t).2.Distinct := by
  induction ss generalizing t with
  | nil => exact h
  | cons s rest ih =>
      cases s with
      | add v => exact ih (h.add v)
      | merge params => exact ih (h.merge params)

/-- The names that a run generates are new, and different from each other. -/
theorem nodup_run_names (ss : List TableStep) (t : ParamTable) :
    (run ss t).1.Nodup ∧ ∀ name ∈ (run ss t).1, name ∉ t.entries.names := by
  induction ss generalizing t with
  | nil => exact ⟨List.nodup_nil, fun name h => absurd h List.not_mem_nil⟩
  | cons s rest ih =>
      cases s with
      | add v =>
          obtain ⟨hnodup, hnew⟩ := ih (t.add v).2
          -- The later names avoid the table after the `add`, which holds the fresh name.
          rw [ParamTable.names_add] at hnew
          rw [run_add]
          refine ⟨List.nodup_cons.mpr ⟨fun hmem => ?_, hnodup⟩, fun name hname => ?_⟩
          · exact hnew _ hmem (List.mem_append_right _ (List.mem_singleton_self _))
          · rcases List.mem_cons.mp hname with rfl | hmem
            · exact t.freshName_not_mem
            · exact fun hold => hnew name hmem (List.mem_append_left _ hold)
      | merge params =>
          obtain ⟨hnodup, hnew⟩ := ih (t.merge params)
          rw [run_merge]
          refine ⟨hnodup, fun name hname hold => hnew name hname ?_⟩
          rw [ParamTable.merge_entries, Entries.mem_names_merge]
          exact .inl hold

/-! ### The value of a name -/

/-- The value that merges bring for a name, the last one of several. -/
def overriding (name : String) : List TableStep → Option Value
  | [] => none
  | .add _ :: rest => overriding name rest
  | .merge params :: rest => (overriding name rest).or (Entries.get? name params.reverse)

/-- Nothing overrides a name that no merge brings. -/
theorem overriding_eq_none_iff (name : String) (ss : List TableStep) :
    overriding name ss = none ↔ ∀ params, TableStep.merge params ∈ ss → name ∉ params.names := by
  induction ss with
  | nil => simp [overriding]
  | cons s rest ih =>
      cases s with
      | add v => simp [overriding, ih]
      | merge params =>
          rw [overriding, Option.or_eq_none_iff, ih, Entries.get?_reverse_eq_none_iff]
          simp only [List.mem_cons, TableStep.merge.injEq]
          exact ⟨fun h p hp => hp.elim (fun heq => heq ▸ h.2) (h.1 p),
            fun h => ⟨fun p hp => h p (.inr hp), h params (.inl rfl)⟩⟩

/-- A name that is in the table keeps its value through a run, unless a merge brings the name.
An `add` never meets it, because a fresh name is not in the table. -/
theorem get?_run_of_mem (name : String) (ss : List TableStep) (t : ParamTable)
    (h : name ∈ t.entries.names) :
    (run ss t).2.entries.get? name = (overriding name ss).or (t.entries.get? name) := by
  induction ss generalizing t with
  | nil => rfl
  | cons s rest ih =>
      cases s with
      | add v =>
          -- The fresh name is another one.
          have hmem : name ∈ (t.add v).2.entries.names := by
            rw [ParamTable.names_add]
            exact List.mem_append_left _ h
          rw [run_add, ih _ hmem, ParamTable.get?_add_of_mem t v h, overriding]
      | merge params =>
          -- Whatever comes later overrides what this merge brings.
          have hmem : name ∈ (t.merge params).entries.names := by
            rw [ParamTable.merge_entries, Entries.mem_names_merge]
            exact .inl h
          rw [run_merge, ih _ hmem, ParamTable.merge_entries, Entries.get?_merge, overriding,
            Option.or_assoc]

/-- The value under a generated name at the end of a run: what the merges after it bring for that
name, and else the value that was added. -/
theorem get?_run_added (before after : List TableStep) (v : Value) (t : ParamTable) :
    (run (before ++ .add v :: after) t).2.entries.get? (run before t).2.freshName
      = some ((overriding (run before t).2.freshName after).getD v) := by
  -- From the `add` on the name is in the table, so only merges can change its value.
  have hmem : (run before t).2.freshName ∈ ((run before t).2.add v).2.entries.names := by
    rw [ParamTable.names_add]
    exact List.mem_append_right _ (List.mem_singleton_self _)
  rw [run_append, run_add, get?_run_of_mem _ after _ hmem, ParamTable.get?_add_self]
  cases overriding (run before t).2.freshName after <;> rfl

/-! ### Where entries come from -/

/-- The values that a run stores, under their generated names. -/
def added : List TableStep → ParamTable → Entries Value
  | [], _ => []
  | .add v :: rest, t => (t.freshName, v) :: added rest (t.add v).2
  | .merge params :: rest, t => added rest (t.merge params)

theorem names_added (ss : List TableStep) (t : ParamTable) :
    (added ss t).names = (run ss t).1 := by
  induction ss generalizing t with
  | nil => rfl
  | cons s rest ih =>
      cases s with
      | add v => rw [added, Entries.names_cons, ih, run_add]
      | merge params => rw [added, ih, run_merge]

/-- A run without merges keeps what is there. -/
theorem get?_run_of_adds {ss : List TableStep} (h : ∀ params, TableStep.merge params ∉ ss)
    {t : ParamTable} {name : String} {v : Value} (hget : t.entries.get? name = some v) :
    (run ss t).2.entries.get? name = some v := by
  have hmem : name ∈ t.entries.names := by
    by_contra hnew
    rw [(Entries.get?_eq_none_iff _ _).mpr hnew] at hget
    cases hget
  have hnone : overriding name ss = none :=
    (overriding_eq_none_iff name ss).mpr fun params hmerge => absurd hmerge (h params)
  rw [get?_run_of_mem name ss t hmem, hnone, hget]
  rfl

/-- Every name that a run generates is the mark and a number. -/
theorem exists_nameOf_of_mem_run {ss : List TableStep} {t : ParamTable} {name : String}
    (h : name ∈ (run ss t).1) : ∃ n, name = ParamTable.nameOf t.mark n := by
  induction ss generalizing t with
  | nil => cases h
  | cons s rest ih =>
      cases s with
      | add v =>
          rcases List.mem_cons.mp h with rfl | h
          · exact t.freshName_eq_nameOf
          · obtain ⟨n, hn⟩ := ih h
            exact ⟨n, hn⟩
      | merge params =>
          rw [run_merge] at h
          obtain ⟨n, hn⟩ := ih h
          exact ⟨n, hn⟩

/-- An entry after a run was there before, has been stored, or has been merged. -/
theorem mem_run {ss : List TableStep} {t : ParamTable} {e : String × Value}
    (h : e ∈ (run ss t).2.entries) :
    e ∈ t.entries ∨ e ∈ added ss t ∨ ∃ params, TableStep.merge params ∈ ss ∧ e ∈ params := by
  induction ss generalizing t with
  | nil => exact .inl h
  | cons s rest ih =>
      cases s with
      | add v =>
          rw [run_add] at h
          rcases ih h with hold | hadded | ⟨params, hmerge, he⟩
          · rcases List.mem_append.mp hold with hold | hnew
            · exact .inl hold
            · exact .inr (.inl (List.mem_cons.mpr (.inl (List.mem_singleton.mp hnew))))
          · exact .inr (.inl (List.mem_cons_of_mem _ hadded))
          · exact .inr (.inr ⟨params, List.mem_cons_of_mem _ hmerge, he⟩)
      | merge carried =>
          rw [run_merge] at h
          rcases ih h with hold | hadded | ⟨params, hmerge, he⟩
          · rcases Entries.mem_merge hold with hold | hnew
            · exact .inl hold
            · exact .inr (.inr ⟨carried, List.mem_cons_self, hnew⟩)
          · exact .inr (.inl hadded)
          · exact .inr (.inr ⟨params, List.mem_cons_of_mem _ hmerge, he⟩)

end SqlLoom.Fragment
