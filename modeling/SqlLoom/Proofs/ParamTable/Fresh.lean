import Mathlib.Order.Bounds.Defs
import SqlLoom.Proofs.Fragment.Run

/-!
# `SqlLoom.Proofs.ParamTable.Fresh`: fresh names stay fresh

To store a value is to look at one name after the other until one is free. `Tries` is that search
without a bound: the names that it looks at, from a number on. A table can hold any names, generated
ones that a merge has brought among them, so the search may pass over some; but one number more than
there are entries is more than they can take.

* `Tries.of_taken`: the search looks at the names up to the first free one.
* `names_prefix_step`: whatever is done to a table, the names in it stay, in their order.
* `adds_stay_fresh`: after any run of `add` and `merge`, an `add` finds the least free number in
  time, and its name is new to the table and to whoever was given a name before.
-/

set_option autoImplicit false

namespace SqlLoom.ParamTable

open Fragment

/-- The names that a search looks at, from a number on: the last of them is free, those before it
are taken. -/
inductive Tries (mark : String) (taken : List String) : Nat → List String → Prop
  | free {n : Nat} (h : nameOf mark n ∉ taken) : Tries mark taken n [nameOf mark n]
  | next {n : Nat} {names : List String} (h : nameOf mark n ∈ taken)
      (rest : Tries mark taken (n + 1) names) : Tries mark taken n (nameOf mark n :: names)

/-- The search looks at the names up to the first free one. -/
theorem Tries.of_taken {mark : String} {taken : List String} {n i : Nat}
    (hbefore : ∀ j < i, nameOf mark (n + j) ∈ taken) (hfree : nameOf mark (n + i) ∉ taken) :
    Tries mark taken n ((List.range' n (i + 1)).map (nameOf mark)) := by
  induction i generalizing n with
  | zero => exact .free hfree
  | succ i ih =>
      have hnext : ∀ j, n + 1 + j = n + (j + 1) := fun j => by omega
      refine .next (hbefore 0 i.succ_pos) (ih (fun j hj => ?_) ?_)
      · rw [hnext]
        exact hbefore (j + 1) (Nat.succ_lt_succ hj)
      · rwa [hnext]

/-- The names that an `add` looks at: no more than one in addition to the number of entries, and
the last one is the name that it gives. -/
theorem exists_tries (t : ParamTable) :
    ∃ candidates, Tries t.mark t.entries.names t.entries.length candidates ∧
      candidates.length ≤ t.entries.length + 1 ∧ candidates.getLast? = some t.freshName := by
  obtain ⟨i, hi, heq, hbefore, hfree⟩ := t.freshName_least
  refine ⟨_, Tries.of_taken hbefore hfree, ?_, ?_⟩
  · rw [List.length_map, List.length_range']
    exact Nat.succ_le_succ hi
  · rw [List.range'_concat, List.map_append, List.map_singleton, List.getLast?_concat, heq,
      Nat.one_mul]

/-- The number of the name that an `add` gives is the least free one from the number of entries
on. -/
theorem exists_isLeast (t : ParamTable) :
    ∃ n, t.freshName = nameOf t.mark n ∧
      IsLeast {m | t.entries.length ≤ m ∧ nameOf t.mark m ∉ t.entries.names} n := by
  obtain ⟨i, -, heq, hbefore, hfree⟩ := t.freshName_least
  refine ⟨_, heq, ⟨Nat.le_add_right _ _, hfree⟩, ?_⟩
  rintro m ⟨hm, hmfree⟩
  by_contra hlt
  have htaken := hbefore (m - t.entries.length) (by omega)
  rw [show t.entries.length + (m - t.entries.length) = m by omega] at htaken
  exact hmfree htaken

/-- A step on a table keeps the names that are there, in their order. -/
theorem names_prefix_step (step : TableStep) (t : ParamTable) :
    t.entries.names <+: (run [step] t).2.entries.names := by
  cases step with
  | add v =>
      show t.entries.names <+: (t.add v).2.entries.names
      rw [names_add]
      exact List.prefix_append _ _
  | merge params => exact Entries.names_prefix_merge _ _

/-- From any parameters and with any mark, after any run of `add` and `merge`: an `add` looks at no
more names than there are entries and one, and gives the one with the least number, from the number
of entries on, that is free. The name is not in the table, and no `add` has given it before. The
entries stay as they are, and the new one comes behind them. No step takes a name out of the table
or changes the order of those that are there. -/
theorem adds_stay_fresh (mark : String) (initial : Entries Value) (steps : List TableStep) :
    let given := (run steps (.ofEntries mark initial)).1
    let t := (run steps (.ofEntries mark initial)).2
    let count := t.entries.length
    (∀ v,
      (∃ candidates, Tries mark t.entries.names count candidates ∧
        candidates.length ≤ count + 1 ∧ candidates.getLast? = some (t.add v).1) ∧
      (∃ n, (t.add v).1 = nameOf mark n ∧
        IsLeast {m | count ≤ m ∧ nameOf mark m ∉ t.entries.names} n) ∧
      (t.add v).1 ∉ t.entries.names ∧ (t.add v).1 ∉ given ∧
      (t.add v).2.entries = t.entries ++ [((t.add v).1, v)]) ∧
    ∀ step, t.entries.names <+: (run [step] t).2.entries.names := by
  intro given t count
  have hmark : t.mark = mark := mark_run steps _
  refine ⟨fun v => ⟨hmark ▸ t.exists_tries, hmark ▸ t.exists_isLeast, t.freshName_not_mem, ?_,
    t.add_entries v⟩, fun step => names_prefix_step step t⟩
  -- A name that has been given is in the table ever since.
  intro hgiven
  exact t.freshName_not_mem ((mem_names_run _ steps _).mpr (.inr (.inl hgiven)))

/-- Without a mark, three entries under numbers: the search starts at the one that is taken. -/
example :
    (ofEntries "" [("1", .null), ("7", .null), ("3", .null)]).freshName = "4" := by
  decide +kernel

end SqlLoom.ParamTable
