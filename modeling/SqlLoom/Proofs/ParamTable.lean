import Mathlib.Data.List.Nodup
import Mathlib.Data.List.Perm.Subperm
import SqlLoom.ParamTable

/-!
# `SqlLoom.Proofs.ParamTable`: what the two writes do to a table

Entries are read through `get?` and `names`. The theorems:

* `Entries.get?_merge`, `Entries.mem_names_merge`: after a merge the last added value of a name
  counts, then the old one; no name is lost.
* `Entries.mem_merge`: an entry after a merge was there before or has been added.
* `ParamTable.exists_free`, `ParamTable.freshName_least`: the search tries as many numbers as there
  are entries, and one of one number more must be free, so it ends with the least free number.
* `ParamTable.freshName_not_mem`: the name that `add` gives is not in the table.
* `ParamTable.get?_add_self`, `ParamTable.get?_add_of_mem`: an `add` writes its own entry and
  leaves every other entry alone.
-/

set_option autoImplicit false

namespace SqlLoom

namespace Entries

variable {α : Type}

/-! ### Reading after a write -/

@[simp]
theorem names_nil : names ([] : Entries α) = [] := rfl

@[simp]
theorem names_cons (e : String × α) (es : Entries α) : Entries.names (e :: es) = e.1 :: es.names :=
  rfl

@[simp]
theorem names_append (es fs : Entries α) : Entries.names (es ++ fs) = es.names ++ fs.names :=
  List.map_append

theorem has_iff_mem_names (name : String) (es : Entries α) :
    es.has name = true ↔ name ∈ es.names := by
  simp [has, names]

/-- A name without a value is not among the names. -/
theorem get?_eq_none_iff (name : String) (es : Entries α) :
    es.get? name = none ↔ name ∉ es.names := by
  induction es with
  | nil => simp [get?]
  | cons e rest ih =>
      obtain ⟨k, v⟩ := e
      rw [names_cons, List.mem_cons, not_or]
      by_cases h : k = name
      · simp [get?, h]
      · rw [get?, if_neg h, ih]
        exact ⟨fun hrest => ⟨fun heq => h heq.symm, hrest⟩, fun hboth => hboth.2⟩

/-- What is read is the value of an entry. -/
theorem mem_of_get? {name : String} {v : α} {es : Entries α} (h : es.get? name = some v) :
    (name, v) ∈ es := by
  induction es with
  | nil => cases h
  | cons e rest ih =>
      obtain ⟨k, w⟩ := e
      rw [get?] at h
      split at h
      · rename_i hk
        rw [hk, Option.some.inj h]
        exact List.mem_cons_self
      · exact List.mem_cons_of_mem _ (ih h)

/-- The entry that a write made, or the old one of another name. -/
theorem get?_put (name other : String) (v : α) (es : Entries α) :
    (es.put name v).get? other = if name = other then some v else es.get? other := by
  induction es with
  | nil => rfl
  | cons e rest ih =>
      obtain ⟨k, w⟩ := e
      by_cases hk : k = name
      · subst hk
        rw [put, if_pos rfl, get?, get?]
        split <;> rfl
      · rw [put, if_neg hk, get?, get?, ih]
        by_cases ho : k = other
        · have hne : name ≠ other := fun h => hk (ho.trans h.symm)
          rw [if_pos ho, if_neg hne, if_pos ho]
        · rw [if_neg ho, if_neg ho]

/-- A write keeps the names and their order; a new name goes to the end. -/
theorem names_put (name : String) (v : α) (es : Entries α) :
    (es.put name v).names = if name ∈ es.names then es.names else es.names ++ [name] := by
  induction es with
  | nil => rfl
  | cons e rest ih =>
      obtain ⟨k, w⟩ := e
      by_cases hk : k = name
      · subst hk
        rw [put, if_pos rfl]
        simp
      · have hne : name ≠ k := fun h => hk h.symm
        rw [put, if_neg hk, names_cons, ih, names_cons]
        by_cases hmem : name ∈ names rest
        · rw [if_pos hmem, if_pos (List.mem_cons_of_mem _ hmem)]
        · rw [if_neg hmem, if_neg (by simp [hne, hmem]), List.cons_append]

theorem mem_names_put (name other : String) (v : α) (es : Entries α) :
    other ∈ (es.put name v).names ↔ other ∈ es.names ∨ other = name := by
  rw [names_put]
  split
  · rename_i hmem
    exact ⟨Or.inl, fun h => h.elim id fun heq => heq ▸ hmem⟩
  · simp

/-- Entries at the end count where the name has none before. -/
theorem get?_append (name : String) (es fs : Entries α) :
    Entries.get? name (es ++ fs) = (es.get? name).or (fs.get? name) := by
  induction es with
  | nil => rfl
  | cons e rest ih =>
      obtain ⟨k, v⟩ := e
      rw [List.cons_append, get?, get?, ih]
      split <;> rfl

@[simp]
theorem merge_nil (es : Entries α) : es.merge [] = es := rfl

@[simp]
theorem merge_cons (es rest : Entries α) (e : String × α) :
    es.merge (e :: rest) = (es.put e.1 e.2).merge rest := rfl

/-- After a merge the last added value of a name counts, and the old one where none was added. -/
theorem get?_merge (name : String) (es added : Entries α) :
    (es.merge added).get? name = (Entries.get? name added.reverse).or (es.get? name) := by
  induction added generalizing es with
  | nil => rfl
  | cons e rest ih =>
      rw [merge_cons, ih, get?_put, List.reverse_cons, get?_append, Option.or_assoc]
      congr 1
      obtain ⟨k, v⟩ := e
      simp only [get?]
      split <;> rfl

/-- A write keeps the names that are there, in their order. -/
theorem names_prefix_put (name : String) (v : α) (es : Entries α) :
    es.names <+: (es.put name v).names := by
  rw [names_put]
  split
  · exact List.prefix_refl _
  · exact List.prefix_append _ _

/-- A merge keeps the names that are there, in their order. -/
theorem names_prefix_merge (es added : Entries α) : es.names <+: (es.merge added).names := by
  induction added generalizing es with
  | nil => exact List.prefix_refl _
  | cons e rest ih => exact (names_prefix_put e.1 e.2 es).trans (ih _)

/-- A merge loses no name and brings the added ones. -/
theorem mem_names_merge (name : String) (es added : Entries α) :
    name ∈ (es.merge added).names ↔ name ∈ es.names ∨ name ∈ added.names := by
  induction added generalizing es with
  | nil => simp
  | cons e rest ih => rw [merge_cons, ih, mem_names_put, names_cons, List.mem_cons, or_assoc]

/-- An entry after a write was there before or is the one that was written. -/
theorem mem_put {name : String} {v : α} {es : Entries α} {e : String × α}
    (h : e ∈ es.put name v) : e ∈ es ∨ e = (name, v) := by
  induction es with
  | nil => exact .inr (List.mem_singleton.mp h)
  | cons first rest ih =>
      obtain ⟨k, w⟩ := first
      rw [put] at h
      split at h
      · rename_i hk
        rcases List.mem_cons.mp h with rfl | h
        · exact .inr (by rw [hk])
        · exact .inl (List.mem_cons_of_mem _ h)
      · rcases List.mem_cons.mp h with rfl | h
        · exact .inl List.mem_cons_self
        · exact (ih h).imp_left (List.mem_cons_of_mem _)

/-- An entry after a merge was there before or has been added. -/
theorem mem_merge {es added : Entries α} {e : String × α}
    (h : e ∈ es.merge added) : e ∈ es ∨ e ∈ added := by
  induction added generalizing es with
  | nil => exact .inl h
  | cons first rest ih =>
      rw [merge_cons] at h
      rcases ih h with h | h
      · rcases mem_put h with h | rfl
        · exact .inl h
        · exact .inr List.mem_cons_self
      · exact .inr (List.mem_cons_of_mem _ h)

/-! ### Names that stand once -/

theorem put_of_not_mem (name : String) (v : α) (es : Entries α) (h : name ∉ es.names) :
    es.put name v = es ++ [(name, v)] := by
  induction es with
  | nil => rfl
  | cons e rest ih =>
      obtain ⟨k, w⟩ := e
      rw [names_cons, List.mem_cons, not_or] at h
      rw [put, if_neg fun heq => h.1 heq.symm, ih h.2, List.cons_append]

theorem nodup_names_put (name : String) (v : α) (es : Entries α) (h : es.names.Nodup) :
    (es.put name v).names.Nodup := by
  rw [names_put]
  split
  · exact h
  · rename_i hnew
    rw [← List.concat_eq_append]
    exact h.concat hnew

/-- A merge writes no name twice. -/
theorem nodup_names_merge (es added : Entries α) (h : es.names.Nodup) :
    (es.merge added).names.Nodup := by
  induction added generalizing es with
  | nil => exact h
  | cons e rest ih => exact ih _ (nodup_names_put e.1 e.2 es h)

/-- Where a name stands once, its entry is the one that is read. -/
theorem get?_eq_some_iff {es : Entries α} (h : es.names.Nodup) (name : String) (v : α) :
    es.get? name = some v ↔ (name, v) ∈ es := by
  refine ⟨mem_of_get?, fun hmem => ?_⟩
  have hname : name ∈ es.names := List.mem_map.mpr ⟨_, hmem, rfl⟩
  cases hget : es.get? name with
  | none => exact absurd hname ((get?_eq_none_iff name es).mp hget)
  | some w =>
      have hsame := List.inj_on_of_nodup_map h (mem_of_get? hget) hmem rfl
      rw [(Prod.mk.inj hsame).2]

/-- Merging entries whose names are all new puts them behind. -/
theorem merge_of_nodup (es added : Entries α) (h : (es ++ added).names.Nodup) :
    es.merge added = es ++ added := by
  induction added generalizing es with
  | nil => rw [merge_nil, List.append_nil]
  | cons e rest ih =>
      -- The first entry goes behind, and the names of the others stay new.
      have hnew : e.1 ∉ es.names := by
        rw [names_append, names_cons, List.nodup_append] at h
        intro hmem
        exact h.2.2 _ hmem _ List.mem_cons_self rfl
      rw [merge_cons, put_of_not_mem _ _ _ hnew, ih, List.append_assoc]
      · rfl
      · rw [List.append_assoc]
        exact h

/-- Reading from the end finds the same names. -/
theorem get?_reverse_eq_none_iff (name : String) (es : Entries α) :
    Entries.get? name es.reverse = none ↔ name ∉ es.names := by
  rw [get?_eq_none_iff]
  simp [names]

end Entries

namespace ParamTable

/-! ### Generated names -/

/-- A generated name is the mark and the digits of its number. -/
theorem toList_nameOf (mark : String) (n : Nat) :
    (nameOf mark n).toList = mark.toList ++ Nat.toDigits 10 n := by
  rw [nameOf, String.toList_append, Nat.toString_eq_repr, Nat.toList_repr]

/-- Different numbers give different names. -/
theorem nameOf_injective (mark : String) : Function.Injective (nameOf mark) := by
  intro m n h
  have hlist : mark.toList ++ Nat.toDigits 10 m = mark.toList ++ Nat.toDigits 10 n := by
    rw [← toList_nameOf, h, toList_nameOf]
  have hdigits : Nat.toDigits 10 m = Nat.toDigits 10 n := List.append_cancel_left hlist
  -- Digits read back as the number they came from.
  rw [← @Nat.ofDigitChars_ten_toDigits m, hdigits, Nat.ofDigitChars_ten_toDigits]

/-- The search ends at some number within its tries. All numbers before that are taken, and the
number itself is free unless the tries ran out. -/
theorem firstFree_spec (mark : String) (es : Entries Value) (tries n : Nat) :
    ∃ i ≤ tries, firstFree mark es tries n = nameOf mark (n + i) ∧
      (∀ j < i, nameOf mark (n + j) ∈ es.names) ∧
      (i < tries → nameOf mark (n + i) ∉ es.names) := by
  induction tries generalizing n with
  | zero =>
      exact ⟨0, Nat.le_refl 0, rfl, fun j hj => absurd hj (by omega), fun h => absurd h (by omega)⟩
  | succ tries ih =>
      -- A number that is taken puts off the search by one try.
      by_cases hfree : es.has (nameOf mark n) = true
      · obtain ⟨i, hi, heq, hbefore, hlast⟩ := ih (n + 1)
        refine ⟨i + 1, by omega, ?_, ?_, ?_⟩
        · rw [firstFree, if_pos hfree, heq]
          congr 1
          omega
        · intro j hj
          cases j with
          | zero => exact (Entries.has_iff_mem_names _ _).mp hfree
          | succ j =>
              have h := hbefore j (by omega)
              rwa [show n + 1 + j = n + (j + 1) by omega] at h
        · intro hlt
          have h := hlast (by omega)
          rwa [show n + 1 + i = n + (i + 1) by omega] at h
      · refine ⟨0, by omega, ?_, fun j hj => absurd hj (by omega), fun _ hmem => ?_⟩
        · rw [firstFree, if_neg hfree]
          rfl
        · exact hfree ((Entries.has_iff_mem_names _ _).mpr hmem)

/-- Of one number more than there are entries, one has a free name: so many different names do not
stand in so few entries. -/
theorem exists_free (mark : String) (es : Entries Value) (n : Nat) :
    ∃ i ≤ es.length, nameOf mark (n + i) ∉ es.names := by
  by_contra htaken
  have hnodup : ((List.range (es.length + 1)).map fun i => nameOf mark (n + i)).Nodup := by
    refine List.Nodup.map ?_ List.nodup_range
    intro a b hab
    have := nameOf_injective mark hab
    omega
  have hsub : ((List.range (es.length + 1)).map fun i => nameOf mark (n + i)) ⊆ es.names := by
    intro name hname
    obtain ⟨i, hi, rfl⟩ := List.mem_map.mp hname
    by_contra hfree
    exact htaken ⟨i, Nat.lt_succ_iff.mp (List.mem_range.mp hi), hfree⟩
  have hlen := (hnodup.subperm hsub).length_le
  simp only [List.length_map, List.length_range, Entries.names] at hlen
  omega

/-- The name that `add` gives has the least number, from the number of entries on, whose name is
free. The search never runs out of tries. -/
theorem freshName_least (t : ParamTable) :
    ∃ i ≤ t.entries.length, t.freshName = nameOf t.mark (t.entries.length + i) ∧
      (∀ j < i, nameOf t.mark (t.entries.length + j) ∈ t.entries.names) ∧
      nameOf t.mark (t.entries.length + i) ∉ t.entries.names := by
  obtain ⟨i, hi, heq, hbefore, hlast⟩ :=
    firstFree_spec t.mark t.entries t.entries.length t.entries.length
  refine ⟨i, hi, heq, hbefore, ?_⟩
  rcases Nat.lt_or_ge i t.entries.length with hlt | hge
  · exact hlast hlt
  · -- All the tries before are taken, so the free number that there is comes last.
    obtain ⟨k, hk, hfree⟩ := exists_free t.mark t.entries t.entries.length
    have hki : ¬ k < i := fun hlt => hfree (hbefore k hlt)
    rwa [show i = k by omega]

/-- A generated name is the mark and a number. -/
theorem freshName_eq_nameOf (t : ParamTable) : ∃ n, t.freshName = nameOf t.mark n := by
  obtain ⟨i, -, heq, -⟩ := t.freshName_least
  exact ⟨_, heq⟩

/-- A generated name is not in the table. -/
theorem freshName_not_mem (t : ParamTable) : t.freshName ∉ t.entries.names := by
  obtain ⟨i, -, heq, -, hfree⟩ := t.freshName_least
  rw [heq]
  exact hfree

/-! ### Adding -/

@[simp]
theorem add_fst (t : ParamTable) (v : Value) : (t.add v).1 = t.freshName := rfl

@[simp]
theorem add_entries (t : ParamTable) (v : Value) :
    (t.add v).2.entries = t.entries ++ [(t.freshName, v)] := rfl

@[simp]
theorem add_mark (t : ParamTable) (v : Value) : (t.add v).2.mark = t.mark := rfl

@[simp]
theorem merge_entries (t : ParamTable) (params : Entries Value) :
    (t.merge params).entries = t.entries.merge params := rfl

@[simp]
theorem merge_mark (t : ParamTable) (params : Entries Value) : (t.merge params).mark = t.mark := rfl

/-- An `add` appends its name. -/
theorem names_add (t : ParamTable) (v : Value) :
    (t.add v).2.entries.names = t.entries.names ++ [t.freshName] :=
  Entries.names_append _ _

/-- The value of the name that an `add` gave. -/
theorem get?_add_self (t : ParamTable) (v : Value) :
    (t.add v).2.entries.get? t.freshName = some v := by
  rw [add_entries, Entries.get?_append,
    (Entries.get?_eq_none_iff _ _).mpr t.freshName_not_mem]
  simp [Entries.get?]

/-- An `add` keeps the values that are there. -/
theorem get?_add_of_mem (t : ParamTable) (v : Value) {name : String}
    (h : name ∈ t.entries.names) : (t.add v).2.entries.get? name = t.entries.get? name := by
  rw [add_entries, Entries.get?_append]
  cases hget : t.entries.get? name with
  | none => exact absurd h ((Entries.get?_eq_none_iff _ _).mp hget)
  | some w => rfl

/-! ### Tables of the caller -/

/-- No name stands twice in the table. -/
def Distinct (t : ParamTable) : Prop := t.entries.names.Nodup

theorem distinct_ofEntries (mark : String) (params : Entries Value) :
    (ofEntries mark params).Distinct :=
  Entries.nodup_names_merge [] params List.nodup_nil

theorem Distinct.add {t : ParamTable} (h : t.Distinct) (v : Value) : (t.add v).2.Distinct := by
  rw [Distinct, names_add, ← List.concat_eq_append]
  exact List.Nodup.concat t.freshName_not_mem h

theorem Distinct.merge {t : ParamTable} (h : t.Distinct) (params : Entries Value) :
    (t.merge params).Distinct :=
  Entries.nodup_names_merge t.entries params h

/-- A table without double names is the table of its own entries. -/
theorem Distinct.ofEntries_eq {t : ParamTable} (h : t.Distinct) :
    ofEntries t.mark t.entries = t := by
  rw [ofEntries, Entries.merge_of_nodup]
  · rfl
  · exact h

end ParamTable

end SqlLoom
