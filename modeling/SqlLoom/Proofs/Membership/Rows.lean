import SqlLoom.Proofs.Membership.Split

/-!
# `SqlLoom.Proofs.Membership.Rows`: rows of values among columns

Several columns are tested among rows. A row is a mapping, from which each column takes its entry,
or a list or tuple, from which it takes the item at its place. The test has a group for each row,
and each group an entry for each column.

* `forall₂_entryFor_bindAll`: one row after another is bound, and within a row one column after
  another. An entry is NULL, or a fresh name that keeps the value from then on (`EntryFor`).
* `RowRespelled`: two spellings of a row, as a mapping and as a list or tuple. They have the same
  values (`rowValues_of_respelled`), so that nothing depends on the spelling.
* `rows_in_place`: so each entry stands for the value of its row for its column, in all parts of the
  test if it is split.
* `rows_not_always_in_place`: a ceiling below one leaves no test, or none that compiles.
-/

set_option autoImplicit false

namespace SqlLoom

open Fragment

variable {d : Dialect} {negated : Bool}

/-! ### A test in parts -/

/-- The text of a membership test, in chunks if there are more members than the ceiling. -/
def MemberTest.writtenUnder (ceiling? : Option Int) (negated : Bool) (left : Side String)
    (members : List (Side String)) : String :=
  let whole := (ofMembers negated left members).written
  match ceiling? with
  | none => whole
  | some ceiling =>
    if (members.length : Int) ≤ ceiling then whole
    else Formula.writtenGroup (junction negated)
      ((chunks ceiling.toNat members).map fun part => (ofMembers negated left part).written)

theorem map_length_chunks {α : Type} (size : Nat) (values : List α) :
    (chunks size values).map List.length
      = (List.range ((values.length + size - 1) / size)).map
          fun i => min size (values.length - i * size) := by
  simp [chunks]

/-- A list that is cut like the chunks of another one is in chunks itself. -/
theorem eq_chunks_of_length {α β : Type} {size : Nat} (hsize : 0 < size) {values : List α}
    {parts : List (List β)} {all : List β} (hall : parts.flatten = all)
    (hlength : all.length = values.length)
    (hparts : parts.map List.length = (chunks size values).map List.length) :
    parts = chunks size all := by
  rw [List.eq_iff_flatten_eq]
  refine ⟨hall.trans (chunks_spec hsize all).1.symm, ?_⟩
  rw [hparts, map_length_chunks, map_length_chunks, hlength]

/-- The test of each chunk of a list, all in one group, is the test of the list in parts. -/
theorem grouped_chunks_writes {left : Side String} {names : List String} {size : Nat}
    (hsize : 0 < size) {values : List Value} (hlong : size < values.length) {fs : List Fragment}
    (h : List.Forall₂ (fun part f => f.Writes negated left part)
      ((chunks size values).map fun part => part.map (memberSide names)) fs) :
    (grouped (chunkJoiner negated).keyword fs).steps
        = (values.map (memberSide names)).flatMap (fun s => s.fragment.steps) ∧
      ∀ t, ((grouped (chunkJoiner negated).keyword fs).bind t).1
        = MemberTest.writtenUnder (some size) negated left
            (bindSides (values.map (memberSide names)) t) := by
  have hmembers : ((chunks size values).map fun part => part.map (memberSide names)).flatten
      = values.map (memberSide names) := by
    rw [← List.map_flatten, (chunks_spec hsize values).1]
  have hne : ((chunks size values).map fun part => part.map (memberSide names)) ≠ [] := by
    intro hnil
    rw [hnil] at hmembers
    have hlength := congrArg List.length hmembers
    rw [List.flatten_nil, List.length_nil, List.length_map] at hlength
    omega
  constructor
  · rw [steps_grouped, steps_tests h, hmembers]
  · intro t
    -- The parts are bound one after another, so together they are the members bound at once.
    obtain ⟨sides, hsides, hlengths, htext⟩ := bind_grouped_tests h hne t
    rw [hmembers] at hsides
    have hlength : (bindSides (values.map (memberSide names)) t).length = values.length := by
      rw [length_bindSides, List.length_map]
    have hcut : sides = chunks size (bindSides (values.map (memberSide names)) t) := by
      refine eq_chunks_of_length hsize hsides hlength ?_
      rw [hlengths, List.map_map]
      exact List.map_congr_left fun part _ => List.length_map _
    rw [htext, MemberTest.writtenUnder, hlength, if_neg (by omega), hcut, List.map_map,
      Int.toNat_natCast]
    rfl

/-- A membership test of values for columns given by name, split or not. -/
theorem membershipFragment_writes (hceiling : d.HoldsValues) (negated : Bool) {column : Value}
    {names : List String} (hcolumn : column.asColumns = names.map .text) {values : List Value}
    (hvalues : values ≠ []) :
    ∃ f, membershipFragment d negated column values = .ok f ∧
      f.steps = (values.map (memberSide names)).flatMap (fun s => s.fragment.steps) ∧
      ∀ t, (f.bind t).1 = MemberTest.writtenUnder d.maxInList? negated (columnSide d names)
        (bindSides (values.map (memberSide names)) t) := by
  obtain ⟨whole, hwhole, hwrites⟩ := chunkMembership_writes d negated hcolumn hvalues
  cases hmax : d.maxInList? with
  | none =>
      have hsplit : splitMembers d values = .ok none := by rw [splitMembers, hmax]
      rw [membershipFragment, hsplit]
      exact ⟨whole, hwhole, hwrites.steps, hwrites.text⟩
  | some ceiling =>
      obtain ⟨size, rfl⟩ := Int.eq_ofNat_of_zero_le (Int.le_of_lt (hceiling ceiling hmax))
      have hsize : 0 < size := by exact_mod_cast hceiling _ hmax
      by_cases hlong : size < values.length
      · obtain ⟨fs, hfs, hall⟩ := membershipFragment_chunks hmax hsize negated hcolumn hlong
        exact ⟨_, hfs, grouped_chunks_writes hsize hlong hall⟩
      · have hsplit : splitMembers d values = .ok none := by
          rw [splitMembers, hmax]
          exact if_pos (by omega)
        rw [membershipFragment, hsplit]
        refine ⟨whole, hwhole, hwrites.steps, fun t => ?_⟩
        rw [MemberTest.writtenUnder, length_bindSides, List.length_map, if_pos (by omega),
          hwrites.text]

/-! ### Entries -/

/-- The values of a row for columns. -/
def rowValues (names : List String) (row : Value) : List Value :=
  names.mapIdx fun i name => rowValue row i name

@[simp]
theorem length_rowValues (names : List String) (row : Value) :
    (rowValues names row).length = names.length := List.length_mapIdx

/-- An entry stands for a value: it is NULL, or the name of a parameter that has the value. -/
def EntryFor (params : Entries Value) (v : Value) (entry : String) : Prop :=
  if v.isNull then entry = "NULL" else params.get? entry = some v

/-- The parameters that entries bring, each with the value that it stands for. -/
def placed (entries : List String) (values : List Value) : Entries Value :=
  (entries.zip values).filter fun e => !e.2.isNull

/-- The steps of the entries of a row. -/
def entrySteps (values : List Value) : List TableStep :=
  values.flatMap fun v => (rowEntryFragment v).steps

theorem entrySteps_append (vs ws : List Value) :
    entrySteps (vs ++ ws) = entrySteps vs ++ entrySteps ws := List.flatMap_append

theorem not_mem_entrySteps (values : List Value) (params : Entries Value) :
    TableStep.merge params ∉ entrySteps values := by
  intro hmem
  obtain ⟨v, -, hv⟩ := List.mem_flatMap.mp hmem
  cases v <;> simp [rowEntryFragment, ofText, bound] at hv

/-- What an entry stands for stays. -/
theorem EntryFor.after {t : ParamTable} {v : Value} {entry : String}
    (h : EntryFor t.entries v entry) (values : List Value) :
    EntryFor (run (entrySteps values) t).2.entries v entry := by
  rw [EntryFor] at h ⊢
  split
  · rename_i hnull
    rwa [if_pos hnull] at h
  · rename_i hnull
    rw [if_neg hnull] at h
    exact get?_run_of_adds (not_mem_entrySteps values) h

/-- The entry of a value. -/
theorem entryFor_bind (v : Value) (t : ParamTable) :
    EntryFor ((rowEntryFragment v).bind t).2.entries v ((rowEntryFragment v).bind t).1 ∧
      ((rowEntryFragment v).bind t).2.entries
        = t.entries ++ placed [((rowEntryFragment v).bind t).1] [v] := by
  have hbound (hv : v.isNull = false) :
      EntryFor ((Fragment.bound v).bind t).2.entries v ((Fragment.bound v).bind t).1 ∧
        ((Fragment.bound v).bind t).2.entries
          = t.entries ++ placed [((Fragment.bound v).bind t).1] [v] := by
    have hbind : (Fragment.bound v).bind t = t.add v := by
      show (String.join [t.freshName], (t.add v).2) = t.add v
      simp
      rfl
    rw [hbind, EntryFor, hv, if_neg Bool.false_ne_true]
    refine ⟨t.get?_add_self v, ?_⟩
    simp [placed, hv]
  cases v with
  | null => exact ⟨congrArg Prod.fst (bind_ofText "NULL" t), (List.append_nil _).symm⟩
  | _ => exact hbound rfl

/-- The entries of a row stand for its values, and bring nothing else. -/
theorem forall₂_entryFor_bindAll (values : List Value) (t : ParamTable) :
    let texts := bindAll (values.map rowEntryFragment) t
    let after := (run (entrySteps values) t).2
    List.Forall₂ (EntryFor after.entries) values texts ∧
      after.entries = t.entries ++ placed texts values := by
  induction values generalizing t with
  | nil => exact ⟨.nil, (List.append_nil _).symm⟩
  | cons v rest ih =>
      obtain ⟨hfirst, hentry⟩ := entryFor_bind v t
      obtain ⟨hrest, hmore⟩ := ih ((rowEntryFragment v).bind t).2
      have hsteps : (run (entrySteps (v :: rest)) t).2
          = (run (entrySteps rest) ((rowEntryFragment v).bind t).2).2 := by
        rw [entrySteps, List.flatMap_cons, run_append]
        rfl
      simp only [List.map_cons, bindAll, hsteps]
      -- What the first entry stands for stays while the others are bound.
      refine ⟨.cons (hfirst.after rest) hrest, ?_⟩
      rw [hmore, hentry, List.append_assoc, placed, placed, ← List.filter_append]
      rfl

/-! ### Groups -/

/-- A row of several columns is the row of its entries. -/
theorem memberSide_eq_row {names : List String} (hnames : ∀ name, names ≠ [name]) (row : Value) :
    memberSide names row = .row ((rowValues names row).map rowEntryFragment) := by
  rw [memberSide_of_ne_singleton hnames]
  simp [rowValues, List.mapIdx_eq_zipIdx_map, Function.comp_def]

/-- The groups of rows stand for their values. -/
theorem forall₂_entryFor_bindSides (rows : List (List Value)) (t : ParamTable) :
    let after := (run (entrySteps rows.flatten) t).2
    ∃ groups : List (List String),
      bindSides (rows.map fun row => .row (row.map rowEntryFragment)) t = groups.map .row ∧
      List.Forall₂ (List.Forall₂ (EntryFor after.entries)) rows groups ∧
      after.entries = t.entries ++ placed groups.flatten rows.flatten := by
  induction rows generalizing t with
  | nil => exact ⟨[], rfl, .nil, (List.append_nil _).symm⟩
  | cons row rest ih =>
      obtain ⟨hrow, hentries⟩ := forall₂_entryFor_bindAll row t
      obtain ⟨groups, hsides, hgroups, hmore⟩ := ih (run (entrySteps row) t).2
      have hsteps : (run (entrySteps (row :: rest).flatten) t).2
          = (run (entrySteps rest.flatten) (run (entrySteps row) t).2).2 := by
        rw [List.flatten_cons, entrySteps_append, run_append]
      have hside : ((Side.row (row.map rowEntryFragment)).fragment.bind t).2
          = (run (entrySteps row) t).2 := by
        show (run (Fragment.parens _).steps t).2 = _
        rw [steps_parens, steps_join, List.flatMap_map]
        rfl
      simp only [hsteps]
      refine ⟨bindAll (row.map rowEntryFragment) t :: groups, ?_, .cons ?_ hgroups, ?_⟩
      · rw [List.map_cons, bindSides, hside, hsides]
        rfl
      · exact hrow.imp fun v entry h => h.after rest.flatten
      · rw [hmore, hentries, List.append_assoc, placed, placed, placed, ← List.filter_append,
          List.flatten_cons, List.flatten_cons, List.zip_append hrow.length_eq.symm]

/-! ### Spellings of a row -/

/-- The entries have the item of each column under its name, and no entry where there is no item. -/
def SpellsOut (names : List String) (entries : Entries Value) (items : List Value) : Prop :=
  ∀ (i : Nat) (name : String), names[i]? = some name → entries.get? name = items[i]?

/-- A row spelled in another way: as the mapping of the columns to the items of a list or tuple, or
the other way round. -/
inductive RowRespelled (names : List String) : Value → Value → Prop where
  | same (row : Value) : RowRespelled names row row
  | listMap {entries : Entries Value} {items : List Value} (h : SpellsOut names entries items) :
      RowRespelled names (.list items) (.map entries)
  | tupleMap {entries : Entries Value} {items : List Value} (h : SpellsOut names entries items) :
      RowRespelled names (.tuple items) (.map entries)
  | mapList {entries : Entries Value} {items : List Value} (h : SpellsOut names entries items) :
      RowRespelled names (.map entries) (.list items)
  | mapTuple {entries : Entries Value} {items : List Value} (h : SpellsOut names entries items) :
      RowRespelled names (.map entries) (.tuple items)

/-- The columns with the items are the mapping of each column to its item. -/
theorem spellsOut_zip {names : List String} (hdistinct : names.Nodup) (items : List Value) :
    SpellsOut names (names.zip items) items := by
  intro i name hname
  induction names generalizing i items with
  | nil => cases hname
  | cons first rest ih =>
      obtain ⟨hfirst, hrest⟩ := List.nodup_cons.mp hdistinct
      cases items with
      | nil => rfl
      | cons item items =>
          cases i with
          | zero =>
              obtain rfl : first = name := Option.some.inj hname
              exact if_pos rfl
          | succ i =>
              have hne : first ≠ name := by
                rintro rfl
                exact hfirst (List.mem_of_getElem? hname)
              rw [List.zip_cons_cons, Entries.get?, if_neg hne]
              exact ih hrest items i hname

theorem rowValues_of_spellsOut {names : List String} {entries : Entries Value} {items : List Value}
    (h : SpellsOut names entries items) :
    rowValues names (.map entries) = names.mapIdx fun i _ => (items[i]?).getD .null := by
  refine List.ext_getElem? fun i => ?_
  rw [rowValues, List.getElem?_mapIdx, List.getElem?_mapIdx]
  cases hname : names[i]? with
  | none => rfl
  | some name =>
      show some ((entries.get? name).getD .null) = _
      rw [h i name hname]
      rfl

/-- The values of a row do not depend on its spelling. -/
theorem rowValues_of_respelled {names : List String} {row other : Value}
    (h : RowRespelled names row other) : rowValues names row = rowValues names other := by
  cases h with
  | same => rfl
  | listMap h | tupleMap h => exact (rowValues_of_spellsOut h).symm
  | mapList h | mapTuple h => exact rowValues_of_spellsOut h

/-- A test of several columns depends on what its rows compile to, and on nothing else of them. -/
theorem rowMembership_congr (d : Dialect) (negated : Bool) {names : List String}
    (hnames : ∀ name, names ≠ [name]) {rows others : List Value}
    (h : rows.map (memberSide names) = others.map (memberSide names)) :
    rowMembership d negated (names.map .text) rows
      = rowMembership d negated (names.map .text) others := by
  rw [rowMembership, rowMembership, mapM_rowFragments hnames, mapM_rowFragments hnames, h]

theorem chunkMembership_congr (d : Dialect) (negated : Bool) {column : Value} {names : List String}
    (hcolumn : column.asColumns = names.map .text) (hnames : ∀ name, names ≠ [name])
    {rows others : List Value}
    (h : rows.map (memberSide names) = others.map (memberSide names)) :
    chunkMembership d negated column rows = chunkMembership d negated column others := by
  have hcolumns : ∀ one, column.asColumns ≠ [one] := by
    intro one hone
    rw [hcolumn] at hone
    obtain ⟨name, hname, -⟩ := List.map_eq_singleton_iff.mp hone
    exact hnames name hname
  have hseveral (values : List Value) :
      chunkMembership d negated column values
        = rowMembership d negated (names.map .text) values := by
    rw [← hcolumn, chunkMembership]
    split
    · rename_i one hone
      exact absurd hone (hcolumns one)
    · rfl
  rw [hseveral, hseveral, rowMembership_congr d negated hnames h]

theorem membershipFragment_congr (d : Dialect) (negated : Bool) {column : Value}
    {names : List String} (hcolumn : column.asColumns = names.map .text)
    (hnames : ∀ name, names ≠ [name]) {rows others : List Value}
    (h : rows.map (memberSide names) = others.map (memberSide names)) :
    membershipFragment d negated column rows = membershipFragment d negated column others := by
  have hlength : rows.length = others.length := by simpa using congrArg List.length h
  have hchunks (size : Nat) : (chunks size rows).mapM (chunkMembership d negated column)
      = (chunks size others).mapM (chunkMembership d negated column) := by
    rw [chunks, chunks, hlength, List.mapM_map, List.mapM_map]
    congr 1
    funext i
    refine chunkMembership_congr d negated hcolumn hnames ?_
    rw [List.map_take, List.map_drop, h, List.map_take, List.map_drop]
  rw [membershipFragment, membershipFragment, splitMembers, splitMembers, hlength]
  cases d.maxInList? with
  | none => exact chunkMembership_congr d negated hcolumn hnames h
  | some ceiling =>
      dsimp only
      split
      · exact chunkMembership_congr d negated hcolumn hnames h
      · split
        · rfl
        · show ((chunks ceiling.toNat rows).mapM (chunkMembership d negated column) >>=
            fun tests => .ok (grouped (chunkJoiner negated).keyword tests)) = _
          rw [hchunks]
          rfl

/-! ### Rows in their places -/

/-- Two columns or more, given by their distinct names, among a list of rows. If the ceiling leaves
room for a row the test compiles, and over every table its text is the membership test of the
columns among groups, one for each row with an entry for each column, in parts if there are more
rows than the ceiling. The entry of a column stands for the value of the row for this column, and
what the entries bring is put behind the parameters of before, row by row and column by column.
Whatever the ceiling is, rows in another spelling compile to the same; the columns zipped with the
items of a list or tuple are such a spelling. -/
theorem rows_in_place (d : Dialect) (subqueries negated : Bool) {column values : Value}
    {names : List String} (hcolumn : column.asColumns = names.map .text)
    (hseveral : 2 ≤ names.length) (hdistinct : names.Nodup) (hvalues : values.isCollection = true)
    (hrows : values.members ≠ []) :
    let test (values : Value) := Value.cond (.membership negated) [column, values]
    let rows := values.members
    (d.HoldsValues → ∃ f, (test values).conditionFragment d subqueries = .ok f ∧
      ∀ t, let params := (f.bind t).2.entries
        ∃ groups : List (List String),
          (f.bind t).1 = MemberTest.writtenUnder d.maxInList? negated
            (.row (names.map d.quoteColumn)) (groups.map .row) ∧
          groups.length = rows.length ∧ (∀ group ∈ groups, group.length = names.length) ∧
          List.Forall₂ (fun row group => List.Forall₂ (EntryFor params) (rowValues names row) group)
            rows groups ∧
          params = t.entries ++ placed groups.flatten (rows.flatMap (rowValues names))) ∧
      (∀ others : Value, others.isCollection = true →
        List.Forall₂ (RowRespelled names) rows others.members →
        (test others).conditionFragment d subqueries
          = (test values).conditionFragment d subqueries) ∧
      ∀ items, SpellsOut names (names.zip items) items := by
  intro test rows
  have hnames : names ≠ [] := List.ne_nil_of_length_pos (by omega)
  have hone : ∀ name, names ≠ [name] := by
    rintro name rfl
    simp at hseveral
  have htest {others : Value} (hothers : others.isCollection = true) :
      (test others).conditionFragment d subqueries
        = membershipFragment d negated column others.members :=
    conditionFragment_membership d subqueries negated hcolumn hnames hothers
  have hsides : rows.map (memberSide names)
      = (rows.map (rowValues names)).map fun row => .row (row.map rowEntryFragment) := by
    rw [List.map_map]
    exact List.map_congr_left fun row _ => memberSide_eq_row hone row
  refine ⟨fun hceiling => ?_, ?_, spellsOut_zip hdistinct⟩
  · obtain ⟨f, hf, hsteps, htext⟩ := membershipFragment_writes hceiling negated hcolumn hrows
    -- Splitting moves no step: what is added is what the entries add, row by row.
    have hentries : f.steps = entrySteps (rows.map (rowValues names)).flatten := by
      rw [hsteps, hsides, entrySteps, ← List.flatMap_id, List.flatMap_assoc, List.flatMap_map]
      refine List.flatMap_congr fun row _ => ?_
      rw [Side.fragment, steps_parens, steps_join, List.flatMap_map]
      rfl
    refine ⟨f, (htest hvalues).trans hf, fun t => ?_⟩
    obtain ⟨groups, hgroups, hall, hparams⟩ :=
      forall₂_entryFor_bindSides (rows.map (rowValues names)) t
    rw [← hentries] at hall hparams
    rw [List.forall₂_map_left_iff] at hall
    refine ⟨groups, ?_, hall.length_eq.symm, ?_, hall, ?_⟩
    · rw [htext, columnSide_of_ne_singleton d hone, hsides, hgroups]
    · have hlengths : List.Forall₂ (fun (group : List String) (_ : Value) =>
          group.length = names.length ∧ True) groups rows :=
        hall.flip.imp fun group row h => ⟨by rw [← h.length_eq, length_rowValues], trivial⟩
      exact ((List.forall₂_and_left _ _).mp hlengths).1
    · rw [List.flatMap_def]
      exact hparams
  · intro others hothers hrespelled
    rw [htest hothers, htest hvalues]
    refine (membershipFragment_congr d negated hcolumn hone ?_).symm
    rw [← List.forall₂_eq_eq_eq, List.forall₂_map_left_iff, List.forall₂_map_right_iff]
    refine hrespelled.imp fun row other h => ?_
    rw [memberSide_eq_row hone, memberSide_eq_row hone, rowValues_of_respelled h]

/-- Three rows for two columns under a ceiling of two: a list with NULL, a mapping without the first
column, and a tuple that ends early. As mappings they compile to the same. -/
theorem rows_in_place_three :
    let d : Dialect := { Dialect.standard .ansi with maxInList? := some 2 }
    let names := ["a", "b"]
    let column : Value := .list (names.map .text)
    let rows : Value := .list
      [.list [.int 1, .null], .map [("b", .int 2), ("c", .int 9)], .tuple [.int 3]]
    let others : Value := .list
      [.map [("a", .int 1), ("b", .null)], .map [("b", .int 2), ("c", .int 9)],
        .map [("a", .int 3)]]
    let test (rows : Value) := Value.cond (.membership true) [column, rows]
    let t := ParamTable.ofEntries ":qp" []
    d.HoldsValues ∧ names.Nodup ∧
      ∃ f, (test rows).conditionFragment d true = .ok f ∧
        (test others).conditionFragment d true = .ok f ∧
        (f.bind t).1 = "((\"a\", \"b\") NOT IN ((:qp0, NULL), (NULL, :qp1))) AND " ++
          "((\"a\", \"b\") NOT IN ((:qp2, NULL)))" ∧
        (f.bind t).2.entries.map (fun e => (e.1, e.2.shown))
          = [(":qp0", "1"), (":qp1", "2"), (":qp2", "3")] := by
  intro d names column rows others test t
  have hceiling : d.HoldsValues := by
    rintro _ ⟨⟩
    decide
  have hdistinct : names.Nodup := by decide
  obtain ⟨hplaced, hrespelled, hitems⟩ := rows_in_place d true true
    (show column.asColumns = names.map .text from rfl) (by decide) hdistinct
    (show rows.isCollection = true from rfl) (List.cons_ne_nil _ _)
  obtain ⟨f, hf, -⟩ := hplaced hceiling
  have hothers : List.Forall₂ (RowRespelled names) rows.members others.members :=
    .cons (.listMap (hitems [.int 1, .null])) <| .cons (.same _) <|
      .cons (.tupleMap (hitems [.int 3])) .nil
  have htext : ((test rows).conditionFragment d true).map (fun f => (f.bind t).1)
      = .ok ("((\"a\", \"b\") NOT IN ((:qp0, NULL), (NULL, :qp1))) AND " ++
        "((\"a\", \"b\") NOT IN ((:qp2, NULL)))") := by decide
  have hparams : ((test rows).conditionFragment d true).map
      (fun f => (f.bind t).2.entries.map fun e => (e.1, e.2.shown))
      = .ok [(":qp0", "1"), (":qp1", "2"), (":qp2", "3")] := by decide
  rw [hf] at htext hparams
  exact ⟨hceiling, hdistinct, f, hf, (hrespelled others rfl hothers).trans hf,
    Except.ok.inj htext, Except.ok.inj hparams⟩

/-- Under a ceiling below zero there is no chunk for a row, and under a ceiling of zero no chunk
can be cut. -/
theorem rows_not_always_in_place :
    let d (ceiling : Int) : Dialect :=
      { Dialect.standard .ansi with maxInList? := some ceiling }
    let test := Value.cond (.membership false)
      [.list [.text "a", .text "b"], .list [.list [.int 1, .int 2]]]
    (test.conditionFragment (d (-1)) true).map (fun f => (f.bind (.ofEntries ":qp" [])).1)
        = .ok "" ∧
      test.conditionFragment (d 0) true = .error .badValue ∧
      ∀ groups : List (List String),
        (MemberTest.ofMembers false (.row ["\"a\"", "\"b\""]) (groups.map .row)).written ≠ "" :=
  ⟨by decide, rfl, fun _ => MemberTest.written_ne_empty _⟩

end SqlLoom
