import SqlLoom.Dialect.Paging
import SqlLoom.Proofs.Fragment.Text
import SqlLoom.Proofs.Literal

/-!
# `SqlLoom.Proofs.Paging`: the page that a statement selects

Three families page with LIMIT and OFFSET, and Oracle with conditions on row numbers around the
query. `Paging` is what either of them asks for, `Paging.ofStatement?` reads it off the text of a
statement, word by word, and `Paging.select` applies it to the rows of the query.

* `Paging.select_window`: conditions on row numbers select a window of the rows. A row is numbered
  one more than the rows accepted before it, so the induction carries how many those were.
* `paged_selects`: every dialect selects the same page, `page`, whatever the limit and the offset
  are. A table has fewer than `2 ^ 64` rows, and MySQL needs that: without a limit of its own it
  writes the greatest one.
-/

set_option autoImplicit false

namespace SqlLoom

variable {α : Type}

/-! ### What paging means -/

/-- The rows that a limit and an offset ask for. A negative one counts as none. -/
def page (limit offset : Option Int) (rows : List α) : List α :=
  let rest := rows.drop (max (offset.getD 0) 0).toNat
  match limit with
  | some n => if 0 ≤ n then rest.take n.toNat else rest
  | none => rest

/-- The rows that a condition accepts, each with its row number: one more than the number of rows
accepted before it. The condition looks at a row and at the number that the row would get. -/
def numberedRows (accepts : α → Nat → Bool) : Nat → List α → List (α × Nat)
  | _, [] => []
  | taken, row :: rest =>
    if accepts row (taken + 1) then (row, taken + 1) :: numberedRows accepts (taken + 1) rest
    else numberedRows accepts taken rest

/-- A condition on row numbers. -/
inductive RowFilter where
  /-- The number that the row got in the query is above this one. -/
  | numberAbove (m : Nat)
  /-- The number that the row gets now is at most this one. -/
  | atMost (n : Nat)
  deriving DecidableEq, Repr

/-- The condition holds of a row with these two numbers. -/
def RowFilter.holds (given now : Nat) : RowFilter → Bool
  | .numberAbove m => m < given
  | .atMost n => now ≤ n

/-- What a statement asks for of the rows of its query. -/
inductive Paging where
  | whole
  /-- LIMIT and OFFSET. -/
  | slice (limit? : Option Nat) (offset : Nat)
  /-- The rows are numbered, and those are taken of which all conditions hold. -/
  | filtered (filters : List RowFilter)
  deriving DecidableEq, Repr

namespace Paging

/-- The rows that are selected, without the numbers that they got on the way. -/
def select (p : Paging) (rows : List α) : List α :=
  match p with
  | .whole => rows
  | .slice (some n) m => (rows.drop m).take n
  | .slice none m => rows.drop m
  | .filtered filters =>
    let numbered := numberedRows (fun _ _ => true) 0 rows
    (numberedRows (fun row now => filters.all (·.holds row.2 now)) 0 numbered).map (·.1.1)

/-! ### Reading a statement -/

/-- The words of a text. -/
def words (s : List Char) : List String := (s.splitOn ' ').map String.ofList

/-- The number that a word is. -/
def natural? (w : String) : Option Nat :=
  match Literal.readDigits w.toList with
  | some (n, []) => some n
  | _ => none

/-- LIMIT and OFFSET. Not every database has OFFSET without LIMIT. -/
def ofClauses? (offsetAlone : Bool) : List String → Option Paging
  | ["LIMIT", n] => do return .slice (some (← natural? n)) 0
  | ["LIMIT", n, "OFFSET", m] => do return .slice (some (← natural? n)) (← natural? m)
  | ["OFFSET", m] => if offsetAlone then do return .slice none (← natural? m) else none
  | _ => none

/-- One condition on row numbers. -/
def filter? (name relation number : String) : Option RowFilter :=
  match name, relation with
  | "ROWNUMID", ">" => (natural? number).map .numberAbove
  | "ROWNUM", "<=" => (natural? number).map .atMost
  | _, _ => none

/-- Conditions on row numbers, all of which have to hold. -/
def filters? : List String → Option (List RowFilter)
  | [name, relation, number] => do return [← filter? name relation number]
  | name :: relation :: number :: "AND" :: rest => do
    let first ← filter? name relation number
    return first :: (← filters? rest)
  | _ => none

/-- The text in front of a query whose rows are numbered. -/
def numberingHead : String := "WITH USER_SQL AS ("

/-- The text behind a query whose rows are numbered, up to the conditions on the numbers. -/
def numberingTail : String :=
  "), PAGINATION AS (SELECT USER_SQL.*, ROWNUM AS ROWNUMID FROM USER_SQL) "
    ++ "SELECT * FROM PAGINATION WHERE "

/-- Conditions on row numbers around a query. -/
def ofNumbered? (query statement : String) : Option Paging := do
  let conditions ← statement.toList.dropPrefix? (numberingHead ++ query ++ numberingTail).toList
  return .filtered (← filters? (words conditions))

/-- LIMIT and OFFSET behind a query. -/
def ofSliced? (offsetAlone : Bool) (query statement : String) : Option Paging := do
  let clauses ← statement.toList.dropPrefix? (query ++ " ").toList
  ofClauses? offsetAlone (words clauses)

/-- What a statement of a family asks for of the rows of the query in it. -/
def ofStatement? (backend : Backend) (query statement : String) : Option Paging :=
  if statement = query then some .whole
  else if backend = .oracle then ofNumbered? query statement
  else ofSliced? (backend != .mysql) query statement

/-! ### Words and numbers -/

/-- Words with blanks between them are read one by one. -/
theorem words_intercalate {ws : List String} (hws : ws ≠ []) (hblank : ∀ w ∈ ws, ' ' ∉ w.toList) :
    words (" ".intercalate ws).toList = ws := by
  have hsplit : (" ".intercalate ws).toList.splitOn ' ' = ws.map String.toList := by
    rw [String.toList_intercalate]
    refine List.splitOn_intercalate ' ' ?_ (by simpa using hws)
    simpa using hblank
  rw [words, hsplit, List.map_map]
  simp [Function.comp_def]

theorem natural?_toString (n : Nat) : natural? (toString n) = some n := by
  have hend : Literal.Delimited [] := nofun
  have hread := Literal.readDigits_toDigits n hend
  rw [List.append_nil] at hread
  rw [natural?, Nat.toString_eq_repr, Nat.toList_repr, hread]

theorem blank_not_mem_toString (n : Nat) : ' ' ∉ (toString n).toList := by
  rw [Nat.toString_eq_repr, Nat.toList_repr]
  intro hmem
  exact absurd (Nat.isDigit_of_mem_toDigits (by decide) (by decide) hmem) (by decide)

/-! ### Row numbers -/

/-- Where every row is accepted, the rows are numbered from one on. -/
theorem numberedRows_all (taken : Nat) (rows : List α) :
    numberedRows (fun _ _ => true) taken rows = rows.zipIdx (taken + 1) := by
  induction rows generalizing taken with
  | nil => rfl
  | cons row rest ih => rw [numberedRows, if_pos rfl, ih, List.zipIdx_cons]

/-- At most so many rows, of which some have been taken already. -/
def remaining (limit? : Option Nat) (taken : Nat) (rows : List α) : List α :=
  match limit? with
  | some n => rows.take (n - taken)
  | none => rows

/-- A condition that asks for the rows above a number, and for no more than a limit, accepts a
window of them. `k` is the number of the first row, and `taken` rows have been accepted before. -/
theorem select_window (accepts : α × Nat → Nat → Bool) (m : Nat) (limit? : Option Nat) (k : Nat)
    (h : ∀ row j now, k ≤ j → accepts (row, j) now = (decide (m < j) && limit?.all (now ≤ ·)))
    (taken : Nat) (rows : List α) :
    (numberedRows accepts taken (rows.zipIdx k)).map (·.1.1)
      = remaining limit? taken (rows.drop (m + 1 - k)) := by
  induction rows generalizing taken k with
  | nil => cases limit? <;> simp [numberedRows, remaining]
  | cons row rest ih =>
      have hrest := ih (k + 1) (fun row j now hj => h row j now (by omega))
      rw [List.zipIdx_cons, numberedRows, h row k _ (Nat.le_refl k)]
      by_cases hskip : m < k
      · -- The number is high enough, so only the limit can refuse the row.
        have hdrop : m + 1 - k = 0 ∧ m + 1 - (k + 1) = 0 := by omega
        simp only [hdrop.1, hdrop.2, List.drop_zero] at hrest ⊢
        rw [decide_eq_true hskip, Bool.true_and]
        cases limit? with
        | none => rw [if_pos (by rfl), List.map_cons, hrest, remaining, remaining]
        | some n =>
            rw [Option.all_some]
            by_cases hfull : taken + 1 ≤ n
            · have hleft : n - taken = n - (taken + 1) + 1 := by omega
              rw [if_pos (decide_eq_true hfull), List.map_cons, hrest, remaining, remaining, hleft,
                List.take_succ_cons]
            · have hleft : n - taken = 0 := by omega
              rw [if_neg (by simpa using hfull), hrest, remaining, remaining, hleft,
                List.take_zero, List.take_zero]
      · -- Rows below the offset are refused and are not counted.
        have hdrop : m + 1 - k = m + 1 - (k + 1) + 1 := by omega
        simp [hskip, hrest, hdrop]

/-! ### The statements of each family -/

/-- The number of rows that a limit allows. -/
def limitOf (limit : Option Int) : Option Nat :=
  limit.bind fun n => if 0 ≤ n then some n.toNat else none

/-- The number of rows that an offset skips. -/
def offsetOf (offset : Option Int) : Nat := (max (offset.getD 0) 0).toNat

theorem page_eq (limit offset : Option Int) (rows : List α) :
    page limit offset rows = remaining (limitOf limit) 0 (rows.drop (offsetOf offset)) := by
  unfold page remaining limitOf offsetOf
  cases limit with
  | none => rfl
  | some n => by_cases h : 0 ≤ n <;> simp [h]

end Paging

/-- A whole number that may be absent, as a value. -/
def Value.ofInt? : Option Int → Value
  | some n => .int n
  | none => .null

namespace Paging

theorem hasLimit_ofInt? (limit : Option Int) :
    (Value.ofInt? limit).hasLimit = (limitOf limit).isSome := by
  cases limit with
  | none => rfl
  | some n => by_cases h : 0 ≤ n <;> simp [Value.ofInt?, Value.hasLimit, limitOf, h]

theorem hasOffset_ofInt? (offset : Option Int) :
    (Value.ofInt? offset).hasOffset = decide (0 < offsetOf offset) := by
  cases offset with
  | none => rfl
  | some n =>
      refine decide_eq_decide.mpr ?_
      simp only [offsetOf, Option.getD_some]
      omega

/-- A limit that counts is written in digits. -/
theorem shown_limit {limit : Option Int} {n : Nat} (h : limitOf limit = some n) :
    (Value.ofInt? limit).shown = toString n := by
  obtain ⟨i, rfl, hi⟩ := Option.bind_eq_some_iff.mp h
  split at hi
  · rename_i hnonneg
    obtain ⟨m, rfl⟩ := Int.eq_ofNat_of_zero_le hnonneg
    obtain rfl : m = n := by simpa using hi
    rfl
  · cases hi

/-- An offset that counts is written in digits. -/
theorem shown_offset {offset : Option Int} (h : 0 < offsetOf offset) :
    (Value.ofInt? offset).shown = toString (offsetOf offset) := by
  cases offset with
  | none => cases h
  | some i =>
      have hpos : 0 < i := by
        simp only [offsetOf, Option.getD_some] at h
        omega
      obtain ⟨m, rfl⟩ := Int.eq_ofNat_of_zero_le (Int.le_of_lt hpos)
      have hm : offsetOf (some (m : Int)) = m := by
        simp only [offsetOf, Option.getD_some]
        omega
      rw [hm]
      rfl

/-! ### LIMIT and OFFSET -/

/-- The limit that stands where only an offset counts. -/
def limitOrGreatest (d : Dialect) (limit? : Option Nat) (offset : Nat) : Option Nat :=
  if d.backend = .mysql ∧ 0 < offset then some (limit?.getD 18446744073709551615) else limit?

/-- The words of LIMIT and OFFSET. -/
def clauseWords (limit? : Option Nat) (offset : Nat) : List String :=
  (match limit? with
    | some n => ["LIMIT", toString n]
    | none => [])
  ++ if 0 < offset then ["OFFSET", toString offset] else []

theorem limitClause_eq (d : Dialect) (limit offset : Option Int) :
    d.limitClause (.ofInt? limit) (.ofInt? offset)
      = " ".intercalate
          (clauseWords (limitOrGreatest d (limitOf limit) (offsetOf offset))
            (offsetOf offset)) := by
  have hgreatest : Dialect.greatestLimit = toString 18446744073709551615 := rfl
  have hlimit := hasLimit_ofInt? limit
  have hoffset := hasOffset_ofInt? offset
  rcases hn : limitOf limit with _ | n <;> rw [hn] at hlimit <;>
    by_cases hm : 0 < offsetOf offset <;>
    simp only [hm, decide_true, decide_false] at hoffset <;>
    cases hd : d.backend <;>
    simp [Dialect.limitClause, limitOrGreatest, clauseWords, hd, hlimit, hoffset, hm, shown_limit,
      shown_offset, hn, hgreatest, ← String.toList_inj]

theorem blank_not_mem_clauseWords (limit? : Option Nat) (offset : Nat) :
    ∀ w ∈ clauseWords limit? offset, ' ' ∉ w.toList := by
  intro w hw
  rcases List.mem_append.mp hw with hw | hw
  · cases limit? with
    | none => cases hw
    | some n =>
        rcases List.mem_pair.mp hw with rfl | rfl
        · decide
        · exact blank_not_mem_toString n
  · split at hw
    · rcases List.mem_pair.mp hw with rfl | rfl
      · decide
      · exact blank_not_mem_toString offset
    · cases hw

/-- LIMIT and OFFSET are read back from their words. -/
theorem ofClauses?_clauseWords (offsetAlone : Bool) (limit? : Option Nat) (offset : Nat)
    (h : limit? = none → offsetAlone = true ∧ 0 < offset) :
    ofClauses? offsetAlone (clauseWords limit? offset) = some (.slice limit? offset) := by
  cases limit? with
  | none =>
      obtain ⟨halone, hoffset⟩ := h rfl
      rw [clauseWords, if_pos hoffset]
      simp [ofClauses?, halone, natural?_toString, -Nat.toString_eq_repr]
  | some n =>
      by_cases hoffset : 0 < offset
      · rw [clauseWords, if_pos hoffset]
        simp [ofClauses?, natural?_toString, -Nat.toString_eq_repr]
      · rw [clauseWords, if_neg hoffset, Nat.eq_zero_of_not_pos hoffset]
        simp [ofClauses?, natural?_toString, -Nat.toString_eq_repr]

/-- The greatest limit takes all rows of a table. -/
theorem select_slice (d : Dialect) (limit offset : Option Int) (rows : List α)
    (hrows : rows.length < Nat.pow 2 64) :
    (Paging.slice (limitOrGreatest d (limitOf limit) (offsetOf offset))
        (offsetOf offset)).select rows = page limit offset rows := by
  rw [page_eq, limitOrGreatest]
  split
  · cases limitOf limit with
    | some n => rfl
    | none =>
        -- Only here the number of rows matters.
        refine List.take_of_length_le ?_
        rw [List.length_drop]
        have hpow : Nat.pow 2 64 = 18446744073709551616 := rfl
        simp only [Option.getD_none]
        omega
  · cases limitOf limit <;> rfl

/-! ### Row numbers in Oracle -/

/-- The conditions on row numbers for a limit and an offset. -/
def rowFilters (limit? : Option Nat) (offset : Nat) : List RowFilter :=
  (if 0 < offset then [.numberAbove offset] else []) ++ (limit?.map RowFilter.atMost).toList

/-- The words of a condition on row numbers. -/
def filterWords : RowFilter → List String
  | .numberAbove m => ["ROWNUMID", ">", toString m]
  | .atMost n => ["ROWNUM", "<=", toString n]

/-- The text of a condition on row numbers. -/
def filterText (f : RowFilter) : String := " ".intercalate (filterWords f)

theorem rowFilters_eq (limit offset : Option Int) :
    Dialect.rowFilters (.ofInt? limit) (.ofInt? offset)
      = (rowFilters (limitOf limit) (offsetOf offset)).map filterText := by
  have hlimit := hasLimit_ofInt? limit
  have hoffset := hasOffset_ofInt? offset
  rcases hn : limitOf limit with _ | n <;> rw [hn] at hlimit <;>
    by_cases hm : 0 < offsetOf offset <;>
    simp only [hm, decide_true, decide_false] at hoffset <;>
    simp [Dialect.rowFilters, rowFilters, filterText, filterWords, hlimit, hoffset, hm, shown_limit,
      shown_offset, hn, ← String.toList_inj]

/-- The words of conditions on row numbers that all have to hold. -/
def conditionWords : List RowFilter → List String
  | [] => []
  | [f] => filterWords f
  | f :: rest => filterWords f ++ "AND" :: conditionWords rest

theorem conditionWords_ne_nil (f : RowFilter) (fs : List RowFilter) :
    conditionWords (f :: fs) ≠ [] := by
  cases f <;> cases fs <;> simp [conditionWords, filterWords]

theorem blank_not_mem_filterWords (f : RowFilter) : ∀ w ∈ filterWords f, ' ' ∉ w.toList := by
  cases f <;> simp [filterWords, blank_not_mem_toString, -Nat.toString_eq_repr]

theorem blank_not_mem_conditionWords (fs : List RowFilter) :
    ∀ w ∈ conditionWords fs, ' ' ∉ w.toList := by
  fun_induction conditionWords fs with
  | case1 => simp
  | case2 f => exact blank_not_mem_filterWords f
  | case3 f rest hrest ih =>
      intro w hw
      rcases List.mem_append.mp hw with hw | hw
      · exact blank_not_mem_filterWords f w hw
      · rcases List.mem_cons.mp hw with rfl | hw
        · decide
        · exact ih w hw

/-- Conditions joined by AND are their words with blanks between them. -/
theorem intercalate_conditionWords (fs : List RowFilter) :
    " AND ".intercalate (fs.map filterText) = " ".intercalate (conditionWords fs) := by
  have hword (f : RowFilter) : filterWords f ≠ [] := by cases f <;> exact List.cons_ne_nil _ _
  fun_induction conditionWords fs with
  | case1 => rfl
  | case2 f => rfl
  | case3 f rest hrest ih =>
      obtain ⟨g, gs, rfl⟩ := List.exists_cons_of_ne_nil hrest
      rw [List.map_cons, String.intercalate_cons_of_ne_nil (by simp), ih,
        String.intercalate_append_of_ne_nil (hword f) (List.cons_ne_nil _ _),
        String.intercalate_cons_of_ne_nil (conditionWords_ne_nil g gs), filterText,
        ← String.toList_inj]
      simp

theorem filters?_conditionWords (f : RowFilter) (fs : List RowFilter) :
    filters? (conditionWords (f :: fs)) = some (f :: fs) := by
  have hfirst (f : RowFilter) : ∃ name relation number,
      filterWords f = [name, relation, number] ∧ filter? name relation number = some f := by
    cases f <;> exact ⟨_, _, _, rfl, by simp [filter?, natural?_toString, -Nat.toString_eq_repr]⟩
  induction fs generalizing f with
  | nil =>
      obtain ⟨name, relation, number, hwords, hread⟩ := hfirst f
      rw [conditionWords, hwords, filters?, hread]
      rfl
  | cons g gs ih =>
      obtain ⟨name, relation, number, hwords, hread⟩ := hfirst f
      rw [conditionWords, hwords]
      · show filters? (name :: relation :: number :: "AND" :: conditionWords (g :: gs)) = _
        rw [filters?, hread, ih]
        rfl
      · simp

/-- Conditions on row numbers select the page. -/
theorem select_rowFilters (limit offset : Option Int) (rows : List α) :
    (Paging.filtered (rowFilters (limitOf limit) (offsetOf offset))).select rows
      = page limit offset rows := by
  have hwindow := select_window
    (fun (row : α × Nat) now =>
      (rowFilters (limitOf limit) (offsetOf offset)).all (·.holds row.2 now))
    (offsetOf offset) (limitOf limit) 1 ?_ 0 rows
  · rw [page_eq, select, numberedRows_all]
    exact hwindow
  · intro row j now hj
    -- Rows are numbered from one on, so without an offset all are above it.
    have hall : (rowFilters (limitOf limit) (offsetOf offset)).all (·.holds j now)
        = (decide (offsetOf offset < j) && (limitOf limit).all (now ≤ ·)) := by
      rw [rowFilters, List.all_append]
      congr 1
      · split
        · simp [RowFilter.holds]
        · symm
          simp
          omega
      · cases limitOf limit <;> simp [RowFilter.holds]
    exact hall

/-! ### Statements around a query -/

end Paging

/-- A query with its paging. -/
def Dialect.pagedAround (d : Dialect) (q : Fragment) (limit offset : Value) : Fragment :=
  if d.backend = .oracle then
    if (rowFilters limit offset).isEmpty then q
    else .ofText "WITH USER_SQL AS (" ++ q
      ++ .ofText ("), PAGINATION AS (SELECT USER_SQL.*, ROWNUM AS ROWNUMID FROM USER_SQL) "
        ++ "SELECT * FROM PAGINATION WHERE " ++ " AND ".intercalate (rowFilters limit offset))
  else if (d.limitClause limit offset).isEmpty then q
  else q ++ .ofText (" " ++ d.limitClause limit offset)

/-- Paging comes on top of what a query is without limit and offset. -/
theorem Dialect.paged_eq (d : Dialect) (sql : Fragment) (keys : List OrderKey)
    (limit offset : Value) :
    d.paged sql keys limit offset
      = (d.paged sql keys .null .null).map fun q => d.pagedAround q limit offset := by
  have hclause : d.limitClause .null .null = "" := by
    cases hd : d.backend <;> simp [limitClause, Value.hasLimit, Value.hasOffset]
  have hfilters : rowFilters .null .null = [] := rfl
  unfold paged pagedAround
  cases d.orderClause keys with
  | error e => rfl
  | ok order =>
      simp only [bind, Except.bind, pure, Except.pure, hclause, hfilters]
      by_cases hd : d.backend = .oracle
      · simp only [hd, if_true]
        split <;> rfl
      · simp only [hd, if_false]
        split <;> rfl

namespace Paging

variable {limit offset : Option Int}

/-- Where neither counts the query stands alone. -/
theorem pagedAround_of_none (d : Dialect) (q : Fragment) (hlimit : limitOf limit = none)
    (hoffset : offsetOf offset = 0) : d.pagedAround q (.ofInt? limit) (.ofInt? offset) = q := by
  have hfilters : Dialect.rowFilters (.ofInt? limit) (.ofInt? offset) = [] := by
    rw [rowFilters_eq, hlimit, hoffset]
    rfl
  have hclause : d.limitClause (.ofInt? limit) (.ofInt? offset) = "" := by
    rw [limitClause_eq, limitOrGreatest, hlimit, hoffset]
    simp [clauseWords]
  simp [Dialect.pagedAround, hfilters, hclause]

/-- Where there is something to count and no limit there is an offset. -/
theorem offset_pos (h : ¬ (limitOf limit = none ∧ offsetOf offset = 0))
    (hlimit : limitOf limit = none) : 0 < offsetOf offset :=
  Nat.pos_of_ne_zero fun hzero => h ⟨hlimit, hzero⟩

theorem rowFilters_ne_nil (h : ¬ (limitOf limit = none ∧ offsetOf offset = 0)) :
    rowFilters (limitOf limit) (offsetOf offset) ≠ [] := by
  rcases hlimit : limitOf limit with _ | n
  · simp [rowFilters, offset_pos h hlimit]
  · simp [rowFilters]

theorem clauseWords_ne_nil (d : Dialect) (h : ¬ (limitOf limit = none ∧ offsetOf offset = 0)) :
    clauseWords (limitOrGreatest d (limitOf limit) (offsetOf offset)) (offsetOf offset) ≠ [] := by
  rcases hlimit : limitOf limit with _ | n
  · simp [clauseWords, offset_pos h hlimit]
  · by_cases hgreatest : d.backend = .mysql ∧ 0 < offsetOf offset <;>
      simp [limitOrGreatest, clauseWords, hgreatest]

/-- A dialect that writes no limit writes an offset, and is one that may do so. -/
theorem limitOrGreatest_eq_none (d : Dialect)
    (hcount : ¬ (limitOf limit = none ∧ offsetOf offset = 0))
    (h : limitOrGreatest d (limitOf limit) (offsetOf offset) = none) :
    (d.backend != .mysql) = true ∧ 0 < offsetOf offset := by
  rw [limitOrGreatest] at h
  split at h
  · cases h
  · rename_i hgreatest
    have hoffset := offset_pos hcount h
    exact ⟨by simpa [hoffset] using hgreatest, hoffset⟩

/-- LIMIT and OFFSET are some text. -/
theorem intercalate_clauseWords_isEmpty {limit? : Option Nat} {m : Nat}
    (h : clauseWords limit? m ≠ []) : (" ".intercalate (clauseWords limit? m)).isEmpty = false := by
  have hcons (w v : String) (ws : List String) :
      (" ".intercalate (w :: v :: ws)).isEmpty = false := by
    simp [String.intercalate_cons_cons]
  cases limit? with
  | some n => exact hcons "LIMIT" (toString n) _
  | none =>
      by_cases hm : 0 < m
      · rw [clauseWords, if_pos hm]
        exact hcons "OFFSET" (toString m) []
      · exact absurd (by simp [clauseWords, hm]) h

/-- A query with LIMIT and OFFSET. -/
theorem pagedAround_sliced (d : Dialect) (q : Fragment) (hd : d.backend ≠ .oracle)
    (hcount : ¬ (limitOf limit = none ∧ offsetOf offset = 0)) (t : ParamTable) :
    ((d.pagedAround q (.ofInt? limit) (.ofInt? offset)).bind t).1
      = (q.bind t).1 ++ " " ++ " ".intercalate
        (clauseWords (limitOrGreatest d (limitOf limit) (offsetOf offset)) (offsetOf offset)) := by
  have hclause : (d.limitClause (.ofInt? limit) (.ofInt? offset)).isEmpty = false := by
    rw [limitClause_eq]
    exact intercalate_clauseWords_isEmpty (clauseWords_ne_nil d hcount)
  have haround : d.pagedAround q (.ofInt? limit) (.ofInt? offset)
      = q ++ .ofText (" " ++ d.limitClause (.ofInt? limit) (.ofInt? offset)) := by
    simp only [Dialect.pagedAround, hd, hclause, Bool.false_eq_true, if_false]
  rw [haround, Fragment.bind_append_ofText, limitClause_eq, String.append_assoc]

/-- A query with conditions on row numbers around it. -/
theorem pagedAround_numbered (d : Dialect) (q : Fragment) (hd : d.backend = .oracle)
    (hcount : ¬ (limitOf limit = none ∧ offsetOf offset = 0)) (t : ParamTable) :
    ((d.pagedAround q (.ofInt? limit) (.ofInt? offset)).bind t).1
      = numberingHead ++ (q.bind t).1 ++ numberingTail ++ " ".intercalate
        (conditionWords (rowFilters (limitOf limit) (offsetOf offset))) := by
  have hfilters : (Dialect.rowFilters (.ofInt? limit) (.ofInt? offset)).isEmpty = false := by
    rw [rowFilters_eq]
    simpa using rowFilters_ne_nil hcount
  have haround : d.pagedAround q (.ofInt? limit) (.ofInt? offset)
      = .ofText numberingHead ++ q ++ .ofText (numberingTail
        ++ " AND ".intercalate (Dialect.rowFilters (.ofInt? limit) (.ofInt? offset))) := by
    simp only [Dialect.pagedAround, hd, hfilters, Bool.false_eq_true, if_false, if_true]
    rfl
  rw [haround, Fragment.bind_append_ofText, Fragment.bind_ofText_append, rowFilters_eq,
    intercalate_conditionWords, String.append_assoc, String.append_assoc]
  simp only [String.append_assoc]

/-- Paging adds no parameter. -/
theorem table_pagedAround (d : Dialect) (q : Fragment) (limit offset : Value) (t : ParamTable) :
    ((d.pagedAround q limit offset).bind t).2 = (q.bind t).2 := by
  unfold Dialect.pagedAround
  split
  · split
    · rfl
    · rw [Fragment.bind_append_ofText, Fragment.bind_ofText_append]
  · split
    · rfl
    · rw [Fragment.bind_append_ofText]

/-- What a statement says behind the text that it starts with. -/
theorem rest_of_text {statement front rest : String} (h : statement = front ++ rest) :
    statement.toList.dropPrefix? front.toList = some rest.toList := by
  refine List.dropPrefix?_eq_some_iff.mpr ⟨front.toList, ?_, BEq.rfl⟩
  rw [h, String.toList_append]

/-- A query with conditions on row numbers around it reads as paging by these conditions. -/
theorem read_numbered (d : Dialect) (q : Fragment) (hd : d.backend = .oracle)
    (hcount : ¬ (limitOf limit = none ∧ offsetOf offset = 0)) (t : ParamTable) :
    ofStatement? d.backend (q.bind t).1
        ((d.pagedAround q (.ofInt? limit) (.ofInt? offset)).bind t).1
      = some (.filtered (rowFilters (limitOf limit) (offsetOf offset))) := by
  have htext := pagedAround_numbered d q hd hcount t
  -- A statement that is the query itself would be read as the whole of it.
  have hlonger : ((d.pagedAround q (.ofInt? limit) (.ofInt? offset)).bind t).1
      ≠ (q.bind t).1 := by
    intro heq
    have hlength := congrArg String.length (htext.symm.trans heq)
    have hhead : numberingHead.length = 18 := rfl
    simp only [String.length_append, hhead] at hlength
    omega
  obtain ⟨f, fs, hfs⟩ := List.exists_cons_of_ne_nil (rowFilters_ne_nil hcount)
  rw [ofStatement?, if_neg hlonger, if_pos hd, ofNumbered?, rest_of_text htext, hfs]
  simp only [Option.bind_eq_bind, Option.bind_some]
  rw [words_intercalate (conditionWords_ne_nil f fs) (blank_not_mem_conditionWords _),
    filters?_conditionWords]
  rfl

/-- A query with LIMIT and OFFSET reads as a slice. -/
theorem read_sliced (d : Dialect) (q : Fragment) (hd : d.backend ≠ .oracle)
    (hcount : ¬ (limitOf limit = none ∧ offsetOf offset = 0)) (t : ParamTable) :
    ofStatement? d.backend (q.bind t).1
        ((d.pagedAround q (.ofInt? limit) (.ofInt? offset)).bind t).1
      = some (.slice (limitOrGreatest d (limitOf limit) (offsetOf offset)) (offsetOf offset)) := by
  have htext := pagedAround_sliced d q hd hcount t
  have hlonger : ((d.pagedAround q (.ofInt? limit) (.ofInt? offset)).bind t).1
      ≠ (q.bind t).1 := by
    intro heq
    have hlength := congrArg String.length (htext.symm.trans heq)
    have hblank : " ".length = 1 := rfl
    simp only [String.length_append, hblank] at hlength
    omega
  rw [ofStatement?, if_neg hlonger, if_neg hd, ofSliced?, rest_of_text htext]
  simp only [Option.bind_eq_bind, Option.bind_some]
  rw [words_intercalate (clauseWords_ne_nil d hcount) (blank_not_mem_clauseWords _ _)]
  exact ofClauses?_clauseWords _ _ _ (limitOrGreatest_eq_none d hcount)

/-- What a dialect writes around a query reads as paging that selects the page. -/
theorem read_pagedAround (d : Dialect) (q : Fragment) (limit offset : Option Int) (rows : List α)
    (hrows : rows.length < Nat.pow 2 64) (t : ParamTable) :
    (ofStatement? d.backend (q.bind t).1
        ((d.pagedAround q (.ofInt? limit) (.ofInt? offset)).bind t).1).map (·.select rows)
      = some (page limit offset rows) := by
  by_cases hnone : limitOf limit = none ∧ offsetOf offset = 0
  · rw [pagedAround_of_none d q hnone.1 hnone.2, ofStatement?, if_pos rfl, page_eq, hnone.1,
      hnone.2]
    rfl
  · by_cases hd : d.backend = .oracle
    · rw [read_numbered d q hd hnone t, Option.map_some, select_rowFilters]
    · rw [read_sliced d q hd hnone t, Option.map_some, select_slice d limit offset rows hrows]

end Paging

/-- Whatever the limit and the offset are, every dialect selects the same page of the rows of the
query. Paging fails only where the query fails without it, and it adds no parameter. -/
theorem paged_selects (d : Dialect) (sql : Fragment) (keys : List OrderKey)
    (limit offset : Option Int) (rows : List α) (hrows : rows.length < Nat.pow 2 64)
    (t : ParamTable) :
    (∀ e, d.paged sql keys .null .null = .error e →
      d.paged sql keys (.ofInt? limit) (.ofInt? offset) = .error e) ∧
    ∀ q, d.paged sql keys .null .null = .ok q →
      ∃ f, d.paged sql keys (.ofInt? limit) (.ofInt? offset) = .ok f ∧
        (f.bind t).2 = (q.bind t).2 ∧
        (Paging.ofStatement? d.backend (q.bind t).1 (f.bind t).1).map (·.select rows)
          = some (page limit offset rows) := by
  rw [Dialect.paged_eq d sql keys (.ofInt? limit)]
  refine ⟨fun e he => by rw [he]; rfl, fun q hq => ?_⟩
  rw [hq]
  exact ⟨_, rfl, Paging.table_pagedAround d q _ _ t,
    Paging.read_pagedAround d q limit offset rows hrows t⟩

theorem paged_selects_oracle :
    ["a", "b", "c", "d"].length < Nat.pow 2 64 ∧
    ∃ f, (Dialect.standard .oracle).paged (.ofText "SELECT 1") [] (.int 2) (.int 1) = .ok f ∧
      (Paging.ofStatement? .oracle "SELECT 1" (f.bind ⟨":", []⟩).1).map
        (·.select ["a", "b", "c", "d"]) = some ["b", "c"] := by
  have hrows : ["a", "b", "c", "d"].length < Nat.pow 2 64 := by decide
  obtain ⟨f, hf, -, hread⟩ := (paged_selects (Dialect.standard .oracle) (.ofText "SELECT 1") []
    (some 2) (some 1) ["a", "b", "c", "d"] hrows ⟨":", []⟩).2 _ rfl
  exact ⟨hrows, f, hf, hread⟩

end SqlLoom
