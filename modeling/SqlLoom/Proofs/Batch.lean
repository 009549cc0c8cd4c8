import SqlLoom.Proofs.Fragment.Text
import SqlLoom.Proofs.Literal
import SqlLoom.Statement

/-!
# `SqlLoom.Proofs.Batch`: the rows of a batch insert read back

A batch insert writes its values into the text of the statement, row by row. The text around the
rows, `batchFrame`, is the same for all batches into the same columns with as many rows. What is
left is whether each row reads as that many literals and nothing else.

* `Literal.readRow` reads a row: literals separated by commas, in parentheses.
* `readRow_batchRow`: a row of data reads as the literals of its values, once they are cast for
  their columns; if one of them has no literal the row cannot be read.
* `batch_read`: which values those are. Lists, tuples, mappings, and octets that no column turns
  into a truth value are written without quotes, as they are shown.
* `batch_not_always_read` is such a row.
-/

set_option autoImplicit false

namespace SqlLoom

/-! ### Reading a row -/

namespace Literal

/-- Reads a number of literals with commas between them. -/
def readMany (backslash : Bool) : Nat → List Char → Option (List Literal × List Char)
  | 0, s => some ([], s)
  | 1, s => (read backslash s).map fun r => ([r.1], r.2)
  | n + 2, s =>
    match read backslash s with
    | some (l, ',' :: ' ' :: s) => (readMany backslash (n + 1) s).map fun r => (l :: r.1, r.2)
    | _ => none

/-- Reads a number of literals in parentheses. -/
def readRow (backslash : Bool) (n : Nat) : List Char → Option (List Literal × List Char)
  | '(' :: s =>
    match readMany backslash n s with
    | some (ls, ')' :: s) => some (ls, s)
    | _ => none
  | _ => none

/-- The literals of values are read back together, or not at all. -/
theorem readMany_batchLiteral (d : Dialect) (vs : List Value) (rest : List Char)
    (hvs : ∀ v ∈ vs, v.isDatum = true) :
    readMany d.backslashInLiterals vs.length
        ((commaJoined (vs.map d.batchLiteral)).toList ++ ')' :: rest)
      = (vs.mapM (ofValue? d)).map fun ls => (ls, ')' :: rest) := by
  induction vs with
  | nil => rfl
  | cons v vs ih =>
      obtain ⟨hv, hvs⟩ := List.forall_mem_cons.mp hvs
      cases vs with
      | nil =>
          have hend : Delimited (')' :: rest) := by simp [Delimited]
          simp only [List.map_cons, List.map_nil, commaJoined, String.intercalate_singleton,
            List.length_singleton, readMany, read_batchLiteral d hv hend, List.mapM_cons,
            List.mapM_nil]
          cases ofValue? d v <;> rfl
      | cons w ws =>
          have hsplit : (commaJoined ((v :: w :: ws).map d.batchLiteral)).toList ++ ')' :: rest
              = (d.batchLiteral v).toList ++ ',' :: ' ' ::
                ((commaJoined ((w :: ws).map d.batchLiteral)).toList ++ ')' :: rest) := by
            simp [commaJoined, String.intercalate_cons_cons]
          have hend (s : List Char) : Delimited (',' :: s) := by simp [Delimited]
          rw [hsplit, List.mapM_cons]
          simp only [List.length_cons, readMany, read_batchLiteral d hv (hend _)]
          simp only [List.length_cons] at ih
          cases ofValue? d v with
          | none => rfl
          | some l =>
              simp only [Option.map_some, ih hvs]
              cases (w :: ws).mapM (ofValue? d) <;> rfl

end Literal

/-! ### Casting for the columns -/

/-- The column at a position, if it is known. -/
def columnAt (info : Option Table) (columns : List String) (i : Nat) : Option Column := do
  (← info).column? (← columns[i]?)

/-- A value cast for its column, if that is known. -/
def castAt (column? : Option Column) (v : Value) : Value :=
  match column? with
  | some column => column.cast v
  | none => v

/-- The values of a row from position `i` on, cast for their columns. -/
def castRow (info : Option Table) (columns : List String) (i : Nat) (row : List Value) :
    List Value :=
  (row.zipIdx i).map fun p => castAt (columnAt info columns p.2) p.1

theorem batchValues_eq (d : Dialect) (info : Option Table) (columns : List String) (i : Nat)
    (row : List Value) :
    Compiler.batchValues d info columns i row
      = (castRow info columns i row).map d.batchLiteral := by
  induction row generalizing i with
  | nil => rfl
  | cons v row ih =>
      rw [Compiler.batchValues, ih]
      rfl

theorem length_castRow (info : Option Table) (columns : List String) (i : Nat)
    (row : List Value) : (castRow info columns i row).length = row.length := by
  rw [castRow, List.length_map, List.length_zipIdx]

/-- A cast leaves a value as it is or gives a scalar that has a literal. -/
theorem cast_cases (c : Column) (v : Value) :
    c.cast v = v ∨ c.cast v = .null ∨ (∃ b, c.cast v = .bool b) ∨ (∃ n, c.cast v = .int n) ∨
      ∃ s, c.cast v = .text s := by
  unfold Column.cast castText castInteger castFractional castBoolean
  repeat' split
  all_goals first
    | exact .inl rfl
    | exact .inr (.inl rfl)
    | exact .inr (.inr (.inl ⟨_, rfl⟩))
    | exact .inr (.inr (.inr (.inl ⟨_, rfl⟩)))
    | exact .inr (.inr (.inr (.inr ⟨_, rfl⟩)))

/-- Octets that the column does not turn into a truth value, lists, tuples and mappings are written
as they are shown. -/
def Value.isBare (column? : Option Column) : Value → Bool
  | .bytes _ => column?.map Column.type != some .boolean
  | .list _ | .tuple _ | .map _ => true
  | _ => false

/-- Only a column of truth values does not leave octets as they are. -/
theorem cast_bytes (c : Column) (octets : List UInt8) :
    c.cast (.bytes octets)
      = if c.type = .boolean then .bool !octets.isEmpty else .bytes octets := by
  cases htype : c.type <;> simp [Column.cast, htype, Value.isUncast, Value.text?, castText,
    castInteger, castFractional, castBoolean, Value.isTruthy, ColumnType.isTextual,
    ColumnType.isInteger, ColumnType.isFractional]

theorem isDatum_castAt (column? : Option Column) {v : Value} (hv : v.isDatum = true) :
    (castAt column? v).isDatum = true := by
  cases column? with
  | none => exact hv
  | some c =>
      show (c.cast v).isDatum = true
      rcases cast_cases c v with h | h | ⟨b, h⟩ | ⟨n, h⟩ | ⟨s, h⟩ <;> rw [h]
      exacts [hv, rfl, rfl, rfl, rfl]

/-- A datum has a literal unless it is written as it is shown. -/
theorem isSome_ofValue?_castAt (d : Dialect) (column? : Option Column) {v : Value}
    (hv : v.isDatum = true) :
    (Literal.ofValue? d (castAt column? v)).isSome = !v.isBare column? := by
  cases column? with
  | none => cases v <;> first | rfl | cases hv
  | some c =>
      show (Literal.ofValue? d (c.cast v)).isSome = _
      cases v with
      | null | bool _ | int _ | text _ =>
          rcases cast_cases c _ with h | h | ⟨b, h⟩ | ⟨n, h⟩ | ⟨s, h⟩ <;> rw [h] <;> rfl
      | bytes octets =>
          rw [cast_bytes]
          split
          · rename_i hboolean
            simp [Value.isBare, Literal.ofValue?, hboolean]
          · rename_i hother
            simp [Value.isBare, Literal.ofValue?, Value.text?, hother]
      | list _ | tuple _ | map _ => rfl
      | _ => cases hv

/-! ### Rows -/

/-- A row as it stands in the text of a batch insert. -/
def batchRow (c : Compiler) (table : String) (columns : List String) (row : List Value) : String :=
  "(" ++ commaJoined (Compiler.batchValues c.dialect (c.table? table) columns 0 row) ++ ")"

/-- The literals that the values of a row have, if each has one. -/
def rowLiterals? (c : Compiler) (table : String) (columns : List String) (row : List Value) :
    Option (List Literal) :=
  (castRow (c.table? table) columns 0 row).mapM (Literal.ofValue? c.dialect)

/-- A row reads as the literals of its values, or it cannot be read. -/
theorem readRow_batchRow (c : Compiler) (table : String) (columns : List String)
    {row : List Value} (hrow : ∀ v ∈ row, v.isDatum = true) (rest : List Char) :
    Literal.readRow c.dialect.backslashInLiterals row.length
        ((batchRow c table columns row).toList ++ rest)
      = (rowLiterals? c table columns row).map fun ls => (ls, rest) := by
  have hcast : ∀ v ∈ castRow (c.table? table) columns 0 row, v.isDatum = true := by
    intro v hv
    obtain ⟨⟨w, i⟩, hw, rfl⟩ := List.mem_map.mp hv
    exact isDatum_castAt _ (hrow w (List.fst_mem_of_mem_zipIdx hw))
  have hread := Literal.readMany_batchLiteral c.dialect _ rest hcast
  rw [length_castRow, ← batchValues_eq] at hread
  have htext : (batchRow c table columns row).toList ++ rest = '(' ::
      ((commaJoined (Compiler.batchValues c.dialect (c.table? table) columns 0 row)).toList
        ++ ')' :: rest) := by
    simp [batchRow]
  rw [htext, Literal.readRow, hread, rowLiterals?]
  cases (castRow (c.table? table) columns 0 row).mapM (Literal.ofValue? c.dialect) <;> rfl

theorem isSome_mapM_iff {α β : Type} (f : α → Option β) (as : List α) :
    (as.mapM f).isSome = true ↔ ∀ a ∈ as, (f a).isSome = true := by
  induction as with
  | nil => simp
  | cons a as ih =>
      rw [List.mapM_cons, List.forall_mem_cons, ← ih]
      cases f a with
      | none => simp
      | some b => cases as.mapM f <;> simp

/-- Which rows have a literal for each value. -/
theorem isSome_rowLiterals? (c : Compiler) (table : String) (columns : List String)
    {row : List Value} (hrow : ∀ v ∈ row, v.isDatum = true) :
    (rowLiterals? c table columns row).isSome = true ↔
      ∀ (i : Nat) (v : Value), row[i]? = some v →
        v.isBare (columnAt (c.table? table) columns i) = false := by
  have hliteral (i : Nat) (v : Value) (hv : row[i]? = some v) :
      (Literal.ofValue? c.dialect (castAt (columnAt (c.table? table) columns i) v)).isSome = true ↔
        v.isBare (columnAt (c.table? table) columns i) = false := by
    rw [isSome_ofValue?_castAt _ _ (hrow v (List.mem_of_getElem? hv)), Bool.not_eq_true']
  rw [rowLiterals?, isSome_mapM_iff, castRow, List.forall_mem_map, Prod.forall]
  constructor
  · intro h i v hv
    exact (hliteral i v hv).mp (h v i (List.mem_zipIdx_iff_getElem?.mpr hv))
  · intro h v i hv
    have hv := List.mem_zipIdx_iff_getElem?.mp hv
    exact (hliteral i v hv).mpr (h i v hv)

/-! ### Batches -/

/-- The text around the rows of a batch insert. -/
def batchFrame (d : Dialect) (table : String) (columns : List String) : Nat → List String
  | 0 => [""]
  | n + 1 =>
    let target := "INTO " ++ d.quoteTable table ++ " (" ++ commaJoined (columns.map d.quoteColumn)
      ++ ")" ++ " VALUES "
    if d.backend = .oracle then
      ("INSERT ALL " ++ target) :: List.replicate n (" " ++ target) ++ [" SELECT 1 FROM SYS.DUAL"]
    else ("INSERT " ++ target) :: List.replicate n ", " ++ [""]

/-- The same text between any two rows. -/
theorem weave_replicate (first between last row : String) (rows : List String) :
    Fragment.weave (first :: List.replicate rows.length between ++ [last]) (row :: rows)
      = first ++ between.intercalate (row :: rows) ++ last := by
  induction rows generalizing first row with
  | nil => simp [Fragment.weave, String.append_assoc]
  | cons next rows ih =>
      have hweave : Fragment.weave
            (first :: between :: List.replicate rows.length between ++ [last]) (row :: next :: rows)
          = first ++ row ++ Fragment.weave
            (between :: List.replicate rows.length between ++ [last]) (next :: rows) := rfl
      rw [List.length_cons, List.replicate_succ, hweave, ih, String.intercalate_cons_cons]
      simp only [String.append_assoc]

/-- A text in front of each row belongs to the text between the rows. -/
theorem intercalate_map_append (before between row : String) (rows : List String) :
    between.intercalate ((row :: rows).map (before ++ ·))
      = before ++ (between ++ before).intercalate (row :: rows) := by
  induction rows generalizing row with
  | nil => simp
  | cons next rows ih =>
      rw [List.map_cons, List.map_cons, String.intercalate_cons_cons, ← List.map_cons, ih,
        String.intercalate_cons_cons]
      simp only [String.append_assoc]

/-- A batch is its rows in the text around them. -/
theorem batchInsert_eq_weave (d : Dialect) (table : String) (columns : List String) (row : String)
    (rows : List String) :
    d.batchInsert (d.quoteTable table) (columns.map d.quoteColumn) (row :: rows)
      = Fragment.weave (batchFrame d table columns (rows.length + 1)) (row :: rows) := by
  simp only [Dialect.batchInsert, batchFrame]
  split
  · rw [weave_replicate]
    rw [intercalate_map_append]
    simp only [String.append_assoc]
  · rw [weave_replicate]
    simp [commaJoined, String.append_assoc]

/-- Where each member gives something, so does something made of it. -/
theorem mapM_ok_map {α β γ : Type} {x : α → Except Error β} (f : β → γ) {as : List α} {bs : List β}
    (h : as.mapM x = .ok bs) : (as.mapM fun a => do return f (← x a)) = .ok (bs.map f) := by
  induction as generalizing bs with
  | nil =>
      cases h
      rfl
  | cons a as ih =>
      rw [List.mapM_cons] at h ⊢
      cases hfirst : x a with
      | error e =>
          rw [hfirst] at h
          cases h
      | ok b =>
          rw [hfirst] at h
          cases hrest : as.mapM x with
          | error e =>
              rw [hrest] at h
              cases h
          | ok bs' =>
              rw [hrest] at h
              cases h
              rw [ih hrest]
              rfl

/-- What a batch insert compiles to. -/
theorem batchInsert_ok (c : Compiler) (table : String) (columns : List String) {rows : Value}
    {cells : List (List Value)}
    (hrows : (do (← rows.goThrough).mapM Value.goThrough) = .ok cells) :
    c.batchInsert table columns rows
      = .ok ⟨Fragment.weave (batchFrame c.dialect table columns cells.length)
          (cells.map (batchRow c table columns)), [], c.dialect.name⟩ := by
  cases hgo : rows.goThrough with
  | error e =>
      rw [hgo] at hrows
      cases hrows
  | ok items =>
      rw [hgo] at hrows
      have hgroups : (items.mapM fun row => do
            return "(" ++ commaJoined (Compiler.batchValues c.dialect (c.table? table) columns 0
              (← row.goThrough)) ++ ")" : Except Error (List String))
          = .ok (cells.map (batchRow c table columns)) :=
        mapM_ok_map (batchRow c table columns) hrows
      have hcompiled : c.batchInsert table columns rows = (do
          let groups ← (.ok (cells.map (batchRow c table columns)) : Except Error (List String))
          if groups.isEmpty then return ⟨"", [], c.dialect.name⟩
          return ⟨c.dialect.batchInsert (c.dialect.quoteTable table)
            (columns.map c.dialect.quoteColumn) groups, [], c.dialect.name⟩) := by
        rw [← hgroups, Compiler.batchInsert, hgo]
        rfl
      rw [hcompiled]
      cases cells with
      | nil => rfl
      | cons row cells =>
          have hweave := batchInsert_eq_weave c.dialect table columns (batchRow c table columns row)
            (cells.map (batchRow c table columns))
          rw [List.length_map] at hweave
          show Except.ok (Compiled.mk (c.dialect.batchInsert (c.dialect.quoteTable table)
            (columns.map c.dialect.quoteColumn) (batchRow c table columns row ::
              cells.map (batchRow c table columns))) [] c.dialect.name) = _
          rw [hweave]
          rfl

/-- A batch insert of data writes its rows into a text that does not depend on them. Each row reads
as one literal for each column, those of its values, exactly when none of its values is written as
it is shown; otherwise it cannot be read. -/
theorem batch_read (c : Compiler) (table : String) (columns : List String) (rows : Value)
    (cells : List (List Value))
    (hrows : (do (← rows.goThrough).mapM Value.goThrough) = .ok cells)
    (hdata : ∀ row ∈ cells, row.length = columns.length ∧ ∀ v ∈ row, v.isDatum = true) :
    c.batchInsert table columns rows
      = .ok ⟨Fragment.weave (batchFrame c.dialect table columns cells.length)
          (cells.map (batchRow c table columns)), [], c.dialect.name⟩ ∧
    ∀ row ∈ cells,
      (∀ rest, Literal.readRow c.dialect.backslashInLiterals columns.length
          ((batchRow c table columns row).toList ++ rest)
        = (rowLiterals? c table columns row).map fun ls => (ls, rest)) ∧
      ((rowLiterals? c table columns row).isSome = true ↔
        ∀ (i : Nat) (v : Value), row[i]? = some v →
          v.isBare (columnAt (c.table? table) columns i) = false) := by
  refine ⟨batchInsert_ok c table columns hrows, fun row hrow => ?_⟩
  obtain ⟨hlength, hdatum⟩ := hdata row hrow
  refine ⟨fun rest => ?_, isSome_rowLiterals? c table columns hdatum⟩
  rw [← hlength]
  exact readRow_batchRow c table columns hdatum rest

/-- A list is written as it is shown, with the quote in it. -/
theorem batch_not_always_read :
    let c : Compiler := ⟨.standard .ansi, none, ":qp"⟩
    let rows : Value := .list [.list [.list [.text "it's"]]]
    c.batchInsert "t" ["a"] rows
      = .ok ⟨"INSERT INTO \"t\" (\"a\") VALUES ([\"it's\"])", [], "ansi"⟩ ∧
      Literal.readRow false 1 "([\"it's\"])".toList = none :=
  ⟨rfl, rfl⟩

/-- Text with a quote and a backslash, and octets for a column of truth values. -/
theorem batch_read_quotes :
    let c : Compiler := ⟨.standard .mysql,
      some ⟨[⟨"t", [{ name := "a" }, { name := "b", type := .boolean }], none⟩]⟩, ":qp"⟩
    let row : List Value := [.text "it's \\", .bytes [1]]
    batchRow c "t" ["a", "b"] row = "('it''s \\\\', 1)" ∧
      ∀ rest, Literal.readRow true 2 ("('it''s \\\\', 1)".toList ++ rest)
        = some ([.text "it's \\".toList, .number 1], rest) := by
  intro c row
  have hdata : ∀ r ∈ [row], r.length = 2 ∧ ∀ v ∈ r, v.isDatum = true := by
    simp [row, Value.isDatum]
  obtain ⟨-, hrows⟩ := batch_read c "t" ["a", "b"] (.list [.list row]) [row] rfl hdata
  obtain ⟨hread, -⟩ := hrows row (by simp)
  have hrow : batchRow c "t" ["a", "b"] row = "('it''s \\\\', 1)" := by decide
  have hliterals : rowLiterals? c "t" ["a", "b"] row
      = some [.text "it's \\".toList, .number 1] := by decide
  refine ⟨hrow, fun rest => ?_⟩
  rw [← hrow]
  exact (hread rest).trans (by rw [hliterals]; rfl)

end SqlLoom
