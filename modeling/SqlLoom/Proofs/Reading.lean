import SqlLoom.Proofs.Formula
import SqlLoom.Proofs.Parentheses

/-!
# `SqlLoom.Proofs.Reading`: reading the text of a condition

`Text.read` reads a text as a formula over the texts of tests. What a text is shows where no
parenthesis is open (`Text.cut`): a negation has NOT there, a group nothing but the word of its
junction between parts in parentheses, and an empty text asks nothing. Any other text is a test.

* `shape_writtenGroup`, `shape_negation`: the written forms are read as what they are. Their parts
  have to be balanced.
* `shape_of_mark`: a text with a character of its own outside of all parentheses is a test.

A single part in parentheses is read as a group of all.
-/

set_option autoImplicit false

namespace SqlLoom.Text

/-! ### Characters outside of all parentheses -/

/-- What stands outside of all parentheses, where the first stretch stands inside if `inside`
holds. -/
def outer (inside : Bool) : List (List Char) → List Char
  | [] => []
  | s :: rest => (if inside then [] else s) ++ outer (!inside) rest

/-- A character more in the first stretch. -/
theorem outer_modifyHead (inside : Bool) (c : Char) {ts : List (List Char)} (hts : ts ≠ []) :
    outer inside (ts.modifyHead (c :: ·)) = (if inside then [] else [c]) ++ outer inside ts := by
  obtain ⟨t, ts, rfl⟩ := List.exists_cons_of_ne_nil hts
  cases inside <;> rfl

/-- A character before which as much is closed as is opened stands outside. -/
theorem mem_outer_cutFrom {n : Nat} {before : List Char} (h : depthAfter n before = some 0)
    {c : Char} (hc : isParen c = false) (after : List Char) :
    c ∈ outer (n != 0) (cutFrom n (before ++ c :: after)) := by
  induction before generalizing n with
  | nil =>
      cases h
      have hflat := cutFrom_flat (flat_singleton hc) 0 after
      rw [List.nil_append, ← List.singleton_append, hflat]
      have hhead := outer_modifyHead false c (cutFrom_ne_nil 0 after)
      exact hhead ▸ List.mem_cons_self
  | cons d before ih =>
      rw [depthAfter_cons, Option.bind_eq_some_iff] at h
      obtain ⟨k, hstep, hk⟩ := h
      have hrest := ih hk
      rw [List.cons_append, cutFrom]
      split
      · -- An outermost pair is opened.
        rename_i hopen
        rw [hopen.1, hopen.2] at hstep
        cases hstep
        rw [hopen.1]
        exact hrest
      · rename_i hopen
        split
        · -- An outermost pair is closed.
          rename_i hclose
          rw [hclose.1, hclose.2] at hstep
          cases hstep
          rw [hclose.1]
          exact hrest
        · rename_i hclose
          have hside := depthStep_side hopen hclose
          rw [hstep, Option.getD_some] at hside ⊢
          rw [outer_modifyHead _ d (cutFrom_ne_nil k _), ← hside]
          exact List.mem_append_right _ hrest

/-! ### Shapes -/

/-- What a text is at its outermost level. -/
inductive Shape where
  | test
  | negation (part : List Char)
  | group (j : Junction) (parts : List (List Char))

/-- The texts that a text is made of. -/
def Shape.parts : Shape → List (List Char)
  | .test => []
  | .negation part => [part]
  | .group _ parts => parts

/-- The word of a junction between its parts. -/
def between (j : Junction) : List Char := (" " ++ j.keyword ++ " ").toList

/-- The parts with a text between each two and nothing behind them. -/
def parts? (sep : List Char) : List (List Char) → Option (List (List Char))
  | part :: next :: rest =>
    if next = sep then (parts? sep rest).map (part :: ·)
    else if next = [] ∧ rest = [] then some [part] else none
  | _ => none

/-- The parts of a group in terms of its stretches. -/
def groupOf? (j : Junction) : List (List Char) → Option (List (List Char))
  | [] :: rest => parts? (between j) rest
  | _ => none

/-- The negated text in terms of the stretches of a negation. -/
def negationOf? : List (List Char) → Option (List Char)
  | [word, part, []] => if word = "NOT ".toList then some part else none
  | _ => none

/-- What a text is. -/
def shape (s : List Char) : Shape :=
  if s = [] then .group .all []
  else match negationOf? (cut s), groupOf? .all (cut s), groupOf? .any (cut s) with
    | some part, _, _ => .negation part
    | none, some parts, _ => .group .all parts
    | none, none, some parts => .group .any parts
    | none, none, none => .test

/-! ### Parts are shorter -/

theorem subset_of_parts? {sep : List Char} {ts parts : List (List Char)}
    (h : parts? sep ts = some parts) : parts ⊆ ts := by
  fun_induction parts? sep ts generalizing parts with
  | case1 part rest ih =>
      obtain ⟨more, hmore, rfl⟩ := Option.map_eq_some_iff.mp h
      exact List.cons_subset_cons part
        (List.Subset.trans (ih hmore) (List.subset_cons_self sep rest))
  | case2 part next rest hnext hend =>
      cases h
      exact List.cons_subset_cons part (List.nil_subset _)
  | case3 part next rest hnext hend => cases h
  | case4 ts hts => cases h

/-- A stretch beside others is shorter than the text. -/
theorem length_add_le_glue (inside : Bool) {ts : List (List Char)} {s : List Char} (hs : s ∈ ts) :
    s.length + ts.length ≤ (glue inside ts).length + 1 := by
  induction ts generalizing inside s with
  | nil => exact absurd hs List.not_mem_nil
  | cons t rest ih =>
      cases rest with
      | nil =>
          cases List.mem_singleton.mp hs
          exact Nat.le_refl _
      | cons u rest =>
          have hlength : (glue inside (t :: u :: rest)).length
              = t.length + (glue (!inside) (u :: rest)).length + 1 := by
            rw [glue, List.length_append, List.length_cons]
            · omega
            · exact List.cons_ne_nil u rest
          have hfirst := ih (!inside) List.mem_cons_self
          rw [hlength, List.length_cons]
          rcases List.mem_cons.mp hs with rfl | hs
          · have hrow : (u :: rest).length = rest.length + 1 := List.length_cons
            omega
          · have := ih (!inside) hs
            omega

theorem length_lt_of_mem_cut {s part : List Char} (hpart : part ∈ cut s)
    (h : 1 < (cut s).length) : part.length < s.length := by
  have hglue := length_add_le_glue false hpart
  have hwhole : glue false (cut s) = s := glue_cutFrom 0 s
  rw [hwhole] at hglue
  omega

theorem negationOf?_eq_some {ts : List (List Char)} {part : List Char}
    (h : negationOf? ts = some part) : ts = ["NOT ".toList, part, []] := by
  fun_cases negationOf? ts with
  | case1 part' =>
      rw [negationOf?, if_pos rfl] at h
      cases h
      rfl
  | case2 word part' hword =>
      rw [negationOf?, if_neg hword] at h
      cases h
  | case3 ts hts =>
      rw [negationOf?] at h
      · cases h
      · exact hts

theorem groupOf?_eq_some {j : Junction} {ts parts : List (List Char)}
    (h : groupOf? j ts = some parts) :
    ∃ rest, ts = [] :: rest ∧ parts? (between j) rest = some parts := by
  cases ts with
  | nil => cases h
  | cons s rest =>
      cases s with
      | nil => exact ⟨rest, rfl, h⟩
      | cons c s => cases h

/-- What the stretches of a text are where it is no test. -/
theorem shape_cases (s : List Char) :
    (s = [] ∧ shape s = .group .all []) ∨
    (∃ part, cut s = ["NOT ".toList, part, []] ∧ shape s = .negation part) ∨
    (∃ j rest parts, cut s = [] :: rest ∧ parts? (between j) rest = some parts ∧
      shape s = .group j parts) ∨
    (∀ part, negationOf? (cut s) ≠ some part) ∧ (∀ j parts, groupOf? j (cut s) ≠ some parts) ∧
      shape s = .test := by
  rw [shape]
  split
  · rename_i hs
    exact .inl ⟨hs, rfl⟩
  · split
    · rename_i part hnegation
      exact .inr (.inl ⟨part, negationOf?_eq_some hnegation, rfl⟩)
    · rename_i parts hnegation hgroup
      obtain ⟨rest, hcut, hparts⟩ := groupOf?_eq_some hgroup
      exact .inr (.inr (.inl ⟨.all, rest, parts, hcut, hparts, rfl⟩))
    · rename_i parts hnegation hall hgroup
      obtain ⟨rest, hcut, hparts⟩ := groupOf?_eq_some hgroup
      exact .inr (.inr (.inl ⟨.any, rest, parts, hcut, hparts, rfl⟩))
    · rename_i hnegation hall hany
      refine .inr (.inr (.inr ⟨fun part h => ?_, fun j parts h => ?_, rfl⟩))
      · rw [hnegation] at h
        cases h
      · cases j
        · rw [hall] at h
          cases h
        · rw [hany] at h
          cases h

/-- Each part of a text is shorter than the text. -/
theorem length_lt_of_mem_parts {s part : List Char} (hpart : part ∈ (shape s).parts) :
    part.length < s.length := by
  -- Beside a part there is at least one other stretch.
  rcases shape_cases s with
    ⟨-, hs⟩ | ⟨word, hcut, hs⟩ | ⟨j, rest, parts, hcut, hparts, hs⟩ | ⟨-, -, hs⟩
  all_goals rw [hs] at hpart
  · exact absurd hpart List.not_mem_nil
  · cases List.mem_singleton.mp hpart
    have hmem : part ∈ cut s := by
      rw [hcut]
      exact List.mem_cons_of_mem _ List.mem_cons_self
    have hlength : (cut s).length = 3 := congrArg List.length hcut
    exact length_lt_of_mem_cut hmem (by omega)
  · have hrest : part ∈ rest := subset_of_parts? hparts hpart
    have hmem : part ∈ cut s := by
      rw [hcut]
      exact List.mem_cons_of_mem _ hrest
    have hlength : (cut s).length = rest.length + 1 := congrArg List.length hcut
    have hpos := List.length_pos_of_mem hrest
    exact length_lt_of_mem_cut hmem (by omega)
  · exact absurd hpart List.not_mem_nil

theorem length_lt_of_negation {s part : List Char} (h : shape s = .negation part) :
    part.length < s.length := by
  refine length_lt_of_mem_parts ?_
  rw [h]
  exact List.mem_singleton_self part

theorem length_lt_of_group {s : List Char} {j : Junction} {parts : List (List Char)}
    (h : shape s = .group j parts) {part : List Char} (hpart : part ∈ parts) :
    part.length < s.length := by
  refine length_lt_of_mem_parts ?_
  rw [h]
  exact hpart

/-! ### Reading -/

/-- The formula that a text is over the texts of its tests. -/
def read (s : List Char) : Formula (List Char) :=
  match h : shape s with
  | .test => .test s
  | .negation part =>
    have := length_lt_of_negation h
    .negation (read part)
  | .group j parts =>
    .group j (parts.attach.map fun part =>
      have := length_lt_of_group h part.2
      read part.1)
termination_by s.length

/-- A text is read by its shape. -/
theorem read_eq (s : List Char) :
    read s = match shape s with
      | .test => .test s
      | .negation part => .negation (read part)
      | .group j parts => .group j (parts.map read) := by
  rw [read]
  split
  all_goals rename_i h; simp only [h]
  -- The parts come with a proof that they are parts, which reading forgets.
  rw [List.attach_map_val]

theorem read_of_test {s : List Char} (h : shape s = .test) : read s = .test s := by
  rw [read_eq, h]

theorem read_of_negation {s part : List Char} (h : shape s = .negation part) :
    read s = .negation (read part) := by
  rw [read_eq, h]

theorem read_of_group {s : List Char} {j : Junction} {parts : List (List Char)}
    (h : shape s = .group j parts) : read s = .group j (parts.map read) := by
  rw [read_eq, h]

/-! ### The written forms -/

theorem between_ne_nil (j : Junction) : between j ≠ [] := by cases j <;> decide

theorem parts?_intersperse {sep : List Char} (hsep : sep ≠ []) {parts : List (List Char)}
    (hne : parts ≠ []) : parts? sep (parts.intersperse sep ++ [[]]) = some parts := by
  induction parts with
  | nil => exact absurd rfl hne
  | cons part rest ih =>
      cases rest with
      | nil =>
          show parts? sep [part, []] = some [part]
          rw [parts?, if_neg hsep.symm, if_pos ⟨rfl, rfl⟩]
      | cons next rest =>
          have hrest := ih (List.cons_ne_nil _ _)
          rw [List.intersperse_cons_cons, List.cons_append, List.cons_append, parts?, if_pos rfl,
            hrest]
          rfl

/-- Several parts have but one text between them. -/
theorem parts?_intersperse_of_ne {sep other : List Char} (hother : other ≠ sep) (hsep : sep ≠ [])
    (part next : List Char) (rest : List (List Char)) :
    parts? other ((part :: next :: rest).intersperse sep ++ [[]]) = none := by
  rw [List.intersperse_cons_cons, List.cons_append, List.cons_append, parts?, if_neg hother.symm,
    if_neg fun h => hsep h.1]

theorem flat_keyword (j : Junction) : Flat j.keyword.toList := by
  cases j <;> exact flat_of_all rfl

/-- What begins with an opening parenthesis is no negation. -/
theorem negationOf?_nil_cons (ts : List (List Char)) : negationOf? ([] :: ts) = none := by
  rw [Option.eq_none_iff_forall_ne_some]
  intro part h
  have hword := negationOf?_eq_some h
  cases hword

/-- The written form of a group is read as that group. -/
theorem shape_writtenGroup (j : Junction) {texts : List String} (hne : texts ≠ [])
    (h : ∀ s ∈ texts, Balanced s.toList) :
    shape (Formula.writtenGroup j texts).toList
      = .group (if texts.length = 1 then .all else j) (texts.map String.toList) := by
  have hcut : cut ("(" ++ (") " ++ j.keyword ++ " (").intercalate texts ++ ")").toList
      = [] :: (texts.map String.toList).intersperse (between j) ++ [[]] :=
    cut_group (flat_keyword j) hne h
  have hrow : parts? (between j) ((texts.map String.toList).intersperse (between j) ++ [[]])
      = some (texts.map String.toList) :=
    parts?_intersperse (between_ne_nil j) (by simpa using hne)
  rw [Formula.writtenGroup, if_neg (by simpa using hne), shape, if_neg (by simp), hcut,
    List.cons_append, negationOf?_nil_cons, groupOf?, groupOf?]
  cases j with
  | all => rw [ite_self, hrow]
  | any =>
      obtain ⟨s, rest, rfl⟩ := List.exists_cons_of_ne_nil hne
      cases rest with
      | nil =>
          -- There is nothing between the parts, so the words of both junctions fit.
          have hall : parts? (between .all) [s.toList, []] = some [s.toList] :=
            parts?_intersperse (between_ne_nil .all) (List.cons_ne_nil s.toList [])
          have hone : (List.map String.toList [s]).intersperse (between .any) ++ [[]]
              = [s.toList, []] := rfl
          rw [hone, hall]
          rfl
      | cons u rest =>
          have hall : parts? (between .all)
              ((s.toList :: u.toList :: rest.map String.toList).intersperse (between .any) ++ [[]])
                = none :=
            parts?_intersperse_of_ne (by decide) (between_ne_nil .any) _ _ _
          rw [List.map_cons, List.map_cons] at hrow ⊢
          rw [hall, hrow]
          rfl

/-- The written form of a negation is read as that negation. -/
theorem shape_negation {s : String} (h : Balanced s.toList) :
    shape ("NOT (" ++ s ++ ")").toList = .negation s.toList := by
  rw [shape, if_neg (by simp), cut_negation h, negationOf?, if_pos rfl]

/-! ### Tests -/

/-- The characters of a row of parts that stand outside are those between the parts. -/
theorem outer_of_parts? {sep : List Char} {ts parts : List (List Char)}
    (h : parts? sep ts = some parts) : ∀ c ∈ outer true ts, c ∈ sep := by
  fun_induction parts? sep ts generalizing parts with
  | case1 part rest ih =>
      obtain ⟨more, hmore, -⟩ := Option.map_eq_some_iff.mp h
      intro c hc
      have hends : c ∈ sep ++ outer true rest := hc
      exact (List.mem_append.mp hends).elim id (ih hmore c)
  | case2 part next rest hnext hend =>
      rw [hend.1, hend.2]
      exact fun c hc => absurd hc List.not_mem_nil
  | case3 part next rest hnext hend => cases h
  | case4 ts hts => cases h

/-- A text is a test that has a character outside of all parentheses that neither a negation nor a
group has there. -/
theorem shape_of_mark {before after : List Char} (hbefore : Balanced before) {c : Char}
    (hparen : isParen c = false) (hnot : c ∉ "NOT ".toList) (hbetween : ∀ j, c ∉ between j) :
    shape (before ++ c :: after) = .test := by
  have houter := mem_outer_cutFrom (hbefore.depthAfter 0) hparen after
  rcases shape_cases (before ++ c :: after) with
    ⟨hnil, -⟩ | ⟨part, hcut, -⟩ | ⟨j, rest, parts, hcut, hparts, -⟩ | ⟨-, -, hs⟩
  · exact absurd hnil (by simp)
  · rw [cut] at hcut
    rw [hcut] at houter
    have hword : c ∈ "NOT ".toList ++ ([] ++ ([] ++ [])) := houter
    rw [List.append_nil, List.append_nil] at hword
    exact absurd hword hnot
  · rw [cut] at hcut
    rw [hcut] at houter
    exact absurd (outer_of_parts? hparts c houter) (hbetween j)
  · exact hs

end SqlLoom.Text
