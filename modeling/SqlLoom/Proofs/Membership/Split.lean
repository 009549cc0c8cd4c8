import SqlLoom.Proofs.Grouping
import SqlLoom.Proofs.Membership

/-!
# `SqlLoom.Proofs.Membership.Split`: lists beyond the ceiling of a dialect

A dialect may have a ceiling on the length of a list, and tests a longer list in consecutive chunks.
Here this is compared with the same dialect without a ceiling, for one column or several that are
given by name.

* `Fragment.Writes`: a fragment is one membership test over every table, with the sides that its
  values have there (`bindSides`), and takes the steps of the values and no others.
* `conditionFragment_splitTest`: the condition that a long list is split into compiles as the list
  does, since no chunk is split a second time.
* `membership_split`: the test of a longer list is the test of each chunk, joined by OR or AND, over
  the same table as the test of the whole list, and says the same.
-/

set_option autoImplicit false

namespace SqlLoom

open Fragment

variable {d : Dialect} {negated : Bool}

/-! ### The sides of a membership test -/

/-- The name of a column, or the row of the names of several. -/
def columnSide (d : Dialect) : List String → Side String
  | [name] => .one (d.quoteColumn name)
  | names => .row (names.map d.quoteColumn)

/-- The value of a list for a single column: a mapping stands for its entry. -/
def listedValue (name : String) (v : Value) : Value :=
  match v with
  | .map row => (Entries.get? name row).getD .null
  | v => v

/-- The value of a row for the `i`-th column. What is no row has none. -/
def rowValue (row : Value) (i : Nat) (name : String) : Value :=
  match row with
  | .map entries => (Entries.get? name entries).getD .null
  | .list items | .tuple items => (items[i]?).getD .null
  | _ => .null

/-- What a value of the list compiles to. -/
def memberSide (names : List String) (v : Value) : Side Fragment :=
  match names with
  | [name] => .one (boundOrNull (listedValue name v))
  | names => .row (names.mapIdx fun i name => rowEntryFragment (rowValue v i name))

theorem columnSide_of_ne_singleton (d : Dialect) {names : List String}
    (h : ∀ name, names ≠ [name]) : columnSide d names = .row (names.map d.quoteColumn) := by
  fun_cases columnSide d names with
  | case1 name => exact absurd rfl (h name)
  | case2 => rfl

theorem memberSide_of_ne_singleton {names : List String} (h : ∀ name, names ≠ [name]) (v : Value) :
    memberSide names v
      = .row (names.mapIdx fun i name => rowEntryFragment (rowValue v i name)) := by
  fun_cases memberSide names v with
  | case1 name => exact absurd rfl (h name)
  | case2 => rfl

namespace Side

/-- The fragment of a side. -/
def fragment : Side Fragment → Fragment
  | .one f => f
  | .row fs => (Fragment.join ", " fs).parens

/-- The side with the texts that its fragments have over a table. -/
def bind (s : Side Fragment) (t : ParamTable) : Side String :=
  match s with
  | .one f => .one (f.bind t).1
  | .row fs => .row (bindAll fs t)

/-- Every slot of the side has an `add` of its own. -/
def Balanced : Side Fragment → Prop
  | .one f => f.Balanced
  | .row fs => ∀ f ∈ fs, f.Balanced

end Side

/-- The sides that are bound one after another. -/
def bindSides : List (Side Fragment) → ParamTable → List (Side String)
  | [], _ => []
  | s :: rest, t => s.bind t :: bindSides rest (s.fragment.bind t).2

/-! ### Texts of sides -/

/-- A joined row is the texts with the separating text between them. -/
theorem bind_join (sep : String) {fs : List Fragment} (h : ∀ f ∈ fs, f.Balanced) (t : ParamTable) :
    ((Fragment.join sep fs).bind t).1 = sep.intercalate (bindAll fs t) := by
  induction fs generalizing t with
  | nil => rfl
  | cons f rest ih =>
      obtain ⟨hf, hrest⟩ := List.forall_mem_cons.mp h
      cases rest with
      | nil => simp [bindAll]
      | cons g rest =>
          rw [join_cons_cons, append_assoc, bind_append _ _ t hf, bind_ofText_append]
          simp only [ih hrest, bindAll, String.intercalate_cons_cons, String.append_assoc]

theorem steps_join (sep : String) (fs : List Fragment) :
    (Fragment.join sep fs).steps = fs.flatMap steps := by
  induction fs with
  | nil => rfl
  | cons f rest ih =>
      cases rest with
      | nil => simp
      | cons g rest =>
          rw [join_cons_cons, append_steps, append_steps, ih]
          simp [ofText]

theorem Side.Balanced.fragment {s : Side Fragment} (h : s.Balanced) : s.fragment.Balanced := by
  cases s with
  | one f => exact h
  | row fs => exact (Fragment.Balanced.join ", " h).parens

theorem Side.written_bind {s : Side Fragment} (h : s.Balanced) (t : ParamTable) :
    (s.bind t).written = (s.fragment.bind t).1 := by
  cases s with
  | one f => rfl
  | row fs => rw [Side.fragment, bind_parens (Fragment.Balanced.join ", " h), bind_join ", " h]; rfl

theorem map_written_bindSides {members : List (Side Fragment)} (h : ∀ s ∈ members, s.Balanced)
    (t : ParamTable) :
    (bindSides members t).map Side.written = bindAll (members.map Side.fragment) t := by
  induction members generalizing t with
  | nil => rfl
  | cons s rest ih =>
      obtain ⟨hs, hrest⟩ := List.forall_mem_cons.mp h
      rw [bindSides, List.map_cons, List.map_cons, bindAll, s.written_bind hs, ih hrest]

@[simp]
theorem length_bindSides (members : List (Side Fragment)) (t : ParamTable) :
    (bindSides members t).length = members.length := by
  induction members generalizing t with
  | nil => rfl
  | cons s rest ih => simp [bindSides, ih]

/-- The sides of a list in two parts. -/
theorem bindSides_append (first rest : List (Side Fragment)) (t : ParamTable) :
    bindSides (first ++ rest) t = bindSides first t
      ++ bindSides rest (run (first.flatMap fun s => s.fragment.steps) t).2 := by
  induction first generalizing t with
  | nil => rfl
  | cons s first ih =>
      rw [List.cons_append, bindSides, bindSides, ih, List.flatMap_cons, run_append]
      rfl

/-! ### One test -/

/-- The fragment is the test of a side among members, over every table. -/
structure Fragment.Writes (f : Fragment) (negated : Bool) (left : Side String)
    (members : List (Side Fragment)) : Prop where
  steps : f.steps = members.flatMap fun s => s.fragment.steps
  balanced : f.Balanced
  text : ∀ t, (f.bind t).1 = (MemberTest.ofMembers negated left (bindSides members t)).written

/-- The fragment is plain text. -/
structure Fragment.Spelled (f : Fragment) (s : String) : Prop where
  steps : f.steps = []
  balanced : f.Balanced
  text : ∀ t, (f.bind t).1 = s

/-- A test is a name, words, and the text of its members. -/
theorem writes_of_words {left : Side String} {name values : Fragment} (words : String)
    {members : List (Side Fragment)} (hname : name.Spelled left.written)
    (hsteps : values.steps = members.flatMap fun s => s.fragment.steps)
    (hvalues : values.Balanced)
    (htext : ∀ t, left.written ++ words ++ (values.bind t).1
      = (MemberTest.ofMembers negated left (bindSides members t)).written) :
    (name.afterStepsOf (ofText words ++ values)).Writes negated left members := by
  have happend : name.afterStepsOf (ofText words ++ values) = name ++ (ofText words ++ values) := by
    show Fragment.mk _ _ = Fragment.mk _ _
    simp [hname.steps]
  rw [happend]
  refine ⟨?_, hname.balanced.append ((balanced_ofText words).append hvalues), ?_⟩
  · rw [append_steps, append_steps, hname.steps, hsteps]
    rfl
  · intro t
    have htable : (name.bind t).2 = t := by
      show (run name.steps t).2 = t
      rw [hname.steps]
      rfl
    rw [bind_append _ _ t hname.balanced, bind_ofText_append, hname.text, htable, ← htext,
      String.append_assoc]

theorem spelled_column (d : Dialect) (name : String) :
    (columnFragment d (.text name)).Spelled (d.quoteColumn name) :=
  ⟨rfl, balanced_ofText _, fun t => congrArg Prod.fst (bind_ofText _ t)⟩

/-- The row of the names of columns. -/
theorem spelled_columns (d : Dialect) (names : List String) :
    ((Fragment.join ", " ((names.map Value.text).map (columnFragment d))).parens).Spelled
      (Side.row (names.map d.quoteColumn)).written := by
  have hnames : (names.map Value.text).map (columnFragment d)
      = (names.map d.quoteColumn).map ofText := by
    rw [List.map_map, List.map_map]
    rfl
  have hbalanced : ∀ f ∈ (names.map d.quoteColumn).map ofText, f.Balanced := by
    intro f hf
    obtain ⟨s, -, rfl⟩ := List.mem_map.mp hf
    exact balanced_ofText s
  have htexts : ∀ (ss : List String) (t : ParamTable), bindAll (ss.map ofText) t = ss := by
    intro ss
    induction ss with
    | nil => exact fun _ => rfl
    | cons s rest ih =>
        intro t
        rw [List.map_cons, bindAll, bind_ofText, ih]
  rw [hnames]
  refine ⟨?_, (Balanced.join ", " hbalanced).parens, ?_⟩
  · rw [steps_parens, steps_join]
    simp [ofText]
  · intro t
    rw [bind_parens (Balanced.join ", " hbalanced), bind_join ", " hbalanced, htexts]
    rfl

/-! ### The values of a list -/

theorem boundOrNull_balanced (v : Value) : (boundOrNull v).Balanced := by
  cases v <;> rfl

theorem rowEntryFragment_balanced (v : Value) : (rowEntryFragment v).Balanced := by
  cases v <;> rfl

theorem memberSide_balanced (names : List String) (v : Value) : (memberSide names v).Balanced := by
  fun_cases memberSide names v with
  | case1 name => exact boundOrNull_balanced _
  | case2 =>
      intro f hf
      obtain ⟨i, hi, rfl⟩ := List.mem_mapIdx.mp hf
      exact rowEntryFragment_balanced _

theorem memberFragment_text (name : String) (v : Value) :
    memberFragment (.text name) v = .ok (boundOrNull (listedValue name v)) := by
  cases v <;> rfl

theorem rowEntry_text (row : Value) (i : Nat) (name : String) :
    rowEntry row i (.text name) = .ok (rowValue row i name) := by
  cases row <;> rfl

theorem rowFragments_text (row : Value) (i : Nat) (names : List String) :
    rowFragments row i (names.map .text)
      = .ok (names.mapIdx fun j name => rowEntryFragment (rowValue row (i + j) name)) := by
  induction names generalizing i with
  | nil => rfl
  | cons name rest ih =>
      rw [List.map_cons, rowFragments, rowEntry_text, ih, List.mapIdx_cons]
      simp only [Nat.add_zero, Nat.add_assoc, Nat.add_comm 1]
      rfl

/-- A computation that succeeds on every member. -/
theorem mapM_ok {α β : Type} {x : α → Except Error β} {f : α → β} (h : ∀ a, x a = .ok (f a))
    (as : List α) : as.mapM x = .ok (as.map f) := by
  rw [funext h]
  exact List.mapM_pure

/-- The values of a single column compile to their sides. -/
theorem mapM_memberFragment (name : String) (values : List Value) :
    values.mapM (memberFragment (.text name))
      = .ok ((values.map (memberSide [name])).map Side.fragment) := by
  rw [mapM_ok (memberFragment_text name), List.map_map]
  rfl

/-- The rows of several columns compile to their sides. -/
theorem mapM_rowFragments {names : List String} (hnames : ∀ name, names ≠ [name])
    (rows : List Value) :
    (rows.mapM fun row => do
      return (Fragment.join ", " (← rowFragments row 0 (names.map .text))).parens)
      = .ok ((rows.map (memberSide names)).map Side.fragment) := by
  rw [List.map_map]
  refine mapM_ok (fun row => ?_) rows
  rw [rowFragments_text, Function.comp, memberSide_of_ne_singleton hnames]
  simp only [Nat.zero_add]
  rfl

/-- The list of the members of a test. -/
theorem text_members {members : List (Side Fragment)} (h : ∀ s ∈ members, s.Balanced)
    (t : ParamTable) :
    ((Fragment.join ", " (members.map Side.fragment)).parens.bind t).1
      = "(" ++ ", ".intercalate ((bindSides members t).map Side.written) ++ ")" := by
  have hbalanced : ∀ f ∈ members.map Side.fragment, f.Balanced := by
    intro f hf
    obtain ⟨s, hs, rfl⟩ := List.mem_map.mp hf
    exact (h s hs).fragment
  rw [bind_parens (Balanced.join ", " hbalanced), bind_join ", " hbalanced,
    map_written_bindSides h]

/-- Members after a name, as a list. -/
theorem writes_list {left : Side String} {name : Fragment} (hname : name.Spelled left.written)
    {members : List (Side Fragment)} (hmembers : ∀ s ∈ members, s.Balanced)
    (hlist : ∀ sides : List (Side String), sides.length = members.length →
      MemberTest.ofMembers negated left sides = .list negated left sides) :
    (name.afterStepsOf (membershipWords negated
      ++ (Fragment.join ", " (members.map Side.fragment)).parens)).Writes negated left members := by
  have hbalanced : ∀ f ∈ members.map Side.fragment, f.Balanced := by
    intro f hf
    obtain ⟨s, hs, rfl⟩ := List.mem_map.mp hf
    exact (hmembers s hs).fragment
  refine writes_of_words _ hname ?_ (Balanced.join ", " hbalanced).parens fun t => ?_
  · rw [steps_parens, steps_join, List.flatMap_map]
  · rw [text_members hmembers, hlist _ (length_bindSides members t)]
    cases negated <;> rfl

/-- One column among values. -/
theorem singleMembership_writes (name : String) {values : List Value} (hvalues : values ≠ []) :
    ∃ f, singleMembership d negated (.text name) values = .ok f ∧
      f.Writes negated (columnSide d [name]) (values.map (memberSide [name])) := by
  have hname : (columnFragment d (.text name)).Spelled (columnSide d [name]).written :=
    spelled_column d name
  rw [singleMembership, mapM_memberFragment]
  cases values with
  | nil => exact absurd rfl hvalues
  | cons v rest =>
      cases rest with
      | nil =>
          refine ⟨_, rfl, writes_of_words (if negated then "<>" else "=") hname ?_ ?_ fun t => ?_⟩
          · exact (List.append_nil _).symm
          · exact (memberSide_balanced [name] v).fragment
          · rfl
      | cons w rest =>
          refine ⟨_, rfl, writes_list hname ?_ ?_⟩
          · intro s hs
            obtain ⟨u, -, rfl⟩ := List.mem_map.mp hs
            exact memberSide_balanced [name] u
          · intro sides hlength
            obtain ⟨x, y, others, rfl⟩ : ∃ x y others, sides = x :: y :: others := by
              rcases sides with _ | ⟨x, _ | ⟨y, others⟩⟩
              · cases hlength
              · cases hlength
              · exact ⟨x, y, others, rfl⟩
            rfl

/-- Several columns among rows. -/
theorem rowMembership_writes {names : List String} (hnames : ∀ name, names ≠ [name])
    {rows : List Value} (hrows : rows ≠ []) :
    ∃ f, rowMembership d negated (names.map .text) rows = .ok f ∧
      f.Writes negated (columnSide d names) (rows.map (memberSide names)) := by
  obtain ⟨row, rest, rfl⟩ := List.exists_cons_of_ne_nil hrows
  rw [rowMembership, mapM_rowFragments hnames, columnSide_of_ne_singleton d hnames]
  refine ⟨_, rfl, writes_list (spelled_columns d names) ?_ fun _ _ => rfl⟩
  intro s hs
  obtain ⟨u, -, rfl⟩ := List.mem_map.mp hs
  exact memberSide_balanced names u

/-- A list that fits is one test. -/
theorem chunkMembership_writes (d : Dialect) (negated : Bool) {column : Value} {names : List String}
    (hcolumn : column.asColumns = names.map .text) {values : List Value} (hvalues : values ≠ []) :
    ∃ f, chunkMembership d negated column values = .ok f ∧
      f.Writes negated (columnSide d names) (values.map (memberSide names)) := by
  rw [chunkMembership, hcolumn]
  rcases names with _ | ⟨name, _ | ⟨other, rest⟩⟩
  · exact rowMembership_writes (fun one => (List.cons_ne_nil one []).symm) hvalues
  · exact singleMembership_writes name hvalues
  · have hseveral : ∀ one, name :: other :: rest ≠ [one] := by simp
    exact rowMembership_writes hseveral hvalues

/-! ### Several tests -/

theorem MemberTest.written_ne_empty (test : MemberTest) : test.written ≠ "" := by
  cases test with
  | comparison negated left right => cases negated <;> simp [written]
  | list negated left members => cases negated <;> simp [written]

/-- The tests of the parts of a list, bound one after another. -/
theorem bindAll_tests {left : Side String} {parts : List (List (Side Fragment))}
    {fs : List Fragment} (h : List.Forall₂ (fun part f => f.Writes negated left part) parts fs)
    (t : ParamTable) :
    ∃ sides : List (List (Side String)), sides.flatten = bindSides parts.flatten t ∧
      sides.map List.length = parts.map List.length ∧
      bindAll fs t = (sides.map (MemberTest.ofMembers negated left)).map MemberTest.written := by
  induction h generalizing t with
  | nil => exact ⟨[], rfl, rfl, rfl⟩
  | @cons part f parts fs hf _ ih =>
      obtain ⟨sides, hflatten, hlengths, htexts⟩ := ih (f.bind t).2
      have htable : (f.bind t).2 = (run (part.flatMap fun s => s.fragment.steps) t).2 := by
        rw [← hf.steps]
        rfl
      refine ⟨bindSides part t :: sides, ?_, ?_, ?_⟩
      · rw [List.flatten_cons, List.flatten_cons, bindSides_append, hflatten, htable]
      · simp [hlengths]
      · rw [bindAll, htexts, hf.text]
        rfl

theorem balanced_tests {left : Side String} {parts : List (List (Side Fragment))}
    {fs : List Fragment} (h : List.Forall₂ (fun part f => f.Writes negated left part) parts fs) :
    ∀ f ∈ fs, f.Balanced := by
  induction h with
  | nil => exact fun f hf => absurd hf List.not_mem_nil
  | cons hf _ ih => exact List.forall_mem_cons.mpr ⟨hf.balanced, ih⟩

theorem steps_tests {left : Side String} {parts : List (List (Side Fragment))}
    {fs : List Fragment} (h : List.Forall₂ (fun part f => f.Writes negated left part) parts fs) :
    fs.flatMap steps = parts.flatten.flatMap fun s => s.fragment.steps := by
  induction h with
  | nil => rfl
  | cons hf _ ih =>
      rw [List.flatMap_cons, List.flatten_cons, List.flatMap_append, ih, hf.steps]

/-- A group of tests is their texts, each in parentheses. -/
theorem bind_grouped_tests {left : Side String} {parts : List (List (Side Fragment))}
    {fs : List Fragment} (h : List.Forall₂ (fun part f => f.Writes negated left part) parts fs)
    (hne : parts ≠ []) (t : ParamTable) :
    ∃ sides : List (List (Side String)), sides.flatten = bindSides parts.flatten t ∧
      sides.map List.length = parts.map List.length ∧
      ((grouped (chunkJoiner negated).keyword fs).bind t).1
        = Formula.writtenGroup (MemberTest.junction negated)
          ((sides.map (MemberTest.ofMembers negated left)).map MemberTest.written) := by
  obtain ⟨sides, hflatten, hlengths, htexts⟩ := bindAll_tests h t
  refine ⟨sides, hflatten, hlengths, ?_⟩
  have hshown : shownTexts fs t = bindAll fs t := by
    rw [shownTexts, List.filter_eq_self, htexts]
    intro s hs
    obtain ⟨test, -, rfl⟩ := List.mem_map.mp hs
    simpa using test.written_ne_empty
  have hsides : sides ≠ [] := by
    rintro rfl
    exact hne (by simpa using hlengths)
  rw [bind_grouped _ (balanced_tests h) t, hshown, htexts, Formula.writtenGroup, if_neg]
  · cases negated <;> rfl
  · simpa using hsides
  · rw [hshown, htexts]
    simpa using hsides

/-- A group of tests leaves over every table what the one test of all their members leaves, and says
the same. -/
theorem bind_grouped_alike {left : Side String} {parts : List (List (Side Fragment))}
    {fs : List Fragment} {g : Fragment}
    (h : List.Forall₂ (fun part f => f.Writes negated left part) parts fs)
    (hg : g.Writes negated left parts.flatten) (hne : parts ≠ []) (t : ParamTable) :
    ((grouped (chunkJoiner negated).keyword fs).bind t).2 = (g.bind t).2 ∧
      ∃ sides : List (List (Side String)), sides.flatten = bindSides parts.flatten t ∧
        sides.map List.length = parts.map List.length ∧
        let tests := sides.map (MemberTest.ofMembers negated left)
        ((grouped (chunkJoiner negated).keyword fs).bind t).1
          = Formula.writtenGroup (MemberTest.junction negated) (tests.map MemberTest.written) ∧
        ∀ (V : Type) [BEq V] (value : String → Option V),
          (MemberTest.junction negated).truth (tests.map (MemberTest.truth value))
            = (MemberTest.ofMembers negated left (bindSides parts.flatten t)).truth value := by
  obtain ⟨sides, hsides, hlengths, htext⟩ := bind_grouped_tests h hne t
  have hsteps : (grouped (chunkJoiner negated).keyword fs).steps = g.steps := by
    rw [steps_grouped, steps_tests h, hg.steps]
  refine ⟨?_, sides, hsides, hlengths, htext, ?_⟩
  · show (run _ t).2 = (run _ t).2
    rw [hsteps]
  · intro V _ value
    rw [MemberTest.truth_split, hsides]

/-! ### Lists beyond the ceiling -/

/-- Several members are those of a collection. -/
theorem isCollection_of_several {values : Value} (h : 1 < values.members.length) :
    values.isCollection = true := by
  cases values with
  | list items | tuple items | stream items => rfl
  | _ => simp [Value.members] at h

/-- A membership test of columns given by name is the membership fragment. -/
theorem conditionFragment_membership (d : Dialect) (subqueries negated : Bool)
    {column values : Value} {names : List String} (hcolumn : column.asColumns = names.map .text)
    (hnames : names ≠ []) (hvalues : values.isCollection = true) :
    (Value.cond (.membership negated) [column, values]).conditionFragment d subqueries
      = membershipFragment d negated column values.members := by
  have hnull : column.isNull = false := by
    cases column with
    | null => cases names <;> cases hcolumn
    | _ => rfl
  have hempty : column.asColumns.isEmpty = false := by
    rw [hcolumn]
    simpa using hnames
  cases values with
  | list items | tuple items | stream items =>
      simp only [Value.conditionFragment, nodeFragment, hnull, hempty, Bool.false_or]
      rfl
  | _ => cases hvalues

/-- The chunks of a list are as many as it takes, and none of them is longer than their size. -/
theorem chunks_length {α : Type} (size : Nat) (values : List α) :
    (chunks size values).length = (values.length + size - 1) / size ∧
      ∀ chunk ∈ chunks size values, chunk.length ≤ size := by
  refine ⟨by simp [chunks], ?_⟩
  intro chunk hchunk
  obtain ⟨i, -, rfl⟩ := List.mem_map.mp hchunk
  exact List.length_take_le _ _

/-! ### The condition that a list is split into -/

/-- A chunk of a list that is split is not split a second time. -/
theorem splitMembers_part {values part : List Value} {parts : List (List Value)}
    (hsplit : splitMembers d values = .ok (some parts)) (hpart : part ∈ parts) :
    splitMembers d part = .ok none := by
  rw [splitMembers] at hsplit ⊢
  cases hceiling : d.maxInList? with
  | none => rfl
  | some ceiling =>
      simp only [hceiling] at hsplit
      split at hsplit
      · cases hsplit
      · split at hsplit
        · cases hsplit
        · cases hsplit
          obtain ⟨hcount, hlength⟩ := chunks_length ceiling.toNat values
          have hle := hlength part hpart
          -- A ceiling below zero leaves no chunk that this could be.
          have hpos : 0 < ceiling.toNat := by
            rcases Nat.eq_zero_or_pos ceiling.toNat with hzero | hpos
            · rw [hzero, Nat.div_zero] at hcount
              exact absurd hcount (Nat.ne_of_gt (List.length_pos_of_mem (hzero ▸ hpart)))
            · exact hpos
          exact if_pos (by omega)

/-- The tests of the chunks of a list, joined. -/
def splitTest (negated : Bool) (column : Value) (parts : List (List Value)) : Value :=
  .cond (chunkJoiner negated)
    (parts.map fun part => .cond (.membership negated) [column, .list part])

/-- A list that is split is split into the tests of its chunks. -/
theorem splitMembership_list {column : Value} {values : List Value} {parts : List (List Value)}
    (hsplit : splitMembers d values = .ok (some parts)) :
    splitMembership d (.text (Operator.membership negated).keyword) column (.list values)
      = .ok (splitTest negated column parts) := by
  have hceiling : d.maxInList?.isNone = false := by
    cases h : d.maxInList? with
    | none => simp [splitMembers, h] at hsplit
    | some ceiling => rfl
  have hkeyword : ((Value.text (Operator.membership negated).keyword).text? != some "IN")
      = negated := by
    cases negated <;> rfl
  have hknown : (negated && (Value.text (Operator.membership negated).keyword).text?
      != some "NOT IN") = false := by
    cases negated <;> rfl
  have htests : (parts.mapM fun part =>
      (.ok (.cond (.membership negated) [column, .list part]) : Except Error Value)) = .ok _ :=
    mapM_ok (fun _ => rfl) parts
  rw [splitMembership, hceiling]
  simp only [Value.sequence?, hsplit, hkeyword, hknown, Bool.false_eq_true, if_false]
  show ((parts.mapM fun part =>
    (.ok (.cond (.membership negated) [column, .list part]) : Except Error Value)) >>= fun tests =>
      Except.ok (Value.cond (chunkJoiner negated) tests)) = _
  rw [htests]
  rfl

/-- The condition that a list is split into compiles as the list does. -/
theorem conditionFragment_splitTest (subqueries : Bool) {column : Value} {names : List String}
    (hcolumn : column.asColumns = names.map .text) (hnames : names ≠ []) {values : List Value}
    {parts : List (List Value)} (hsplit : splitMembers d values = .ok (some parts)) :
    (splitTest negated column parts).conditionFragment d subqueries
      = membershipFragment d negated column values := by
  -- The test of a chunk is compiled like that of a list, which would split it if it were too long.
  have hpart : ∀ part ∈ parts,
      (Value.cond (.membership negated) [column, .list part]).conditionFragment d subqueries
        = chunkMembership d negated column part := by
    intro part hmem
    rw [conditionFragment_membership d subqueries negated hcolumn hnames rfl, membershipFragment,
      Value.members, splitMembers_part hsplit hmem]
    rfl
  have hjoiner : chunkJoiner negated = .and ∨ chunkJoiner negated = .or := by
    cases negated
    · exact .inr rfl
    · exact .inl rfl
  rw [splitTest, Value.conditionFragment, nodeFragment_junction d subqueries hjoiner,
    operandFragments_map hpart, membershipFragment, hsplit]
  show _ = (parts.mapM (chunkMembership d negated column) >>= fun tests =>
    .ok (grouped (chunkJoiner negated).keyword tests))
  cases parts.mapM (chunkMembership d negated column) <;> rfl

/-- Every chunk that is not empty is one test. -/
theorem mapM_chunkMembership_writes (d : Dialect) (negated : Bool) {column : Value}
    {names : List String} (hcolumn : column.asColumns = names.map .text) {parts : List (List Value)}
    (hparts : ∀ part ∈ parts, part ≠ []) :
    ∃ fs, parts.mapM (chunkMembership d negated column) = .ok fs ∧
      List.Forall₂ (fun part f => f.Writes negated (columnSide d names) part)
        (parts.map fun part => part.map (memberSide names)) fs := by
  induction parts with
  | nil => exact ⟨[], rfl, .nil⟩
  | cons part rest ih =>
      obtain ⟨hpart, hrest⟩ := List.forall_mem_cons.mp hparts
      obtain ⟨f, hf, hwrites⟩ := chunkMembership_writes d negated hcolumn hpart
      obtain ⟨fs, hfs, hall⟩ := ih hrest
      refine ⟨f :: fs, ?_, .cons hwrites hall⟩
      rw [List.mapM_cons, hf, hfs]
      rfl

/-- A list beyond the ceiling is split. -/
theorem splitMembers_of_long {m : Nat} (hceiling : d.maxInList? = some (m : Int)) (hm : 1 ≤ m)
    {values : List Value} (hlong : m < values.length) :
    splitMembers d values = .ok (some (chunks m values)) := by
  have hover : ¬(values.length : Int) ≤ (m : Int) := by omega
  have hpos : ¬(m : Int) = 0 := by omega
  rw [splitMembers, hceiling]
  simp only [hover, hpos, if_false, Int.toNat_natCast]

/-- Without a ceiling a membership test is one test of all values. -/
theorem conditionFragment_whole (hceiling : d.maxInList? = none) (subqueries negated : Bool)
    {column values : Value} {names : List String} (hcolumn : column.asColumns = names.map .text)
    (hnames : names ≠ []) (hseveral : 1 < values.members.length) :
    ∃ f, (Value.cond (.membership negated) [column, values]).conditionFragment d subqueries
        = .ok f ∧
      f.Writes negated (columnSide d names) (values.members.map (memberSide names)) := by
  have hvalues : values.members ≠ [] := List.ne_nil_of_length_pos (by omega)
  obtain ⟨f, hf, hwrites⟩ := chunkMembership_writes d negated hcolumn hvalues
  refine ⟨f, ?_, hwrites⟩
  rw [conditionFragment_membership d subqueries negated hcolumn hnames
    (isCollection_of_several hseveral), membershipFragment, splitMembers, hceiling]
  exact hf

/-- Beyond a ceiling it is the group of a test for each chunk. -/
theorem membershipFragment_chunks {m : Nat} (hceiling : d.maxInList? = some (m : Int))
    (hm : 1 ≤ m) (negated : Bool) {column : Value} {names : List String}
    (hcolumn : column.asColumns = names.map .text) {values : List Value}
    (hlong : m < values.length) :
    ∃ fs, membershipFragment d negated column values
        = .ok (grouped (chunkJoiner negated).keyword fs) ∧
      List.Forall₂ (fun part f => f.Writes negated (columnSide d names) part)
        ((chunks m values).map fun part => part.map (memberSide names)) fs := by
  obtain ⟨-, hparts⟩ := chunks_spec (show 0 < m by omega) values
  obtain ⟨fs, hfs, hall⟩ := mapM_chunkMembership_writes d negated hcolumn hparts
  refine ⟨fs, ?_, hall⟩
  rw [membershipFragment, splitMembers_of_long hceiling hm hlong]
  show ((chunks m values).mapM (chunkMembership d negated column) >>= fun tests =>
    .ok (grouped (chunkJoiner negated).keyword tests)) = _
  rw [hfs]
  rfl

theorem conditionFragment_chunks {m : Nat} (hceiling : d.maxInList? = some (m : Int))
    (hm : 1 ≤ m) (subqueries negated : Bool) {column values : Value} {names : List String}
    (hcolumn : column.asColumns = names.map .text) (hnames : names ≠ [])
    (hlong : m < values.members.length) :
    ∃ fs, (Value.cond (.membership negated) [column, values]).conditionFragment d subqueries
        = .ok (grouped (chunkJoiner negated).keyword fs) ∧
      List.Forall₂ (fun part f => f.Writes negated (columnSide d names) part)
        ((chunks m values.members).map fun part => part.map (memberSide names)) fs := by
  rw [conditionFragment_membership d subqueries negated hcolumn hnames
    (isCollection_of_several (by omega))]
  exact membershipFragment_chunks hceiling hm negated hcolumn hlong

/-- Beyond a ceiling of `m` values, a membership test of columns given by name compiles, and so does
the test without a ceiling. The values are cut into as few consecutive parts as it takes, each of 1
to `m` values and not cut again; the condition that tests the parts one by one compiles to the same
fragment. The text is the test of each part in parentheses, joined by OR, or AND where it is
negated. Over every table the parameters are those of the test without a ceiling, and so are the
members of the tests; under three-valued logic both say the same, whatever the columns, the
parameters and the expressions are. -/
theorem membership_split {d : Dialect} {m : Nat} (hceiling : d.maxInList? = some (m : Int))
    (hm : 1 ≤ m) (negated : Bool) {column values : Value} {names : List String}
    (hcolumn : column.asColumns = names.map .text) (hnames : names ≠ [])
    (hlong : m < values.members.length) (subqueries : Bool) :
    let test := Value.cond (.membership negated) [column, values]
    ∃ f g, test.conditionFragment d subqueries = .ok f ∧
      test.conditionFragment { d with maxInList? := none } subqueries = .ok g ∧
      ∃ parts : List (List Value), parts.flatten = values.members ∧
        parts.length = (values.members.length + m - 1) / m ∧
        (∀ part ∈ parts, 1 ≤ part.length ∧ part.length ≤ m ∧ splitMembers d part = .ok none) ∧
        splitMembership d (.text (Operator.membership negated).keyword) column
          (.list values.members) = .ok (splitTest negated column parts) ∧
        (splitTest negated column parts).conditionFragment d subqueries = .ok f ∧
        ∀ t, (f.bind t).2 = (g.bind t).2 ∧
          let left := columnSide d names
          let members := bindSides (values.members.map (memberSide names)) t
          (g.bind t).1 = (MemberTest.ofMembers negated left members).written ∧
          ∃ sides : List (List (Side String)), sides.flatten = members ∧
            sides.map List.length = parts.map List.length ∧
            let tests := sides.map (MemberTest.ofMembers negated left)
            (f.bind t).1 = Formula.writtenGroup (MemberTest.junction negated)
              (tests.map MemberTest.written) ∧
            ∀ (V : Type) [BEq V] (value : String → Option V),
              (MemberTest.junction negated).truth (tests.map (MemberTest.truth value))
                = (MemberTest.ofMembers negated left members).truth value := by
  intro test
  have hseveral : 1 < values.members.length := by omega
  have hvalues : values.members ≠ [] := List.ne_nil_of_length_pos (by omega)
  obtain ⟨hflatten, hparts⟩ := chunks_spec (show 0 < m by omega) values.members
  obtain ⟨hcount, hsize⟩ := chunks_length m values.members
  obtain ⟨fs, hf, hall⟩ :=
    conditionFragment_chunks hceiling hm subqueries negated hcolumn hnames hlong
  -- The ceiling is nothing that a side of a test depends on.
  obtain ⟨g, hg, hwrites⟩ : ∃ g, test.conditionFragment { d with maxInList? := none } subqueries
      = .ok g ∧ g.Writes negated (columnSide d names) (values.members.map (memberSide names)) :=
    conditionFragment_whole rfl subqueries negated hcolumn hnames hseveral
  have hsplit := splitMembers_of_long hceiling hm hlong
  refine ⟨grouped (chunkJoiner negated).keyword fs, g, hf, hg, chunks m values.members, hflatten,
    hcount, ?_, splitMembership_list hsplit, ?_, ?_⟩
  · intro part hpart
    exact ⟨List.length_pos_of_ne_nil (hparts part hpart), hsize part hpart,
      splitMembers_part hsplit hpart⟩
  · rw [conditionFragment_splitTest subqueries hcolumn hnames hsplit, ← hf,
      conditionFragment_membership d subqueries negated hcolumn hnames
        (isCollection_of_several hseveral)]
  · intro t
    have hmembers : ((chunks m values.members).map fun part => part.map (memberSide names)).flatten
        = values.members.map (memberSide names) := by
      rw [← List.map_flatten, hflatten]
    have hne : ((chunks m values.members).map fun part => part.map (memberSide names)) ≠ [] := by
      intro hnil
      rw [hnil] at hmembers
      exact hvalues (List.map_eq_nil_iff.mp hmembers.symm)
    obtain ⟨htable, sides, hsides, hlengths, htext, htruth⟩ :=
      bind_grouped_alike hall (hmembers ▸ hwrites) hne t
    rw [hmembers] at hsides htruth
    refine ⟨htable, hwrites.text t, sides, hsides, ?_, htext, htruth⟩
    rw [hlengths, List.map_map]
    exact List.map_congr_left fun part _ => List.length_map _

/-- Three values, one of them NULL, under a ceiling of two. The last part is a comparison. -/
theorem membership_split_three :
    let d : Dialect := { Dialect.standard .ansi with maxInList? := some 2 }
    let test := Value.cond (.membership false) [.text "a", .list [.int 1, .null, .int 3]]
    ∃ f g, test.conditionFragment d true = .ok f ∧
      test.conditionFragment { d with maxInList? := none } true = .ok g ∧
      (∀ t, (f.bind t).2 = (g.bind t).2) ∧
      (f.bind (.ofEntries ":qp" [])).1 = "(\"a\" IN (:qp0, NULL)) OR (\"a\"=:qp1)" ∧
      (g.bind (.ofEntries ":qp" [])).1 = "\"a\" IN (:qp0, NULL, :qp1)" := by
  intro d test
  have hceiling : d.maxInList? = some ((2 : Nat) : Int) := rfl
  have hcolumn : (Value.text "a").asColumns = ["a"].map .text := rfl
  have hlong : 2 < (Value.list [.int 1, .null, .int 3]).members.length := by decide
  obtain ⟨f, g, hf, hg, parts, -, -, -, -, -, hall⟩ := membership_split hceiling (by decide) false
    hcolumn (List.cons_ne_nil "a" []) hlong true
  obtain ⟨f', hf', hsplit⟩ : ∃ f', test.conditionFragment d true = .ok f' ∧
      (f'.bind (.ofEntries ":qp" [])).1 = "(\"a\" IN (:qp0, NULL)) OR (\"a\"=:qp1)" :=
    ⟨_, rfl, by decide⟩
  obtain ⟨g', hg', hwhole⟩ : ∃ g', test.conditionFragment { d with maxInList? := none } true
      = .ok g' ∧ (g'.bind (.ofEntries ":qp" [])).1 = "\"a\" IN (:qp0, NULL, :qp1)" :=
    ⟨_, rfl, by decide⟩
  refine ⟨f, g, hf, hg, fun t => (hall t).1, ?_, ?_⟩
  · rwa [Except.ok.inj (hf.symm.trans hf')]
  · rwa [Except.ok.inj (hg.symm.trans hg')]

end SqlLoom
