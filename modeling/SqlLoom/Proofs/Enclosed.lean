import SqlLoom.Proofs.Positions

/-!
# `SqlLoom.Proofs.Enclosed`: sub-queries stand in parentheses

A query in a value position that compiles it becomes a sub-query: the fragment that it has alone
stands in the whole one, in parentheses (`Encloses`). What stands inside one fragment stands inside
all that are made from it (`Fragment.Within`), so the induction over the compiler only has to follow
where each fragment goes.

* `Within.join`, `Within.conjunction`, `Within.grouped`, …: where the operations on fragments put
  their operands.
* `Compiler.fragment_encloses`: the fragment of a statement encloses all queries that it compiles
  as values.
-/

set_option autoImplicit false

namespace SqlLoom

open Fragment

/-! ### Where fragments go -/

namespace Fragment

theorem balanced_ofText (s : String) : (ofText s).Balanced := rfl

theorem Balanced.append {f g : Fragment} (hf : f.Balanced) (hg : g.Balanced) :
    (f ++ g).Balanced := by
  rw [Balanced, append_pieces, append_steps, slots_append, adds_append, hf, hg]

theorem Balanced.join (sep : String) {fs : List Fragment} (h : ∀ f ∈ fs, f.Balanced) :
    (Fragment.join sep fs).Balanced := by
  induction fs with
  | nil => rfl
  | cons f rest ih =>
      have hf : f.Balanced := h f List.mem_cons_self
      cases rest with
      | nil => rwa [join_singleton]
      | cons g rest =>
          rw [join_cons_cons]
          exact (hf.append (balanced_ofText sep)).append
            (ih fun k hk => h k (List.mem_cons_of_mem _ hk))

/-- A fragment without text adds nothing. -/
theorem Balanced.withoutText {f : Fragment} (hf : f.Balanced) (hempty : f.isEmpty = true) :
    f.withoutText.Balanced := by
  show 0 = adds f.steps
  rw [← hf, slots_eq_count, (isEmpty_iff_tokens f).mp hempty]
  rfl

theorem Balanced.joinShown (sep : String) {fs : List Fragment} (h : ∀ f ∈ fs, f.Balanced) :
    (Fragment.joinShown sep fs).Balanced := by
  induction fs with
  | nil => rfl
  | cons f rest ih =>
      have hf : f.Balanced := h f List.mem_cons_self
      have hrest := ih fun k hk => h k (List.mem_cons_of_mem _ hk)
      rw [joinShown_cons]
      split
      · rename_i hempty
        exact (hf.withoutText hempty).append hrest
      · split
        · exact hf.append hrest
        · exact (hf.append (balanced_ofText sep)).append hrest

theorem Balanced.framed {f g : Fragment} (hf : f.Balanced) (h : Framed f g) : g.Balanced := by
  cases h with
  | bare => exact hf
  | before _ => exact hf.append (balanced_ofText _)
  | around _ _ => exact ((balanced_ofText _).append hf).append (balanced_ofText _)

theorem Balanced.headed (keyword : String) {f : Fragment} (hf : f.Balanced) :
    (f.headed keyword).Balanced := by
  rw [Fragment.headed]
  split
  · exact hf
  · exact (balanced_ofText _).append hf

namespace Within

variable {f g h : Fragment} {fs : List Fragment}

theorem trans (hgf : g.Within f) (hfh : f.Within h) : g.Within h := by
  obtain ⟨before, after, hbefore, rfl⟩ := hgf
  obtain ⟨before', after', hbefore', rfl⟩ := hfh
  exact ⟨before' ++ before, after ++ after', hbefore'.append hbefore, by simp only [append_assoc]⟩

/-- The first of two fragments. -/
theorem first (f g : Fragment) : f.Within (f ++ g) := (Within.refl f).append_right g

/-- The second of two fragments. -/
theorem second (hg : g.Balanced) (f : Fragment) : f.Within (g ++ f) :=
  (Within.refl f).append_left hg

theorem framed (hframed : Framed f g) : f.Within g := by
  cases hframed with
  | bare => exact .refl f
  | before _ => exact first f _
  | around _ _ => exact (second (balanced_ofText _) f).append_right _

theorem parens (f : Fragment) : f.Within f.parens := framed (.parens f)

/-- A member of a list with a text between the members. -/
theorem join (sep : String) (hfs : ∀ g ∈ fs, g.Balanced) (hf : f ∈ fs) :
    f.Within (Fragment.join sep fs) := by
  induction fs with
  | nil => cases hf
  | cons g rest ih =>
      cases rest with
      | nil =>
          obtain rfl : f = g := by simpa using hf
          rw [join_singleton]
          exact .refl f
      | cons g' rest =>
          rw [join_cons_cons]
          rcases List.mem_cons.mp hf with rfl | hrest
          · exact (first f _).append_right _
          · have hg : g.Balanced := hfs g List.mem_cons_self
            have hlater := ih (fun k hk => hfs k (List.mem_cons_of_mem _ hk)) hrest
            exact hlater.append_left (hg.append (balanced_ofText sep))

/-- A member that shows something, of a list of which only such members are shown. -/
theorem joinShown (sep : String) (hfs : ∀ g ∈ fs, g.Balanced) (hf : f ∈ fs)
    (hne : f.isEmpty = false) : f.Within (Fragment.joinShown sep fs) := by
  induction fs with
  | nil => cases hf
  | cons g rest ih =>
      have hg : g.Balanced := hfs g List.mem_cons_self
      have ih := ih fun k hk => hfs k (List.mem_cons_of_mem _ hk)
      rw [joinShown_cons]
      rcases List.mem_cons.mp hf with rfl | hrest
      · rw [if_neg (by simp [hne])]
        split
        · exact first f _
        · exact (first f _).append_right _
      · split
        · rename_i hempty
          exact (ih hrest).append_left (hg.withoutText hempty)
        · split
          · exact (ih hrest).append_left hg
          · exact (ih hrest).append_left (hg.append (balanced_ofText sep))

theorem grouped (op : String) (hfs : ∀ g ∈ fs, g.Balanced) (hf : f ∈ fs)
    (hne : f.isEmpty = false) : f.Within (Fragment.grouped op fs) := by
  have hbody := joinShown (") " ++ op ++ " (") hfs hf hne
  rw [Fragment.grouped]
  split
  · exact hbody
  · exact hbody.trans (parens _)

theorem conjunction (hfs : ∀ g ∈ fs, g.Balanced) (hf : f ∈ fs) :
    f.Within (SqlLoom.conjunction fs) := by
  rcases fs with _ | ⟨one, _ | ⟨two, rest⟩⟩
  · cases hf
  · obtain rfl : f = one := by simpa using hf
    exact .refl f
  · exact (join ") AND (" hfs hf).trans (parens _)

theorem negation (f : Fragment) : f.Within (SqlLoom.negation f) := by
  rw [SqlLoom.negation]
  split
  · exact .refl f
  · exact (parens f).trans (second (balanced_ofText _) _)

theorem headed (keyword : String) (f : Fragment) : f.Within (f.headed keyword) := by
  rw [Fragment.headed]
  split
  · exact .refl f
  · exact second (balanced_ofText _) f

/-- The rows of a query, in parentheses behind the columns that are among them. -/
theorem queryMembership (d : Dialect) (negated : Bool) (column : Value) (rows : Fragment) :
    rows.parens.Within (SqlLoom.queryMembership d negated column rows) := by
  have hwords : rows.parens.Within (membershipWords negated ++ rows.parens) :=
    second (balanced_ofText _) _
  have hplain (v : Value) : (columnFragment d v).Plain :=
    (columnFragment_stands d v).plain v.raw_rawParts
  have hnames (columns : List Value) :
      ((Fragment.join ", " (columns.map (columnFragment d))).parens).Plain :=
    (columnNames_stands d columns).plain (raw_columns columns)
  -- The columns are put before the rows after these are compiled; they bind nothing themselves.
  cases column with
  | list columns => exact hwords.afterStepsOf (hnames columns)
  | tuple columns => exact hwords.afterStepsOf (hnames columns)
  | _ => exact hwords.afterStepsOf (hplain _)

end Within

end Fragment

/-! ### Enclosed queries -/

variable {d : Dialect} {ps qs : List Position} {f g : Fragment}

/-- The queries that are compiled as values stand in the fragment, in parentheses. -/
def Encloses (d : Dialect) (ps : List Position) (f : Fragment) : Prop :=
  ∀ role q, Position.value role (.query q) ∈ ps → role.compiles = true →
    ∃ g, q.fragment d = .ok g ∧ g.parens.Within f

/-- The queries that are compiled as values stand in one of the fragments, in parentheses. -/
structure Hold (d : Dialect) (ps : List Position) (fs : List Fragment) : Prop where
  balanced : ∀ f ∈ fs, f.Balanced
  held : ∀ role q, Position.value role (.query q) ∈ ps → role.compiles = true →
    ∃ f ∈ fs, ∃ g, q.fragment d = .ok g ∧ g.parens.Within f

namespace Encloses

theorem within (h : Encloses d ps f) (hfg : f.Within g) : Encloses d ps g := by
  intro role q hmem hcompiles
  obtain ⟨k, hk, hwithin⟩ := h role q hmem hcompiles
  exact ⟨k, hk, hwithin.trans hfg⟩

theorem append (hp : Encloses d ps f) (hq : Encloses d qs f) : Encloses d (ps ++ qs) f := by
  intro role q hmem hcompiles
  rcases List.mem_append.mp hmem with hmem | hmem
  · exact hp role q hmem hcompiles
  · exact hq role q hmem hcompiles

/-- Positions of which none compiles a query. -/
theorem of_none (h : ∀ role v, Position.value role v ∈ ps → role.compiles = false)
    (f : Fragment) : Encloses d ps f := by
  intro role q hmem hcompiles
  rw [h role _ hmem] at hcompiles
  cases hcompiles

theorem nothing (f : Fragment) : Encloses d [] f := of_none (by simp) f

/-- The positions of columns, which hold no values. -/
theorem columns (vs : List Value) (f : Fragment) :
    Encloses d (vs.flatMap Value.columnPositions) f :=
  of_none (by simp) f

theorem column (v : Value) (f : Fragment) : Encloses d v.columnPositions f := of_none (by simp) f

theorem bare (v : Value) (f : Fragment) : Encloses d v.barePositions f := of_none (by simp) f

/-- A value that is no query. -/
theorem of_not_query {v : Value} (h : ∀ q, v = .query q → False) (role : Role) (f : Fragment) :
    Encloses d [.value role v] f := by
  intro role' q hmem
  cases List.mem_singleton.mp hmem
  exact absurd rfl (h q)

/-- A query that is compiled, with the positions inside it. -/
theorem query {role : Role} {q : Query} {rows : Fragment} (hrows : q.fragment d = .ok rows)
    (h : Encloses d (q.positions d) rows) (hwithin : rows.parens.Within f) :
    Encloses d (.value role (.query q) :: q.positions d) f := by
  intro role' r hmem hcompiles
  rcases List.mem_cons.mp hmem with heq | hmem
  · cases heq
    exact ⟨rows, hrows, hwithin⟩
  · exact h.within ((Within.parens rows).trans hwithin) role' r hmem hcompiles

end Encloses

namespace Hold

variable {fs gs : List Fragment}

theorem nil (d : Dialect) : Hold d [] [] where
  balanced := by simp
  held := by simp

theorem cons (hf : f.Balanced) (hp : Encloses d ps f) (h : Hold d qs fs) :
    Hold d (ps ++ qs) (f :: fs) where
  balanced := by
    intro k hk
    rcases List.mem_cons.mp hk with rfl | hk
    · exact hf
    · exact h.balanced k hk
  held := by
    intro role q hmem hcompiles
    rcases List.mem_append.mp hmem with hmem | hmem
    · exact ⟨f, List.mem_cons_self, hp role q hmem hcompiles⟩
    · obtain ⟨k, hk, hheld⟩ := h.held role q hmem hcompiles
      exact ⟨k, List.mem_cons_of_mem _ hk, hheld⟩

/-- What is enclosed in a member is enclosed in whatever all members stand in. -/
theorem encloses (h : Hold d ps fs)
    (hwithin : ∀ k ∈ fs, k.isEmpty = false → k.Within f) : Encloses d ps f := by
  intro role q hmem hcompiles
  obtain ⟨k, hk, g, hg, hgk⟩ := h.held role q hmem hcompiles
  -- A member in which a query stands shows something.
  have htext : g.isEmpty = false := q.gives_text d g hg
  have hne : k.isEmpty = false :=
    hgk.isEmpty_eq_false ((Framed.parens g).isEmpty_eq_false htext)
  exact ⟨g, hg, hgk.trans (hwithin k hk hne)⟩

theorem join (sep : String) (h : Hold d ps fs) : Encloses d ps (Fragment.join sep fs) :=
  h.encloses fun _ hk _ => .join sep h.balanced hk

end Hold

/-! ### Positions that compile no query -/

theorem compiles_of_memberPositions {column v : Value} {role : Role} {w : Value}
    (h : Position.value role w ∈ memberPositions column v) : role.compiles = false := by
  unfold memberPositions at h
  split at h
  · split at h
    · cases List.mem_singleton.mp h
      rfl
    · cases h
  · cases List.mem_singleton.mp h
    rfl

theorem compiles_of_rowPositions {row : Value} {i : Nat} {columns : List Value} {role : Role}
    {w : Value} (h : Position.value role w ∈ rowPositions row i columns) :
    role.compiles = false := by
  induction columns generalizing i with
  | nil => cases h
  | cons column rest ih =>
      rcases List.mem_append.mp h with h | h
      · split at h
        · cases List.mem_singleton.mp h
          rfl
        · cases h
      · exact ih h

theorem compiles_of_chunkPositions {column : Value} {values : List Value} {role : Role} {w : Value}
    (h : Position.value role w ∈ chunkPositions column values) : role.compiles = false := by
  unfold chunkPositions at h
  split at h
  · cases values with
    | nil => cases h
    | cons v rest =>
        rcases List.mem_append.mp h with h | h
        · obtain ⟨v', -, hv'⟩ := List.mem_flatMap.mp h
          exact compiles_of_memberPositions hv'
        · simp at h
  · cases values with
    | nil => cases h
    | cons row rest =>
        rcases List.mem_append.mp h with h | h
        · obtain ⟨row', -, hrow'⟩ := List.mem_flatMap.mp h
          exact compiles_of_rowPositions hrow'
        · simp at h

/-- The values of a membership test. -/
theorem Encloses.membership (d : Dialect) (column : Value) (values : List Value) (f : Fragment) :
    Encloses d (membershipPositions d column values) f := by
  apply Encloses.of_none
  intro role w h
  unfold membershipPositions at h
  split at h
  · obtain ⟨chunk, -, hchunk⟩ := List.mem_flatMap.mp h
    exact compiles_of_chunkPositions hchunk
  · exact compiles_of_chunkPositions h

/-- The patterns for a column. -/
theorem Encloses.like (d : Dialect) (column values escape : Value) (f : Fragment) :
    Encloses d (likePositions d column values escape) f := by
  apply Encloses.of_none
  intro role w h
  unfold likePositions at h
  split at h
  · cases h
  · rcases List.mem_append.mp h with h | h
    · simp at h
    · obtain ⟨v, -, hv⟩ := List.mem_map.mp h
      cases hv
      rfl

/-! ### Positions that may hold a query -/

/-- What a position that may hold a query needs to know of it. -/
def QueryEncloses (d : Dialect) (value : Value) : Prop :=
  ∀ q, value = .query q → Gives (q.fragment d) (Encloses d (q.positions d))

theorem columnTest_encloses (subqueries : Bool) (column : String) {value : Value}
    (h : QueryEncloses d value) :
    Gives (columnTest d subqueries column value) (Encloses d
      (if value.isCollection then membershipPositions d (.text column) value.members
        else comparedPositions d value)) := by
  rcases value.query_or_not with ⟨q, rfl⟩ | hquery
  · rw [columnTest]
    split
    · refine Gives.andThen fun rows hrows => Gives.pure ?_
      exact .query hrows (h q rfl rows hrows) (.queryMembership d false _ rows)
    · exact Gives.error _ _
  · intro f _
    split
    · exact .membership d _ _ f
    · have hpositions : comparedPositions d value = [.value .compared value] := by
        rw [comparedPositions]
        exact hquery
      rw [hpositions]
      exact .of_not_query hquery _ f

theorem membershipNode_encloses (subqueries negated : Bool) (column : Value) {values : Value}
    (h : QueryEncloses d values) :
    Gives (nodeFragment d subqueries (.membership negated) [column, values])
      (Encloses d (nodePositions d (.membership negated) [column, values])) := by
  rw [nodePositions]
  rcases values.query_or_not with ⟨q, rfl⟩ | hquery
  · rw [nodeFragment]
    split
    · exact Gives.error _ _
    · split
      · exact fun f _ => .nothing f
      · split
        · refine Gives.andThen fun rows hrows => Gives.pure ?_
          have hwithin := Within.queryMembership d negated column rows
          exact (Encloses.query hrows (h q rfl rows hrows) hwithin).append (.columns _ _)
        · exact Gives.error _ _
  · intro f _
    split
    · exact .nothing f
    · rw [amongPositions]
      · exact .membership d column _ f
      · exact hquery

theorem existenceNode_encloses (subqueries negated : Bool) {value : Value}
    (h : QueryEncloses d value) :
    Gives (nodeFragment d subqueries (.existence negated) [value])
      (Encloses d (nodePositions d (.existence negated) [value])) := by
  cases value with
  | query q =>
      rw [nodeFragment, nodePositions]
      split
      · refine Gives.andThen fun rows hrows => Gives.pure ?_
        exact (h q rfl rows hrows).within
          ((Within.parens rows).trans (.second (balanced_ofText _) _))
      · exact Gives.error _ _
  | _ => exact Gives.error _ _

theorem compareNode_encloses (subqueries : Bool) (symbol : String) (column : Value)
    {value : Value} (h : QueryEncloses d value) :
    Gives (nodeFragment d subqueries (.compare symbol) [column, value])
      (Encloses d (nodePositions d (.compare symbol) [column, value])) := by
  rcases value.query_or_not with ⟨q, rfl⟩ | hquery
  · rw [nodeFragment, nodePositions]
    split
    · refine Gives.andThen fun rows hrows => Gives.pure ?_
      have hleft := (columnFragment_stands d column).balanced.append
        (balanced_ofText (" " ++ symbol ++ " "))
      exact (Encloses.column column _).append
        (.query hrows (h q rfl rows hrows) (.second hleft rows.parens))
    · exact Gives.error _ _
  · intro f _
    rw [nodePositions, comparedPositions]
    · exact (Encloses.column column f).append (.of_not_query hquery _ f)
    · exact hquery

theorem SelectItem.fragment_encloses (item : SelectItem) (h : QueryEncloses d item.expr) :
    Gives (item.fragment d) (Encloses d (sourcePositions d item.expr)) := by
  obtain ⟨expr, alias?⟩ := item
  rcases expr.query_or_not with ⟨q, rfl⟩ | hquery
  · cases alias? with
    | none => exact Gives.error _ _
    | some alias_ =>
        refine Gives.andThen fun rows hrows => Gives.pure ?_
        exact (h q rfl rows hrows).within ((Within.parens rows).trans (.first _ _))
  · intro f _
    rw [sourcePositions]
    · exact .column expr f
    · exact hquery

theorem TableRef.fragment_encloses (clause : String) (ref : TableRef)
    (h : QueryEncloses d ref.source) :
    Gives (ref.fragment d clause) (Encloses d (sourcePositions d ref.source)) := by
  obtain ⟨source, alias?⟩ := ref
  rcases source.query_or_not with ⟨q, rfl⟩ | hquery
  · cases alias? with
    | none => exact Gives.error _ _
    | some alias_ =>
        refine Gives.andThen fun rows hrows => Gives.pure ?_
        exact (h q rfl rows hrows).within ((Within.parens rows).trans (.first _ _))
  · intro f _
    rw [sourcePositions]
    · exact .column source f
    · exact hquery

theorem branchFragment_encloses {query : Value} (h : QueryEncloses d query) :
    Gives (branchFragment d query) (Encloses d (branchPositions d query)) := by
  rcases query.query_or_not with ⟨q, rfl⟩ | hquery
  · exact h q rfl
  · intro f _
    rw [branchPositions]
    · exact .bare query f
    · exact hquery

theorem betweenNode_encloses (negated : Bool) (operands : List Value) (f : Fragment) :
    Encloses d (nodePositions d (.between negated) operands) f := by
  rcases operands with _ | ⟨column, _ | ⟨low, _ | ⟨high, _ | ⟨other, rest⟩⟩⟩⟩
  · exact .nothing f
  · exact .nothing f
  · exact .nothing f
  · refine (Encloses.column column f).append (.of_none ?_ f)
    intro role v hmem
    rcases List.mem_pair.mp hmem with heq | heq <;> cases heq <;> rfl
  · exact .nothing f

theorem patternNode_encloses (any negated caseless : Bool) (operands : List Value) (f : Fragment) :
    Encloses d (nodePositions d (.like any negated caseless) operands) f := by
  rcases operands with _ | ⟨column, _ | ⟨values, rest⟩⟩
  · exact .nothing f
  · exact .nothing f
  · exact .like d column values _ f

/-! ### Clauses -/

namespace Hold

variable {fs : List Fragment}

theorem grouped (op : String) (h : Hold d ps fs) : Encloses d ps (Fragment.grouped op fs) :=
  h.encloses fun _ hk hne => .grouped op h.balanced hk hne

theorem selectClause (distinct option : Value) (h : Hold d ps fs) :
    (SqlLoom.selectClause distinct option fs).Balanced ∧
      Encloses d ps (SqlLoom.selectClause distinct option fs) := by
  rw [SqlLoom.selectClause]
  cases fs with
  | nil => exact ⟨rfl, h.encloses (by simp)⟩
  | cons g rest =>
      have hhead := balanced_ofText (selectHead distinct option ++ " ")
      exact ⟨hhead.append (.join _ h.balanced), (h.join ", ").within (.second hhead _)⟩

theorem fromClause (h : Hold d ps fs) :
    (SqlLoom.fromClause fs).Balanced ∧ Encloses d ps (SqlLoom.fromClause fs) := by
  rw [SqlLoom.fromClause]
  cases fs with
  | nil => exact ⟨rfl, h.encloses (by simp)⟩
  | cons g rest =>
      have hhead := balanced_ofText "FROM "
      exact ⟨hhead.append (.join _ h.balanced), (h.join ", ").within (.second hhead _)⟩

end Hold

/-- The clauses of a query up to HAVING. -/
theorem clauses_encloses (distinct option : Value) (params : Entries Value)
    {ips sps jps wps hps : List Position} {items sources joins : List Fragment}
    {where_ groupBy having : Fragment} (hitems : Hold d ips items) (hsources : Hold d sps sources)
    (hjoins : Hold d jps joins) (hwhere : where_.Balanced ∧ Encloses d wps where_)
    (hgroupBy : groupBy.Balanced) (hhaving : having.Balanced ∧ Encloses d hps having) :
    let f := Fragment.merging params ++ .joinShown " " [selectClause distinct option items,
      fromClause sources, Fragment.join " " joins, where_, groupBy, having]
    f.Balanced ∧ Encloses d (ips ++ (sps ++ (jps ++ (wps ++ hps)))) f := by
  intro f
  have hselect := hitems.selectClause distinct option
  have hgrouping : Encloses d [] groupBy := .nothing groupBy
  have hall := Hold.cons hselect.1 hselect.2 (.cons hsources.fromClause.1 hsources.fromClause.2
    (.cons (.join " " hjoins.balanced) (hjoins.join " ") (.cons hwhere.1 hwhere.2
      (.cons hgroupBy hgrouping (.cons hhaving.1 hhaving.2 (.nil d))))))
  rw [List.nil_append, List.append_nil] at hall
  have hmerging : (Fragment.merging params).Balanced := rfl
  refine ⟨hmerging.append (.joinShown " " hall.balanced), ?_⟩
  exact hall.encloses fun k hk hne =>
    (Within.joinShown " " hall.balanced hk hne).trans (.second hmerging _)

/-- Ordering and paging go around the clauses of a query. -/
theorem paged_encloses {sql : Fragment} (hsql : sql.Balanced ∧ Encloses d ps sql)
    (keys : List OrderKey) (limit offset : Value) :
    Gives (d.paged sql keys limit offset) fun f => f.Balanced ∧ Encloses d ps f := by
  refine (gives_paged d sql keys limit offset).imp fun f hf => ?_
  obtain ⟨⟨order, horder, hframed⟩, -⟩ := hf
  have hbalanced : order.Balanced := (orderClause_stands d keys order horder).balanced
  refine ⟨Balanced.framed ?_ hframed, hsql.2.within (.trans ?_ (.framed hframed))⟩
  · split
    · exact hsql.1.append hbalanced
    · exact (hsql.1.append (balanced_ofText " ")).append hbalanced
  · split
    · exact .first sql order
    · exact (Within.first sql _).append_right order

/-- A query with the queries that are united with it. -/
theorem united_encloses {paged : Fragment} {united : List Fragment} (hbalanced : paged.Balanced)
    (hpaged : Encloses d ps paged) (hunited : Hold d qs united) :
    Encloses d (ps ++ qs) (if united.isEmpty then paged
      else paged.parens ++ ofText " " ++ .join " " united) := by
  have hparens : paged.parens.Balanced :=
    ((balanced_ofText "(").append hbalanced).append (balanced_ofText ")")
  split
  · rename_i hempty
    refine hpaged.append (hunited.encloses fun k hk _ => ?_)
    rw [List.isEmpty_iff.mp hempty] at hk
    cases hk
  · refine Encloses.append (hpaged.within ?_) ((hunited.join " ").within ?_)
    · exact ((Within.parens paged).trans (.first _ _)).trans (.first _ _)
    · exact .second (hparens.append (balanced_ofText " ")) _

/-- What fits its parts is balanced besides. -/
theorem Gives.balanced_and {x : Except Error Fragment} {parts : List Part}
    (hfits : Gives x (Fits d parts)) (h : Gives x (Encloses d ps)) :
    Gives x fun f => f.Balanced ∧ Encloses d ps f :=
  (hfits.imp fun _ hf => hf.balanced).and h

/-- The fragment of a condition is balanced besides. -/
theorem Value.balanced_and {subqueries : Bool} (v : Value)
    (h : Gives (v.conditionFragment d subqueries) (Encloses d ps)) :
    Gives (v.conditionFragment d subqueries) fun f => f.Balanced ∧ Encloses d ps f :=
  ((v.conditionFragment_stands d subqueries).imp fun _ hf => hf.toFits).balanced_and h

/-! ### The recursion -/

mutual

theorem Value.conditionFragment_encloses (d : Dialect) (subqueries : Bool) :
    (v : Value) → Gives (v.conditionFragment d subqueries) (Encloses d (v.conditionPositions d))
  | .null => Gives.ok (.nothing _)
  | .expr e => Gives.ok (.of_none (by simp [Value.conditionPositions]) _)
  | .map columns | .hash columns =>
      Gives.bind (columnTests_hold d subqueries columns) fun _ h =>
        Gives.pure (h.encloses fun _ hk _ => .conjunction h.balanced hk)
  | .list items => shorthandFragment_encloses d subqueries items
  | .tuple items => shorthandFragment_encloses d subqueries items
  | .cond op operands => nodeFragment_encloses d subqueries op operands
  | .text _ | .direction _ | .isolation _ | .columnType _ => Gives.ok (.nothing _)
  | .bool _ | .int _ | .float _ | .bytes _ | .stream _ | .typed .. | .out .. | .query _ | .item _
  | .ref _ | .join _ | .order _ | .branch _ => Gives.error _ _

theorem shorthandFragment_encloses (d : Dialect) (subqueries : Bool) :
    (items : List Value) →
      Gives (shorthandFragment d subqueries items) (Encloses d (shorthandPositions d items))
  | [] => Gives.ok (.nothing _)
  | head :: operands => by
      rw [shorthandFragment, shorthandPositions]
      refine Gives.andThen fun _ _ => Gives.andThen fun op hop => ?_
      rw [hop]
      exact nodeFragment_encloses d subqueries op operands

theorem columnTests_hold (d : Dialect) (subqueries : Bool) :
    (columns : List (String × Value)) →
      Gives (columnTests d subqueries columns) (Hold d (columnsPositions d columns))
  | [] => Gives.ok (.nil d)
  | (column, value) :: rest => by
      rw [columnTests_cons, columnsPositions]
      have htest := (columnTest_stands subqueries column (value.queryStands d)).and
        (columnTest_encloses subqueries column (value.queryEncloses d))
      refine Gives.bind htest fun test htest => ?_
      refine Gives.bind (columnTests_hold d subqueries rest) fun tests htests => Gives.pure ?_
      exact .cons htest.1.balanced htest.2 htests

theorem Value.queryEncloses (d : Dialect) : (v : Value) → QueryEncloses d v
  | .query q => fun r hr => by
      cases hr
      exact Query.fragment_encloses d q
  | .null | .bool _ | .int _ | .float _ | .text _ | .bytes _ | .list _ | .tuple _ | .stream _
  | .map _ | .typed .. | .out .. | .expr _ | .hash _ | .cond .. | .item _ | .ref _ | .join _
  | .order _ | .branch _ | .direction _ | .isolation _ | .columnType _ => fun _ hr => by cases hr

theorem nodeFragment_encloses (d : Dialect) (subqueries : Bool) :
    (op : Operator) → (operands : List Value) →
      Gives (nodeFragment d subqueries op operands) (Encloses d (nodePositions d op operands))
  | .and, [] | .or, [] => Gives.ok (.nothing _)
  | .and, v :: rest | .or, v :: rest =>
      Gives.bind (v.balanced_and (v.conditionFragment_encloses d subqueries)) fun _ hfirst =>
        Gives.bind (operandFragments_hold d subqueries rest) fun _ h =>
          Gives.pure (Hold.grouped _ (.cons hfirst.1 hfirst.2 h))
  | .not, [operand] =>
      Gives.bind (operand.conditionFragment_encloses d subqueries) fun f h =>
        Gives.pure (h.within (.negation f))
  | .between negated, operands => fun f _ => betweenNode_encloses negated operands f
  | .membership negated, [column, values] =>
      membershipNode_encloses subqueries negated column (values.queryEncloses d)
  | .like any negated caseless, operands => fun f _ =>
      patternNode_encloses any negated caseless operands f
  | .existence negated, [value] => existenceNode_encloses subqueries negated (value.queryEncloses d)
  | .existence _, _ :: _ :: _ => by
      rw [nodeFragment]
      · exact Gives.error _ _
      · exact fun q h => by cases h
  | .compare symbol, [column, value] =>
      compareNode_encloses subqueries symbol column (value.queryEncloses d)
  | .not, [] | .not, _ :: _ :: _ | .membership _, [] | .membership _, [_]
  | .membership _, _ :: _ :: _ :: _ | .existence _, []
  | .compare _, [] | .compare _, [_] | .compare _, _ :: _ :: _ :: _ => Gives.error _ _

theorem operandFragments_hold (d : Dialect) (subqueries : Bool) :
    (operands : List Value) →
      Gives (operandFragments d subqueries operands) (Hold d (operandsPositions d operands))
  | [] => Gives.ok (.nil d)
  | v :: rest =>
      Gives.bind (v.balanced_and (v.conditionFragment_encloses d subqueries)) fun _ hfirst =>
        Gives.bind (operandFragments_hold d subqueries rest) fun _ h =>
          Gives.pure (.cons hfirst.1 hfirst.2 h)

theorem Query.fragment_encloses (d : Dialect) :
    (q : Query) → Gives (q.fragment d) (Encloses d (q.positions d))
  | ⟨items, distinct, option, sources, joins, filter, grouping, groupFilter, ordering, limit,
      offset, branches, params⟩ => by
      rw [Query.fragment]
      refine Gives.bind (itemFragments_hold d items) fun _ hitems => ?_
      refine Gives.bind (sourceFragments_hold d sources) fun _ hsources => ?_
      refine Gives.bind (joinFragments_hold d joins) fun _ hjoins => ?_
      refine Gives.bind (filter.balanced_and (filter.conditionFragment_encloses d true))
        fun where_ hwhere => ?_
      refine Gives.bind (groupByClause_stands d grouping) fun _ hgroupBy => ?_
      refine Gives.bind (groupFilter.balanced_and (groupFilter.conditionFragment_encloses d true))
        fun having hhaving => ?_
      -- The keywords in front of WHERE and HAVING are added after the conditions are compiled.
      have hclauses := clauses_encloses distinct option params hitems hsources hjoins
        ⟨hwhere.1.headed "WHERE", hwhere.2.within (.headed "WHERE" where_)⟩ hgroupBy.balanced
        ⟨hhaving.1.headed "HAVING", hhaving.2.within (.headed "HAVING" having)⟩
      refine Gives.bind (paged_encloses hclauses ordering limit offset) fun _ hpaged => ?_
      refine Gives.bind (branchFragments_hold d branches) fun _ hunited => Gives.pure ?_
      have hall := united_encloses hpaged.1 hpaged.2 hunited
      -- The remaining positions hold no values.
      intro role q hmem hcompiles
      refine hall role q ?_ hcompiles
      rw [Query.positions] at hmem
      simp at hmem ⊢
      tauto

theorem itemFragments_hold (d : Dialect) :
    (items : List SelectItem) → Gives (itemFragments d items) (Hold d (itemsPositions d items))
  | [] => Gives.ok (.nil d)
  | ⟨expr, alias?⟩ :: rest => by
      have hfits := SelectItem.fragment_fits ⟨expr, alias?⟩ (expr.queryStands d)
      have hitem := hfits.balanced_and
        (SelectItem.fragment_encloses ⟨expr, alias?⟩ (expr.queryEncloses d))
      exact Gives.bind hitem fun _ h => Gives.bind (itemFragments_hold d rest) fun _ hrest =>
        Gives.pure (.cons h.1 h.2 hrest)

theorem sourceFragments_hold (d : Dialect) :
    (sources : List TableRef) →
      Gives (sourceFragments d sources) (Hold d (sourcesPositions d sources))
  | [] => Gives.ok (.nil d)
  | ⟨source, alias?⟩ :: rest => by
      have hfits := TableRef.fragment_fits "FROM" ⟨source, alias?⟩ (source.queryStands d)
      have href := hfits.balanced_and
        (TableRef.fragment_encloses "FROM" ⟨source, alias?⟩ (source.queryEncloses d))
      exact Gives.bind href fun _ h => Gives.bind (sourceFragments_hold d rest) fun _ hrest =>
        Gives.pure (.cons h.1 h.2 hrest)

theorem joinFragments_hold (d : Dialect) :
    (joins : List Join) → Gives (joinFragments d joins) (Hold d (joinsPositions d joins))
  | [] => Gives.ok (.nil d)
  | ⟨kind, ⟨source, alias?⟩, on⟩ :: rest => by
      rw [joinFragments, joinsPositions]
      split
      · exact Gives.error _ _
      · have hfits := TableRef.fragment_fits "JOIN" ⟨source, alias?⟩ (source.queryStands d)
        have href := hfits.balanced_and
          (TableRef.fragment_encloses "JOIN" ⟨source, alias?⟩ (source.queryEncloses d))
        refine Gives.bind href fun table htable => ?_
        refine Gives.bind (on.balanced_and (on.conditionFragment_encloses d true))
          fun condition hcondition => ?_
        refine Gives.bind (joinFragments_hold d rest) fun others hothers => Gives.pure ?_
        have hhead : (ofText (kind ++ " ") ++ table).Balanced :=
          (balanced_ofText _).append htable.1
        refine .cons (hhead.append (hcondition.1.headed " ON")) (.append ?_ ?_) hothers
        · exact htable.2.within ((Within.second (balanced_ofText _) table).append_right _)
        · exact hcondition.2.within ((Within.headed " ON" condition).trans (.second hhead _))

theorem branchFragments_hold (d : Dialect) :
    (branches : List UnionBranch) →
      Gives (branchFragments d branches) (Hold d (branchesPositions d branches))
  | [] => Gives.ok (.nil d)
  | ⟨query, all⟩ :: rest => by
      rw [branchFragments_cons, branchesPositions]
      have hfits := branchFragment_fits (query.queryStands d)
      have hbranch := hfits.balanced_and (branchFragment_encloses (query.queryEncloses d))
      refine Gives.bind hbranch fun sql hsql => ?_
      refine Gives.bind (branchFragments_hold d rest) fun others hothers => Gives.pure ?_
      have hhead := balanced_ofText (if all then "UNION ALL ( " else "UNION ( ")
      exact .cons ((hhead.append hsql.1).append (balanced_ofText " )"))
        (hsql.2.within ((Within.second hhead sql).append_right _)) hothers

end

/-! ### Statements -/

/-- The members of a list are compiled one after another. -/
theorem Hold.mapM {α : Type} {positions : α → List Position} {x : α → Except Error Fragment}
    (h : ∀ a, Gives (x a) fun f => f.Balanced ∧ Encloses d (positions a) f) (as : List α) :
    Gives (as.mapM x) (Hold d (as.flatMap positions)) := by
  induction as with
  | nil => exact Gives.pure (.nil d)
  | cons a rest ih =>
      rw [List.mapM_cons, List.flatMap_cons]
      refine Gives.bind (h a) fun f hf => Gives.bind ih fun fs hfs => Gives.pure ?_
      exact .cons hf.1 hf.2 hfs

theorem insertedValue_encloses (d : Dialect) (info : Option Table) (column : String) (v : Value) :
    Gives (Compiler.insertedValue d info column (d.normalizeValue info column v)) fun f =>
      f.Balanced ∧ Encloses d (insertedPositions d info column v) f := by
  apply (insertedValue_fits d info column _).balanced_and
  rcases v.query_or_not with ⟨q, rfl⟩ | hquery
  · rw [normalizeValue_of_not_isBound rfl]
    refine Gives.andThen fun rows hrows => Gives.pure ?_
    exact .query hrows (Query.fragment_encloses d q rows hrows) (.refl _)
  · intro f _
    have hpositions : insertedPositions d info column v = [.value (.inserted d info column) v] := by
      rw [insertedPositions]
      exact hquery
    rw [hpositions]
    exact .of_not_query hquery _ f

namespace Compiler

theorem insertRow_encloses (c : Compiler) (table : String) (row : Entries Value) :
    Gives (c.insertRow table row) (Encloses c.dialect
      (row.flatMap fun e => insertedPositions c.dialect (c.table? table) e.1 e.2)) := by
  rw [insertRow, Dialect.normalizeRow_eq_map]
  split
  · -- Without columns there is nothing to compile.
    rename_i hempty
    obtain rfl : row = [] := by simpa using hempty
    exact Gives.pure (.nothing _)
  · have hvalues := Hold.mapM
      (fun e : String × Value => insertedValue_encloses c.dialect (c.table? table) e.1 e.2) row
    rw [List.mapM_map]
    refine Gives.bind hvalues fun values hvalues => Gives.pure ?_
    exact (hvalues.join ", ").within ((Within.parens _).trans (.second (balanced_ofText _) _))

theorem insertFragment_encloses (c : Compiler) (table : String) (columns : Value) :
    Gives (c.insertFragment table columns)
      (Encloses c.dialect (insertPositions c table columns)) := by
  rcases columns.query_or_not with ⟨q, rfl⟩ | hquery
  · rw [insertFragment, insertPositions, insertRows]
    split
    · exact Gives.error _ _
    · refine Gives.bind (Query.fragment_encloses c.dialect q) fun rows hrows => ?_
      refine Gives.andThen fun names _ => Gives.pure ?_
      exact hrows.within (.second (balanced_ofText _) rows)
  · rw [insertFragment, insertPositions]
    · refine Gives.andThen fun row hrow => ?_
      rw [hrow]
      exact c.insertRow_encloses table row
    · exact hquery
    · exact hquery

/-- What is inserted stands in front of the return of a key. -/
theorem returning_within (d : Dialect) (sql : Fragment) (info : Option Table) :
    Gives (d.returning sql info) fun f => sql.Within f := by
  unfold Dialect.returning
  split
  · exact Gives.error _ _
  · split
    · exact Gives.ok (.refl sql)
    · dsimp only
      split
      · exact Gives.ok (.refl sql)
      · split
        · exact Gives.ok (((Within.first sql _).append_right _).append_right _)
        · exact Gives.ok (.first sql _)

theorem whereClause_encloses (d : Dialect) (filter : Value) :
    Gives (whereClause d filter) (Encloses d (filter.conditionPositions d)) := by
  refine Gives.bind (filter.conditionFragment_encloses d true) fun f hf => Gives.pure ?_
  exact hf.within (.headed " WHERE" f)

theorem updateFragment_encloses (c : Compiler) (table : String) (columns filter : Value) :
    Gives (c.updateFragment table columns filter) (Encloses c.dialect
      (updatePositions c table columns ++ filter.conditionPositions c.dialect)) := by
  rw [updateFragment]
  refine Gives.andThen fun row _ => ?_
  refine Gives.bind (whereClause_encloses c.dialect filter) fun tail htail => Gives.pure ?_
  refine Encloses.append (.of_none ?_ _) (htail.within (.second ?_ tail))
  · -- No value that is assigned is compiled.
    intro role v hmem
    unfold updatePositions at hmem
    split at hmem
    · obtain ⟨e, -, he⟩ := List.mem_map.mp hmem
      cases he
      rfl
    · cases hmem
  · refine (balanced_ofText _).append (.join ", " ?_)
    intro f hf
    obtain ⟨e, -, rfl⟩ := List.mem_map.mp hf
    exact (assignment_fits c.dialect (c.table? table) e.1 e.2).balanced

/-- The output parameters of a return are no values of the description. -/
theorem returning_encloses (d : Dialect) (info : Option Table) (f : Fragment) :
    Encloses d (returningPositions d info) f := by
  apply Encloses.of_none
  intro role v hmem
  unfold returningPositions at hmem
  split at hmem
  · obtain ⟨column, -, hcolumn⟩ := List.mem_map.mp hmem
    cases hcolumn
  · cases hmem

/-- The fragment of a statement encloses the queries that it compiles as values. -/
theorem fragment_encloses (c : Compiler) (s : Statement) :
    Gives (c.fragment s) (Encloses c.dialect (s.positions c)) := by
  cases s with
  | query q => exact Query.fragment_encloses c.dialect q
  | condition v => exact v.conditionFragment_encloses c.dialect true
  | insert table columns => exact c.insertFragment_encloses table columns
  | insertReturning table columns =>
      refine Gives.bind (c.insertFragment_encloses table columns) fun sql hsql => ?_
      refine (returning_within c.dialect sql (c.table? table)).imp fun f hf => ?_
      exact (hsql.within hf).append (returning_encloses _ _ f)
  | update table columns filter => exact c.updateFragment_encloses table columns filter
  | delete table filter =>
      refine Gives.bind (whereClause_encloses c.dialect filter) fun tail htail => Gives.pure ?_
      exact htail.within (.second (balanced_ofText _) tail)

end Compiler

end SqlLoom
