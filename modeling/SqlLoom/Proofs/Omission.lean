import SqlLoom.Proofs.Filtering
import SqlLoom.Proofs.Vacuous

/-!
# `SqlLoom.Proofs.Omission`: clauses that are left out

A condition of a query stands in its WHERE clause, in its HAVING clause or in the ON of a join
(`Place`), somewhere in the middle of the text: other clauses come before and behind it, joins are
in a row, paging may go around the whole, and so may united queries. What stands around the clause
is a `Frame`, and frames inside of frames are frames again (`Frame.fill_inside`).

* `Query.put` puts another condition in a place of a query.
* `Query.exists_frame`: whatever the condition in a place is, the fragment of the query is one and
  the same frame around the clause of that condition.
* `omitted_iff_vacuous`: so a clause is left out exactly where its condition is vacuous, and what is
  left is the query without the condition. The same holds of UPDATE and DELETE.
-/

set_option autoImplicit false

namespace SqlLoom

open Fragment

/-! ### Frames -/

theorem Fragment.append_empty (f : Fragment) : f ++ empty = f := by
  show Fragment.mk _ _ = f
  simp [empty]

/-- What stands around a part of a text. What stands before it takes names of its own only. -/
structure Frame where
  before : Fragment
  after : Fragment
  balanced : before.Balanced

namespace Frame

/-- The frame around a fragment. -/
def fill (frame : Frame) (f : Fragment) : Fragment := frame.before ++ f ++ frame.after

/-- A frame inside of another one. -/
def inside (inner outer : Frame) : Frame :=
  ⟨outer.before ++ inner.before, inner.after ++ outer.after, outer.balanced.append inner.balanced⟩

theorem fill_inside (inner outer : Frame) (f : Fragment) :
    (inner.inside outer).fill f = outer.fill (inner.fill f) := by
  simp only [fill, inside, append_assoc]

/-- Nothing around a fragment but what comes behind it. -/
def behind (after : Fragment) : Frame := ⟨.empty, after, rfl⟩

theorem fill_behind (after f : Fragment) : (behind after).fill f = f ++ after := rfl

/-- Nothing around a fragment but what comes before it. -/
def ahead {before : Fragment} (h : before.Balanced) : Frame := ⟨before, .empty, h⟩

theorem fill_ahead {before : Fragment} (h : before.Balanced) (f : Fragment) :
    (ahead h).fill f = before ++ f := append_empty (before ++ f)

end Frame

/-! ### Rows -/

namespace Fragment

variable {f : Fragment} {fs : List Fragment}

theorem concat_cons (f : Fragment) (rest : List Fragment) : concat (f :: rest) = f ++ concat rest :=
  rfl

/-- The fragment behind a separating text, if it shows something. -/
def following (sep : String) (f : Fragment) : Fragment :=
  if f.isEmpty then f.withoutText else ofText sep ++ f

theorem Balanced.following (sep : String) (hf : f.Balanced) : (f.following sep).Balanced := by
  rw [Fragment.following]
  split
  · rename_i hempty
    exact hf.withoutText hempty
  · exact (balanced_ofText sep).append hf

/-- A row that starts with a text: each other member that shows something comes behind the
separating text. -/
theorem joinShown_eq_concat (sep : String) (hf : f.isEmpty = false) (rest : List Fragment) :
    joinShown sep (f :: rest) = f ++ concat (rest.map (following sep)) := by
  have hrest : (if (rest.filter fun g => !g.isEmpty).isEmpty then joinShown sep rest
      else ofText sep ++ joinShown sep rest) = concat (rest.map (following sep)) := by
    induction rest with
    | nil => rfl
    | cons g rest ih =>
        rw [List.map_cons, concat_cons, ← ih, joinShown_cons, List.filter_cons, following]
        cases hg : g.isEmpty with
        | true =>
            -- Steps without text and a text without steps may change places.
            simp only [Bool.not_true, Bool.false_eq_true, if_false, if_true]
            split
            · rfl
            · show Fragment.mk _ _ = Fragment.mk _ _
              simp [ofText, withoutText]
        | false =>
            simp only [Bool.not_false, Bool.false_eq_true, if_false, if_true, List.isEmpty_cons]
            split
            · rw [append_assoc]
            · simp only [append_assoc]
  rw [joinShown_cons, hf, if_neg Bool.false_ne_true, ← hrest]
  split
  · rfl
  · rw [append_assoc]

/-- A joined row: each member but the first one comes behind the separating text. -/
theorem join_eq_concat (sep : String) (f : Fragment) (rest : List Fragment) :
    join sep (f :: rest) = f ++ concat (rest.map (ofText sep ++ ·)) := by
  induction rest generalizing f with
  | nil =>
      rw [join_singleton]
      exact (append_empty f).symm
  | cons g rest ih =>
      rw [join_cons_cons, ih, List.map_cons, concat_cons]
      simp only [append_assoc]

/-- A joined row behind the separating text, where there is a row. -/
theorem following_join (sep : String) (h : ∀ f ∈ fs, f.isEmpty = false) :
    (join sep fs).following sep = concat (fs.map (ofText sep ++ ·)) := by
  cases fs with
  | nil => rfl
  | cons f rest =>
      have hf : f.isEmpty = false := h f List.mem_cons_self
      rw [join_eq_concat, following, isEmpty_append, hf, List.map_cons, concat_cons, append_assoc]
      rfl

end Fragment

variable {d : Dialect}

/-! ### Paging and united queries -/

/-- Ordering and paging are a frame around the query. -/
theorem paged_frame {sql f : Fragment} {keys : List OrderKey} {limit offset : Value}
    (h : d.paged sql keys limit offset = .ok f) :
    ∃ frame : Frame, ∀ sql, d.paged sql keys limit offset = .ok (frame.fill sql) := by
  cases horder : d.orderClause keys with
  | error e =>
      rw [Dialect.paged, horder] at h
      cases h
  | ok order =>
      -- The ordering comes behind the query, whether it is empty or not.
      obtain ⟨ordering, hordering⟩ : ∃ ordering : Fragment, ∀ sql : Fragment,
          (if order.isEmpty then sql ++ order else sql ++ ofText " " ++ order)
            = sql ++ ordering := by
        split
        · exact ⟨order, fun _ => rfl⟩
        · exact ⟨ofText " " ++ order, fun sql => append_assoc _ _ _⟩
      have hpaged (sql : Fragment) : d.paged sql keys limit offset = (do
          if d.backend = .oracle then
            let filters := Dialect.rowFilters limit offset
            if filters.isEmpty then return sql ++ ordering
            return .ofText "WITH USER_SQL AS (" ++ (sql ++ ordering)
              ++ .ofText ("), PAGINATION AS (SELECT USER_SQL.*, ROWNUM AS ROWNUMID FROM USER_SQL) "
                ++ "SELECT * FROM PAGINATION WHERE " ++ " AND ".intercalate filters)
          else
            let clause := d.limitClause limit offset
            return if clause.isEmpty then sql ++ ordering
              else sql ++ ordering ++ .ofText (" " ++ clause)) := by
        rw [Dialect.paged, horder, ← hordering]
        rfl
      simp only [hpaged]
      split
      · split
        · exact ⟨.behind ordering, fun _ => rfl⟩
        · refine ⟨⟨ofText "WITH USER_SQL AS (", ordering ++ ofText
            ("), PAGINATION AS (SELECT USER_SQL.*, ROWNUM AS ROWNUMID FROM USER_SQL) "
              ++ "SELECT * FROM PAGINATION WHERE "
              ++ " AND ".intercalate (Dialect.rowFilters limit offset)), balanced_ofText _⟩,
            fun sql => congrArg Except.ok ?_⟩
          simp only [Frame.fill, append_assoc]
      · split
        · exact ⟨.behind ordering, fun _ => rfl⟩
        · refine ⟨.behind (ordering ++ ofText (" " ++ d.limitClause limit offset)),
            fun sql => congrArg Except.ok ?_⟩
          rw [Frame.fill_behind, append_assoc]

/-- United queries come behind the query, which then stands in parentheses. -/
theorem united_frame (united : List Fragment) : ∃ frame : Frame, ∀ paged : Fragment,
    (if united.isEmpty then paged else paged.parens ++ ofText " " ++ join " " united)
      = frame.fill paged := by
  split
  · exact ⟨.behind .empty, fun paged => (append_empty paged).symm⟩
  · refine ⟨⟨ofText "(", ofText ")" ++ ofText " " ++ join " " united, balanced_ofText _⟩,
      fun paged => ?_⟩
    simp only [Frame.fill, parens, append_assoc]

/-! ### The clauses of a query -/

/-- The fragments of the parts of a query. -/
structure Clauses where
  items : List Fragment
  sources : List Fragment
  joins : List Fragment
  filter : Fragment
  groupBy : Fragment
  groupFilter : Fragment
  united : List Fragment

/-- These are the fragments that the parts of the query compile to. -/
structure Query.CompilesTo (d : Dialect) (q : Query) (c : Clauses) : Prop where
  items : itemFragments d q.items = .ok c.items
  sources : sourceFragments d q.sources = .ok c.sources
  joins : joinFragments d q.joins = .ok c.joins
  filter : q.filter.conditionFragment d true = .ok c.filter
  groupBy : groupByClause d q.grouping = .ok c.groupBy
  groupFilter : q.groupFilter.conditionFragment d true = .ok c.groupFilter
  united : branchFragments d q.branches = .ok c.united

/-- The clauses of a query up to HAVING. -/
def Query.body (q : Query) (c : Clauses) : Fragment :=
  merging q.params ++ joinShown " " [selectClause q.distinct q.option c.items,
    fromClause c.sources, Fragment.join " " c.joins, c.filter.headed "WHERE", c.groupBy,
    c.groupFilter.headed "HAVING"]

theorem Query.CompilesTo.fragment_eq {q : Query} {c : Clauses} (h : q.CompilesTo d c) :
    q.fragment d = do
      let paged ← d.paged (q.body c) q.ordering q.limit q.offset
      return if c.united.isEmpty then paged
        else paged.parens ++ ofText " " ++ Fragment.join " " c.united := by
  obtain ⟨hitems, hsources, hjoins, hfilter, hgroupBy, hgroupFilter, hunited⟩ := h
  cases q
  rw [Query.fragment, hitems, hsources, hjoins, hfilter, hgroupBy, hgroupFilter, hunited]
  rfl

/-- A query that compiles does so in each of its parts. -/
theorem Query.exists_compilesTo (q : Query) :
    Gives (q.fragment d) fun _ => ∃ c, q.CompilesTo d c := by
  cases q
  rw [Query.fragment]
  refine Gives.andThen fun items hitems => Gives.andThen fun sources hsources => ?_
  refine Gives.andThen fun joins hjoins => Gives.andThen fun filter hfilter => ?_
  refine Gives.andThen fun groupBy hgroupBy => Gives.andThen fun groupFilter hgroupFilter => ?_
  refine Gives.andThen fun _ _ => Gives.andThen fun united hunited => Gives.pure ?_
  exact ⟨⟨items, sources, joins, filter, groupBy, groupFilter, united⟩, hitems, hsources, hjoins,
    hfilter, hgroupBy, hgroupFilter, hunited⟩

/-- Ordering, paging and united queries are a frame around the other clauses. -/
theorem Query.CompilesTo.outer_frame {q : Query} {c : Clauses} (h : q.CompilesTo d c) :
    Gives (q.fragment d) fun _ => ∃ outer : Frame, ∀ (r : Query) (e : Clauses), r.CompilesTo d e →
      r.ordering = q.ordering → r.limit = q.limit → r.offset = q.offset → e.united = c.united →
      r.fragment d = .ok (outer.fill (r.body e)) := by
  obtain ⟨unitedFrame, hunited⟩ := united_frame c.united
  rw [h.fragment_eq]
  refine Gives.andThen fun paged hpaged => Gives.pure ?_
  obtain ⟨pagedFrame, hpaged⟩ := paged_frame hpaged
  refine ⟨pagedFrame.inside unitedFrame, ?_⟩
  intro r e hr hordering hlimit hoffset hsame
  rw [hr.fragment_eq, hordering, hlimit, hoffset, hpaged, hsame, Frame.fill_inside, ← hunited]
  rfl

/-! ### Places of conditions -/

/-- Where a condition stands in a query. -/
inductive Place where
  | filter
  | groupFilter
  /-- The condition of the join with this number. -/
  | on (i : Nat)

/-- The words in front of the condition. -/
def Place.words : Place → String
  | .filter => " WHERE "
  | .groupFilter => " HAVING "
  | .on _ => " ON "

/-- The clause of a condition, behind what comes before it. -/
def Place.clause (f : Fragment) : Place → Fragment
  | .filter => (f.headed "WHERE").following " "
  | .groupFilter => (f.headed "HAVING").following " "
  | .on _ => f.headed " ON"

/-- The condition of a query in a place. -/
def Query.conditionAt? (q : Query) : Place → Option Value
  | .filter => some q.filter
  | .groupFilter => some q.groupFilter
  | .on i => q.joins[i]?.map Join.on

/-- The query with another condition in a place. -/
def Query.put (q : Query) (v : Value) : Place → Query
  | .filter => { q with filter := v }
  | .groupFilter => { q with groupFilter := v }
  | .on i => { q with joins := q.joins.modify i fun join => { join with on := v } }

/-- The query without the condition in a place. -/
def Query.without (q : Query) (place : Place) : Query := q.put .null place

/-- A query with its own condition is the query itself. -/
theorem Query.put_conditionAt? {q : Query} {place : Place} {v : Value}
    (hv : q.conditionAt? place = some v) : q.put v place = q := by
  cases place with
  | filter =>
      obtain rfl : q.filter = v := Option.some.inj hv
      cases q
      rfl
  | groupFilter =>
      obtain rfl : q.groupFilter = v := Option.some.inj hv
      cases q
      rfl
  | on i =>
      obtain ⟨join, hjoin, rfl⟩ := Option.map_eq_some_iff.mp hv
      have hsame : q.joins.modify i (fun other => { other with on := join.on }) = q.joins := by
        refine List.ext_getElem? fun k => ?_
        rw [List.getElem?_modify]
        split
        · rename_i hk
          obtain ⟨kind, table, on⟩ := join
          rw [← hk, hjoin]
          rfl
        · cases q.joins[k]? <;> rfl
      rw [Query.put, hsame]
      cases q
      rfl

/-! ### Clauses with their conditions -/

/-- A clause over a table is its words and its condition, or nothing. -/
theorem Place.bind_clause (place : Place) {f : Fragment} (hf : f.Balanced) (t : ParamTable) :
    (place.clause f).bind t
      = (if (f.bind t).1 = "" then "" else place.words ++ (f.bind t).1, (f.bind t).2) := by
  have hempty := bind_eq_empty_iff hf t
  -- The words of WHERE and HAVING are in two texts.
  have hfollowing (keyword : String) : ((f.headed keyword).following " ").bind t
      = (if (f.bind t).1 = "" then "" else " " ++ keyword ++ " " ++ (f.bind t).1,
        (f.bind t).2) := by
    by_cases hnone : f.isEmpty = true
    · rw [headed, if_pos hnone, following, if_pos hnone, if_pos (hempty.mpr hnone)]
      rfl
    · have hshown : ¬(ofText (keyword ++ " ") ++ f).isEmpty = true := by
        rw [isEmpty_append, (Bool.not_eq_true _).mp hnone, Bool.and_false]
        exact Bool.false_ne_true
      rw [headed, if_neg hnone, following, if_neg hshown, if_neg (mt hempty.mp hnone),
        bind_ofText_append, bind_ofText_append]
      simp only [String.append_assoc]
  cases place with
  | filter => exact hfollowing "WHERE"
  | groupFilter => exact hfollowing "HAVING"
  | on i =>
      show (f.headed " ON").bind t = _
      by_cases hnone : f.isEmpty = true
      · rw [headed, if_pos hnone, if_pos (hempty.mpr hnone), ← hempty.mpr hnone]
      · rw [headed, if_neg hnone, if_neg (mt hempty.mp hnone), bind_ofText_append]
        rfl

theorem Place.balanced_clause (place : Place) {f : Fragment} (hf : f.Balanced) :
    (place.clause f).Balanced := by
  cases place with
  | filter => exact (hf.headed "WHERE").following " "
  | groupFilter => exact (hf.headed "HAVING").following " "
  | on i => exact hf.headed " ON"

/-! ### Joins -/

/-- Every join shows at least its kind. -/
theorem joinFragments_shown (joins : List Join) :
    Gives (joinFragments d joins) fun fs => ∀ f ∈ fs, f.isEmpty = false := by
  induction joins with
  | nil => exact Gives.ok fun f hf => absurd hf List.not_mem_nil
  | cons join rest ih =>
      obtain ⟨kind, table, on⟩ := join
      rw [joinFragments]
      split
      · exact Gives.error _ _
      · refine Gives.andThen fun source _ => Gives.andThen fun condition _ => ?_
        refine Gives.bind ih fun others hothers => Gives.pure ?_
        intro f hf
        rcases List.mem_cons.mp hf with rfl | hf
        · rw [isEmpty_append, isEmpty_append, isEmpty_ofText_space]
          rfl
        · exact hothers f hf

/-- What stands around the condition of a join, in the row of the joins. -/
theorem on_frame (joins : List Join) {i : Nat} {join : Join} (hi : joins[i]? = some join) :
    Gives (joinFragments d joins) fun _ => (∃ f, join.on.conditionFragment d true = .ok f) ∧
      ∃ frame : Frame, ∀ u, Gives (u.conditionFragment d true) fun g =>
        ∃ fs, joinFragments d (joins.modify i fun join => { join with on := u }) = .ok fs ∧
          concat (fs.map (ofText " " ++ ·)) = frame.fill (g.headed " ON") := by
  induction joins generalizing i with
  | nil => cases hi
  | cons first rest ih =>
      obtain ⟨kind, table, on⟩ := first
      rw [joinFragments]
      split
      · exact Gives.error _ _
      · rename_i hkind
        refine Gives.andThen fun source hsource => Gives.andThen fun condition hcondition => ?_
        have hstart : (ofText (kind ++ " ") ++ source).Balanced :=
          (balanced_ofText _).append
            (table.fragment_fits "JOIN" (table.source.queryStands d) source hsource).balanced
        cases i with
        | zero =>
            obtain rfl : ⟨kind, table, on⟩ = join := Option.some.inj hi
            refine Gives.andThen fun others hothers => Gives.pure ⟨⟨condition, hcondition⟩, ?_⟩
            refine ⟨⟨ofText " " ++ (ofText (kind ++ " ") ++ source),
              concat (others.map (ofText " " ++ ·)), (balanced_ofText _).append hstart⟩, ?_⟩
            intro u g hg
            refine ⟨(ofText (kind ++ " ") ++ source ++ g.headed " ON") :: others, ?_, ?_⟩
            · rw [List.modify_zero_cons, joinFragments, if_neg hkind, hsource, hg, hothers]
              rfl
            · rw [List.map_cons, concat_cons, Frame.fill]
              simp only [append_assoc]
        | succ i =>
            -- The condition is in another join, and this one comes before it.
            refine Gives.bind (ih hi) fun others hothers => Gives.pure ?_
            obtain ⟨hok, frame, hframe⟩ := hothers
            have hfirst := hstart.append ((Value.conditionFragment_stands d true on condition
              hcondition).toFits.balanced.headed " ON")
            refine ⟨hok, frame.inside (.ahead ((balanced_ofText " ").append hfirst)), ?_⟩
            intro u g hg
            obtain ⟨fs, hfs, hrow⟩ := hframe u g hg
            refine ⟨(ofText (kind ++ " ") ++ source ++ condition.headed " ON") :: fs, ?_, ?_⟩
            · rw [List.modify_succ_cons, joinFragments, if_neg hkind, hsource, hcondition, hfs]
              rfl
            · rw [List.map_cons, concat_cons, hrow, Frame.fill_inside, Frame.fill_ahead]

/-! ### Conditions in a query -/

/-- A query up to FROM. -/
def Query.opening (q : Query) (c : Clauses) : Fragment :=
  merging q.params ++ (selectClause q.distinct q.option c.items
    ++ (fromClause c.sources).following " ")

/-- The clauses one after another. The list of items always shows something, so that each of the
others comes behind a space. -/
theorem Query.body_eq (q : Query) (c : Clauses) :
    q.body c = q.opening c ++ ((Fragment.join " " c.joins).following " "
      ++ ((c.filter.headed "WHERE").following " " ++ (c.groupBy.following " "
        ++ (c.groupFilter.headed "HAVING").following " "))) := by
  have hnil : concat [] = Fragment.empty := rfl
  rw [Query.body, joinShown_eq_concat " " (isEmpty_selectClause q.distinct q.option c.items)]
  simp only [Query.opening, List.map_cons, List.map_nil, concat_cons, hnil, append_empty,
    append_assoc]

namespace Query.CompilesTo

variable {q : Query} {c : Clauses}

theorem balanced_opening (h : q.CompilesTo d c) : (q.opening c).Balanced := by
  have hitems := itemFragments_fits d q.items c.items h.items
  have hsources := sourceFragments_fits d q.sources c.sources h.sources
  have hselect := (selectClause_stands q.distinct q.option hitems).toFits.balanced
  have hfrom := (fromClause_stands hsources).toFits.balanced
  exact (Fits.merging d q.params).balanced.append (hselect.append (hfrom.following " "))

theorem balanced_joins (h : q.CompilesTo d c) :
    ((Fragment.join " " c.joins).following " ").Balanced :=
  (Balanced.join " " (joinFragments_fits d q.joins c.joins h.joins).forall_balanced).following " "

/-- The clauses are a frame around the one of the condition in a place. -/
theorem inner_frame (h : q.CompilesTo d c) {place : Place} {v : Value}
    (hv : q.conditionAt? place = some v) :
    (∃ f, v.conditionFragment d true = .ok f) ∧
      ∃ inner : Frame, ∀ u, Gives (u.conditionFragment d true) fun g =>
        ∃ e, (q.put u place).CompilesTo d e ∧ e.united = c.united ∧
          (q.put u place).body e = inner.fill (place.clause g) := by
  have hopening := h.balanced_opening
  have hjoins := h.balanced_joins
  cases place with
  | filter =>
      obtain rfl : q.filter = v := Option.some.inj hv
      refine ⟨⟨_, h.filter⟩, ⟨q.opening c ++ (Fragment.join " " c.joins).following " ",
        c.groupBy.following " " ++ (c.groupFilter.headed "HAVING").following " ",
        hopening.append hjoins⟩, ?_⟩
      intro u g hg
      refine ⟨{ c with filter := g }, { h with filter := hg }, rfl, ?_⟩
      rw [body_eq, Frame.fill]
      simp only [append_assoc]
      rfl
  | groupFilter =>
      obtain rfl : q.groupFilter = v := Option.some.inj hv
      have hwhere := ((q.filter.conditionFragment_stands d true _ h.filter).toFits.balanced.headed
        "WHERE").following " "
      have hgroupBy := (groupByClause_stands d _ _ h.groupBy).toFits.balanced.following " "
      refine ⟨⟨_, h.groupFilter⟩, .ahead (((hopening.append hjoins).append hwhere).append hgroupBy),
        ?_⟩
      intro u g hg
      refine ⟨{ c with groupFilter := g }, { h with groupFilter := hg }, rfl, ?_⟩
      rw [body_eq, Frame.fill_ahead]
      simp only [append_assoc]
      rfl
  | on i =>
      -- Two frames: the joins around the condition, and the clauses around the joins.
      obtain ⟨join, hjoin, rfl⟩ := Option.map_eq_some_iff.mp hv
      obtain ⟨hok, row, hrow⟩ := on_frame q.joins hjoin c.joins h.joins
      refine ⟨hok, row.inside ⟨q.opening c, (c.filter.headed "WHERE").following " "
        ++ (c.groupBy.following " " ++ (c.groupFilter.headed "HAVING").following " "), hopening⟩,
        ?_⟩
      intro u g hg
      obtain ⟨fs, hfs, hconcat⟩ := hrow u g hg
      refine ⟨{ c with joins := fs }, { h with joins := hfs }, rfl, ?_⟩
      rw [body_eq, following_join " " (joinFragments_shown _ fs hfs), hconcat, Frame.fill_inside]
      simp only [Frame.fill, append_assoc]
      rfl

end Query.CompilesTo

/-- A query is a frame around the clause of the condition in a place, whatever the condition is. -/
theorem Query.exists_frame {q : Query} {place : Place} {v : Value}
    (hv : q.conditionAt? place = some v) :
    Gives (q.fragment d) fun _ => (∃ f, v.conditionFragment d true = .ok f) ∧
      ∃ frame : Frame, ∀ u, Gives (u.conditionFragment d true) fun g =>
        (q.put u place).fragment d = .ok (frame.fill (place.clause g)) := by
  intro f hf
  obtain ⟨c, hc⟩ := q.exists_compilesTo f hf
  obtain ⟨hok, inner, hinner⟩ := hc.inner_frame hv
  obtain ⟨outer, houter⟩ := hc.outer_frame f hf
  refine ⟨hok, inner.inside outer, ?_⟩
  intro u g hg
  obtain ⟨e, he, hunited, hbody⟩ := hinner u g hg
  -- Neither ordering nor paging changes with the condition.
  rw [houter (q.put u place) e he _ _ _ hunited, hbody, Frame.fill_inside]
  · cases place <;> rfl
  · cases place <;> rfl
  · cases place <;> rfl

/-! ### Omitted clauses -/

/-- The text of `f` is the text of `bare` with the clause of a condition in the middle. The clause
is missing if it is omitted, and else it is the words and the condition, over the table of what
comes before. What comes behind is over the table that the condition leaves. -/
def Surrounds (words : String) (omitted : Bool) (condition bare f : Fragment) : Prop :=
  ∃ before after : Fragment, ∀ t,
    let head := before.bind t
    let clause := condition.bind head.2
    let tail := after.bind clause.2
    let rest := after.bind head.2
    f.bind t = (head.1 ++ (if omitted then "" else words ++ clause.1) ++ tail.1, tail.2) ∧
      bare.bind t = (head.1 ++ rest.1, rest.2)

/-- A clause is omitted if its condition has no text. -/
theorem Frame.surrounds (frame : Frame) (place : Place) {condition : Fragment}
    (hcondition : condition.Balanced) {omitted : Bool}
    (hempty : ∀ t, (condition.bind t).1 = "" ↔ omitted = true) :
    Surrounds place.words omitted condition (frame.fill (place.clause .empty))
      (frame.fill (place.clause condition)) := by
  have hfill {f : Fragment} (hf : f.Balanced) (t : ParamTable) :
      (frame.fill f).bind t = ((frame.before.bind t).1 ++ (f.bind (frame.before.bind t).2).1
        ++ (frame.after.bind (f.bind (frame.before.bind t).2).2).1,
        (frame.after.bind (f.bind (frame.before.bind t).2).2).2) := by
    rw [Frame.fill, bind_append _ _ t (frame.balanced.append hf), bind_append _ _ t frame.balanced]
  refine ⟨frame.before, frame.after, ?_⟩
  intro t head clause tail rest
  constructor
  · rw [hfill (place.balanced_clause hcondition), place.bind_clause hcondition]
    simp only [hempty]
    rfl
  · have hnone : Fragment.empty.Balanced := rfl
    rw [hfill (place.balanced_clause hnone), place.bind_clause hnone]
    show (head.1 ++ "" ++ rest.1, rest.2) = _
    rw [String.append_empty]

/-- On each built-in dialect the text of a condition is empty exactly where the condition is
vacuous, and then the table of parameters stays as it is, unless an expression without text brings
parameters of its own. So WHERE and HAVING and the ON of a join are missing exactly for vacuous
conditions, and so is the WHERE of UPDATE and DELETE: the statement is then the same as without a
condition. -/
theorem omitted_iff_vacuous (b : Backend) :
    (∀ subqueries (v : Value), Gives (v.conditionFragment (.standard b) subqueries) fun f => ∀ t,
      ((f.bind t).1 = "" ↔ v.isVacuous = true) ∧
        (v.isVacuous = true → v.spellsExpression = false → (f.bind t).2 = t)) ∧
    (∀ (q : Query) place v, q.conditionAt? place = some v →
      Gives (q.fragment (.standard b)) fun f => ∃ condition bare,
        v.conditionFragment (.standard b) true = .ok condition ∧
        (q.without place).fragment (.standard b) = .ok bare ∧
        Surrounds place.words v.isVacuous condition bare f ∧
        (v.isVacuous = true → v.spellsExpression = false → ∀ t, f.bind t = bare.bind t)) ∧
    ∀ c : Compiler, c.dialect = .standard b → ∀ write, c.Writes write → ∀ v,
      Gives (write v) fun out => ∃ bare condition, write .null = .ok bare ∧
        v.conditionFragment (.standard b) true = .ok condition ∧
        c.Filtered bare condition out ∧ (out.sql = bare.sql ↔ v.isVacuous = true) ∧
        (v.isVacuous = true → v.spellsExpression = false → out.params = bare.params) := by
  have hcondition (subqueries : Bool) (v : Value) :
      Gives (v.conditionFragment (.standard b) subqueries) fun f => ∀ t,
        ((f.bind t).1 = "" ↔ v.isVacuous = true) ∧
          (v.isVacuous = true → v.spellsExpression = false → (f.bind t).2 = t) :=
    fun f hf t => v.conditionFragment_empty (Dialect.standard_holdsValues b) hf t
  refine ⟨hcondition, ?_, ?_⟩
  · intro q place v hv f hf
    obtain ⟨⟨condition, hok⟩, frame, hframe⟩ := Query.exists_frame hv f hf
    have htold := hcondition true v condition hok
    have hbalanced := (v.conditionFragment_stands _ true condition hok).toFits.balanced
    -- The query is the frame around its own condition, and without it around nothing.
    have hwhole := hframe v condition hok
    rw [Query.put_conditionAt? hv, hf] at hwhole
    obtain rfl := Except.ok.inj hwhole
    have hsurrounds := frame.surrounds place hbalanced fun t => (htold t).1
    refine ⟨condition, _, hok, hframe .null .empty rfl, hsurrounds, ?_⟩
    intro hvacuous hexpression t
    obtain ⟨before, after, hbind⟩ := hsurrounds
    obtain ⟨hbound, hbare⟩ := hbind t
    rw [hbound, hbare, hvacuous, (htold _).2 hvacuous hexpression, if_pos rfl,
      String.append_empty]
  · intro c hc write hwrite v out hout
    obtain ⟨bare, condition, hbare, hok, hfiltered⟩ := hwrite.filtered v out hout
    rw [hc] at hok
    obtain ⟨hempty, htable⟩ := hcondition true v condition hok ⟨c.mark, bare.params⟩
    refine ⟨bare, condition, hbare, hok, hfiltered, hfiltered.sql_eq_iff.trans hempty, ?_⟩
    intro hvacuous hexpression
    rw [hfiltered.2, htable hvacuous hexpression]

/-- The negation of nothing leaves a join without ON between two others of a query with paging, and
a DELETE without WHERE. The test beside it stays. -/
theorem omitted_iff_vacuous_join :
    let d : Dialect := .standard .oracle
    let c : Compiler := { dialect := d }
    let nothing : Value := .cond .not [.cond .or [.text "",
      .cond (.membership true) [.text "a", .list []], .cond (.like false true false)
        [.text "b", .list []], .hash []]]
    let test : Value := .cond .and [nothing, .hash [("x", .int 1)]]
    let q : Query := { Query.empty with
      sources := [⟨.text "t", none⟩]
      joins := [⟨"JOIN", ⟨.text "u", none⟩, test⟩, ⟨"JOIN", ⟨.text "v", none⟩, nothing⟩]
      filter := test
      limit := .int 5 }
    ∃ f bare out all, q.fragment d = .ok f ∧ (q.without (.on 1)).fragment d = .ok bare ∧
      (∀ t, f.bind t = bare.bind t) ∧
      (f.bind (.ofEntries c.mark [])).1
        = "WITH USER_SQL AS (SELECT * FROM \"t\" JOIN \"u\" ON (\"x\"=:qp0) JOIN \"v\" WHERE "
          ++ "(\"x\"=:qp1)), PAGINATION AS (SELECT USER_SQL.*, ROWNUM AS ROWNUMID FROM USER_SQL) "
          ++ "SELECT * FROM PAGINATION WHERE ROWNUM <= 5" ∧
      c.delete "t" nothing [] = .ok out ∧ c.delete "t" .null [] = .ok all ∧
      out.sql = all.sql ∧ out.params = all.params := by
  intro d c nothing test q
  have hvacuous : nothing.isVacuous = true := by decide
  have hexpression : nothing.spellsExpression = false := by decide
  obtain ⟨-, hqueries, hwrites⟩ := omitted_iff_vacuous .oracle
  obtain ⟨f, hf, hsql⟩ : ∃ f, q.fragment d = .ok f ∧ (f.bind (.ofEntries c.mark [])).1
      = "WITH USER_SQL AS (SELECT * FROM \"t\" JOIN \"u\" ON (\"x\"=:qp0) JOIN \"v\" WHERE "
        ++ "(\"x\"=:qp1)), PAGINATION AS (SELECT USER_SQL.*, ROWNUM AS ROWNUMID FROM USER_SQL) "
        ++ "SELECT * FROM PAGINATION WHERE ROWNUM <= 5" := ⟨_, rfl, by decide +kernel⟩
  obtain ⟨out, hout⟩ : ∃ out, c.delete "t" nothing [] = .ok out := ⟨_, rfl⟩
  obtain ⟨-, bare, -, hbare, -, hsame⟩ := hqueries q (.on 1) nothing rfl f hf
  obtain ⟨all, -, hall, -, -, homitted, hparams⟩ :=
    hwrites c rfl _ (.inr ⟨"t", [], rfl⟩) nothing out hout
  exact ⟨f, bare, out, all, hf, hbare, hsame hvacuous hexpression, hsql, hout, hall,
    homitted.mpr hvacuous, hparams hvacuous hexpression⟩

end SqlLoom
