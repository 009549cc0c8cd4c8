import SqlLoom.Fragment.Select
import SqlLoom.Proofs.Outcome
import SqlLoom.Proofs.ParamTable
import SqlLoom.Query.Extend

/-!
# `SqlLoom.Proofs.Fields`: what a query has from one of its fields

The depth to which queries are united is bounded by the mappings in the fields, so that reading
them comes to an end. The bound does not show: `Query.ofFields_eq` is the equation of the reading
without it.

From this it follows what a query has from its select list and from its sources, in whatever form
these are given (`Query.ofFields_select`, `Query.ofFields_sources`), and what a join has from its
source.
-/

set_option autoImplicit false

namespace SqlLoom

/-! ### The bound on the depth -/

theorem depth_le_of_mem {v : Value} {items : List Value} (h : v ∈ items) :
    v.depth ≤ depthOfItems items := by
  induction items with
  | nil => cases h
  | cons w items ih =>
      rw [depthOfItems]
      rcases List.mem_cons.mp h with rfl | h
      · exact Nat.le_max_left _ _
      · exact Nat.le_trans (ih h) (Nat.le_max_right _ _)

theorem depth_le_of_get? {name : String} {v : Value} {fields : Entries Value}
    (h : fields.get? name = some v) : v.depth ≤ depthOfEntries fields := by
  induction fields with
  | nil => cases h
  | cons e fields ih =>
      obtain ⟨k, w⟩ := e
      rw [Entries.get?] at h
      rw [depthOfEntries]
      split at h
      · cases h
        exact Nat.le_max_left _ _
      · exact Nat.le_trans (ih h) (Nat.le_max_right _ _)

theorem depth_getD_le {name : String} {default : Value} (hdefault : default.depth = 0)
    (fields : Entries Value) :
    ((fields.get? name).getD default).depth ≤ depthOfEntries fields := by
  cases h : fields.get? name with
  | none => exact Nat.le_trans (Nat.le_of_eq hdefault) (Nat.zero_le _)
  | some v => exact depth_le_of_get? h

theorem depth_le_of_asItems? {v : Value} {items : List Value} (h : v.asItems? = some items) :
    depthOfItems items ≤ v.depth := by
  cases v <;> cases h <;> exact Nat.le_refl _

section Nested

variable {nested nested' : Entries Value → Except Error Query} {n : Nat}

/-- Queries in a branch are read alike if they are where fewer mappings stand in one another. -/
theorem asBranch_congr (h : ∀ fields, depthOfEntries fields < n → nested fields = nested' fields)
    {v : Value} (hv : v.depth ≤ n) : v.asBranch nested = v.asBranch nested' := by
  have hquery (query : Value) (hquery : query.depth ≤ n) :
      query.asBranchQuery nested = query.asBranchQuery nested' := by
    cases query with
    | map fields => rw [Value.asBranchQuery, Value.asBranchQuery, h fields hquery]
    | _ => rfl
  cases v with
  | map fields =>
      have hdepth : ((Entries.get? "query" fields).getD .null).depth ≤ n :=
        Nat.le_trans (depth_getD_le rfl fields) (Nat.le_of_succ_le hv)
      simp only [Value.asBranch, UnionBranch.makeWith, hquery _ hdepth]
  | _ => rfl

theorem listOf_asBranch_congr
    (h : ∀ fields, depthOfEntries fields < n → nested fields = nested' fields) {v : Value}
    (hv : v.depth ≤ n) : listOf (Value.asBranch nested) v = listOf (Value.asBranch nested') v := by
  cases hitems : v.asItems? with
  | none => simp only [listOf, hitems]; rfl
  | some items =>
      have hread : ∀ item ∈ items,
          fieldCheck (item.asBranch nested) = fieldCheck (item.asBranch nested') := by
        intro item hitem
        have hdepth := Nat.le_trans (depth_le_of_mem hitem) (depth_le_of_asItems? hitems)
        rw [asBranch_congr h (Nat.le_trans hdepth hv)]
      have hparts := congrArg (List.mapM id) (List.map_congr_left hread)
      rw [List.mapM_map, List.mapM_map] at hparts
      simp only [listOf, hitems]
      exact congrArg (· >>= fun parts => orMalformed (parts.mapM id)) hparts

/-- The fields of united queries have fewer mappings in one another than those of the query. -/
theorem Query.ofFieldsWith_congr {fields : Entries Value}
    (h : ∀ others, depthOfEntries others < depthOfEntries fields → nested others = nested' others) :
    Query.ofFieldsWith nested fields = Query.ofFieldsWith nested' fields := by
  have hbranches : checkField fields "UNION" [] (listOf (Value.asBranch nested))
      = checkField fields "UNION" [] (listOf (Value.asBranch nested')) := by
    rw [checkField, checkField]
    split
    · rename_i v hv
      rw [listOf_asBranch_congr h (depth_le_of_get? hv)]
    · rfl
  rw [Query.ofFieldsWith, Query.ofFieldsWith, hbranches]

end Nested

namespace Query

/-- More depth than there are mappings in one another makes no difference. -/
theorem ofFieldsTo_eq (n : Nat) {fields : Entries Value} (hn : depthOfEntries fields < n) :
    ofFieldsTo n fields = ofFields fields := by
  induction n using Nat.strongRecOn generalizing fields with
  | ind n ih =>
      obtain ⟨n, rfl⟩ := Nat.exists_eq_add_one_of_ne_zero (Nat.ne_of_gt (Nat.zero_lt_of_lt hn))
      have hle : depthOfEntries fields ≤ n := Nat.le_of_lt_succ hn
      refine ofFieldsWith_congr fun others hothers => ?_
      rw [ih n (Nat.lt_succ_self n) (Nat.lt_of_lt_of_le hothers hle),
        ih (depthOfEntries fields) hn hothers]

/-- A query from its fields, in which united queries are read as queries are. -/
theorem ofFields_eq (fields : Entries Value) : ofFields fields = ofFieldsWith ofFields fields :=
  ofFieldsWith_congr fun _ hothers => ofFieldsTo_eq _ hothers

end Query

/-! ### Fields that compile alike -/

variable {d : Dialect} {v w : Value}

/-- The meanings of both are the same. -/
def SameUnder {α γ : Type} (meaning : α → γ) (a b : α) : Prop := meaning a = meaning b

theorem agrees_self {α γ : Type} (meaning : α → γ) (x : Except Error α) :
    Agrees (SameUnder meaning) x x :=
  .same (fun a => show meaning a = meaning a from rfl) x

theorem orMalformed_bind {α β : Type} (x : Option α) (f : α → Option β) :
    orMalformed (x >>= f) = orMalformed x >>= fun a => orMalformed (f a) := by
  cases x <;> rfl

/-- Both are missing, or both are there and mean the same. -/
theorem SameUnder.cases {α γ : Type} {meaning : α → γ} {x y : Option α}
    (h : SameUnder (Option.map meaning) x y) :
    (x = none ∧ y = none) ∨ ∃ a b, x = some a ∧ y = some b ∧ meaning a = meaning b := by
  cases x with
  | none => exact .inl ⟨rfl, Option.map_eq_none_iff.mp (Eq.symm h)⟩
  | some a =>
      obtain ⟨b, hb, hmeaning⟩ := Option.map_eq_some_iff.mp (Eq.symm h)
      exact .inr ⟨a, b, rfl, hb, hmeaning.symm⟩

/-- Fields with the same meaning are malformed alike. -/
theorem orMalformed_agrees {α γ : Type} {meaning : α → γ} {x y : Option α}
    (h : SameUnder (Option.map meaning) x y) :
    Agrees (SameUnder meaning) (orMalformed x) (orMalformed y) := by
  obtain ⟨rfl, rfl⟩ | ⟨a, b, rfl, rfl, hmeaning⟩ := h.cases
  · exact .error .malformed
  · exact .ok hmeaning

/-- Fields that are read with the same meaning are looked at with the same outcome. -/
theorem fieldCheck_agrees {α γ : Type} {meaning : α → γ} {x y : Except Error α}
    (h : Agrees (SameUnder meaning) x y) :
    Agrees (SameUnder (Option.map meaning)) (fieldCheck x) (fieldCheck y) := by
  cases h with
  | ok hab => exact .ok (congrArg some hab)
  | error e => exact agrees_self _ _

/-- A field that was set is what is looked at. -/
theorem checkField_put {α : Type} (fields : Entries Value) (name : String) (v : Value) (default : α)
    (read : Value → Except Error α) :
    checkField (fields.put name v) name default read = fieldCheck (read v) := by
  rw [checkField, Entries.get?_put, if_pos rfl]

/-- Any other field is as it was. -/
theorem checkField_put_of_ne {α : Type} (fields : Entries Value) {name other : String}
    (hne : name ≠ other) (v : Value) (default : α) (read : Value → Except Error α) :
    checkField (fields.put name v) other default read = checkField fields other default read := by
  rw [checkField, checkField, Entries.get?_put, if_neg hne]

theorem onlyNames_congr (names : List String) {fields fields' : Entries Value}
    (h : fields.names = fields'.names) : onlyNames names fields = onlyNames names fields' := by
  have hnames (es : Entries Value) : onlyNames names es = es.names.all names.contains := by
    rw [Entries.names, List.all_map]
    rfl
  rw [hnames, hnames, h]

/-- The fields of two queries are the same, but for a select list and sources that compile
alike. -/
structure Query.FieldsAlike (d : Dialect) (fields fields' : Entries Value) : Prop where
  names : fields.names = fields'.names
  other : ∀ name, name ≠ "SELECT" → name ≠ "FROM" → fields.get? name = fields'.get? name
  items : Agrees (SameUnder (Option.map (itemFragments d)))
    (checkField fields "SELECT" [] Value.toSelectItems)
    (checkField fields' "SELECT" [] Value.toSelectItems)
  sources : Agrees (SameUnder (Option.map (sourceFragments d)))
    (checkField fields "FROM" [] Value.toTableRefs) (checkField fields' "FROM" [] Value.toTableRefs)

/-- So the queries compile alike. -/
theorem Query.FieldsAlike.fragment_eq {fields fields' : Entries Value}
    (h : Query.FieldsAlike d fields fields') :
    (Query.ofFields fields >>= Query.fragment d)
      = (Query.ofFields fields' >>= Query.fragment d) := by
  have hother {α : Type} {name : String} (default : α) (read : Value → Except Error α)
      (hselect : name ≠ "SELECT") (hfrom : name ≠ "FROM") :
      checkField fields name default read = checkField fields' name default read := by
    rw [checkField, checkField, h.other name hselect hfrom]
  rw [Query.ofFields_eq, Query.ofFields_eq, Query.ofFieldsWith, Query.ofFieldsWith]
  rw [onlyNames_congr queryFieldNames h.names]
  generalize (guard (onlyNames queryFieldNames fields' = true) : Option Unit) = allowed
  simp (disch := decide) only [bind_assoc, hother]
  -- The fields are looked at in their order; only two of them need not be the same.
  refine h.items.bind_eq fun items items' hitems => ?_
  refine bind_congr fun distinct => bind_congr fun option => ?_
  refine h.sources.bind_eq fun sources sources' hsources => ?_
  refine bind_congr fun joins => bind_congr fun filter => bind_congr fun grouping =>
    bind_congr fun groupFilter => bind_congr fun ordering => bind_congr fun limit =>
    bind_congr fun offset => bind_congr fun branches => bind_congr fun params => ?_
  -- Then the query is made of those that are not malformed.
  simp only [orMalformed_bind, bind_assoc]
  refine bind_congr fun _ => ?_
  refine (orMalformed_agrees hitems).bind_eq fun items items' hitems => ?_
  refine bind_congr fun distinct => bind_congr fun option => ?_
  refine (orMalformed_agrees hsources).bind_eq fun sources sources' hsources => ?_
  refine bind_congr fun joins => bind_congr fun filter => bind_congr fun grouping =>
    bind_congr fun groupFilter => bind_congr fun ordering => bind_congr fun limit =>
    bind_congr fun offset => bind_congr fun branches => bind_congr fun params => ?_
  show Query.fragment d _ = Query.fragment d _
  rw [SameUnder] at hitems hsources
  rw [Query.fragment, Query.fragment, hitems, hsources]

/-! ### Clauses that compile alike -/

/-- The values give the same select list to a query. -/
structure SelectAlike (d : Dialect) (v w : Value) : Prop where
  set : ∀ (q : Query) (option : Value),
    (q.select v option >>= Query.fragment d) = (q.select w option >>= Query.fragment d)
  field : ∀ fields : Entries Value, (Query.ofFields (fields.put "SELECT" v) >>= Query.fragment d)
    = (Query.ofFields (fields.put "SELECT" w) >>= Query.fragment d)

/-- The values give the same sources to a query. -/
structure SourcesAlike (d : Dialect) (v w : Value) : Prop where
  set : ∀ q : Query,
    (q.setSources v >>= Query.fragment d) = (q.setSources w >>= Query.fragment d)
  field : ∀ fields : Entries Value, (Query.ofFields (fields.put "FROM" v) >>= Query.fragment d)
    = (Query.ofFields (fields.put "FROM" w) >>= Query.fragment d)

/-- The values give the same source to a join. -/
structure JoinAlike (d : Dialect) (v w : Value) : Prop where
  added : ∀ (q : Query) (kind on params : Value), (q.addJoin kind v on params >>= Query.fragment d)
    = (q.addJoin kind w on params >>= Query.fragment d)
  field : ∀ fields : Entries Value,
    (Join.ofFields (fields.put "table" v) >>= fun join => joinFragments d [join])
      = (Join.ofFields (fields.put "table" w) >>= fun join => joinFragments d [join])

theorem SelectAlike.of_items
    (h : Agrees (SameUnder (itemFragments d)) v.toSelectItems w.toSelectItems) :
    SelectAlike d v w where
  set q option := by
    simp only [Query.select, bind_assoc]
    refine h.bind_eq fun items items' hitems => ?_
    show Query.fragment d _ = Query.fragment d _
    rw [SameUnder] at hitems
    rw [Query.fragment, Query.fragment, hitems]
  field fields := by
    refine Query.FieldsAlike.fragment_eq ⟨?_, fun name hname _ => ?_, ?_, ?_⟩
    · rw [Entries.names_put, Entries.names_put]
    · rw [Entries.get?_put, Entries.get?_put, if_neg hname.symm, if_neg hname.symm]
    · rw [checkField_put, checkField_put]
      exact fieldCheck_agrees h
    · rw [checkField_put_of_ne _ (by decide), checkField_put_of_ne _ (by decide)]
      exact agrees_self _ _

theorem SourcesAlike.of_sources
    (h : Agrees (SameUnder (sourceFragments d)) v.toTableRefs w.toTableRefs) :
    SourcesAlike d v w where
  set q := by
    simp only [Query.setSources, bind_assoc]
    refine h.bind_eq fun sources sources' hsources => ?_
    show Query.fragment d _ = Query.fragment d _
    rw [SameUnder] at hsources
    rw [Query.fragment, Query.fragment, hsources]
  field fields := by
    refine Query.FieldsAlike.fragment_eq ⟨?_, fun name _ hname => ?_, ?_, ?_⟩
    · rw [Entries.names_put, Entries.names_put]
    · rw [Entries.get?_put, Entries.get?_put, if_neg hname.symm, if_neg hname.symm]
    · rw [checkField_put_of_ne _ (by decide), checkField_put_of_ne _ (by decide)]
      exact agrees_self _ _
    · rw [checkField_put, checkField_put]
      exact fieldCheck_agrees h

/-- Joins that compile alike do so behind other joins. -/
theorem joinFragments_append_congr {join join' : Join}
    (h : joinFragments d [join] = joinFragments d [join']) (joins : List Join) :
    joinFragments d (joins ++ [join]) = joinFragments d (joins ++ [join']) := by
  induction joins with
  | nil => exact h
  | cons first joins ih =>
      obtain ⟨kind, table, on⟩ := first
      rw [List.cons_append, List.cons_append, joinFragments, joinFragments, ih]

/-- Joins whose sources compile alike do so themselves. -/
theorem ofFields_join_agrees
    (h : Agrees (SameUnder (TableRef.fragment d "JOIN")) v.toTableRef w.toTableRef)
    (fields : Entries Value) : Agrees (SameUnder fun join => joinFragments d [join])
      (Join.ofFields (fields.put "table" v)) (Join.ofFields (fields.put "table" w)) := by
  have hnames : (fields.put "table" v).names = (fields.put "table" w).names := by
    rw [Entries.names_put, Entries.names_put]
  rw [Join.ofFields, Join.ofFields, onlyNames_congr _ hnames]
  simp (disch := decide) only [checkField_put_of_ne, Entries.get?_put, if_true]
  refine (Agrees.same (R := Eq) (fun _ => rfl) _).bind fun kind? _ hkind => ?_
  refine (fieldCheck_agrees h).bind fun source? source?' hsource => ?_
  refine (Agrees.same (R := Eq) (fun _ => rfl) _).bind fun on? _ hon => ?_
  subst hkind hon
  obtain ⟨rfl, rfl⟩ | ⟨source, source', rfl, rfl, hmeaning⟩ := hsource.cases
  · cases kind? <;> exact .error .malformed
  · cases kind? with
    | none => exact .error .malformed
    | some kind =>
        cases on? with
        | none => exact .error .malformed
        | some on =>
            cases onlyNames ["type", "table", "on"] (fields.put "table" w) with
            | false => exact .error .malformed
            | true =>
                refine .ok ?_
                simp only [SameUnder, joinFragments, hmeaning]

theorem JoinAlike.of_source
    (h : Agrees (SameUnder (TableRef.fragment d "JOIN")) v.toTableRef w.toTableRef) :
    JoinAlike d v w where
  added q kind on params := by
    have hjoin := ofFields_join_agrees h [("type", kind), ("table", .null), ("on", on)]
    simp only [Query.addJoin, bind_assoc]
    refine hjoin.bind_eq fun join join' hjoin => bind_congr fun params => ?_
    show Query.fragment d _ = Query.fragment d _
    rw [Query.fragment, Query.fragment, joinFragments_append_congr hjoin]
  field fields := (ofFields_join_agrees h fields).bind_eq fun _ _ h => h

end SqlLoom
