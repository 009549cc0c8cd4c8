import SqlLoom.Connection.Binding
import SqlLoom.Proofs.Parameters
import SqlLoom.Text.Word

/-!
# `SqlLoom.Proofs.Binding`: parameters on their way to the engine

A table of parameters compares names as they are, and an engine binds them without the colons in
front. So a name that is fresh in the table may be one for the engine that the caller has given
already.

* `Binding.nodup_ofParams_iff`: each parameter is bound under a name of its own exactly when no two
  names are the same without their colons.
* `carried_or_stored`: a parameter of a statement has come with its name or has been stored by the
  builder.
* `all_bound_iff`: when nothing is lost between the description of a statement and its engine.
  `not_always_bound` is a statement that loses a parameter of its caller.
-/

set_option autoImplicit false

namespace SqlLoom

/-! ### Binding -/

/-- What an engine binds for a parameter: a value or an output slot. -/
def Value.bound : Value → Value ⊕ OutSlot
  | .out type size column _ => .inr ⟨type, size, column⟩
  | .typed v type => .inl (Binding.boundForm v type)
  | v => .inl v

namespace Binding

/-- All that is bound, values and output slots. -/
def entries (b : Binding) : Entries (Value ⊕ OutSlot) :=
  b.values.map (fun e => (e.1, .inl e.2)) ++ b.outs.map (fun e => (e.1, .inr e.2))

theorem names_entries (b : Binding) : b.entries.names = b.values.names ++ b.outs.names := by
  simp [entries, Entries.names, Function.comp_def]

/-- A value is bound among the values, and an output slot among the slots. -/
theorem add_cases (b : Binding) (name : String) (v : Value) :
    (∃ w, v.bound = .inl w ∧ (b.add name v).values = b.values.put (bareName name) w ∧
      (b.add name v).outs = b.outs) ∨
    ∃ o, v.bound = .inr o ∧ (b.add name v).values = b.values ∧
      (b.add name v).outs = b.outs.put (bareName name) o := by
  cases v
  case out => exact .inr ⟨_, rfl, rfl, rfl⟩
  all_goals exact .inl ⟨_, rfl, rfl, rfl⟩

theorem mem_names_add (b : Binding) (name : String) (v : Value) (key : String) :
    key ∈ (b.add name v).entries.names ↔ key ∈ b.entries.names ∨ key = bareName name := by
  simp only [names_entries, List.mem_append]
  rcases b.add_cases name v with ⟨w, -, hvalues, houts⟩ | ⟨o, -, hvalues, houts⟩ <;>
    rw [hvalues, houts, Entries.mem_names_put] <;> tauto

/-- A new name is bound beside the others. -/
theorem entries_add {b : Binding} {name : String} (v : Value)
    (h : bareName name ∉ b.entries.names) :
    (b.add name v).entries.Perm (b.entries ++ [(bareName name, v.bound)]) := by
  rw [names_entries, List.mem_append, not_or] at h
  rcases b.add_cases name v with ⟨w, hw, hvalues, houts⟩ | ⟨o, ho, hvalues, houts⟩
  · rw [Entries.put_of_not_mem _ _ _ h.1] at hvalues
    simp only [entries, hvalues, houts, hw, List.map_append, List.append_assoc]
    exact List.Perm.append_left _ List.perm_append_comm
  · rw [Entries.put_of_not_mem _ _ _ h.2] at houts
    simp only [entries, hvalues, houts, ho, List.map_append, List.append_assoc]
    exact List.Perm.refl _

theorem ofParams_concat (params : Entries Value) (e : String × Value) :
    ofParams (params ++ [e]) = (ofParams params).add e.1 e.2 := by
  rw [ofParams, List.foldl_append]
  rfl

/-- The names that are bound are those of the parameters, without their colons. -/
theorem mem_names_ofParams (params : Entries Value) (key : String) :
    key ∈ (ofParams params).entries.names ↔ key ∈ params.names.map bareName := by
  -- Parameters are bound one after another, so the induction takes off the last one.
  induction params using List.reverseRecOn with
  | nil => exact Iff.rfl
  | append_singleton params e ih =>
      rw [ofParams_concat, mem_names_add, ih, Entries.names_append, List.map_append,
        List.mem_append]
      simp

/-- Parameters whose names differ without their colons are all bound. -/
theorem ofParams_perm {params : Entries Value} (h : (params.names.map bareName).Nodup) :
    (ofParams params).entries.Perm (params.map fun e => (bareName e.1, e.2.bound)) := by
  induction params using List.reverseRecOn with
  | nil => exact List.Perm.refl _
  | append_singleton params e ih =>
      rw [Entries.names_append, List.map_append] at h
      obtain ⟨hrest, -, hapart⟩ := List.nodup_append.mp h
      -- The last name is none of those that are bound, so it displaces nothing.
      have hnew : bareName e.1 ∉ (ofParams params).entries.names := by
        rw [mem_names_ofParams]
        exact fun hmem => hapart _ hmem _ (List.mem_singleton_self _) rfl
      rw [ofParams_concat, List.map_append]
      exact (entries_add e.2 hnew).trans ((ih hrest).append_right _)

/-- Each parameter is bound under a name of its own exactly when the names differ without their
colons. -/
theorem nodup_ofParams_iff (params : Entries Value) :
    ((ofParams params).entries.names.Nodup ∧
        (ofParams params).entries.length = params.length) ↔
      (params.names.map bareName).Nodup := by
  constructor
  · rintro ⟨hnodup, hlength⟩
    have hsub : (ofParams params).entries.names ⊆ params.names.map bareName :=
      fun key hkey => (mem_names_ofParams params key).mp hkey
    -- As many different names as there are parameters are all of their names.
    have hperm : (ofParams params).entries.names.Perm (params.names.map bareName) :=
      (hnodup.subperm hsub).perm_of_length_le (by simp [hlength, Entries.names])
    exact hperm.nodup_iff.mp hnodup
  · intro h
    have hperm := ofParams_perm h
    have hnames : (ofParams params).entries.names.Perm (params.names.map bareName) := by
      have hmapped := hperm.map Prod.fst
      rw [List.map_map] at hmapped
      simpa [Entries.names, Function.comp_def] using hmapped
    exact ⟨hnames.nodup_iff.mpr h, by rw [hperm.length_eq, List.length_map]⟩

/-- Where the names differ without their colons, what is bound is a parameter. -/
theorem exists_of_mem_ofParams {params : Entries Value} (h : (params.names.map bareName).Nodup)
    {key : String} {w : Value ⊕ OutSlot} (hmem : (key, w) ∈ (ofParams params).entries) :
    ∃ e ∈ params, bareName e.1 = key ∧ e.2.bound = w := by
  obtain ⟨e, he, heq⟩ := List.mem_map.mp ((ofParams_perm h).mem_iff.mp hmem)
  exact ⟨e, he, Prod.mk.inj heq⟩

/-- Where the names differ without their colons, an entry is bound if its name is among the
parameters with nothing but its value. -/
theorem mem_ofParams {params : Entries Value} (h : (params.names.map bareName).Nodup)
    {e : String × Value} (hname : e.1 ∈ params.names)
    (hsame : ∀ x ∈ params, x.1 = e.1 → x.2.bound = e.2.bound) :
    (bareName e.1, e.2.bound) ∈ (ofParams params).entries := by
  obtain ⟨x, hx, hxe⟩ := List.mem_map.mp hname
  have hmem : (bareName x.1, x.2.bound) ∈ (ofParams params).entries :=
    (ofParams_perm h).mem_iff.mpr (List.mem_map_of_mem hx)
  rwa [hxe, hsame x hx hxe] at hmem

/-- A name that stands once holds one thing. -/
theorem eq_of_mem_entries {b : Binding} (h : b.entries.names.Nodup) {key : String}
    {x y : Value ⊕ OutSlot} (hx : (key, x) ∈ b.entries) (hy : (key, y) ∈ b.entries) : x = y :=
  (Prod.mk.inj (List.inj_on_of_nodup_map h hx hy rfl)).2

end Binding

/-! ### Generated names without their colons -/

/-- A mark that starts with a colon and goes on with word characters. -/
def IsColonMark (mark : String) : Prop :=
  ∃ word, mark.toList = ':' :: word ∧ ∀ c ∈ word, Text.isWord c = true

/-- Generated names differ without their colons. -/
theorem bareName_nameOf_injective {mark : String} (hmark : IsColonMark mark) :
    Function.Injective fun n => bareName (ParamTable.nameOf mark n) := by
  obtain ⟨word, hword, hchars⟩ := hmark
  have hbare (n : Nat) :
      bareName (ParamTable.nameOf mark n) = String.ofList (word ++ Nat.toDigits 10 n) := by
    have htext : (ParamTable.nameOf mark n).toList = ':' :: (word ++ Nat.toDigits 10 n) := by
      rw [ParamTable.toList_nameOf, hword, List.cons_append]
    have hnone : ∀ c ∈ word ++ Nat.toDigits 10 n, c ≠ ':' := by
      intro c hc
      rcases List.mem_append.mp hc with hc | hc
      · rintro rfl
        exact absurd (hchars _ hc) (by decide)
      · rintro rfl
        exact absurd (Nat.isDigit_of_mem_toDigits (by decide) (by decide) hc) (by decide)
    rw [bareName, htext, List.dropWhile_cons_of_pos (by rfl)]
    cases hname : word ++ Nat.toDigits 10 n with
    | nil => rfl
    | cons c rest =>
        have hc : c ≠ ':' := hnone c (by simp [hname])
        rw [List.dropWhile_cons_of_neg (by simpa using hc)]
  intro m n h
  have h : bareName (ParamTable.nameOf mark m) = bareName (ParamTable.nameOf mark n) := h
  have hdigits : word ++ Nat.toDigits 10 m = word ++ Nat.toDigits 10 n := by
    rw [← String.toList_ofList (l := word ++ Nat.toDigits 10 m), ← hbare, h, hbare,
      String.toList_ofList]
  refine ParamTable.nameOf_injective mark (String.toList_injective ?_)
  rw [ParamTable.toList_nameOf, ParamTable.toList_nameOf, List.append_cancel_left hdigits]

/-! ### Parameters of a statement -/

/-- The parameters that a part carries into the table. -/
def Part.carried : Part → Entries Value
  | .raw e => e.params
  | .named params => params
  | .bound _ | .bare _ | .query _ => []

/-- The parameters that a part leaves behind. -/
def Part.leftBehind : Part → Entries Value
  | .bare e => e.params
  | .bound _ | .raw _ | .named _ | .query _ => []

namespace Statement

variable (s : Statement) (c : Compiler) (params : Entries Value)

/-- The values that the builder stores, under their generated names. -/
def stored : Entries Value := Fragment.added (s.steps c) (.ofEntries c.mark params)

/-- The parameters that come with names, from the caller or from the description. -/
def carried : Entries Value := params ++ (s.parts c).flatMap Part.carried

/-- The parameters that no table sees. -/
def leftBehind : Entries Value := (s.parts c).flatMap Part.leftBehind

end Statement

section Compiled

open Fragment

variable {c : Compiler} {params : Entries Value} {s : Statement} {out : Compiled}
  {e : String × Value}

/-- A part merges what it carries. -/
theorem mem_flatMap_carried {parts : List Part} {merged : Entries Value}
    (hmerge : TableStep.merge merged ∈ parts.flatMap Part.steps) (he : e ∈ merged) :
    e ∈ parts.flatMap Part.carried := by
  obtain ⟨p, hp, hstep⟩ := List.mem_flatMap.mp hmerge
  refine List.mem_flatMap.mpr ⟨p, hp, ?_⟩
  cases p with
  | raw e' =>
      cases List.mem_singleton.mp hstep
      exact he
  | named params' =>
      cases List.mem_singleton.mp hstep
      exact he
  | bound v => cases List.mem_singleton.mp hstep
  | bare e' => cases hstep
  | query q => cases hstep

/-- Every parameter of a compiled statement has been stored by the builder or has come with its
name. -/
theorem carried_or_stored (h : c.compile params s = .ok out) (he : e ∈ out.params) :
    e ∈ s.carried c params ∨ e ∈ s.stored c params := by
  rw [params_eq h] at he
  rcases mem_run he with hold | hadded | ⟨merged, hmerge, hmem⟩
  · rcases Entries.mem_merge hold with hnil | hcaller
    · cases hnil
    · exact .inl (List.mem_append_left _ hcaller)
  · exact .inr hadded
  · exact .inl (List.mem_append_right _ (mem_flatMap_carried hmerge hmem))

theorem name_mem_of_stored (h : c.compile params s = .ok out) (he : e ∈ s.stored c params) :
    e.1 ∈ out.params.names := by
  refine (mem_params_iff h e.1).mpr (.inr (.inl ?_))
  rw [Statement.generated, ← names_added]
  exact List.mem_map_of_mem he

theorem name_mem_of_carried (h : c.compile params s = .ok out) (he : e ∈ s.carried c params) :
    e.1 ∈ out.params.names := by
  rw [mem_params_iff h]
  rcases List.mem_append.mp he with he | he
  · exact .inl (List.mem_map_of_mem he)
  · obtain ⟨p, hp, hmem⟩ := List.mem_flatMap.mp he
    refine .inr (.inr ⟨p, hp, ?_⟩)
    cases p with
    | raw e' => exact List.mem_map_of_mem hmem
    | named params' => exact List.mem_map_of_mem hmem
    | bound v => cases hmem
    | bare e' => cases hmem
    | query q => cases hmem

/-- Stored values have generated names, which differ even without their colons. -/
theorem stored_bareName_injective (hmark : IsColonMark c.mark) {e e' : String × Value}
    (he : e ∈ s.stored c params) (he' : e' ∈ s.stored c params)
    (hname : bareName e.1 = bareName e'.1) : e = e' := by
  have hnames : (s.stored c params).names = (run (s.steps c) (.ofEntries c.mark params)).1 :=
    names_added _ _
  have hnodup : (s.stored c params).names.Nodup := by
    rw [hnames]
    exact (nodup_run_names _ _).1
  have hgenerated {e : String × Value} (he : e ∈ s.stored c params) :
      ∃ n, e.1 = ParamTable.nameOf c.mark n := by
    have hmem : e.1 ∈ (s.stored c params).names := List.mem_map_of_mem he
    rw [hnames] at hmem
    exact exists_nameOf_of_mem_run hmem
  obtain ⟨m, hm⟩ := hgenerated he
  obtain ⟨n, hn⟩ := hgenerated he'
  rw [hm, hn] at hname
  have hnumber : m = n := bareName_nameOf_injective hmark hname
  exact List.inj_on_of_nodup_map hnodup he he' (by rw [hm, hn, hnumber])

/-- No two parameters have the same name without their colons, if that holds of those that came with
their names and none of these is a stored name with other colons. -/
theorem nodup_bareNames (h : c.compile params s = .ok out) (hmark : IsColonMark c.mark)
    (hcarried : ∀ e ∈ s.carried c params, ∀ e' ∈ s.carried c params,
      bareName e.1 = bareName e'.1 → e = e')
    (hapart : ∀ e ∈ s.stored c params, ∀ e' ∈ s.carried c params,
      bareName e'.1 = bareName e.1 → e'.1 = e.1) :
    (out.params.names.map bareName).Nodup := by
  have hnames : out.params.names.Nodup := by
    rw [params_eq h]
    exact distinct_run _ (ParamTable.distinct_ofEntries c.mark params)
  refine List.Nodup.map_on ?_ hnames
  rintro _ hx _ hy hname
  obtain ⟨e, he, rfl⟩ := List.mem_map.mp hx
  obtain ⟨e', he', rfl⟩ := List.mem_map.mp hy
  -- Each of the two has come with its name or has been stored.
  rcases carried_or_stored h he with he | he <;> rcases carried_or_stored h he' with he' | he'
  · rw [hcarried e he e' he' hname]
  · exact hapart e' he' e he hname
  · exact (hapart e he e' he' hname.symm).symm
  · rw [stored_bareName_injective hmark he he' hname]

/-- Suppose that the names which the caller and the description give differ without their colons.
Then all parameters of a statement are bound, the stored values and those that came with names, each
under a name of its own, exactly in this case: a name that came with a value is no generated name
without its colons, or else it is a generated name with that very value; and what the builder leaves
behind is bound all the same. -/
theorem all_bound_iff (h : c.compile params s = .ok out) (hmark : IsColonMark c.mark)
    (hcaller : ∀ e ∈ s.carried c params ++ s.leftBehind c,
      ∀ e' ∈ s.carried c params ++ s.leftBehind c, bareName e.1 = bareName e'.1 → e = e') :
    let bound := (Binding.ofParams out.params).entries
    (bound.names.Nodup ∧ bound.length = out.params.length ∧
      ∀ e ∈ s.stored c params ++ s.carried c params ++ s.leftBehind c,
        (bareName e.1, e.2.bound) ∈ bound) ↔
    (∀ e ∈ s.stored c params, ∀ e' ∈ s.carried c params, bareName e'.1 = bareName e.1 →
      e'.1 = e.1 ∧ e'.2.bound = e.2.bound) ∧
    ∀ e ∈ s.leftBehind c, e ∈ s.carried c params ∨
      ∃ e' ∈ s.stored c params, bareName e'.1 = bareName e.1 ∧ e'.2.bound = e.2.bound := by
  intro bound
  constructor
  · rintro ⟨hnodup, hlength, hheld⟩
    have hbare : (out.params.names.map bareName).Nodup :=
      (Binding.nodup_ofParams_iff out.params).mp ⟨hnodup, hlength⟩
    refine ⟨fun e he e' he' hname => ⟨?_, ?_⟩, fun e he => ?_⟩
    · exact List.inj_on_of_nodup_map hbare (name_mem_of_carried h he') (name_mem_of_stored h he)
        hname
    · have hstored := hheld e (List.mem_append_left _ (List.mem_append_left _ he))
      have hcarried := hheld e' (List.mem_append_left _ (List.mem_append_right _ he'))
      rw [hname] at hcarried
      exact Binding.eq_of_mem_entries hnodup hcarried hstored
    · -- What is bound under the name comes from a parameter of the statement.
      obtain ⟨x, hx, hname, hvalue⟩ :=
        Binding.exists_of_mem_ofParams hbare (hheld e (List.mem_append_right _ he))
      rcases carried_or_stored h hx with hcarried | hstored
      · obtain rfl : x = e := hcaller x (List.mem_append_left _ hcarried) e
          (List.mem_append_right _ he) hname
        exact .inl hcarried
      · exact .inr ⟨x, hstored, hname, hvalue⟩
  · rintro ⟨hapart, hleft⟩
    have hcarriers : ∀ e ∈ s.carried c params, ∀ e' ∈ s.carried c params,
        bareName e.1 = bareName e'.1 → e = e' := fun e he e' he' =>
      hcaller e (List.mem_append_left _ he) e' (List.mem_append_left _ he')
    have hbare : (out.params.names.map bareName).Nodup :=
      nodup_bareNames h hmark hcarriers fun e he e' he' hname => (hapart e he e' he' hname).1
    obtain ⟨hnodup, hlength⟩ := (Binding.nodup_ofParams_iff out.params).mpr hbare
    -- A stored value can be replaced under its own name only, by one that is bound alike.
    have hstored : ∀ e ∈ s.stored c params, (bareName e.1, e.2.bound) ∈ bound := by
      refine fun e he => Binding.mem_ofParams hbare (name_mem_of_stored h he) fun x hx hname => ?_
      rcases carried_or_stored h hx with hx | hx
      · exact (hapart e he x hx (by rw [hname])).2
      · rw [stored_bareName_injective hmark hx he (by rw [hname])]
    have hcarried : ∀ e ∈ s.carried c params, (bareName e.1, e.2.bound) ∈ bound := by
      refine fun e he => Binding.mem_ofParams hbare (name_mem_of_carried h he) fun x hx hname => ?_
      rcases carried_or_stored h hx with hx | hx
      · rw [hcarriers x hx e he (by rw [hname])]
      · exact (hapart x hx e he (by rw [hname])).2.symm
    refine ⟨hnodup, hlength, fun e he => ?_⟩
    rcases List.mem_append.mp he with he | he
    · exact (List.mem_append.mp he).elim (hstored e) (hcarried e)
    · rcases hleft e he with hmem | ⟨e', he', hname, hvalue⟩
      · exact hcarried e hmem
      · rw [← hname, ← hvalue]
        exact hstored e' he'

/-- A condition with a value to bind and an expression with a parameter of its own. -/
def namedCondition : Value :=
  .cond .and [.hash [("a", .int 1)], .expr ⟨"b = :b", [(":b", .int 2)]⟩]

/-- The caller, the builder and the expression give three names, and all three are bound. -/
theorem all_bound_iff_tagged :
    Compiler.compile { dialect := .standard .ansi } [(":tag", .text "x")]
        (.condition namedCondition)
      = .ok ⟨"(\"a\"=:qp1) AND (b = :b)",
          [(":tag", .text "x"), (":qp1", .int 1), (":b", .int 2)], "ansi"⟩ ∧
    let bound := (Binding.ofParams
      [(":tag", .text "x"), (":qp1", .int 1), (":b", .int 2)]).entries
    bound.names.Nodup ∧ bound.length = 3 ∧
      ∀ e ∈ [(":qp1", Value.int 1), (":tag", .text "x"), (":b", .int 2)],
        (bareName e.1, e.2.bound) ∈ bound := by
  have hmark : IsColonMark ":qp" := ⟨['q', 'p'], rfl, List.all_eq_true.mp rfl⟩
  refine ⟨rfl, (@all_bound_iff { dialect := .standard .ansi } [(":tag", .text "x")]
    (.condition namedCondition) _ rfl hmark ?_).mpr ⟨?_, nofun⟩⟩
  · show ∀ e ∈ [(":tag", Value.text "x"), (":b", .int 2)],
      ∀ e' ∈ [(":tag", Value.text "x"), (":b", .int 2)], bareName e.1 = bareName e'.1 → e = e'
    have hnames : ([(":tag", Value.text "x"), (":b", .int 2)].map fun e => bareName e.1).Nodup := by
      decide
    exact fun e he e' he' hname => List.inj_on_of_nodup_map hnames he he' hname
  · show ∀ e ∈ [(":qp1", Value.int 1)], ∀ e' ∈ [(":tag", Value.text "x"), (":b", .int 2)],
      bareName e'.1 = bareName e.1 → e'.1 = e.1 ∧ e'.2.bound = e.2.bound
    simp only [List.forall_mem_cons]
    exact ⟨⟨fun h => absurd h (by decide), fun h => absurd h (by decide), nofun⟩, nofun⟩

/-- A name of the caller without a colon can be the one that the engine knows a stored value by. -/
theorem not_always_bound :
    ¬ ∀ (c : Compiler) (params : Entries Value) (s : Statement) (out : Compiled),
      c.compile params s = .ok out → IsColonMark c.mark →
      (∀ e ∈ s.carried c params ++ s.leftBehind c,
        ∀ e' ∈ s.carried c params ++ s.leftBehind c, bareName e.1 = bareName e'.1 → e = e') →
      (Binding.ofParams out.params).entries.length = out.params.length := by
  intro hbound
  have hmark : IsColonMark ":qp" := ⟨['q', 'p'], rfl, List.all_eq_true.mp rfl⟩
  have h := hbound { dialect := .standard .ansi } [("qp1", .int 5)]
    (.condition (.hash [("a", .int 1)]))
    ⟨"\"a\"=:qp1", [("qp1", .int 5), (":qp1", .int 1)], "ansi"⟩ rfl hmark ?_
  · -- Both parameters are bound under the name without a colon.
    exact absurd h (by decide)
  · show ∀ e ∈ [("qp1", Value.int 5)], ∀ e' ∈ [("qp1", Value.int 5)],
      bareName e.1 = bareName e'.1 → e = e'
    simp

end Compiled

end SqlLoom
