import Mathlib.Data.List.Forall2
import SqlLoom.Proofs.Fragment.Join

/-!
# `SqlLoom.Proofs.Fragment.Alike`: fragments that differ in bound values only

Two fragments are alike if they have the same text with the same slots, and the same table steps
but for the values that are added. The operations on fragments keep this, since none of them looks
at a value (`Alike.append`, `Alike.join`, `Alike.joinShown`, …).

* `Alike.bind_eq`: over tables with the same names, fragments that are alike give the same text and
  leave the same names in the same order.
-/

set_option autoImplicit false

namespace SqlLoom

/-- A table step without the value that it adds. -/
def TableStep.anonymous : TableStep → TableStep
  | .add _ => .add .null
  | .merge params => .merge params

namespace Fragment

/-- The fragments differ in nothing but the values that they add. -/
structure Alike (f g : Fragment) : Prop where
  steps : f.steps.map TableStep.anonymous = g.steps.map TableStep.anonymous
  pieces : f.pieces = g.pieces

namespace Alike

theorem refl (f : Fragment) : Alike f f := ⟨rfl, rfl⟩

theorem bound (v w : Value) : Alike (.bound v) (.bound w) := ⟨rfl, rfl⟩

theorem append {f f' g g' : Fragment} (hf : Alike f f') (hg : Alike g g') :
    Alike (f ++ g) (f' ++ g') where
  steps := by
    rw [append_steps, append_steps, List.map_append, List.map_append, hf.steps, hg.steps]
  pieces := by rw [append_pieces, append_pieces, hf.pieces, hg.pieces]

theorem afterStepsOf (name : Fragment) {f f' : Fragment} (hf : Alike f f') :
    Alike (name.afterStepsOf f) (name.afterStepsOf f') where
  steps := by
    show (f.steps ++ name.steps).map _ = (f'.steps ++ name.steps).map _
    rw [List.map_append, List.map_append, hf.steps]
  pieces := by
    show name.pieces ++ f.pieces = name.pieces ++ f'.pieces
    rw [hf.pieces]

theorem withoutText {f f' : Fragment} (hf : Alike f f') : Alike f.withoutText f'.withoutText :=
  ⟨hf.steps, rfl⟩

theorem isEmpty_eq {f f' : Fragment} (hf : Alike f f') : f.isEmpty = f'.isEmpty := by
  rw [isEmpty, isEmpty, hf.pieces]

theorem parens {f f' : Fragment} (hf : Alike f f') : Alike f.parens f'.parens :=
  ((refl _).append hf).append (refl _)

theorem headed (keyword : String) {f f' : Fragment} (hf : Alike f f') :
    Alike (f.headed keyword) (f'.headed keyword) := by
  rw [Fragment.headed, Fragment.headed, hf.isEmpty_eq]
  split
  · exact hf
  · exact (refl _).append hf

theorem join (sep : String) {fs gs : List Fragment} (h : List.Forall₂ Alike fs gs) :
    Alike (Fragment.join sep fs) (Fragment.join sep gs) := by
  induction h with
  | nil => exact refl _
  | cons hfirst hrest ih =>
      cases hrest with
      | nil =>
          rw [join_singleton, join_singleton]
          exact hfirst
      | cons _ _ =>
          rw [join_cons_cons, join_cons_cons]
          exact (hfirst.append (refl _)).append ih

/-- The same members are shown on both sides. -/
theorem isEmpty_shown {fs gs : List Fragment} (h : List.Forall₂ Alike fs gs) :
    (fs.filter fun f => !f.isEmpty).isEmpty = (gs.filter fun g => !g.isEmpty).isEmpty := by
  induction h with
  | nil => rfl
  | cons hfirst _ ih =>
      rw [List.filter_cons, List.filter_cons, hfirst.isEmpty_eq]
      split
      · rfl
      · exact ih

theorem joinShown (sep : String) {fs gs : List Fragment} (h : List.Forall₂ Alike fs gs) :
    Alike (Fragment.joinShown sep fs) (Fragment.joinShown sep gs) := by
  induction h with
  | nil => exact refl _
  | cons hfirst hrest ih =>
      rw [joinShown_cons, joinShown_cons, hfirst.isEmpty_eq, isEmpty_shown hrest]
      split
      · exact hfirst.withoutText.append ih
      · split
        · exact hfirst.append ih
        · exact (hfirst.append (refl _)).append ih

theorem grouped (op : String) {fs gs : List Fragment} (h : List.Forall₂ Alike fs gs) :
    Alike (Fragment.grouped op fs) (Fragment.grouped op gs) := by
  have hbody := joinShown (") " ++ op ++ " (") h
  rw [Fragment.grouped, Fragment.grouped, hbody.isEmpty_eq]
  split
  · exact hbody
  · exact hbody.parens

end Alike

/-! ### Runs over tables with the same names -/

/-- Both tables have the same names in the same order, and generate names alike. -/
structure SameNames (t u : ParamTable) : Prop where
  mark : t.mark = u.mark
  names : t.entries.names = u.entries.names

theorem SameNames.freshName_eq {t u : ParamTable} (h : SameNames t u) :
    t.freshName = u.freshName := by
  have hlength : t.entries.length = u.entries.length := by
    have hnames := congrArg List.length h.names
    rwa [Entries.names, Entries.names, List.length_map, List.length_map] at hnames
  have hhas : ∀ name, t.entries.has name = u.entries.has name := by
    intro name
    rw [Bool.eq_iff_iff, Entries.has_iff_mem_names, Entries.has_iff_mem_names, h.names]
  -- The search asks for nothing but whether names are taken.
  have hsearch : ∀ tries n, ParamTable.firstFree t.mark t.entries tries n
      = ParamTable.firstFree u.mark u.entries tries n := by
    intro tries
    induction tries with
    | zero => intro n; rw [ParamTable.firstFree, ParamTable.firstFree, h.mark]
    | succ tries ih =>
        intro n
        rw [ParamTable.firstFree, ParamTable.firstFree, ih, h.mark, hhas]
  rw [ParamTable.freshName, ParamTable.freshName, hlength]
  exact hsearch _ _

theorem SameNames.add {t u : ParamTable} (h : SameNames t u) (v w : Value) :
    SameNames (t.add v).2 (u.add w).2 := by
  refine ⟨h.mark, ?_⟩
  rw [ParamTable.names_add, ParamTable.names_add, h.names, h.freshName_eq]

theorem SameNames.merge {t u : ParamTable} (h : SameNames t u) (params : Entries Value) :
    SameNames (t.merge params) (u.merge params) := by
  -- Where a name goes depends on the names alone.
  refine ⟨h.mark, ?_⟩
  have hnames : ∀ es fs : Entries Value, es.names = fs.names →
      (es.merge params).names = (fs.merge params).names := by
    induction params with
    | nil => exact fun es fs h => h
    | cons e rest ih =>
        intro es fs heq
        refine ih _ _ ?_
        rw [Entries.names_put, Entries.names_put, heq]
  exact hnames _ _ h.names

/-- Steps that differ in added values only give the same names. -/
theorem SameNames.run {ss ts : List TableStep}
    (hsteps : ss.map TableStep.anonymous = ts.map TableStep.anonymous) {t u : ParamTable}
    (h : SameNames t u) :
    (run ss t).1 = (run ts u).1 ∧ SameNames (run ss t).2 (run ts u).2 := by
  induction ss generalizing ts t u with
  | nil =>
      cases ts with
      | nil => exact ⟨rfl, h⟩
      | cons s rest => cases hsteps
  | cons s rest ih =>
      cases ts with
      | nil => cases hsteps
      | cons s' rest' =>
          rw [List.map_cons, List.map_cons] at hsteps
          obtain ⟨hfirst, hrest⟩ := List.cons.inj hsteps
          cases s with
          | add v =>
              cases s' with
              | merge params => cases hfirst
              | add w =>
                  -- Both values come under the same fresh name.
                  obtain ⟨hnames, htable⟩ := ih hrest (h.add v w)
                  rw [run_add, run_add, hnames, h.freshName_eq]
                  exact ⟨rfl, htable⟩
          | merge params =>
              cases s' with
              | add w => cases hfirst
              | merge params' =>
                  cases hfirst
                  exact ih hrest (h.merge params)

/-- Over one table, fragments that are alike give the same text and the same names. -/
theorem Alike.bind_eq {f g : Fragment} (h : Alike f g) (t : ParamTable) :
    (f.bind t).1 = (g.bind t).1 ∧ (f.bind t).2.entries.names = (g.bind t).2.entries.names := by
  obtain ⟨hnames, htable⟩ := SameNames.run h.steps (t := t) (u := t) ⟨rfl, rfl⟩
  refine ⟨?_, htable.names⟩
  show String.join (fill f.pieces _) = String.join (fill g.pieces _)
  rw [h.pieces, hnames]

end Fragment

end SqlLoom
