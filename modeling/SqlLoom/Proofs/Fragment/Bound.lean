import SqlLoom.Proofs.Enclosed

/-!
# `SqlLoom.Proofs.Fragment.Bound`: texts of fragments in a row

Fragments in a row are bound one after another, each over the table that the one before it leaves
(`bindAll`). What combines them writes their texts and leaves out those that are empty:

* `bind_eq_empty_iff`: a fragment gives no text exactly when it shows nothing. A generated name is
  never empty.
* `bind_joinShown`, `bind_grouped`, `bind_negation`: the combinations in terms of the texts of what
  is combined.
* `isEmpty_grouped`: a combination shows nothing exactly when nothing in it shows anything.
-/

set_option autoImplicit false

namespace SqlLoom

namespace Fragment

variable {f : Fragment} {fs : List Fragment}

/-- The texts of fragments that are bound one after another. -/
def bindAll : List Fragment → ParamTable → List String
  | [], _ => []
  | f :: rest, t => (f.bind t).1 :: bindAll rest (f.bind t).2

/-- The texts that are not empty. -/
def shownTexts (fs : List Fragment) (t : ParamTable) : List String :=
  (bindAll fs t).filter (· ≠ "")

theorem bind_ofText (s : String) (t : ParamTable) : (ofText s).bind t = (s, t) := by
  show (String.join [s], t) = (s, t)
  simp

theorem mark_bind (f : Fragment) (t : ParamTable) : (f.bind t).2.mark = t.mark :=
  mark_run f.steps t

theorem bind_withoutText (f : Fragment) (t : ParamTable) :
    f.withoutText.bind t = ("", (f.bind t).2) := rfl

/-! ### Empty texts -/

/-- Names that are not empty leave no text only where there is nothing to spell. -/
theorem spell_eq_nil {ts : List (Option Char)} {names : List String}
    (hlength : names.length = ts.count none) (hnames : ∀ name ∈ names, name ≠ "")
    (h : spell ts names = []) : ts = [] := by
  cases ts with
  | nil => rfl
  | cons t rest =>
      cases t with
      | some c => cases h
      | none =>
          cases names with
          | nil => simp at hlength
          | cons name names =>
              have hname : name.toList = [] := (List.append_eq_nil_iff.mp h).1
              exact absurd (String.toList_eq_nil_iff.mp hname) (hnames name List.mem_cons_self)

/-- A generated name ends in a number. -/
theorem run_names_ne_empty (ss : List TableStep) (t : ParamTable) :
    ∀ name ∈ (run ss t).1, name ≠ "" := by
  intro name hname hempty
  obtain ⟨n, rfl⟩ := exists_nameOf_of_mem_run hname
  have hdigits := congrArg String.toList hempty
  rw [ParamTable.toList_nameOf] at hdigits
  exact Nat.toDigits_ne_nil (List.append_eq_nil_iff.mp hdigits).2

theorem bind_eq_empty_iff (hf : f.Balanced) (t : ParamTable) :
    (f.bind t).1 = "" ↔ f.isEmpty = true := by
  rw [isEmpty_iff_tokens, ← String.toList_eq_nil_iff, bind, toList_join_fill]
  constructor
  · refine spell_eq_nil ?_ (run_names_ne_empty f.steps t)
    rw [length_run_names, ← slots_eq_count, hf]
  · intro htokens
    rw [htokens]
    rfl

/-! ### Combinations -/

/-- The first text is left out where its fragment shows nothing. -/
theorem shownTexts_cons (hf : f.Balanced) (rest : List Fragment) (t : ParamTable) :
    shownTexts (f :: rest) t = if f.isEmpty then shownTexts rest (f.bind t).2
      else (f.bind t).1 :: shownTexts rest (f.bind t).2 := by
  have hempty := bind_eq_empty_iff hf t
  rw [shownTexts, bindAll, List.filter_cons]
  split
  · rename_i hshown
    rw [if_neg fun h => of_decide_eq_true hshown (hempty.mpr h)]
    rfl
  · rename_i hshown
    rw [if_pos (hempty.mp (by simpa using hshown))]
    rfl

/-- No text is shown where no fragment shows anything. -/
theorem shownTexts_eq_nil_iff (h : ∀ f ∈ fs, f.Balanced) (t : ParamTable) :
    shownTexts fs t = [] ↔ (fs.filter fun g => !g.isEmpty).isEmpty = true := by
  induction fs generalizing t with
  | nil => exact ⟨fun _ => rfl, fun _ => rfl⟩
  | cons f rest ih =>
      obtain ⟨hf, hrest⟩ := List.forall_mem_cons.mp h
      rw [shownTexts_cons hf, List.filter_cons]
      cases f.isEmpty with
      | true => exact ih hrest (f.bind t).2
      | false => simp

/-- A joined row is the texts that are not empty with the separating text between them. -/
theorem bind_joinShown (sep : String) (h : ∀ f ∈ fs, f.Balanced) (t : ParamTable) :
    ((joinShown sep fs).bind t).1 = sep.intercalate (shownTexts fs t) := by
  induction fs generalizing t with
  | nil => rfl
  | cons f rest ih =>
      obtain ⟨hf, hrest⟩ := List.forall_mem_cons.mp h
      have hlast := shownTexts_eq_nil_iff hrest (f.bind t).2
      rw [joinShown_cons, shownTexts_cons hf]
      split
      · rename_i hempty
        rw [bind_append _ _ t (hf.withoutText hempty), bind_withoutText, ih hrest,
          String.empty_append]
      · split
        · rename_i hnone
          rw [bind_append _ _ t hf, ih hrest, hlast.mpr hnone, String.intercalate_singleton,
            String.intercalate_nil, String.append_empty]
        · rename_i hmore
          obtain ⟨u, us, hus⟩ := List.exists_cons_of_ne_nil fun hnil => hmore (hlast.mp hnil)
          rw [bind_append _ _ t (hf.append (balanced_ofText sep)), bind_append _ _ t hf,
            bind_ofText, ih hrest, hus, String.intercalate_cons_cons]

theorem isEmpty_joinShown (sep : String) (fs : List Fragment) :
    (joinShown sep fs).isEmpty = fs.all isEmpty := by
  induction fs with
  | nil => rfl
  | cons f rest ih =>
      rw [List.all_cons]
      cases hf : f.isEmpty with
      | true =>
          rw [joinShown_cons, if_pos hf, isEmpty_append, ih]
          rfl
      | false => rw [isEmpty_joinShown_cons sep rest hf, Bool.false_and]

theorem steps_parens (f : Fragment) : f.parens.steps = f.steps := List.append_nil _

/-- A group takes the steps of all its members. -/
theorem steps_grouped (op : String) (fs : List Fragment) :
    (grouped op fs).steps = fs.flatMap steps := by
  rw [grouped]
  split
  · rfl
  · exact steps_parens _

theorem steps_negation (f : Fragment) : (negation f).steps = f.steps := by
  rw [negation]
  split
  · rfl
  · exact steps_parens f

theorem isEmpty_parens (f : Fragment) : f.parens.isEmpty = false := by
  rw [parens, isEmpty_append, isEmpty_append]
  rfl

theorem isEmpty_grouped (op : String) (fs : List Fragment) :
    (grouped op fs).isEmpty = fs.all isEmpty := by
  have hbody := isEmpty_joinShown (") " ++ op ++ " (") fs
  rw [grouped]
  split
  · exact hbody
  · rename_i hshown
    rw [isEmpty_parens, ← hbody]
    exact ((Bool.not_eq_true _).mp hshown).symm

theorem bind_parens (hf : f.Balanced) (t : ParamTable) :
    (f.parens.bind t).1 = "(" ++ (f.bind t).1 ++ ")" := by
  have hopen : (ofText "(").Balanced := balanced_ofText "("
  rw [parens, bind_append _ _ t (hopen.append hf), bind_append _ _ t hopen, bind_ofText,
    bind_ofText]

/-- A group is the texts that are not empty, each in parentheses, with the operator between
them. -/
theorem bind_grouped (op : String) (h : ∀ f ∈ fs, f.Balanced) (t : ParamTable)
    (hne : shownTexts fs t ≠ []) :
    ((grouped op fs).bind t).1
      = "(" ++ (") " ++ op ++ " (").intercalate (shownTexts fs t) ++ ")" := by
  have hshown : ¬(joinShown (") " ++ op ++ " (") fs).isEmpty = true := by
    rw [isEmpty_joinShown]
    intro hall
    refine hne ((shownTexts_eq_nil_iff h t).mpr ?_)
    simpa using hall
  rw [grouped, if_neg hshown, bind_parens (Balanced.joinShown _ h), bind_joinShown _ h]

theorem Balanced.parens (hf : f.Balanced) : f.parens.Balanced :=
  ((balanced_ofText "(").append hf).append (balanced_ofText ")")

theorem Balanced.grouped (op : String) (h : ∀ f ∈ fs, f.Balanced) : (grouped op fs).Balanced := by
  have hbody := Balanced.joinShown (") " ++ op ++ " (") h
  rw [Fragment.grouped]
  split
  · exact hbody
  · exact hbody.parens

theorem Balanced.negation (hf : f.Balanced) : (negation f).Balanced := by
  rw [SqlLoom.negation]
  split
  · exact hf
  · exact (balanced_ofText "NOT ").append hf.parens

theorem isEmpty_negation (f : Fragment) : (negation f).isEmpty = f.isEmpty := by
  rw [negation]
  split
  · rfl
  · rename_i hshown
    rw [isEmpty_append, isEmpty_parens, (Bool.not_eq_true _).mp hshown, Bool.and_false]

theorem bind_negation (hf : f.Balanced) (t : ParamTable) (hne : (f.bind t).1 ≠ "") :
    ((negation f).bind t).1 = "NOT (" ++ (f.bind t).1 ++ ")" := by
  rw [negation, if_neg fun hempty => hne ((bind_eq_empty_iff hf t).mpr hempty),
    bind_append _ _ t (balanced_ofText _), bind_ofText, bind_parens hf, ← String.append_assoc,
    ← String.append_assoc]
  rfl

end Fragment

end SqlLoom
