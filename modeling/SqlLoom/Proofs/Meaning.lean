import SqlLoom.Proofs.Logic
import SqlLoom.Proofs.Reading
import SqlLoom.Proofs.Tests

/-!
# `SqlLoom.Proofs.Meaning`: fragments that say what a formula says

A text spells a formula over tests (`Spells`) when it is the formula as it is written, each test
with the text of its own fragment, and is read as that formula again. A fragment says what a
formula says (`Fragment.Says`) when it is empty exactly where there is no formula, and when over
every table its text spells a formula with the same truth value, whatever holds of a row.

Every operation that the compiler puts conditions together with keeps this: `Says.grouped` leaves
out what is empty, as `Formula.shown` does, and `Says.negation` passes an empty operand on.

To be read again the texts of the tests have to be balanced, which is the parameter `level`.
-/

set_option autoImplicit false

namespace SqlLoom

open Fragment

variable {d : Dialect} {level : Prop}

/-! ### Texts inside a text -/

/-- The text that a fragment has as a part of others: the steps are taken over `t` in a row, and
those of the part are among them. -/
def Fragment.BoundIn (steps : List TableStep) (t : ParamTable) (g : Fragment) (s : String) : Prop :=
  ∃ before after, steps = before ++ g.steps ++ after ∧ s = (g.bind (run before t).2).1

namespace Fragment.BoundIn

variable {ss : List TableStep} {t : ParamTable} {g : Fragment} {s : String}

theorem self (g : Fragment) (t : ParamTable) : BoundIn g.steps t g (g.bind t).1 :=
  ⟨[], [], (List.append_nil _).symm, rfl⟩

/-- With other steps first. -/
theorem after (before : List TableStep) (h : BoundIn ss (run before t).2 g s) :
    BoundIn (before ++ ss) t g s := by
  obtain ⟨first, last, rfl, hs⟩ := h
  refine ⟨before ++ first, last, by simp, ?_⟩
  rw [hs, run_append]

/-- With other steps behind. -/
theorem before (rest : List TableStep) (h : BoundIn ss t g s) : BoundIn (ss ++ rest) t g s := by
  obtain ⟨first, last, rfl, hs⟩ := h
  exact ⟨first, last ++ rest, by simp, hs⟩

end Fragment.BoundIn

/-! ### Spelled formulas -/

/-- The truth value of a formula whose tests have texts. -/
def Formula.truth (ρ : Valuation) (W : Formula (String × Test)) : Bool :=
  W.holds fun leaf => leaf.2.holds ρ

/-- The text spells the formula: it is what the formula is written as, and is read as the formula,
and the texts of the tests come from their fragments. -/
structure Spells (d : Dialect) (level : Prop) (steps : List TableStep) (t : ParamTable)
    (W : Formula (String × Test)) (s : String) : Prop where
  written : s = (W.map Prod.fst).written
  bound : ∀ leaf ∈ W.leaves, ∃ g, leaf.2.fragment d = .ok g ∧ BoundIn steps t g leaf.1
  balanced : level → Text.Balanced s.toList
  read : level → Text.read s.toList = W.map fun leaf => leaf.1.toList

/-- No mark of a test is a parenthesis or stands around conditions that are put together. -/
theorem testMarks_apart {c : Char} (hc : c ∈ testMarks) : Text.isParen c = false ∧
    c ∉ "NOT ".toList ∧ c ∉ Text.between .all ∧ c ∉ Text.between .any := by
  rw [testMarks, List.mem_cons, List.mem_cons, List.mem_singleton] at hc
  rcases hc with rfl | rfl | rfl <;> decide

/-- The text of a test is read as a test. -/
theorem Fragment.Tests.shape {f : Fragment} (h : f.Tests level) (hlevel : level) {t : ParamTable}
    (hmark : Text.Balanced t.mark.toList) : Text.shape (f.bind t).1.toList = .test := by
  -- The mark stands behind a text that closes what it opens, whatever the names of the parameters.
  obtain ⟨before, mark, after, htokens, hmem, hbefore⟩ := h
  obtain ⟨left, hspell⟩ := spell_append before (some mark :: after) (run f.steps t).1
  rw [bind, toList_join_fill, htokens, hspell, spell]
  have hlevels : Text.Balanced (spell before (run f.steps t).1) := by
    rw [Text.balanced_iff, depthAfter_spell 0 before (balanced_run_names f.steps hmark)]
    exact (hbefore hlevel).depthAfter 0
  obtain ⟨hparen, hnot, hall, hany⟩ := testMarks_apart hmem
  apply Text.shape_of_mark hlevels hparen hnot
  intro j
  cases j with
  | all => exact hall
  | any => exact hany

namespace Spells

variable {steps : List TableStep} {t : ParamTable}

theorem mono {other : List TableStep} {u : ParamTable} {W : Formula (String × Test)} {s : String}
    (h : Spells d level steps t W s)
    (hbound : ∀ g text, BoundIn steps t g text → BoundIn other u g text) :
    Spells d level other u W s where
  written := h.written
  bound := fun leaf hleaf =>
    let ⟨g, hg, hin⟩ := h.bound leaf hleaf
    ⟨g, hg, hbound g leaf.1 hin⟩
  balanced := h.balanced
  read := h.read

theorem test {test : Test} {f : Fragment} (hf : test.fragment d = .ok f) (htests : f.Tests level)
    (hpaired : level → f.Paired) (hmark : level → Text.Balanced t.mark.toList) :
    Spells d level f.steps t (.test ((f.bind t).1, test)) (f.bind t).1 where
  written := rfl
  bound := fun leaf hleaf => by
    cases List.mem_singleton.mp hleaf
    exact ⟨f, hf, .self f t⟩
  balanced := fun hlevel => (hpaired hlevel).bind (hmark hlevel)
  read := fun hlevel => Text.read_of_test (htests.shape hlevel (hmark hlevel))

/-- Nothing is the group of no conditions. -/
theorem nothing : Spells d level steps t (.group .all []) "" where
  written := by simp [Formula.writtenGroup]
  bound := fun leaf hleaf => by simp at hleaf
  balanced := fun _ => .nil
  read := fun _ => by
    rw [Text.read_of_group (s := "".toList) rfl]
    simp

theorem negation {W : Formula (String × Test)} {s : String} (h : Spells d level steps t W s) :
    Spells d level steps t (.negation W) ("NOT (" ++ s ++ ")") where
  written := by rw [Formula.map_negation, Formula.written_negation, ← h.written]
  bound := h.bound
  balanced := fun hlevel => Text.balanced_negation (h.balanced hlevel)
  read := fun hlevel => by
    rw [Text.read_of_negation (Text.shape_negation (h.balanced hlevel)), h.read hlevel]
    rfl

/-- What is true of formulas and the texts that spell them, one by one. -/
theorem each {Ws : List (Formula (String × Test))} {texts : List String}
    (h : List.Forall₂ (Spells d level steps t) Ws texts) :
    texts = Ws.map (fun W => (W.map Prod.fst).written) ∧
    (∀ leaf ∈ Ws.flatMap Formula.leaves,
      ∃ g, leaf.2.fragment d = .ok g ∧ BoundIn steps t g leaf.1) ∧
    (level → AllBalanced texts) ∧
    (level → texts.map (fun s => Text.read s.toList)
      = Ws.map fun W => W.map fun leaf => leaf.1.toList) := by
  induction h with
  | nil => exact ⟨rfl, fun _ hleaf => absurd hleaf List.not_mem_nil, fun _ => allBalanced_nil,
      fun _ => rfl⟩
  | cons hW _ ih =>
      obtain ⟨hwritten, hbound, hbalanced, hread⟩ := ih
      refine ⟨?_, ?_, ?_, ?_⟩
      · rw [List.map_cons, ← hW.written, ← hwritten]
      · intro leaf hleaf
        rw [List.flatMap_cons] at hleaf
        exact (List.mem_append.mp hleaf).elim (hW.bound leaf) (hbound leaf)
      · intro hlevel
        exact (allBalanced_cons _ _).mpr ⟨hW.balanced hlevel, hbalanced hlevel⟩
      · intro hlevel
        rw [List.map_cons, List.map_cons, hW.read hlevel, hread hlevel]

theorem group (j : Junction) {Ws : List (Formula (String × Test))} {texts : List String}
    (h : List.Forall₂ (Spells d level steps t) Ws texts) (hne : texts ≠ []) :
    Spells d level steps t (.joined j Ws) (Formula.writtenGroup j texts) where
  written := by
    rw [Formula.map_joined, Formula.written_joined, List.map_map, (each h).1]
    rfl
  bound := by
    rw [Formula.joined, Formula.leaves_group]
    exact (each h).2.1
  balanced := fun hlevel => by
    rw [Formula.writtenGroup, if_neg (by simpa using hne), Text.toList_group _ hne]
    exact Text.balanced_group (Text.flat_keyword j) ((each h).2.2.1 hlevel)
  read := fun hlevel => by
    obtain ⟨-, -, hbalanced, hread⟩ := each h
    rw [Text.read_of_group (Text.shape_writtenGroup j hne (hbalanced hlevel)), List.map_map,
      Formula.map_joined, Formula.joined, ← hread hlevel, List.length_map]
    rfl

end Spells

/-! ### What fragments say -/

/-- The fragment is empty where there is no formula, and else its text spells over every table a
formula with the same truth value. -/
structure Fragment.Says (d : Dialect) (mark : String) (level : Prop)
    (G? : Option (Formula Test)) (f : Fragment) : Prop where
  balanced : f.Balanced
  isEmpty : f.isEmpty = G?.isNone
  spells : ∀ G, G? = some G → ∀ t : ParamTable, t.mark = mark →
    ∃ W, Spells d level f.steps t W (f.bind t).1 ∧ ∀ ρ, W.truth ρ = G.holds (Test.holds ρ)

namespace Fragment.Says

variable {mark : String} {G? : Option (Formula Test)} {f : Fragment}

/-- A formula with the same truth values. -/
theorem congr {F G : Formula Test} (h : Says d mark level (some F) f)
    (hholds : ∀ ρ, F.holds (Test.holds ρ) = G.holds (Test.holds ρ)) :
    Says d mark level (some G) f where
  balanced := h.balanced
  isEmpty := h.isEmpty
  spells := fun G' hG t ht => by
    cases hG
    obtain ⟨W, hW, htruth⟩ := h.spells F rfl t ht
    exact ⟨W, hW, fun ρ => (htruth ρ).trans (hholds ρ)⟩

/-- Nothing is said by the empty fragment. -/
theorem empty : Says d mark level none Fragment.empty where
  balanced := rfl
  isEmpty := rfl
  spells := fun G hG => by cases hG

/-- A test says itself, if it says anything. -/
theorem test {test : Test} (hf : test.fragment d = .ok f) (hbalanced : f.Balanced)
    (hblank : test.isBlank = true → f.isEmpty = true)
    (htests : test.isBlank = false → f.Tests level) (hpaired : level → f.Paired)
    (hmark : level → Text.Balanced mark.toList) :
    Says d mark level ((Formula.test test).shown Test.isBlank) f := by
  rw [Formula.shown_test]
  split
  · rename_i h
    exact ⟨hbalanced, hblank h, fun G hG => by cases hG⟩
  · rename_i h
    have hshown := htests ((Bool.not_eq_true _).mp h)
    refine ⟨hbalanced, hshown.isEmpty, ?_⟩
    intro G hG t ht
    cases hG
    exact ⟨_, .test hf hshown hpaired (ht ▸ hmark), fun ρ => rfl⟩

theorem negation (h : Says d mark level G? f) :
    Says d mark level (G?.map .negation) (negation f) where
  balanced := h.balanced.negation
  isEmpty := by rw [isEmpty_negation, h.isEmpty, Option.isNone_map]
  spells := fun G hG t ht => by
    obtain ⟨F, hF, rfl⟩ := Option.map_eq_some_iff.mp hG
    obtain ⟨W, hW, htruth⟩ := h.spells F hF t ht
    have hne : (f.bind t).1 ≠ "" := by
      rw [Ne, bind_eq_empty_iff h.balanced, h.isEmpty, hF]
      exact Bool.false_ne_true
    refine ⟨.negation W, ?_, fun ρ => congrArg not (htruth ρ)⟩
    rw [bind_negation h.balanced t hne, steps_negation]
    exact hW.negation

variable {Gs? : List (Option (Formula Test))} {fs : List Fragment}

theorem forall_balanced (h : List.Forall₂ (Says d mark level) Gs? fs) : ∀ f ∈ fs, f.Balanced := by
  induction h with
  | nil => exact fun f hf => absurd hf List.not_mem_nil
  | cons hf _ ih => exact List.forall_mem_cons.mpr ⟨hf.balanced, ih⟩

theorem all_isEmpty (h : List.Forall₂ (Says d mark level) Gs? fs) :
    fs.all Fragment.isEmpty = Gs?.reduceOption.isEmpty := by
  induction h with
  | nil => rfl
  | @cons G? f _ _ hf _ ih =>
      rw [List.all_cons, hf.isEmpty, ih]
      cases G? with
      | none => rfl
      | some G => rfl

/-- The texts that are not empty spell the formulas that are there, one by one. -/
theorem spells_shownTexts (h : List.Forall₂ (Says d mark level) Gs? fs) (t : ParamTable)
    (ht : t.mark = mark) :
    ∃ Ws, List.Forall₂ (Spells d level (fs.flatMap steps) t) Ws (shownTexts fs t) ∧
      ∀ ρ, Ws.map (Formula.truth ρ) = Gs?.reduceOption.map (Formula.holds (Test.holds ρ)) := by
  induction h generalizing t with
  | nil => exact ⟨[], .nil, fun ρ => rfl⟩
  | @cons G? f Gs? fs hf _ ih =>
      obtain ⟨Ws, hWs, htruths⟩ := ih (f.bind t).2 ((mark_bind f t).trans ht)
      -- The other fragments are bound over the table that the first one leaves.
      have hrest : List.Forall₂ (Spells d level (f.steps ++ fs.flatMap steps) t) Ws
          (shownTexts fs (f.bind t).2) :=
        hWs.imp fun W s hW => hW.mono fun g text hg => hg.after f.steps
      rw [shownTexts_cons hf.balanced, hf.isEmpty, List.flatMap_cons]
      cases G? with
      | none => exact ⟨Ws, hrest, htruths⟩
      | some G =>
          obtain ⟨W, hW, htruth⟩ := hf.spells G rfl t ht
          have hfirst := hW.mono fun g text hg => hg.before (fs.flatMap steps)
          exact ⟨W :: Ws, .cons hfirst hrest, fun ρ => congrArg₂ _ (htruth ρ) (htruths ρ)⟩

/-- A group leaves out the members that say nothing. -/
theorem grouped (j : Junction) (h : List.Forall₂ (Says d mark level) Gs? fs) :
    Says d mark level (Formula.shownGroup j Gs?) (grouped j.keyword fs) := by
  have hall := all_isEmpty h
  have hbalanced := forall_balanced h
  rw [Formula.shownGroup]
  refine ⟨.grouped _ hbalanced, ?_, fun G hG t ht => ?_⟩
  · rw [isEmpty_grouped, hall]
    cases Gs?.reduceOption.isEmpty <;> rfl
  · split at hG
    · cases hG
    · rename_i hshown
      cases hG
      obtain ⟨Ws, hWs, htruths⟩ := spells_shownTexts h t ht
      -- Some member says something, so there is a text to put in parentheses.
      have hne : shownTexts fs t ≠ [] := by
        rw [Ne, shownTexts_eq_nil_iff hbalanced]
        intro hnone
        refine hshown ?_
        rw [← hall]
        simpa using hnone
      have htext : ((Fragment.grouped j.keyword fs).bind t).1
          = Formula.writtenGroup j (shownTexts fs t) := by
        rw [bind_grouped _ hbalanced t hne, Formula.writtenGroup, if_neg (by simpa using hne)]
      refine ⟨.joined j Ws, ?_, ?_⟩
      · rw [htext, steps_grouped]
        exact .group j hWs hne
      · intro ρ
        rw [Formula.truth, Formula.holds_joined, Formula.holds_group, ← htruths ρ]
        rfl

end Fragment.Says

end SqlLoom
