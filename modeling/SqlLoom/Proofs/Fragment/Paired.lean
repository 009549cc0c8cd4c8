import Mathlib.Data.List.ReduceOption
import SqlLoom.Proofs.Fragment.Fits
import SqlLoom.Proofs.Parentheses.Names

/-!
# `SqlLoom.Proofs.Fragment.Paired`: fragments that keep the level of parentheses

A fragment is `Paired` when its characters, the slots left out, are balanced. Every operation on
fragments keeps that, also those that write a closing parenthesis before an opening one
(`Paired.grouped`, `paired_conjunction`): around the whole there is one pair more.

Generated names have only the parentheses of their mark, so a paired fragment that is bound over a
table with a balanced mark gives a balanced text (`Paired.bind`).
-/

set_option autoImplicit false

namespace SqlLoom.Fragment

open Text (inParens)

variable {f g : Fragment} {fs : List Fragment}

/-- The characters of a fragment, without the slots. -/
def letters (f : Fragment) : List Char := (tokens f.pieces).reduceOption

/-- The characters around the slots are balanced. -/
def Paired (f : Fragment) : Prop := Text.Balanced f.letters

@[simp]
theorem letters_append (f g : Fragment) : (f ++ g).letters = f.letters ++ g.letters := by
  rw [letters, append_pieces, tokens_append, List.reduceOption_append]
  rfl

@[simp]
theorem letters_ofText (s : String) : (ofText s).letters = s.toList := by
  rw [letters, tokens_ofText, List.reduceOption, List.filterMap_map]
  exact List.filterMap_some

theorem letters_parens (f : Fragment) : f.parens.letters = inParens f.letters := by
  rw [parens, letters_append, letters_append, letters_ofText, letters_ofText]
  rfl

theorem letters_join (sep : String) (fs : List Fragment) :
    (join sep fs).letters = List.intercalate sep.toList (fs.map letters) := by
  induction fs with
  | nil => rfl
  | cons f rest ih =>
      cases rest with
      | nil => simp
      | cons g rest =>
          rw [join_cons_cons, letters_append, letters_append, letters_ofText, ih, List.map_cons,
            List.map_cons, List.map_cons, List.intercalate_cons_cons]

/-- A fragment without text has no characters. -/
theorem letters_of_isEmpty (h : f.isEmpty = true) : f.letters = [] := by
  rw [letters, (isEmpty_iff_tokens f).mp h]
  rfl

/-- Several tests of a hash are put together as the operands of AND are. -/
theorem conjunction_cons_cons (f g : Fragment) (rest : List Fragment) :
    conjunction (f :: g :: rest) = (join (") " ++ "AND" ++ " (") (f :: g :: rest)).parens := by
  have hwords : ") AND (" = ") " ++ "AND" ++ " (" := rfl
  rw [← hwords]
  rfl

/-! ### Closure -/

theorem paired_empty : empty.Paired := .nil

theorem paired_bound (v : Value) : (bound v).Paired := .nil

theorem paired_merging (params : Entries Value) : (merging params).Paired := .nil

theorem paired_ofText {s : String} (h : Text.Balanced s.toList) : (ofText s).Paired := by
  rwa [Paired, letters_ofText]

theorem paired_ofExpression {e : Expression} (h : Text.Balanced e.text.toList) :
    (ofExpression e).Paired :=
  paired_ofText h

theorem paired_of_isEmpty (h : f.isEmpty = true) : f.Paired := by
  rw [Paired, letters_of_isEmpty h]
  exact .nil

namespace Paired

theorem append (hf : f.Paired) (hg : g.Paired) : (f ++ g).Paired := by
  rw [Paired, letters_append]
  exact Text.Balanced.append hf hg

theorem afterStepsOf (hf : f.Paired) (hg : g.Paired) : (f.afterStepsOf g).Paired := hf.append hg

theorem textOnly (hf : f.Paired) : f.textOnly.Paired := hf

theorem withoutText (f : Fragment) : (⟨f.steps, []⟩ : Fragment).Paired := .nil

theorem parens (hf : f.Paired) : f.parens.Paired := by
  rw [Paired, letters_parens]
  exact Text.Balanced.inParens hf

/-- A fragment between a text that opens one pair and a text that closes it. -/
theorem between {s t : String} (hs : Text.depthAfter 0 s.toList = some 1) (hf : f.Paired)
    (ht : Text.depthAfter 1 t.toList = some 0) : (ofText s ++ f ++ ofText t).Paired := by
  rw [Paired, Text.balanced_iff, letters_append, letters_append, letters_ofText, letters_ofText,
    Text.depthAfter_append, Text.depthAfter_append, hs, Option.bind_some, hf.depthAfter]
  exact ht

theorem join {sep : String} (hsep : Text.Balanced sep.toList) (h : ∀ f ∈ fs, f.Paired) :
    (join sep fs).Paired := by
  rw [Paired, letters_join]
  refine Text.Balanced.intercalate hsep fun s hs => ?_
  obtain ⟨f, hf, rfl⟩ := List.mem_map.mp hs
  exact h f hf

/-- The text is that of the fragments that have one. -/
theorem joinShown {sep : String} (hsep : Text.Balanced sep.toList) (h : ∀ f ∈ fs, f.Paired) :
    (joinShown sep fs).Paired := by
  have hshown : ∀ f ∈ fs.filter (fun f => !f.isEmpty), f.Paired :=
    fun f hf => h f (List.mem_of_mem_filter hf)
  exact Paired.join hsep hshown

/-- Fragments with a closing and an opening parenthesis around the operator between them, and one
pair around the whole. -/
theorem joinParens {op : String} (hop : Text.Balanced op.toList) (h : ∀ f ∈ fs, f.Paired) :
    (Fragment.join (") " ++ op ++ " (") fs).parens.Paired := by
  cases fs with
  | nil => exact paired_empty.parens
  | cons f rest =>
      have hsep : (") " ++ op ++ " (").toList = ')' :: (" " ++ op ++ " ").toList ++ ['('] := by
        simp [String.toList_append]
      have hspace : Text.Balanced " ".toList := by decide
      rw [Paired, letters_parens, letters_join, hsep,
        Text.inParens_intercalate _ (by simp)]
      refine Text.Balanced.intercalate ?_ fun s hs => ?_
      · rw [String.toList_append, String.toList_append]
        exact (hspace.append hop).append hspace
      · obtain ⟨letters, hletters, rfl⟩ := List.mem_map.mp hs
        obtain ⟨g, hg, rfl⟩ := List.mem_map.mp hletters
        exact Text.Balanced.inParens (h g hg)

theorem grouped {op : String} (hop : Text.Balanced op.toList) (h : ∀ f ∈ fs, f.Paired) :
    (grouped op fs).Paired := by
  rw [Fragment.grouped]
  split
  · rename_i hempty
    exact paired_of_isEmpty hempty
  · have hshown : ∀ f ∈ fs.filter (fun f => !f.isEmpty), f.Paired :=
      fun f hf => h f (List.mem_of_mem_filter hf)
    exact joinParens hop hshown

theorem headed {keyword : String} (hkeyword : Text.Balanced keyword.toList) (hf : f.Paired) :
    (f.headed keyword).Paired := by
  have hspace : Text.Balanced " ".toList := by decide
  rw [Fragment.headed]
  split
  · exact hf
  · refine (paired_ofText ?_).append hf
    rw [String.toList_append]
    exact hkeyword.append hspace

theorem negation (hf : f.Paired) : (negation f).Paired := by
  rw [SqlLoom.negation]
  split
  · exact hf
  · exact (paired_ofText (by decide)).append hf.parens

theorem conjunction (h : ∀ f ∈ fs, f.Paired) : (conjunction fs).Paired := by
  cases fs with
  | nil => exact paired_empty
  | cons f rest =>
      cases rest with
      | nil => exact h f List.mem_cons_self
      | cons g rest =>
          have hop : Text.Balanced "AND".toList := by decide
          rw [conjunction_cons_cons]
          exact joinParens hop h

end Paired

/-! ### Bound texts -/

/-- Balanced names in the slots leave the level as the characters around them do. -/
theorem depthAfter_spell (n : Nat) (ts : List (Option Char)) {names : List String}
    (h : ∀ name ∈ names, Text.Balanced name.toList) :
    Text.depthAfter n (spell ts names) = Text.depthAfter n ts.reduceOption := by
  induction ts generalizing n names with
  | nil => rfl
  | cons t ts ih =>
      cases t with
      | some c =>
          rw [spell, List.reduceOption_cons_of_some, Text.depthAfter_cons, Text.depthAfter_cons]
          simp only [ih _ h]
      | none =>
          rw [List.reduceOption_cons_of_none]
          cases names with
          | nil => exact ih n h
          | cons name names =>
              have hname := h name List.mem_cons_self
              have hrest := ih n fun other hother => h other (List.mem_cons_of_mem _ hother)
              rw [spell, Text.depthAfter_append, hname.depthAfter]
              exact hrest

/-- Generated names are balanced where their mark is. -/
theorem balanced_run_names (ss : List TableStep) {t : ParamTable}
    (h : Text.Balanced t.mark.toList) : ∀ name ∈ (run ss t).1, Text.Balanced name.toList := by
  intro name hname
  obtain ⟨n, rfl⟩ := exists_nameOf_of_mem_run hname
  exact ParamTable.nameOf_balanced h n

/-- A paired fragment gives a balanced text. -/
theorem Paired.bind (hf : f.Paired) {t : ParamTable} (h : Text.Balanced t.mark.toList) :
    Text.Balanced (f.bind t).1.toList := by
  rw [Text.balanced_iff, Fragment.bind, toList_join_fill,
    depthAfter_spell 0 _ (balanced_run_names f.steps h)]
  exact hf.depthAfter 0

end SqlLoom.Fragment
