import Mathlib.Data.List.Basic
import SqlLoom.Text.Case
import SqlLoom.Text.Blank

/-!
# `SqlLoom.Proofs.Parentheses`: balanced texts

A text is `Balanced` when every prefix has at least as many opening as closing parentheses and the
totals are equal. `depthAfter` counts what is open, so that a text can be read piece by piece:

* `balanced_iff`: a text is balanced exactly when the count ends at zero without running below.
* `cut`: the stretches of a text, in turn outside of all parentheses and inside an outermost pair.
* `glue_cutFrom`: the stretches with the outermost parentheses between them are the text.
* `cut_intercalate_inParens`: balanced texts, each in parentheses, with a text without parentheses
  between them are cut into exactly these texts.
* `inParens_intercalate`: two ways of writing such a row of texts.
* `cut_group`, `cut_negation`: how a group of conditions and a negation are cut.
* `balanced_upper_iff`, `balanced_words_iff`: neither capitals nor spacing move a parenthesis.
-/

set_option autoImplicit false

namespace SqlLoom.Text

/-! ### Counting -/

/-- The character is a parenthesis. -/
def isParen (c : Char) : Bool := c == '(' || c == ')'

/-- The number of open parentheses after one character. Where none is open none can be closed. -/
def depthStep (n : Nat) (c : Char) : Option Nat :=
  if c = '(' then some (n + 1)
  else if c = ')' then (if n = 0 then none else some (n - 1))
  else some n

/-- The number of open parentheses after a text, before which `n` are open. -/
def depthAfter (n : Nat) (s : List Char) : Option Nat := s.foldlM depthStep n

/-- Every prefix has at least as many opening as closing parentheses, and the totals are equal. -/
def Balanced (s : List Char) : Prop :=
  (∀ p, p <+: s → p.count ')' ≤ p.count '(') ∧ s.count '(' = s.count ')'

theorem depthAfter_cons (n : Nat) (c : Char) (s : List Char) :
    depthAfter n (c :: s) = (depthStep n c).bind fun m => depthAfter m s := rfl

theorem depthAfter_append (n : Nat) (s t : List Char) :
    depthAfter n (s ++ t) = (depthAfter n s).bind fun m => depthAfter m t :=
  List.foldlM_append

/-- One step in terms of the two counts. -/
theorem depthStep_eq_some_iff (n m : Nat) (c : Char) :
    depthStep n c = some m ↔
      [c].count ')' ≤ n + [c].count '(' ∧ m + [c].count ')' = n + [c].count '(' := by
  rw [depthStep]
  split
  · rename_i hopen
    have hcount : [c].count '(' = 1 ∧ [c].count ')' = 0 := by rw [hopen]; decide
    rw [hcount.1, hcount.2, Option.some_inj]
    omega
  · rename_i hopen
    have hnone : [c].count '(' = 0 := List.count_eq_zero.mpr fun h =>
      hopen (List.mem_singleton.mp h).symm
    split
    · rename_i hclose
      have hone : [c].count ')' = 1 := by rw [hclose]; decide
      rw [hnone, hone]
      split
      · simp
        omega
      · rw [Option.some_inj]
        omega
    · rename_i hclose
      have hzero : [c].count ')' = 0 :=
        List.count_eq_zero.mpr fun h => hclose (List.mem_singleton.mp h).symm
      rw [hnone, hzero, Option.some_inj]
      omega

/-- The count in terms of the counts of the two parentheses in the prefixes. -/
theorem depthAfter_eq_some_iff (n m : Nat) (s : List Char) :
    depthAfter n s = some m ↔
      (∀ p, p <+: s → p.count ')' ≤ n + p.count '(') ∧
        m + s.count ')' = n + s.count '(' := by
  induction s generalizing n with
  | nil =>
      have hnil : depthAfter n [] = some n := rfl
      rw [hnil, Option.some_inj]
      simp [List.prefix_nil]
      omega
  | cons c s ih =>
      have hcount : ∀ (a : Char) (p : List Char), (c :: p).count a = [c].count a + p.count a :=
        fun a p => by rw [← List.singleton_append, List.count_append]
      rw [depthAfter_cons, Option.bind_eq_some_iff, hcount ')' s, hcount '(' s]
      simp only [ih, depthStep_eq_some_iff]
      constructor
      · rintro ⟨k, ⟨hstep, hk⟩, hbelow, htotal⟩
        refine ⟨fun p hp => ?_, by omega⟩
        rcases List.prefix_cons_iff.mp hp with rfl | ⟨q, rfl, hq⟩
        · exact Nat.zero_le _
        · have := hbelow q hq
          rw [hcount ')' q, hcount '(' q]
          omega
      · rintro ⟨hbelow, htotal⟩
        -- The prefix of one character says that the step can be taken.
        have hstep := hbelow [c] (List.prefix_append [c] s)
        refine ⟨n + [c].count '(' - [c].count ')', ⟨hstep, by omega⟩, fun p hp => ?_, by omega⟩
        have := hbelow (c :: p) ((List.prefix_cons_inj c).mpr hp)
        rw [hcount ')' p, hcount '(' p] at this
        omega

theorem balanced_iff (s : List Char) : Balanced s ↔ depthAfter 0 s = some 0 := by
  rw [depthAfter_eq_some_iff, Balanced]
  simp only [Nat.zero_add, eq_comm]

instance (s : List Char) : Decidable (Balanced s) := decidable_of_iff _ (balanced_iff s).symm

/-- A balanced text leaves the count as it was, whatever is open. -/
theorem Balanced.depthAfter {s : List Char} (h : Balanced s) (n : Nat) :
    depthAfter n s = some n := by
  rw [depthAfter_eq_some_iff]
  refine ⟨fun p hp => ?_, by rw [h.2]⟩
  have := h.1 p hp
  omega

/-! ### Balanced texts -/

/-- A text without parentheses. -/
def Flat (s : List Char) : Prop := ∀ c ∈ s, isParen c = false

/-- The text in parentheses. -/
def inParens (s : List Char) : List Char := '(' :: s ++ [')']

namespace Balanced

theorem nil : Balanced [] := (balanced_iff []).mpr rfl

theorem append {s t : List Char} (hs : Balanced s) (ht : Balanced t) : Balanced (s ++ t) := by
  rw [balanced_iff, depthAfter_append, hs.depthAfter]
  exact ht.depthAfter 0

theorem inParens {s : List Char} (hs : Balanced s) : Balanced (inParens s) := by
  rw [balanced_iff]
  show Text.depthAfter 1 (s ++ [')']) = some 0
  rw [depthAfter_append, hs.depthAfter]
  rfl

end Balanced

/-- Only the parentheses of a text count. -/
theorem depthAfter_filter (n : Nat) (s : List Char) :
    depthAfter n (s.filter isParen) = depthAfter n s := by
  induction s generalizing n with
  | nil => rfl
  | cons c s ih =>
      rw [List.filter_cons]
      split
      · simp only [depthAfter_cons, ih]
      · rename_i hc
        have hstep : depthStep n c = some n := by
          simp only [isParen, Bool.or_eq_true, beq_iff_eq, not_or] at hc
          rw [depthStep, if_neg hc.1, if_neg hc.2]
        rw [ih, depthAfter_cons, hstep]
        rfl

/-- Texts with the same parentheses are balanced alike. -/
theorem balanced_congr {s t : List Char} (h : s.filter isParen = t.filter isParen) :
    Balanced s ↔ Balanced t := by
  rw [balanced_iff, balanced_iff, ← depthAfter_filter 0 s, ← depthAfter_filter 0 t, h]

theorem Flat.balanced {s : List Char} (h : Flat s) : Balanced s := by
  have hnone : s.filter isParen = [] := by
    rw [List.filter_eq_nil_iff]
    intro c hc
    simp [h c hc]
  exact (balanced_congr hnone).mpr .nil

theorem flat_of_all {s : List Char} (h : (s.all fun c => !isParen c) = true) : Flat s :=
  fun c hc => by simpa using List.all_eq_true.mp h c hc

theorem flat_singleton {c : Char} (h : isParen c = false) : Flat [c] := by
  intro d hd
  rwa [List.mem_singleton.mp hd]

theorem Flat.append {s t : List Char} (hs : Flat s) (ht : Flat t) : Flat (s ++ t) := by
  intro c hc
  exact (List.mem_append.mp hc).elim (hs c) (ht c)

theorem Flat.of_subset {s t : List Char} (ht : Flat t) (h : s ⊆ t) : Flat s :=
  fun c hc => ht c (h hc)

/-- A balanced text that opens nothing has no parentheses. -/
theorem Balanced.flat {s : List Char} (h : Balanced s) (hopen : '(' ∉ s) : Flat s := by
  have hcount := h.2
  rw [List.count_eq_zero_of_not_mem hopen] at hcount
  have hclose : ')' ∉ s := List.count_eq_zero.mp hcount.symm
  intro c hc
  rw [isParen, Bool.or_eq_false_iff, beq_eq_false_iff_ne, beq_eq_false_iff_ne]
  exact ⟨fun heq => hopen (heq ▸ hc), fun heq => hclose (heq ▸ hc)⟩

/-- Balanced texts with a balanced text between them. -/
theorem Balanced.intercalate {sep : List Char} (hsep : Balanced sep) {parts : List (List Char)}
    (h : ∀ s ∈ parts, Balanced s) : Balanced (List.intercalate sep parts) := by
  induction parts with
  | nil => exact .nil
  | cons s rest ih =>
      have hs := h s List.mem_cons_self
      have hrest := ih fun t ht => h t (List.mem_cons_of_mem _ ht)
      cases rest with
      | nil => rwa [List.intercalate_singleton]
      | cons t rest =>
          rw [List.intercalate_cons_cons]
          exact (hs.append hsep).append hrest

/-! ### Stretches -/

/-- The stretches of a text, before which `n` parentheses are open. -/
def cutFrom (n : Nat) : List Char → List (List Char)
  | [] => [[]]
  | c :: rest =>
    if n = 0 ∧ c = '(' then [] :: cutFrom 1 rest
    else if n = 1 ∧ c = ')' then [] :: cutFrom 0 rest
    else (cutFrom ((depthStep n c).getD n) rest).modifyHead (c :: ·)

/-- The stretches of a text, in turn outside of all parentheses and inside an outermost pair. -/
def cut (s : List Char) : List (List Char) := cutFrom 0 s

/-- Stretches with the parenthesis between each two, a closing one first where `inside` holds. -/
def glue (inside : Bool) : List (List Char) → List Char
  | [] => []
  | [s] => s
  | s :: rest => s ++ (if inside then ')' else '(') :: glue (!inside) rest

theorem cutFrom_ne_nil (n : Nat) (s : List Char) : cutFrom n s ≠ [] := by
  induction s generalizing n with
  | nil => exact List.cons_ne_nil _ _
  | cons c s ih =>
      rw [cutFrom]
      split
      · exact List.cons_ne_nil _ _
      · split
        · exact List.cons_ne_nil _ _
        · cases h : cutFrom ((depthStep n c).getD n) s with
          | nil => exact absurd h (ih _)
          | cons t ts => exact List.cons_ne_nil _ _

theorem glue_nil_cons (inside : Bool) {ts : List (List Char)} (hts : ts ≠ []) :
    glue inside ([] :: ts) = (if inside then ')' else '(') :: glue (!inside) ts := by
  obtain ⟨t, ts, rfl⟩ := List.exists_cons_of_ne_nil hts
  rfl

theorem glue_modifyHead (inside : Bool) (c : Char) {ts : List (List Char)} (hts : ts ≠ []) :
    glue inside (ts.modifyHead (c :: ·)) = c :: glue inside ts := by
  obtain ⟨t, ts, rfl⟩ := List.exists_cons_of_ne_nil hts
  cases ts <;> rfl

/-- A step that crosses no outermost parenthesis stays on its side. -/
theorem depthStep_side {n : Nat} {c : Char} (hopen : ¬(n = 0 ∧ c = '('))
    (hclose : ¬(n = 1 ∧ c = ')')) : (((depthStep n c).getD n) != 0) = (n != 0) := by
  rw [depthStep]
  split
  · rename_i hc
    have hne : n ≠ 0 := fun hn => hopen ⟨hn, hc⟩
    exact (bne_iff_ne.mpr (Nat.succ_ne_zero n)).trans (bne_iff_ne.mpr hne).symm
  · split
    · rename_i hc
      split
      · rfl
      · rename_i hne
        have hpred : n - 1 ≠ 0 := fun h => hclose ⟨by omega, hc⟩
        exact (bne_iff_ne.mpr hpred).trans (bne_iff_ne.mpr hne).symm
    · rfl

/-- The stretches are the whole text, without the outermost parentheses between them. -/
theorem glue_cutFrom (n : Nat) (s : List Char) : glue (n != 0) (cutFrom n s) = s := by
  induction s generalizing n with
  | nil => rfl
  | cons c s ih =>
      rw [cutFrom]
      split
      · rename_i h
        rw [h.1, h.2, glue_nil_cons _ (cutFrom_ne_nil 1 s)]
        exact congrArg _ (ih 1)
      · rename_i hopen
        split
        · rename_i h
          rw [h.1, h.2, glue_nil_cons _ (cutFrom_ne_nil 0 s)]
          exact congrArg _ (ih 0)
        · rename_i hclose
          rw [glue_modifyHead _ c (cutFrom_ne_nil _ s), ← depthStep_side hopen hclose, ih]

/-- A text without parentheses belongs to the stretch that it starts. -/
theorem cutFrom_flat {s : List Char} (hs : Flat s) (n : Nat) (rest : List Char) :
    cutFrom n (s ++ rest) = (cutFrom n rest).modifyHead (s ++ ·) := by
  induction s with
  | nil => exact (congrFun List.modifyHead_id _).symm
  | cons c s ih =>
      have hc := hs c List.mem_cons_self
      rw [isParen, Bool.or_eq_false_iff, beq_eq_false_iff_ne, beq_eq_false_iff_ne] at hc
      have hstep : depthStep n c = some n := by rw [depthStep, if_neg hc.1, if_neg hc.2]
      rw [List.cons_append, cutFrom, if_neg fun h => hc.1 h.2, if_neg fun h => hc.2 h.2, hstep,
        Option.getD_some, ih fun c hc => hs c (List.mem_cons_of_mem _ hc),
        List.modifyHead_modifyHead]
      rfl

/-- A step that can be taken can be taken with one more pair around it, and does not close that
pair. -/
theorem depthStep_succ {n k : Nat} {c : Char} (h : depthStep n c = some k) :
    ¬(n + 1 = 1 ∧ c = ')') ∧ depthStep (n + 1) c = some (k + 1) := by
  rw [depthStep] at h ⊢
  split at h
  · rename_i hopen
    cases h
    exact ⟨fun hclose => absurd (hopen.symm.trans hclose.2) (by decide), by rw [if_pos hopen]⟩
  · rename_i hopen
    rw [if_neg hopen]
    split at h
    · rename_i hclose
      rw [if_pos hclose, if_neg (Nat.succ_ne_zero n)]
      split at h
      · cases h
      · cases h
        exact ⟨by omega, by congr 1; omega⟩
    · rename_i hclose
      cases h
      exact ⟨fun hn => hclose hn.2, by rw [if_neg hclose]⟩

/-- Inside an outermost pair a text that opens what it closes stays there. -/
theorem cutFrom_inside {s : List Char} {n m : Nat} (h : depthAfter n s = some m)
    (rest : List Char) :
    cutFrom (n + 1) (s ++ rest) = (cutFrom (m + 1) rest).modifyHead (s ++ ·) := by
  induction s generalizing n with
  | nil =>
      cases h
      exact (congrFun List.modifyHead_id _).symm
  | cons c s ih =>
      rw [depthAfter_cons, Option.bind_eq_some_iff] at h
      obtain ⟨k, hstep, hk⟩ := h
      obtain ⟨hstays, hshift⟩ := depthStep_succ hstep
      rw [List.cons_append, cutFrom, if_neg (by omega), if_neg hstays, hshift,
        Option.getD_some, ih hk, List.modifyHead_modifyHead]
      rfl

/-- A balanced text in parentheses is a stretch. -/
theorem cut_inParens_append {s : List Char} (hs : Balanced s) (rest : List Char) :
    cut (inParens s ++ rest) = [] :: s :: cut rest := by
  have hinside := cutFrom_inside (hs.depthAfter 0) (')' :: rest)
  rw [cutFrom, if_neg (by omega), if_pos ⟨rfl, rfl⟩, List.modifyHead_cons, List.append_nil]
    at hinside
  have hlist : inParens s ++ rest = '(' :: (s ++ ')' :: rest) := by simp [inParens]
  rw [hlist, cut, cutFrom, if_pos ⟨rfl, rfl⟩]
  exact congrArg _ hinside

/-- Balanced texts, each in parentheses, are the stretches of the whole, with what stands between
them. -/
theorem cut_intercalate_inParens {sep : List Char} (hsep : Flat sep) {parts : List (List Char)}
    (hne : parts ≠ []) (h : ∀ s ∈ parts, Balanced s) :
    cut (List.intercalate sep (parts.map inParens)) = [] :: parts.intersperse sep ++ [[]] := by
  induction parts with
  | nil => exact absurd rfl hne
  | cons s rest ih =>
      have hs := h s List.mem_cons_self
      cases rest with
      | nil =>
          have hcut := cut_inParens_append hs []
          rw [List.append_nil] at hcut
          rw [List.map_singleton, List.intercalate_singleton, hcut]
          rfl
      | cons t rest =>
          have hrest := ih (List.cons_ne_nil _ _) fun u hu => h u (List.mem_cons_of_mem _ hu)
          rw [List.map_cons, List.map_cons, List.intercalate_cons_cons, ← List.map_cons,
            List.append_assoc, cut_inParens_append hs, cut, cutFrom_flat hsep]
          rw [cut] at hrest
          rw [hrest, List.intersperse_cons_cons]
          simp

/-- A closing and an opening parenthesis around each separating text, and a pair around the whole,
put each of the texts in parentheses. -/
theorem inParens_intercalate (sep : List Char) {parts : List (List Char)} (hne : parts ≠ []) :
    inParens (List.intercalate (')' :: sep ++ ['(']) parts)
      = List.intercalate sep (parts.map inParens) := by
  induction parts with
  | nil => exact absurd rfl hne
  | cons s rest ih =>
      cases rest with
      | nil => simp
      | cons t rest =>
          have hrest := ih (List.cons_ne_nil _ _)
          rw [List.map_cons, List.map_cons, List.intercalate_cons_cons, List.intercalate_cons_cons,
            ← List.map_cons, ← hrest]
          simp [inParens]

/-! ### Groups and negations -/

/-- The text of a group puts each of its members in parentheses. -/
theorem toList_group (op : String) {texts : List String} (hne : texts ≠ []) :
    ("(" ++ (") " ++ op ++ " (").intercalate texts ++ ")").toList
      = List.intercalate (" " ++ op ++ " ").toList ((texts.map String.toList).map inParens) := by
  rw [← inParens_intercalate _ (by simpa using hne)]
  simp [inParens, String.toList_intercalate]

theorem toList_negation (s : String) :
    ("NOT (" ++ s ++ ")").toList = "NOT ".toList ++ inParens s.toList := by
  rw [String.toList_append, String.toList_append, inParens]
  simp

/-- The space around an operator. -/
theorem Flat.spaced {op : String} (hop : Flat op.toList) : Flat (" " ++ op ++ " ").toList := by
  have hspace : Flat " ".toList := flat_of_all rfl
  rw [String.toList_append, String.toList_append]
  exact (hspace.append hop).append hspace

theorem balanced_group {op : String} (hop : Flat op.toList) {texts : List String}
    (h : ∀ s ∈ texts, Balanced s.toList) :
    Balanced (List.intercalate (" " ++ op ++ " ").toList
      ((texts.map String.toList).map inParens)) := by
  refine Balanced.intercalate hop.spaced.balanced fun part hpart => ?_
  obtain ⟨chars, hchars, rfl⟩ := List.mem_map.mp hpart
  obtain ⟨s, hs, rfl⟩ := List.mem_map.mp hchars
  exact (h s hs).inParens

theorem balanced_negation {s : String} (h : Balanced s.toList) :
    Balanced ("NOT (" ++ s ++ ")").toList := by
  have hword : Balanced "NOT ".toList := by decide
  rw [toList_negation]
  exact hword.append h.inParens

/-- A group is cut into its members, with the operator between them. -/
theorem cut_group {op : String} (hop : Flat op.toList) {texts : List String} (hne : texts ≠ [])
    (h : ∀ s ∈ texts, Balanced s.toList) :
    cut ("(" ++ (") " ++ op ++ " (").intercalate texts ++ ")").toList
      = [] :: (texts.map String.toList).intersperse (" " ++ op ++ " ").toList ++ [[]] := by
  rw [toList_group op hne]
  refine cut_intercalate_inParens hop.spaced (by simpa using hne) fun part hpart => ?_
  obtain ⟨s, hs, rfl⟩ := List.mem_map.mp hpart
  exact h s hs

/-- A negation is cut into its keyword and what it negates. -/
theorem cut_negation {s : String} (h : Balanced s.toList) :
    cut ("NOT (" ++ s ++ ")").toList = ["NOT ".toList, s.toList, []] := by
  have hword : Flat "NOT ".toList := flat_of_all rfl
  have hgroup := cut_inParens_append h []
  rw [cut, List.append_nil] at hgroup
  rw [toList_negation, cut, cutFrom_flat hword, hgroup, List.modifyHead_cons, List.append_nil]
  rfl

/-! ### Capitals and words -/

/-- A character beyond the two parentheses is none. -/
theorem isParen_ofNat {n : Nat} (h : 41 < n) : isParen (Char.ofNat n) = false := by
  by_cases hvalid : n.isValidChar
  · have hnat : (Char.ofNat n).toNat = n := by
      rw [Char.ofNat, dif_pos hvalid]
      rfl
    have hopen : '('.toNat = 40 := rfl
    have hclose : ')'.toNat = 41 := rfl
    rw [isParen, Bool.or_eq_false_iff, beq_eq_false_iff_ne, beq_eq_false_iff_ne]
    constructor <;> intro heq <;> rw [heq] at hnat <;> omega
  · rw [Char.ofNat, dif_neg hvalid]
    rfl

/-- The tables of capitals reach no parenthesis. -/
theorem upperRuns_beyond : upperRuns.all (fun r => 41 < (r.first : Int) + r.shift) = true := by
  decide

theorem upperSequences_beyond : upperSequences.all (fun e => e.2.all fun n => 41 < n) = true := by
  decide

/-- Only small letters have other capitals in ASCII. -/
theorem filter_toUpper :
    ∀ n < 128, [(Char.ofNat n).toUpper].filter isParen = [Char.ofNat n].filter isParen := by
  decide

/-- The capitals of a character have the same parentheses as the character. -/
theorem filter_upperChar (c : Char) : (upperChar c).filter isParen = [c].filter isParen := by
  rw [upperChar]
  split
  · rename_i hc
    have hascii := filter_toUpper c.toNat hc
    rwa [Char.ofNat_toNat] at hascii
  · rename_i hc
    have hbeyond := isParen_ofNat (n := c.toNat) (by omega)
    rw [Char.ofNat_toNat] at hbeyond
    rw [List.filter_singleton, hbeyond, cond_false, List.filter_eq_nil_iff]
    intro d hd
    suffices h : isParen d = false by simp [h]
    split at hd
    · -- One of the several capitals that the table lists.
      rename_i s hs
      obtain ⟨e, he, rfl⟩ := Option.map_eq_some_iff.mp hs
      obtain ⟨n, hn, rfl⟩ := List.mem_map.mp hd
      have hlisted := List.all_eq_true.mp upperSequences_beyond e (List.mem_of_find?_eq_some he)
      exact isParen_ofNat (of_decide_eq_true (List.all_eq_true.mp hlisted n hn))
    · rw [List.mem_singleton] at hd
      rw [hd]
      cases hshift : shifted upperRuns c with
      | none => exact hbeyond
      | some d =>
          -- The character lies in a run, which is shifted as a whole.
          obtain ⟨r, hr, rfl⟩ := Option.map_eq_some_iff.mp hshift
          have hrun := List.all_eq_true.mp upperRuns_beyond r (List.mem_of_find?_eq_some hr)
          have hholds := List.find?_some hr
          simp only [CaseRun.holds, Bool.and_eq_true, decide_eq_true_eq] at hrun hholds
          exact isParen_ofNat (by omega)

/-- Capitals leave every parenthesis where it is. -/
theorem balanced_upper_iff (s : List Char) : Balanced (upper s) ↔ Balanced s := by
  refine balanced_congr ?_
  induction s with
  | nil => rfl
  | cons c s ih =>
      rw [upper, List.flatMap_cons, List.filter_append, filter_upperChar]
      rw [← upper, ih, ← List.filter_append]
      rfl

/-- A character between words is no parenthesis. -/
theorem isParen_of_isBlank {c : Char} (h : isBlank c = true) : isParen c = false := by
  rw [isParen, Bool.or_eq_false_iff, beq_eq_false_iff_ne, beq_eq_false_iff_ne]
  constructor <;> intro heq <;> rw [heq] at h <;> exact absurd h (by decide)

/-- The words of a text with spaces between them have the parentheses of the text. -/
theorem filter_wordsAfter (open_ s : List Char) :
    (List.intercalate [' '] (wordsAfter open_ s)).filter isParen
      = (open_.reverse ++ s).filter isParen := by
  have hcons : ∀ (w : List Char) (ws : List (List Char)),
      (List.intercalate [' '] (w :: ws)).filter isParen
        = w.filter isParen ++ (List.intercalate [' '] ws).filter isParen := by
    intro w ws
    cases ws with
    | nil => simp
    | cons v ws =>
        have hspace : [' '].filter isParen = [] := rfl
        rw [List.intercalate_cons_cons, List.filter_append, List.filter_append, hspace,
          List.append_nil]
  induction s generalizing open_ with
  | nil =>
      rw [wordsAfter, List.append_nil]
      split
      · rename_i hempty
        rw [List.isEmpty_iff.mp hempty]
        rfl
      · rw [List.intercalate_singleton]
  | cons c s ih =>
      rw [wordsAfter]
      split
      · rename_i hblank
        have hrest : (open_.reverse ++ c :: s).filter isParen
            = open_.reverse.filter isParen ++ s.filter isParen := by
          rw [List.filter_append, List.filter_cons, isParen_of_isBlank hblank]
          rfl
        rw [hrest]
        split
        · rename_i hempty
          rw [ih, List.isEmpty_iff.mp hempty]
          rfl
        · rw [hcons, ih]
          rfl
      · rw [ih, List.reverse_cons, List.append_assoc]
        rfl

/-- Spacing leaves every parenthesis where it is. -/
theorem balanced_words_iff (s : List Char) :
    Balanced (List.intercalate [' '] (words s)) ↔ Balanced s :=
  balanced_congr (filter_wordsAfter [] s)

end SqlLoom.Text
