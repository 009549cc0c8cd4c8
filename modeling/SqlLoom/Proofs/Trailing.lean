import Mathlib.Data.List.TakeWhile
import SqlLoom.Proofs.Words
import SqlLoom.Text.Trailing

/-!
# `SqlLoom.Proofs.Trailing`: where the end of a line is cut off

An alias or a direction is cut off at the first place from which the rest of the line has the right
shape (`splitLine`). What stands in front may have white space in it, and may contain or end in the
very words that are looked for. So two things are to be shown: that the rest has the shape at the
right place, and that it has it at no place before.

The second is a matter of counting words. A direction is one word and an alias at most two
(`words_of_directionTail`, `words_of_aliasTail`), and from an earlier place on there is one word
more. An alias of a source is not so bounded, since a tab may stand in it; but the source in front
of it has no white space at which it could begin.

* `splitLine_direction`, `splitLine_undirected`: the direction behind a name, and a name alone.
* `splitLine_alias`, `splitLine_alias_as`, `splitLine_sourceAlias`: the alias behind a column and
  behind a source.
-/

set_option autoImplicit false

namespace SqlLoom.Text

variable {s t rest gap : List Char} {c : Char}

/-! ### The first place of a line -/

section FirstPlace

variable {α : Type} {tail : List Char → Option α} {a : α}

/-- The rest is cut off where it has the shape, and has it at no place before. -/
theorem splitLine_append (hline : '\n' ∉ s)
    (hbefore : ∀ t, t ≠ [] → t <:+ s → tail (t ++ rest) = none) (htail : tail rest = some a) :
    splitLine tail (s ++ rest) = some (s, a) := by
  induction s with
  | nil => cases rest <;> simp [splitLine, htail]
  | cons c s ih =>
      obtain ⟨hc, hs⟩ := not_or.mp (mt List.mem_cons.mpr hline)
      have hhere : tail (c :: (s ++ rest)) = none :=
        hbefore (c :: s) (List.cons_ne_nil c s) List.suffix_rfl
      have hrest := ih hs fun t hne ht => hbefore t hne (ht.trans (List.suffix_cons c s))
      rw [List.cons_append, splitLine, hhere, hrest]
      exact if_neg (Ne.symm hc)

theorem splitLine_eq_none (h : ∀ t, t <:+ s → tail t = none) : splitLine tail s = none := by
  induction s with
  | nil => rw [splitLine, h [] List.suffix_rfl]; rfl
  | cons c s ih =>
      have hrest := ih fun t ht => h t (ht.trans (List.suffix_cons c s))
      rw [splitLine, h (c :: s) List.suffix_rfl, hrest]
      exact ite_self none

/-- What begins with white space cannot begin in a text without any. -/
theorem splitLine_unbroken (hs : Unbroken s)
    (hblank : ∀ t : List Char, t.head?.any isBlank = false → tail t = none)
    (htail : tail rest = some a) : splitLine tail (s ++ rest) = some (s, a) := by
  refine splitLine_append (fun hline => ?_) (fun t hne ht => hblank _ ?_) htail
  · have hblank := hs.solid '\n' hline
    cases hblank
  · rw [List.head?_append_of_ne_nil t hne]
    exact (hs.of_suffix ht hne).trimmed.head

end FirstPlace

/-- A line that ends has no other word behind. -/
theorem words_append_end (hend : isEnd rest = true) (s : List Char) :
    words (s ++ rest) = words s := by
  rw [isEnd, Bool.or_eq_true, beq_iff_eq, beq_iff_eq] at hend
  rcases hend with rfl | rfl
  · rw [List.append_nil]
  · have hgap : IsGap ['\n'] := by decide
    have hwords := words_append_gap hgap s []
    rwa [List.append_nil, show words [] = [] from rfl, List.append_nil] at hwords

/-! ### Directions -/

/-- The word is the keyword of the direction, in any case. -/
def NamesDirection (d : Direction) (w : List Char) : Prop := upper w = d.keyword.toList

instance (d : Direction) (w : List Char) : Decidable (NamesDirection d w) :=
  inferInstanceAs (Decidable (upper w = d.keyword.toList))

/-- The text ends in white space and the keyword of a direction. -/
def EndsInDirection (s : List Char) : Prop :=
  ∃ front gap w d, s = front ++ gap ++ w ∧ IsGap gap ∧ NamesDirection d w

/-- A direction does not stand in a name without white space. -/
theorem Unbroken.not_endsInDirection (hs : Unbroken s) : ¬ EndsInDirection s := by
  rintro ⟨front, gap, w, d, rfl, hgap, -⟩
  obtain ⟨b, hb⟩ := List.exists_mem_of_ne_nil gap hgap.ne_nil
  exact Bool.false_ne_true ((hs.solid b (by simp [hb])).symm.trans (hgap.blank b hb))

theorem keyword_mem_lineWords (d : Direction) : d.keyword.toList ∈ lineWords := by
  cases d <;> decide

theorem NamesDirection.unbroken {d : Direction} {w : List Char} (h : NamesDirection d w) :
    Unbroken w :=
  unbroken_of_upper (keyword_mem_lineWords d) h

/-- The keyword is found, in any case, and nothing may follow it. -/
theorem afterWord_keyword_end (d : Direction) :
    (∃ rest, (afterWord (d.keyword.toList.map Char.toLower) s).filter isEnd = some rest) ↔
      ∃ w rest, NamesDirection d w ∧ isEnd rest = true ∧ s = w ++ rest := by
  simp only [Option.filter_eq_some_iff, afterWord_eq_some_iff (keyword_mem_lineWords d)]
  constructor
  · rintro ⟨rest, ⟨w, hw, hs⟩, hend⟩
    exact ⟨w, rest, hw, hend, hs⟩
  · rintro ⟨w, rest, hw, hend, hs⟩
    exact ⟨rest, ⟨w, hw, hs⟩, hend⟩

/-- A direction behind white space is its keyword up to the end of the line. -/
theorem directionTail_eq_some_iff {descending : Bool} :
    directionTail s = some descending ↔ ∃ gap w rest d, IsGap gap ∧ NamesDirection d w ∧
      isEnd rest = true ∧ s = gap ++ (w ++ rest) ∧ descending = (d == .desc) := by
  constructor
  · intro h
    obtain ⟨behind, hbehind, hkeyword⟩ := Option.bind_eq_some_iff.mp h
    obtain ⟨gap, hgap, rfl⟩ := afterBlanks_eq_some hbehind
    rcases (Option.orElse_eq_some _ _ _).mp hkeyword with hasc | ⟨-, hdesc⟩
    · obtain ⟨rest, hrest, rfl⟩ := Option.map_eq_some_iff.mp hasc
      obtain ⟨w, rest, hw, hend, rfl⟩ := (afterWord_keyword_end .asc).mp ⟨rest, hrest⟩
      exact ⟨gap, w, rest, .asc, hgap, hw, hend, rfl, rfl⟩
    · obtain ⟨rest, hrest, rfl⟩ := Option.map_eq_some_iff.mp hdesc
      obtain ⟨w, rest, hw, hend, rfl⟩ := (afterWord_keyword_end .desc).mp ⟨rest, hrest⟩
      exact ⟨gap, w, rest, .desc, hgap, hw, hend, rfl, rfl⟩
  · rintro ⟨gap, w, rest, d, hgap, hw, hend, rfl, rfl⟩
    have hbehind : afterBlanks (gap ++ (w ++ rest)) = some (w ++ rest) := by
      refine afterBlanks_gap hgap ?_
      rw [List.head?_append_of_ne_nil w hw.unbroken.ne_nil]
      exact hw.unbroken.trimmed.head
    refine Option.bind_eq_some_iff.mpr ⟨_, hbehind, (Option.orElse_eq_some _ _ _).mpr ?_⟩
    obtain ⟨found, hfound⟩ := (afterWord_keyword_end d).mpr ⟨w, rest, hw, hend, rfl⟩
    cases d with
    | asc => exact .inl (Option.map_eq_some_iff.mpr ⟨found, hfound, rfl⟩)
    | desc =>
        refine .inr ⟨?_, Option.map_eq_some_iff.mpr ⟨found, hfound, rfl⟩⟩
        -- The one word of the text is not the other keyword.
        rw [Option.map_eq_none_iff, Option.eq_none_iff_forall_ne_some]
        intro other hother
        obtain ⟨w', rest', hw', hend', hsame⟩ := (afterWord_keyword_end .asc).mp ⟨other, hother⟩
        have hwords := congrArg words hsame
        rw [words_append_end hend, words_append_end hend', words_of_unbroken hw.unbroken,
          words_of_unbroken hw'.unbroken, List.singleton_inj] at hwords
        rw [NamesDirection, ← hwords, hw] at hw'
        exact absurd hw' (by decide)

theorem words_of_directionTail {descending : Bool} (h : directionTail s = some descending) :
    (words s).length = 1 := by
  obtain ⟨gap, w, rest, d, hgap, hw, hend, rfl, -⟩ := directionTail_eq_some_iff.mp h
  rw [words_gap_append hgap, words_append_end hend, words_of_unbroken hw.unbroken]
  rfl

/-- The direction is cut off behind the whole name, whatever words the name has. -/
theorem splitLine_direction {d : Direction} {w : List Char} (hs : Trimmed s) (hline : '\n' ∉ s)
    (hgap : IsGap gap) (hw : NamesDirection d w) :
    splitLine directionTail (s ++ gap ++ w) = some (s, d == .desc) := by
  rw [List.append_assoc]
  refine splitLine_append hline (fun t hne ht => ?_) (directionTail_eq_some_iff.mpr
    ⟨gap, w, [], d, hgap, hw, rfl, by rw [List.append_nil], rfl⟩)
  rw [Option.eq_none_iff_forall_ne_some]
  intro descending h
  have hwords := words_of_directionTail h
  rw [← List.append_assoc, words_append_gap hgap, words_of_unbroken hw.unbroken,
    List.length_append] at hwords
  exact words_ne_nil hne (hs.last_of_suffix ht hne) (List.length_eq_zero_iff.mp (by simpa using hwords))

/-- Nothing is cut off from a name that does not end in a direction. -/
theorem splitLine_undirected (hline : '\n' ∉ s) (hs : ¬ EndsInDirection s) :
    splitLine directionTail s = none := by
  refine splitLine_eq_none fun t ht => ?_
  rw [Option.eq_none_iff_forall_ne_some]
  intro descending h
  obtain ⟨gap, w, rest, d, hgap, hw, hend, rfl, -⟩ := directionTail_eq_some_iff.mp h
  obtain ⟨front, rfl⟩ := ht
  -- The end of the line is the end of the name, which has no line break.
  rw [isEnd, Bool.or_eq_true, beq_iff_eq, beq_iff_eq] at hend
  rcases hend with rfl | rfl
  · exact hs ⟨front, gap, w, d, by simp, hgap, hw⟩
  · exact hline (by simp)

/-! ### Aliases -/

/-- An alias as it may stand in a select list. -/
def IsAlias (s : List Char) : Prop := s ≠ [] ∧ ∀ c ∈ s, isAliasChar c = true

instance (s : List Char) : Decidable (IsAlias s) :=
  decidable_of_iff (s ≠ [] ∧ s.all isAliasChar = true) (and_congr_right' List.all_eq_true)

/-- AS with white space on both sides. -/
def IsAs (link : List Char) : Prop :=
  ∃ before w after,
    link = before ++ (w ++ after) ∧ IsGap before ∧ upper w = ['A', 'S'] ∧ IsGap after

/-- What stands between a name and its alias: white space, with or without AS in it. -/
def IsLink (link : List Char) : Prop := IsGap link ∨ IsAs link

theorem isAliasChar_blankCodes : ∀ n ∈ blankCodes, isAliasChar (Char.ofNat n) = false := by
  decide +kernel

theorem IsAlias.unbroken (h : IsAlias s) : Unbroken s where
  ne_nil := h.1
  solid := by
    intro c hc
    rw [Bool.eq_false_iff]
    intro hblank
    have hcode := isAliasChar_blankCodes c.toNat (toNat_mem_blankCodes hblank)
    rw [Char.ofNat_toNat, h.2 c hc] at hcode
    cases hcode

theorem afterWord_as :
    afterWord ['a', 's'] s = some rest ↔ ∃ w, upper w = ['A', 'S'] ∧ s = w ++ rest :=
  afterWord_eq_some_iff (show ['A', 'S'] ∈ lineWords by decide)

theorem aliasToEnd_eq_self (h : IsAlias s) : aliasToEnd s = some s := by
  have htake : s.takeWhile isAliasChar = s := List.takeWhile_eq_self_iff.mpr h.2
  have hdrop : s.dropWhile isAliasChar = [] := List.dropWhile_eq_nil_iff.mpr h.2
  rw [aliasToEnd, htake, hdrop]
  exact if_pos (by simpa [isEnd] using h.1)

/-- An alias is the only word of a text that it reaches to the end of. -/
theorem words_of_aliasToEnd {a : List Char} (h : aliasToEnd s = some a) : words s = [a] := by
  rw [aliasToEnd] at h
  split at h
  · rename_i hshape
    rw [Bool.and_eq_true, Bool.not_eq_true', List.isEmpty_eq_false_iff] at hshape
    obtain ⟨hne, hend⟩ := hshape
    have halias : IsAlias (s.takeWhile isAliasChar) :=
      ⟨hne, List.all_eq_true.mp List.all_takeWhile⟩
    cases h
    conv_lhs => rw [← List.takeWhile_append_dropWhile (p := isAliasChar) (l := s)]
    rw [words_append_end hend, words_of_unbroken halias.unbroken]
  · cases h

/-- An alias with AS in front of it is two words, and one without is one. -/
theorem words_of_aliasTail {a : List Char} (h : aliasTail s = some a) : (words s).length ≤ 2 := by
  obtain ⟨behind, hbehind, halias⟩ := Option.bind_eq_some_iff.mp h
  obtain ⟨gap, hgap, rfl⟩ := afterBlanks_eq_some hbehind
  rw [words_gap_append hgap]
  rcases (Option.orElse_eq_some _ _ _).mp halias with hnamed | ⟨-, hbare⟩
  · obtain ⟨t, ht, hnamed⟩ := Option.bind_eq_some_iff.mp hnamed
    obtain ⟨u, hu, hend⟩ := Option.bind_eq_some_iff.mp hnamed
    obtain ⟨w, hw, rfl⟩ := afterWord_as.mp ht
    obtain ⟨after, hafter, rfl⟩ := afterBlanks_eq_some hu
    rw [← List.append_assoc, words_append_gap hafter, words_of_aliasToEnd hend,
      words_of_unbroken (unbroken_of_upper (by decide) hw)]
    rfl
  · rw [words_of_aliasToEnd hbare]
    exact Nat.le_succ 1

/-- A text that begins without white space has no tail yet. -/
theorem aliasTail_eq_none (hs : s.head?.any isBlank = false) : aliasTail s = none := by
  rw [aliasTail, afterBlanks_eq_none hs]
  rfl

theorem sourceAliasTail_eq_none (hs : s.head?.any isBlank = false) : sourceAliasTail s = none := by
  rw [sourceAliasTail, sourceAlias, afterBlanks_eq_none hs]
  rfl

/-- A text without white space does not go on behind AS in it. -/
theorem afterBlanks_afterWord {a t : List Char} (ha : Unbroken a)
    (ht : afterWord ['a', 's'] a = some t) : afterBlanks t = none := by
  obtain ⟨w, -, rfl⟩ := afterWord_as.mp ht
  cases t with
  | nil => rfl
  | cons c t => exact afterBlanks_eq_none (by simp [ha.solid c (by simp)])

theorem sourceAlias_gap {a : List Char} (hgap : IsGap gap) (ha : Unbroken a) :
    sourceAlias (gap ++ a) = some a := by
  have hspace : ' ' ∉ a := by
    intro hmem
    have hblank := ha.solid ' ' hmem
    cases hblank
  rw [sourceAlias, afterBlanks_gap hgap ha.trimmed.head]
  simp [ha.ne_nil, hspace]

/-- AS is read up to the white space behind it. -/
theorem afterBlanks_as {before w : List Char} (hbefore : IsGap before) (hw : upper w = ['A', 'S'])
    (s : List Char) : afterBlanks (before ++ (w ++ s)) = some (w ++ s) ∧
      afterWord ['a', 's'] (w ++ s) = some s := by
  have hword : Unbroken w := unbroken_of_upper (by decide) hw
  constructor
  · refine afterBlanks_gap hbefore ?_
    rw [List.head?_append_of_ne_nil w hword.ne_nil]
    exact hword.trimmed.head
  · exact afterWord_as.mpr ⟨w, hw, rfl⟩

/-- Behind a link the alias of an item is read, even one that begins with AS or is this word. -/
theorem aliasTail_link {link a : List Char} (hlink : IsLink link) (ha : IsAlias a) :
    aliasTail (link ++ a) = some a := by
  have hhead := ha.unbroken.trimmed.head
  rcases hlink with hgap | ⟨before, w, after, rfl, hbefore, hw, hafter⟩
  · refine Option.bind_eq_some_iff.mpr ⟨a, afterBlanks_gap hgap hhead, ?_⟩
    refine (Option.orElse_eq_some _ _ _).mpr (.inr ⟨?_, aliasToEnd_eq_self ha⟩)
    refine Option.bind_eq_none_iff.mpr fun t ht => ?_
    rw [afterBlanks_afterWord ha.unbroken ht]
    rfl
  · obtain ⟨hblanks, hword⟩ := afterBlanks_as hbefore hw (after ++ a)
    rw [List.append_assoc, List.append_assoc]
    refine Option.bind_eq_some_iff.mpr ⟨_, hblanks, (Option.orElse_eq_some _ _ _).mpr (.inl ?_)⟩
    refine Option.bind_eq_some_iff.mpr ⟨_, hword, ?_⟩
    rw [afterBlanks_gap hafter hhead]
    exact aliasToEnd_eq_self ha

theorem sourceAliasTail_link {link a : List Char} (hlink : IsLink link) (ha : Unbroken a) :
    sourceAliasTail (link ++ a) = some a := by
  rcases hlink with hgap | ⟨before, w, after, rfl, hbefore, hw, hafter⟩
  · refine (Option.orElse_eq_some _ _ _).mpr (.inr ⟨?_, sourceAlias_gap hgap ha⟩)
    rw [afterBlanks_gap hgap ha.trimmed.head]
    show (afterWord ['a', 's'] a).bind sourceAlias = none
    refine Option.bind_eq_none_iff.mpr fun t ht => ?_
    rw [sourceAlias, afterBlanks_afterWord ha ht]
    rfl
  · obtain ⟨hblanks, hword⟩ := afterBlanks_as hbefore hw (after ++ a)
    rw [List.append_assoc, List.append_assoc]
    refine (Option.orElse_eq_some _ _ _).mpr (.inl (Option.bind_eq_some_iff.mpr ⟨_, hblanks, ?_⟩))
    exact Option.bind_eq_some_iff.mpr ⟨_, hword, sourceAlias_gap hafter ha⟩

/-- The alias of an item is cut off behind the whole column. -/
theorem splitLine_alias {link a : List Char} (hs : Unbroken s) (hlink : IsLink link)
    (ha : IsAlias a) : splitLine aliasTail (s ++ link ++ a) = some (s, a) := by
  rw [List.append_assoc]
  exact splitLine_unbroken hs (fun t => aliasTail_eq_none) (aliasTail_link hlink ha)

/-- The alias of a source is cut off behind the whole source. -/
theorem splitLine_sourceAlias {link a : List Char} (hs : Unbroken s) (hlink : IsLink link)
    (ha : Unbroken a) : splitLine sourceAliasTail (s ++ link ++ a) = some (s, a) := by
  rw [List.append_assoc]
  exact splitLine_unbroken hs (fun t => sourceAliasTail_eq_none) (sourceAliasTail_link hlink ha)

/-- With AS in front of the alias there may be white space in the column. -/
theorem splitLine_alias_as {link a : List Char} (hs : Trimmed s) (hline : '\n' ∉ s)
    (hlink : IsAs link) (ha : IsAlias a) : splitLine aliasTail (s ++ link ++ a) = some (s, a) := by
  rw [List.append_assoc]
  refine splitLine_append hline (fun t hne ht => ?_) (aliasTail_link (.inr hlink) ha)
  obtain ⟨before, w, after, rfl, hbefore, hw, hafter⟩ := hlink
  have hword : Unbroken w := unbroken_of_upper (by decide) hw
  have hcount : words (t ++ (before ++ (w ++ after) ++ a)) = words t ++ ([w] ++ [a]) := by
    rw [← words_of_unbroken hword, ← words_of_unbroken ha.unbroken, ← words_append_gap hafter,
      ← words_append_gap hbefore]
    simp
  rw [Option.eq_none_iff_forall_ne_some]
  intro b hb
  -- A word of the column, AS and the alias are too many words.
  have hwords := words_of_aliasTail hb
  have hfirst := List.length_pos_iff.mpr (words_ne_nil hne (hs.last_of_suffix ht hne))
  rw [hcount, List.length_append] at hwords
  simp only [List.length_append, List.length_singleton] at hwords
  omega

end SqlLoom.Text
