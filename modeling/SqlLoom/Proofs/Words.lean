import Mathlib.Data.List.Infix
import SqlLoom.Proofs.Shorthand.Spelling

/-!
# `SqlLoom.Proofs.Words`: white space and the words between it

A text is taken apart at white space: it is trimmed at its ends (`Trimmed.trim_padded`), and a gap
inside parts its words (`words_append_gap`).

A word such as AS or DESC may be written in any case, which is to say that it is this word in
capitals (`upper`). It is looked for letter by letter, and there the long s counts as an s, as it
does in capitals. No other letter beyond ASCII has a capital of these words, and no several letters
are the capitals of one: `afterWord_eq_some_iff`.
-/

set_option autoImplicit false

namespace SqlLoom.Text

variable {s t rest gap : List Char} {c : Char}

/-! ### White space at the ends -/

/-- White space, and some of it. -/
structure IsGap (gap : List Char) : Prop where
  ne_nil : gap ≠ []
  blank : ∀ c ∈ gap, isBlank c = true

/-- Some text without white space at its ends. -/
structure Trimmed (s : List Char) : Prop where
  ne_nil : s ≠ []
  head : s.head?.any isBlank = false
  last : s.getLast?.any isBlank = false

/-- Some text without any white space. -/
structure Unbroken (s : List Char) : Prop where
  ne_nil : s ≠ []
  solid : ∀ c ∈ s, isBlank c = false

instance (gap : List Char) : Decidable (IsGap gap) :=
  decidable_of_iff (gap ≠ [] ∧ gap.all isBlank = true)
    ⟨fun h => ⟨h.1, List.all_eq_true.mp h.2⟩, fun h => ⟨h.1, List.all_eq_true.mpr h.2⟩⟩

instance (s : List Char) : Decidable (Trimmed s) :=
  decidable_of_iff (s ≠ [] ∧ s.head?.any isBlank = false ∧ s.getLast?.any isBlank = false)
    ⟨fun h => ⟨h.1, h.2.1, h.2.2⟩, fun h => ⟨h.1, h.2, h.3⟩⟩

instance (s : List Char) : Decidable (Unbroken s) :=
  decidable_of_iff (s ≠ [] ∧ s.any isBlank = false)
    ⟨fun h => ⟨h.1, by simpa using h.2⟩, fun h => ⟨h.1, by simpa using h.2⟩⟩

theorem Unbroken.trimmed (h : Unbroken s) : Trimmed s where
  ne_nil := h.ne_nil
  head := by
    rw [Option.any_eq_false]
    exact fun c hc => by simp [h.solid c (List.mem_of_mem_head? hc)]
  last := by
    rw [Option.any_eq_false]
    exact fun c hc => by simp [h.solid c (List.mem_of_getLast? hc)]

/-- White space in front of a text is passed over. -/
theorem trimStart_append (hgap : ∀ c ∈ gap, isBlank c = true) (s : List Char) :
    trimStart (gap ++ s) = trimStart s :=
  List.dropWhile_append_of_pos hgap

theorem trimStart_eq_self (hs : s.head?.any isBlank = false) : trimStart s = s := by
  cases s with
  | nil => rfl
  | cons c s => exact List.dropWhile_cons_of_neg (by simpa using hs)

theorem trimEnd_append (hgap : ∀ c ∈ gap, isBlank c = true) (s : List Char) :
    trimEnd (s ++ gap) = trimEnd s := by
  rw [trimEnd, trimEndOf, List.reverse_append,
    List.dropWhile_append_of_pos fun c hc => hgap c (List.mem_reverse.mp hc)]
  rfl

theorem trimEnd_eq_self (hs : s.getLast?.any isBlank = false) : trimEnd s = s := by
  have hreverse : trimStart s.reverse = s.reverse :=
    trimStart_eq_self (by rwa [List.head?_reverse])
  rw [trimEnd, trimEndOf]
  exact (congrArg List.reverse hreverse).trans (List.reverse_reverse s)

/-- What is trimmed is a text without the white space that was put around it. -/
theorem Trimmed.trim_padded (hs : Trimmed s) {before after : List Char}
    (hbefore : ∀ c ∈ before, isBlank c = true) (hafter : ∀ c ∈ after, isBlank c = true) :
    trim (before ++ s ++ after) = s := by
  have hhead : (s ++ after).head?.any isBlank = false := by
    rw [List.head?_append_of_ne_nil s hs.ne_nil]
    exact hs.head
  rw [trim, List.append_assoc, trimStart_append hbefore, trimStart_eq_self hhead,
    trimEnd_append hafter, trimEnd_eq_self hs.last]

theorem Trimmed.trim_eq (hs : Trimmed s) : trim s = s := by
  simpa using hs.trim_padded (List.forall_mem_nil _) (List.forall_mem_nil _)

/-- A text ends as the last part of it does. -/
theorem Trimmed.last_of_suffix (hs : Trimmed s) (hsuffix : t <:+ s) (hne : t ≠ []) :
    t.getLast?.any isBlank = false := by
  obtain ⟨front, rfl⟩ := hsuffix
  have hlast := hs.last
  rwa [List.getLast?_append_of_ne_nil front hne] at hlast

theorem Unbroken.of_suffix (hs : Unbroken s) (hsuffix : t <:+ s) (hne : t ≠ []) : Unbroken t :=
  ⟨hne, fun c hc => hs.solid c (hsuffix.subset hc)⟩

theorem Trimmed.append (hs : Trimmed s) (ht : Trimmed t) (middle : List Char) :
    Trimmed (s ++ middle ++ t) where
  ne_nil := by simp [hs.ne_nil]
  head := by
    rw [List.append_assoc, List.head?_append_of_ne_nil s hs.ne_nil]
    exact hs.head
  last := by
    rw [List.getLast?_append_of_ne_nil _ ht.ne_nil]
    exact ht.last

/-- Behind a gap a text goes on at its next character. -/
theorem afterBlanks_gap (hgap : IsGap gap) (hs : s.head?.any isBlank = false) :
    afterBlanks (gap ++ s) = some s := by
  obtain ⟨b, gap, rfl⟩ := List.exists_cons_of_ne_nil hgap.ne_nil
  obtain ⟨hb, hblank⟩ := List.forall_mem_cons.mp hgap.blank
  show (if isBlank b then some (trimStart (gap ++ s)) else none) = some s
  rw [if_pos hb, trimStart_append hblank, trimStart_eq_self hs]

theorem afterBlanks_eq_none (hs : s.head?.any isBlank = false) : afterBlanks s = none := by
  cases s with
  | nil => rfl
  | cons c s => exact if_neg (by simpa using hs)

/-- What follows white space follows a gap. -/
theorem afterBlanks_eq_some (h : afterBlanks s = some rest) :
    ∃ gap, IsGap gap ∧ s = gap ++ rest := by
  cases s with
  | nil => cases h
  | cons c s =>
      rw [afterBlanks] at h
      split at h
      · rename_i hc
        cases h
        refine ⟨c :: s.takeWhile isBlank, ⟨List.cons_ne_nil _ _, ?_⟩, ?_⟩
        · exact List.forall_mem_cons.mpr ⟨hc, List.all_eq_true.mp List.all_takeWhile⟩
        · exact congrArg (c :: ·) List.takeWhile_append_dropWhile.symm
      · cases h

/-! ### Words -/

/-- White space ends an unfinished word. -/
theorem wordsAfter_blank (hc : isBlank c = true) (open_ s : List Char) :
    wordsAfter open_ (c :: s) = wordsAfter open_ [] ++ words s := by
  show (if isBlank c then _ else _) = (if open_.isEmpty then [] else [open_.reverse]) ++ _
  rw [if_pos hc]
  cases open_ <;> rfl

/-- Any other character belongs to it. -/
theorem wordsAfter_solid (hc : isBlank c = false) (open_ s : List Char) :
    wordsAfter open_ (c :: s) = wordsAfter (c :: open_) s := by
  show (if isBlank c then _ else _) = _
  rw [hc]
  rfl

theorem words_gap_append (hgap : IsGap gap) (rest : List Char) :
    words (gap ++ rest) = words rest := by
  have hblank := hgap.blank
  clear hgap
  induction gap with
  | nil => rfl
  | cons b gap ih =>
      obtain ⟨hb, hblanks⟩ := List.forall_mem_cons.mp hblank
      rw [words, List.cons_append, wordsAfter_blank hb, ih hblanks]
      rfl

/-- A gap parts the words in front of it from those behind. -/
theorem words_append_gap (hgap : IsGap gap) (s rest : List Char) :
    words (s ++ gap ++ rest) = words s ++ words rest := by
  have hopen (open_ : List Char) :
      wordsAfter open_ (s ++ (gap ++ rest)) = wordsAfter open_ s ++ words rest := by
    induction s generalizing open_ with
    | nil =>
        obtain ⟨b, gap, rfl⟩ := List.exists_cons_of_ne_nil hgap.ne_nil
        have hb := hgap.blank b List.mem_cons_self
        have hbehind := words_gap_append hgap rest
        rw [words, List.cons_append, wordsAfter_blank hb] at hbehind
        rw [List.nil_append, List.cons_append, wordsAfter_blank hb, ← hbehind]
        rfl
    | cons c s ih =>
        rw [List.cons_append]
        cases hc : isBlank c with
        | true =>
            rw [wordsAfter_blank hc, wordsAfter_blank hc, words, ih [], List.append_assoc]
            rfl
        | false => rw [wordsAfter_solid hc, wordsAfter_solid hc, ih (c :: open_)]
  rw [List.append_assoc]
  exact hopen []

/-- A text without white space is one word. -/
theorem words_of_unbroken (hs : Unbroken s) : words s = [s] := by
  have hopen (open_ : List Char) : wordsAfter open_ s = wordsAfter (s.reverse ++ open_) [] := by
    have hsolid := hs.solid
    clear hs
    induction s generalizing open_ with
    | nil => rfl
    | cons c s ih =>
        obtain ⟨hc, hs⟩ := List.forall_mem_cons.mp hsolid
        rw [wordsAfter_solid hc, ih (c :: open_) hs]
        simp
  rw [words, hopen, List.append_nil, wordsAfter, List.reverse_reverse]
  exact if_neg (by simpa using hs.ne_nil)

/-- A text that does not end in white space has a word. -/
theorem words_ne_nil (hne : s ≠ []) (hlast : s.getLast?.any isBlank = false) : words s ≠ [] := by
  rw [List.getLast?_eq_some_getLast hne, Option.any_some] at hlast
  obtain ⟨w, hw, -⟩ := exists_mem_wordsAfter [] (.inr ⟨List.getLast_mem hne, hlast⟩)
  exact List.ne_nil_of_mem hw

/-! ### Words in any case -/

/-- The words that are looked for in a line, in capitals. -/
def lineWords : List (List Char) := [['A', 'S'], ['A', 'S', 'C'], ['D', 'E', 'S', 'C']]

/-- Few characters beyond ASCII have a capital in it: the small i without its dot and the long s. -/
theorem upperRuns_to_ascii : upperRuns.all (fun r => 128 ≤ (r.first : Int) + r.shift ||
    r.first == r.last && (r.first == 'ı'.toNat || r.first == 'ſ'.toNat)) = true := by
  decide

/-- Several capitals of one character are not capitals of a word that is looked for. -/
theorem upperSequences_apart : ∀ word ∈ lineWords, ∀ behind ∈ word.tails,
    ∀ e ∈ upperSequences, ¬ e.2.map Char.ofNat <+: behind := by
  decide

/-- The ASCII characters, the small i without its dot and the long s. -/
def nearLetters : List Char := 'ı' :: 'ſ' :: (List.range 128).map Char.ofNat

theorem sameLetter_eq_near : lineWords.flatten.all (fun letter => nearLetters.all fun c =>
    sameLetter letter.toLower c == (upperChar c == [letter])) = true := by
  decide

theorem lineLetters_plain : lineWords.flatten.all (fun letter => decide (letter.toNat < 128) &&
    decide (letter.toLower.toNat < 128) && letter != '\x00' && !isBlank letter) = true := by
  decide

theorem mem_nearLetters (hc : c.toNat < 128 ∨ c = 'ı' ∨ c = 'ſ') : c ∈ nearLetters := by
  rcases hc with hc | rfl | rfl
  · refine List.mem_cons_of_mem _ (List.mem_cons_of_mem _ (List.mem_map.mpr ⟨c.toNat, ?_, ?_⟩))
    · exact List.mem_range.mpr hc
    · exact Char.ofNat_toNat c
  · exact List.mem_cons_self
  · exact List.mem_cons_of_mem _ List.mem_cons_self

theorem toNat_ofNat_or (n : Nat) : (Char.ofNat n).toNat = n ∨ Char.ofNat n = '\x00' := by
  by_cases hvalid : n.isValidChar
  · left
    rw [Char.ofNat, dif_pos hvalid]
    rfl
  · right
    rw [Char.ofNat, dif_neg hvalid]
    rfl

/-- What lies in a run of the table of capitals, or in none, has one capital. -/
theorem upperChar_beyond (hc : 128 ≤ c.toNat) :
    (∃ e ∈ upperSequences, upperChar c = e.2.map Char.ofNat) ∨
      ∃ d, upperChar c = [d] ∧ (128 ≤ d.toNat ∨ d = '\x00' ∨ c = 'ı' ∨ c = 'ſ') := by
  rw [upperChar, if_neg (by omega)]
  split
  · rename_i s hs
    obtain ⟨e, he, rfl⟩ := Option.map_eq_some_iff.mp hs
    exact .inl ⟨e, List.mem_of_find?_eq_some he, rfl⟩
  · refine .inr ⟨_, rfl, ?_⟩
    cases hshift : shifted upperRuns c with
    | none => exact .inl hc
    | some d =>
        obtain ⟨r, hr, rfl⟩ := Option.map_eq_some_iff.mp hshift
        have hholds := List.find?_some hr
        simp only [CaseRun.holds, Bool.and_eq_true, decide_eq_true_eq] at hholds
        have hrun := List.all_eq_true.mp upperRuns_to_ascii r (List.mem_of_find?_eq_some hr)
        simp only [Bool.or_eq_true, Bool.and_eq_true, decide_eq_true_eq, beq_iff_eq] at hrun
        rcases hrun with hfar | ⟨hone, hnear⟩
        · rcases toNat_ofNat_or ((c.toNat : Int) + r.shift).toNat with hnat | hnull
          · exact .inl (by rw [Option.getD_some, hnat]; omega)
          · exact .inr (.inl hnull)
        · refine .inr (.inr (hnear.imp (fun h => ?_) fun h => ?_)) <;>
            exact Char.toNat_inj.mp (by omega)

/-- A character has several capitals or one. -/
theorem upperChar_cases (c : Char) :
    (∃ e ∈ upperSequences, upperChar c = e.2.map Char.ofNat) ∨ ∃ d, upperChar c = [d] := by
  by_cases hc : c.toNat < 128
  · exact .inr ⟨c.toUpper, by rw [upperChar, if_pos hc]⟩
  · rcases upperChar_beyond (not_lt.mp hc) with hseveral | ⟨d, hone, -⟩
    · exact .inl hseveral
    · exact .inr ⟨d, hone⟩

/-- No letter beyond ASCII has a capital of these words, but for the two. -/
theorem upperChar_ne_letter {word : List Char} (hword : word ∈ lineWords) {letter : Char}
    (hletter : letter ∈ word) (hc : 128 ≤ c.toNat) (hdotless : c ≠ 'ı') (hlong : c ≠ 'ſ') :
    upperChar c ≠ [letter] := by
  intro hupper
  have hflat : letter ∈ lineWords.flatten := List.mem_flatten_of_mem hword hletter
  have hplain := List.all_eq_true.mp lineLetters_plain letter hflat
  simp only [Bool.and_eq_true, decide_eq_true_eq, bne_iff_ne] at hplain
  obtain ⟨⟨⟨hcapital, -⟩, hnull⟩, -⟩ := hplain
  rcases upperChar_beyond hc with ⟨e, he, hseveral⟩ | ⟨d, hone, hd⟩
  · obtain ⟨before, after, hsplit⟩ := List.append_of_mem hletter
    refine upperSequences_apart word hword (letter :: after)
      ((List.mem_tails _ _).mpr ⟨before, hsplit.symm⟩) e he ?_
    rw [← hseveral, hupper]
    exact List.prefix_append [letter] after
  · obtain rfl : d = letter := List.singleton_inj.mp (hone.symm.trans hupper)
    rcases hd with hfar | h | h | h
    exacts [absurd hcapital (not_lt.mpr hfar), hnull h, hdotless h, hlong h]

theorem toLower_of_beyond (hc : 128 ≤ c.toNat) : c.toLower = c := by
  refine dif_neg fun hupper => ?_
  have hcode : c.toNat ≤ 'Z'.toNat := UInt32.le_iff_toNat_le.mp hupper.2
  exact not_lt.mpr hc (hcode.trans_lt (by decide))

/-- Characters are compared with a letter of these words as their capitals are. -/
theorem sameLetter_iff {word : List Char} (hword : word ∈ lineWords) {letter : Char}
    (hletter : letter ∈ word) : sameLetter letter.toLower c = true ↔ upperChar c = [letter] := by
  have hflat : letter ∈ lineWords.flatten := List.mem_flatten_of_mem hword hletter
  by_cases hnear : c.toNat < 128 ∨ c = 'ı' ∨ c = 'ſ'
  · have hsame := List.all_eq_true.mp (List.all_eq_true.mp sameLetter_eq_near letter hflat) c
      (mem_nearLetters hnear)
    rw [eq_of_beq hsame, beq_iff_eq]
  -- Far from ASCII neither side holds.
  obtain ⟨hc, hdotless, hlong⟩ : 128 ≤ c.toNat ∧ ¬ c = 'ı' ∧ ¬ c = 'ſ' := by
    simpa only [not_or, not_lt] using hnear
  refine iff_of_false ?_ (upperChar_ne_letter hword hletter hc hdotless hlong)
  have hplain := List.all_eq_true.mp lineLetters_plain letter hflat
  simp only [Bool.and_eq_true, decide_eq_true_eq] at hplain
  obtain ⟨⟨⟨-, hsmall⟩, -⟩, -⟩ := hplain
  rw [sameLetter, toLower_of_beyond hc, Bool.or_eq_true, Bool.and_eq_true, beq_iff_eq,
    beq_iff_eq, beq_iff_eq]
  rintro (rfl | ⟨-, h⟩)
  · exact not_lt.mpr hc hsmall
  · exact hlong h

/-- Each character in turn is the letter of the word, in any case. -/
def SameLetters : List Char → List Char → Prop :=
  List.Forall₂ fun letter c => sameLetter letter c = true

/-- A text is the end of a word that is looked for, in any case, if it is that in capitals. -/
theorem sameLetters_iff {word behind : List Char} (hword : word ∈ lineWords)
    (hbehind : behind <:+ word) (s : List Char) :
    SameLetters (behind.map Char.toLower) s ↔ upper s = behind := by
  induction behind generalizing s with
  | nil =>
      cases s with
      | nil => exact iff_of_true .nil rfl
      | cons c s =>
          refine iff_of_false (fun h => by cases h) fun h => ?_
          obtain ⟨hc, -⟩ := List.append_eq_nil_iff.mp (show upperChar c ++ upper s = [] from h)
          rcases upperChar_cases c with ⟨e, he, hseveral⟩ | ⟨d, hone⟩
          · refine upperSequences_apart word hword [] ((List.mem_tails _ _).mpr hbehind) e he ?_
            rw [← hseveral, hc]
          · rw [hone] at hc
            cases hc
  | cons letter behind ih =>
      have hletter := hbehind.subset List.mem_cons_self
      have hrest := ih ((List.suffix_cons letter behind).trans hbehind)
      cases s with
      | nil => exact iff_of_false (fun h => by cases h) fun h => by cases h
      | cons c s =>
          rw [List.map_cons, SameLetters, List.forall₂_cons, sameLetter_iff hword hletter]
          rw [← SameLetters, hrest, show upper (c :: s) = upperChar c ++ upper s from rfl]
          constructor
          · rintro ⟨hc, hs⟩
            rw [hc, hs]
            rfl
          · intro h
            rcases upperChar_cases c with ⟨e, he, hseveral⟩ | ⟨d, hone⟩
            · refine absurd ?_
                (upperSequences_apart word hword _ ((List.mem_tails _ _).mpr hbehind) e he)
              rw [← hseveral, ← h]
              exact List.prefix_append _ _
            · rw [hone] at h ⊢
              obtain ⟨rfl, hs⟩ := List.cons.inj h
              exact ⟨rfl, hs⟩

theorem afterWord_eq_some_sameLetters {word s rest : List Char} :
    afterWord word s = some rest ↔ ∃ w, SameLetters word w ∧ s = w ++ rest := by
  induction word generalizing s with
  | nil =>
      constructor
      · rintro ⟨⟩
        exact ⟨[], .nil, rfl⟩
      · rintro ⟨w, hw, rfl⟩
        cases hw
        rfl
  | cons letter word ih =>
      cases s with
      | nil =>
          refine iff_of_false (fun h => by cases h) ?_
          rintro ⟨w, hw, hs⟩
          obtain ⟨rfl, -⟩ := List.append_eq_nil_iff.mp hs.symm
          cases hw
      | cons c s =>
          rw [afterWord]
          constructor
          · intro h
            split at h
            · rename_i hc
              obtain ⟨w, hw, rfl⟩ := ih.mp h
              exact ⟨c :: w, .cons hc hw, rfl⟩
            · cases h
          · rintro ⟨w, hw, hs⟩
            cases hw with
            | cons hc hw =>
                obtain ⟨rfl, rfl⟩ := List.cons.inj hs
                rw [if_pos hc]
                exact ih.mpr ⟨_, hw, rfl⟩

/-- What follows a word is what follows it in any case. -/
theorem afterWord_eq_some_iff {word s rest : List Char} (hword : word ∈ lineWords) :
    afterWord (word.map Char.toLower) s = some rest ↔ ∃ w, upper w = word ∧ s = w ++ rest := by
  rw [afterWord_eq_some_sameLetters]
  exact exists_congr fun w => and_congr_left' (sameLetters_iff hword List.suffix_rfl w)

/-- A word in any case has no white space in it. -/
theorem unbroken_of_upper {word w : List Char} (hword : word ∈ lineWords) (hw : upper w = word) :
    Unbroken w where
  ne_nil := by
    rintro rfl
    rw [← hw] at hword
    exact absurd hword (by decide)
  solid := by
    intro c hc
    rw [Bool.eq_false_iff]
    intro hblank
    have hself : c ∈ upperChar c := by
      rw [upperChar_of_isBlank hblank]
      exact List.mem_singleton_self c
    have hmem : c ∈ upper w := List.mem_flatMap.mpr ⟨c, hc, hself⟩
    rw [hw] at hmem
    have hplain := List.all_eq_true.mp lineLetters_plain c (List.mem_flatten_of_mem hword hmem)
    rw [hblank, Bool.not_true, Bool.and_false] at hplain
    cases hplain

end SqlLoom.Text
