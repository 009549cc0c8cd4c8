import SqlLoom.Proofs.Identifier
import SqlLoom.Proofs.Words
import SqlLoom.Query.Shorthand

/-!
# `SqlLoom.Proofs.Listing`: parts in one text and parts in a list

A clause is given as one text with commas between its parts, or as a list that has a member for
each part. White space may stand around a part. Both ways the clause has the same parts, provided
that these can be told apart by the commas: a part has no comma itself, and no parenthesis, which
would make one expression of the whole text (`IsListed`).

* `splitNames_join`: the parts of one text.
* `spelledItems_eq`: the parts of a list, each member of which spells one.
-/

set_option autoImplicit false

namespace SqlLoom

namespace Text

variable {s part : List Char}

/-- The text `part` is `s` with white space around it. -/
def Padded (s part : List Char) : Prop :=
  ∃ before after, (∀ c ∈ before, isBlank c = true) ∧ (∀ c ∈ after, isBlank c = true) ∧
    part = before ++ s ++ after

theorem Padded.of_all {before after : List Char} (hbefore : before.all isBlank = true)
    (hafter : after.all isBlank = true) (hpart : part = before ++ s ++ after) : Padded s part :=
  ⟨before, after, List.all_eq_true.mp hbefore, List.all_eq_true.mp hafter, hpart⟩

theorem Padded.trim_eq (h : Padded s part) (hs : Trimmed s) : trim part = s := by
  obtain ⟨before, after, hbefore, hafter, rfl⟩ := h
  exact hs.trim_padded hbefore hafter

/-- Only white space is left out of a text that is trimmed. -/
theorem padded_trim (s : List Char) : Padded (trim s) s := by
  refine ⟨s.takeWhile isBlank, ((trimStart s).reverse.takeWhile isBlank).reverse,
    List.all_eq_true.mp List.all_takeWhile, fun c hc => ?_, ?_⟩
  · exact List.all_eq_true.mp List.all_takeWhile c (List.mem_reverse.mp hc)
  · have hback : trimEnd (trimStart s) ++ ((trimStart s).reverse.takeWhile isBlank).reverse
        = trimStart s := by
      rw [trimEnd, trimEndOf, ← List.reverse_append, List.takeWhile_append_dropWhile,
        List.reverse_reverse]
    rw [List.append_assoc, trim, hback]
    exact List.takeWhile_append_dropWhile.symm

/-- White space around a text adds no other character to it. -/
theorem Padded.not_mem (h : Padded s part) {c : Char} (hc : isBlank c = false) (hs : c ∉ s) :
    c ∉ part := by
  obtain ⟨before, after, hbefore, hafter, rfl⟩ := h
  have hgap {gap : List Char} (hgap : ∀ b ∈ gap, isBlank b = true) : c ∉ gap :=
    fun hmem => Bool.false_ne_true (hc.symm.trans (hgap c hmem))
  simp only [List.mem_append, not_or]
  exact ⟨⟨hgap hbefore, hs⟩, hgap hafter⟩

/-- The characters that part a text, or make one expression of it. -/
def listMarks : List Char := [',', '(']

theorem listMarks_solid : listMarks.any isBlank = false := by decide

/-- A text that can stand between commas. -/
structure IsListed (s : List Char) : Prop where
  trimmed : Trimmed s
  clear : ∀ mark ∈ listMarks, mark ∉ s

/-- A text that can stand between commas, on one line. -/
structure IsListedLine (s : List Char) : Prop extends IsListed s where
  line : '\n' ∉ s

instance (s : List Char) : Decidable (IsListed s) :=
  decidable_of_iff (Trimmed s ∧ listMarks.any s.contains = false)
    ⟨fun h => ⟨h.1, by simpa using h.2⟩, fun h => ⟨h.1, by simpa using h.2⟩⟩

instance (s : List Char) : Decidable (IsListedLine s) :=
  decidable_of_iff (IsListed s ∧ '\n' ∉ s) ⟨fun h => ⟨h.1, h.2⟩, fun h => ⟨h.1, h.2⟩⟩

theorem IsGap.clear {gap : List Char} (h : IsGap gap) : ∀ mark ∈ listMarks, mark ∉ gap :=
  fun mark hmark hmem => List.any_eq_false.mp listMarks_solid mark hmark (h.blank mark hmem)

/-- A word that is looked for has no such character in any case. -/
theorem clear_of_upper {word w : List Char} (hword : word ∈ lineWords) (hw : upper w = word) :
    ∀ mark ∈ listMarks, mark ∉ w := by
  intro mark hmark hmem
  have hself : listMarks.all (fun mark => upperChar mark == [mark]) = true := by decide
  have hmark' : mark ∈ upperChar mark := by
    rw [eq_of_beq (List.all_eq_true.mp hself mark hmark)]
    exact List.mem_singleton_self mark
  have hupper : mark ∈ upper w := List.mem_flatMap.mpr ⟨mark, hmem, hmark'⟩
  have hletters : listMarks.any lineWords.flatten.contains = false := by decide
  rw [hw] at hupper
  exact List.any_eq_false.mp hletters mark hmark
    (List.contains_iff_mem.mpr (List.mem_flatten_of_mem hword hupper))

theorem IsListed.append (hs : IsListed s) {middle t : List Char}
    (hmiddle : ∀ mark ∈ listMarks, mark ∉ middle) (ht : IsListed t) :
    IsListed (s ++ middle ++ t) where
  trimmed := hs.trimmed.append ht.trimmed middle
  clear := by
    intro mark hmark
    simp only [List.mem_append, not_or]
    exact ⟨⟨hs.clear mark hmark, hmiddle mark hmark⟩, ht.clear mark hmark⟩

theorem not_mem_join {parts : List (List Char)} {sep c : Char} (hc : c ≠ sep)
    (hparts : ∀ part ∈ parts, c ∉ part) : c ∉ join [sep] parts := by
  rw [← List.singleton_infix_iff, infix_join_iff (by simpa using hc.symm) (by simp)]
  rintro ⟨part, hpart, hmem⟩
  exact hparts part hpart ((List.singleton_infix_iff c part).mp hmem)

end Text

/-- The parts of a text with commas are the texts between these. -/
theorem splitNames_join {parts : List (List Char)}
    (hparts : ∀ part ∈ parts, Text.IsListed (Text.trim part)) :
    splitNames (String.ofList (Text.join [','] parts))
      = parts.map fun part => String.ofList (Text.trim part) := by
  have hparen : '(' ∉ Text.join [','] parts :=
    Text.not_mem_join (by decide) fun part hpart =>
      (Text.padded_trim part).not_mem (by decide) ((hparts part hpart).clear '(' (by decide))
  rw [splitNames, String.toList_ofList, if_neg (by simpa using hparen)]
  rcases eq_or_ne parts [] with rfl | hne
  · rfl
  · rw [Text.splitAt_join (fun part hpart => (Text.padded_trim part).not_mem (by decide)
      ((hparts part hpart).clear ',' (by decide))) hne, List.filterMap_map, ← List.filterMap_eq_map]
    refine List.filterMap_congr fun part hpart => if_neg ?_
    simpa using (hparts part hpart).trimmed.ne_nil

/-- What is read from the parts of a text is what is read from each of them. -/
theorem map_splitNames_join {α β : Type} {read : String → β} {meaning : α → β} {keys : List α}
    {parts : List (List Char)}
    (h : List.Forall₂ (fun key part => Text.IsListed (Text.trim part) ∧
      read (String.ofList (Text.trim part)) = meaning key) keys parts) :
    (splitNames (String.ofList (Text.join [','] parts))).map read = keys.map meaning := by
  have hlisted : ∀ part ∈ parts, Text.IsListed (Text.trim part) :=
    ((List.forall₂_and_left _ _).mp h.flip).1
  rw [splitNames_join hlisted, List.map_map]
  clear hlisted
  induction h with
  | nil => rfl
  | cons hfirst _ ih => exact congrArg₂ List.cons hfirst.2 ih

/-- What is read as a whole is not gone through. -/
theorem spelled_of_whole {β : Type} {r : Reading β} {v : Value} {parts : Except Error (List β)}
    (h : r.whole? v = some parts) : v.spelled r = parts := by
  rw [Value.spelled.eq_def, Reading.read, h]
  rfl

/-- A list has the parts that its members spell. -/
theorem spelledItems_eq {β : Type} {r : Reading β} {parts : List β} {items : List Value}
    (h : List.Forall₂ (fun part v => r.member v (v.spelled r) = .ok [part]) parts items) :
    spelledItems r items = .ok parts := by
  induction h with
  | nil => rfl
  | cons hfirst _ ih =>
      rw [spelledItems, hfirst, ih]
      rfl

end SqlLoom
