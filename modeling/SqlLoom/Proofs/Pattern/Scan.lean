import Mathlib.Data.Finset.Max
import SqlLoom.Proofs.Pattern

/-!
# `SqlLoom.Proofs.Pattern.Scan`: keys are replaced in one pass

Going through a text from left to right cuts it into portions: the longest key that stands at a
place, or one character where no key stands (`Scan`). What a mapping puts in the place of a key is
no part of that, so nothing that has been put in is gone through again.

`replaceKeys` searches keys sorted by length and counts down the characters of a key that it has
replaced. It writes the portions of the scan:

* `Scan.exists_portions`, `Scan.unique`: without the empty key there is exactly one scan of a text.
* `Text.keyAt_sorted`, `keyAt_of_isLongest`: the first key that stands at a place, in the order of
  length, is the longest.
* `Scan.replaceKeys_eq`: keys are replaced as the scan finds them.
* `Scan.append`: keys of one character are found the same in a longer text.
* `keys_replaced_in_one_pass`: all of it together.
-/

set_option autoImplicit false

namespace SqlLoom

/-! ### Going through a text -/

/-- A portion of a text: a key that stands there, or one character. -/
inductive Portion where
  | key (k : String)
  | char (c : Char)
  deriving DecidableEq, Repr

/-- What a mapping writes for a portion: the text that stands for the key, or the character. -/
def Portion.written (table : Entries String) : Portion → List Char
  | .key k => ((table.get? k).getD k).toList
  | .char c => [c]

/-- The longest key that stands at the start of a text. -/
structure IsLongest (keys : List String) (s : List Char) (k : String) : Prop where
  mem : k ∈ keys
  stands : k.toList <+: s
  longest : ∀ other ∈ keys, other.toList <+: s → other.length ≤ k.length

/-- The portions of a text from left to right: at each place the longest key that stands there, and
a single character only where no key stands. -/
inductive Scan (keys : List String) : List Char → List Portion → Prop
  | done : Scan keys [] []
  | key {k : String} {rest : List Char} {portions : List Portion}
      (hk : IsLongest keys (k.toList ++ rest) k) (h : Scan keys rest portions) :
      Scan keys (k.toList ++ rest) (.key k :: portions)
  | char {c : Char} {rest : List Char} {portions : List Portion}
      (hnone : ∀ k ∈ keys, ¬ k.toList <+: c :: rest) (h : Scan keys rest portions) :
      Scan keys (c :: rest) (.char c :: portions)

section Keys

variable {keys : List String} {s : List Char} {k : String}

theorem key_ne_nil (hkeys : "" ∉ keys) (hk : k ∈ keys) : k.toList ≠ [] := by
  intro hnil
  rw [String.toList_eq_nil_iff] at hnil
  exact hkeys (hnil ▸ hk)

/-- Where a key stands, one is the longest. -/
theorem exists_isLongest (hk : k ∈ keys) (hstands : k.toList <+: s) :
    ∃ longest, IsLongest keys s longest := by
  have hmem (other : String) : other ∈ {other ∈ keys.toFinset | other.toList <+: s} ↔
      other ∈ keys ∧ other.toList <+: s := by simp
  obtain ⟨longest, hlongest, hmax⟩ := Finset.exists_max_image _ String.length
    ⟨k, (hmem k).mpr ⟨hk, hstands⟩⟩
  obtain ⟨hin, hstarts⟩ := (hmem longest).mp hlongest
  exact ⟨longest, hin, hstarts, fun other hother h => hmax other ((hmem other).mpr ⟨hother, h⟩)⟩

/-- There is one longest key at most: two are as long as each other, and the text starts with
both. -/
theorem IsLongest.unique {k' : String} (h : IsLongest keys s k) (h' : IsLongest keys s k') :
    k = k' := by
  have hle := h'.longest k h.mem h.stands
  have hge := h.longest k' h'.mem h'.stands
  rw [← String.length_toList, ← String.length_toList] at hle hge
  have hstarts := List.prefix_of_prefix_length_le h.stands h'.stands hle
  exact String.toList_inj.mp (hstarts.eq_of_length_le hge)

/-- Which key is the longest does not depend on the order of the keys. -/
theorem IsLongest.congr {other : List String} (hsame : ∀ k, k ∈ other ↔ k ∈ keys)
    (h : IsLongest keys s k) : IsLongest other s k where
  mem := (hsame k).mpr h.mem
  stands := h.stands
  longest := fun k' hk' => h.longest k' ((hsame k').mp hk')

end Keys

namespace Scan

variable {keys : List String} {s : List Char} {portions : List Portion}

/-- Every text can be gone through. -/
theorem exists_portions (hkeys : "" ∉ keys) (s : List Char) : ∃ portions, Scan keys s portions := by
  -- What is left is shorter after each portion.
  induction hn : s.length using Nat.strongRecOn generalizing s with
  | ind n ih =>
      by_cases hany : ∃ k ∈ keys, k.toList <+: s
      · obtain ⟨k, hk, hstands⟩ := hany
        obtain ⟨longest, hlongest⟩ := exists_isLongest hk hstands
        obtain ⟨rest, rfl⟩ := hlongest.stands
        have hpos := List.length_pos_iff.mpr (key_ne_nil hkeys hlongest.mem)
        rw [List.length_append] at hn
        obtain ⟨portions, h⟩ := ih rest.length (by omega) rest rfl
        exact ⟨_, .key hlongest h⟩
      · cases s with
        | nil => exact ⟨[], .done⟩
        | cons c rest =>
            rw [List.length_cons] at hn
            obtain ⟨portions, h⟩ := ih rest.length (by omega) rest rfl
            exact ⟨_, .char (fun k hk hstands => hany ⟨k, hk, hstands⟩) h⟩

/-- A text is gone through in one way. -/
theorem unique (hkeys : "" ∉ keys) {other : List Portion} (h : Scan keys s portions)
    (hother : Scan keys s other) : portions = other := by
  induction h generalizing other with
  | done =>
      generalize hnil : [] = s at hother
      cases hother with
      | done => rfl
      | key hk => exact absurd (List.append_eq_nil_iff.mp hnil.symm).1 (key_ne_nil hkeys hk.mem)
      | char => cases hnil
  | @key k rest portions hk h ih =>
      generalize htext : k.toList ++ rest = s at hother
      cases hother with
      | done => exact absurd (List.append_eq_nil_iff.mp htext).1 (key_ne_nil hkeys hk.mem)
      | @key k' rest' portions' hk' h' =>
          obtain rfl : k = k' := hk.unique (htext ▸ hk')
          rw [ih (List.append_cancel_left htext ▸ h')]
      | char hnone => exact absurd (htext ▸ hk.stands) (hnone k hk.mem)
  | @char c rest portions hnone h ih =>
      generalize htext : c :: rest = s at hother
      cases hother with
      | done => cases htext
      | key hk => exact absurd (htext ▸ hk.stands) (hnone _ hk.mem)
      | char hnone' h' =>
          obtain ⟨rfl, rfl⟩ := List.cons.inj htext
          rw [ih h']

/-- The order of the keys does not matter. -/
theorem congr {other : List String} (hsame : ∀ k, k ∈ other ↔ k ∈ keys)
    (h : Scan keys s portions) : Scan other s portions := by
  induction h with
  | done => exact .done
  | key hk _ ih => exact .key (hk.congr hsame) ih
  | char hnone _ ih => exact .char (fun k hother => hnone k ((hsame k).mp hother)) ih

/-- Keys of one character stand in a longer text where they stand in its parts. -/
theorem append (hone : ∀ k ∈ keys, k.length = 1) {t : List Char} {more : List Portion}
    (h : Scan keys s portions) (hmore : Scan keys t more) :
    Scan keys (s ++ t) (portions ++ more) := by
  induction h with
  | done => exact hmore
  | @key k rest portions hk _ ih =>
      rw [List.append_assoc]
      refine .key ⟨hk.mem, List.prefix_append _ _, fun other hother _ => ?_⟩ ih
      rw [hone other hother, hone k hk.mem]
  | @char c rest portions hnone _ ih =>
      refine .char (fun k hk hstands => hnone k hk ?_) ih
      obtain ⟨d, hd⟩ := List.length_eq_one_iff.mp (String.length_toList.trans (hone k hk))
      rw [hd] at hstands ⊢
      rw [(List.cons_prefix_cons.mp hstands).1]
      exact List.cons_prefix_cons.mpr ⟨rfl, List.nil_prefix⟩

end Scan

/-! ### Replacing by a sorted table -/

namespace Text

variable {table : List (List Char × List Char)} {s : List Char}

theorem keyAt_eq_none_iff : keyAt table s = none ↔ ∀ e ∈ table, ¬ e.1 <+: s := by
  simp [keyAt]

/-- In the order of length the first key that stands at the start of a text is the longest one. -/
theorem keyAt_sorted (hsorted : table.Pairwise fun a b => b.1.length ≤ a.1.length) {size : Nat}
    {new : List Char} (h : keyAt table s = some (size, new)) :
    ∃ key, (key, new) ∈ table ∧ key <+: s ∧ key.length = size ∧
      ∀ e ∈ table, e.1 <+: s → e.1.length ≤ key.length := by
  rw [keyAt, Option.map_eq_some_iff] at h
  obtain ⟨⟨key, _⟩, hfound, heq⟩ := h
  obtain ⟨rfl, rfl⟩ := Prod.mk.inj heq
  obtain ⟨hstarts, before, after, rfl, hbefore⟩ := List.find?_eq_some_iff_append.mp hfound
  refine ⟨key, List.mem_append_right _ List.mem_cons_self, List.isPrefixOf_iff_prefix.mp hstarts,
    rfl, fun e he hstands => ?_⟩
  rcases List.mem_append.mp he with hearlier | he
  · -- No earlier key stands there.
    have hnot := hbefore e hearlier
    rw [List.isPrefixOf_iff_prefix.mpr hstands] at hnot
    cases hnot
  · rcases List.mem_cons.mp he with rfl | hlater
    · exact Nat.le_refl _
    · exact (List.pairwise_cons.mp (List.pairwise_append.mp hsorted).2.1).1 e hlater

/-- The characters of a key that has been replaced are passed over. -/
theorem substituteFrom_length_append (key rest : List Char) :
    substituteFrom table key.length (key ++ rest) = substituteFrom table 0 rest := by
  induction key with
  | nil => rfl
  | cons c key ih => exact ih

theorem substituteFrom_key {key new rest : List Char} (hkey : key ≠ [])
    (h : keyAt table (key ++ rest) = some (key.length, new)) :
    substituteFrom table 0 (key ++ rest) = new ++ substituteFrom table 0 rest := by
  cases key with
  | nil => exact absurd rfl hkey
  | cons c key =>
      rw [List.cons_append] at h ⊢
      rw [substituteFrom, h]
      exact congrArg (new ++ ·) (substituteFrom_length_append key rest)

theorem substituteFrom_char {c : Char} {rest : List Char} (h : keyAt table (c :: rest) = none) :
    substituteFrom table 0 (c :: rest) = c :: substituteFrom table 0 rest := by
  rw [substituteFrom, h]

theorem substituteFrom_done (h : keyAt table [] = none) : substituteFrom table 0 [] = [] := by
  rw [substituteFrom, h]

end Text

/-! ### Replacing the keys of a mapping -/

/-- The entries of a mapping in the order in which their keys are tried. -/
def triedEntries (table : Entries String) : List (List Char × List Char) :=
  (table.map fun e => (e.1.toList, e.2.toList)).mergeSort fun a b => b.1.length ≤ a.1.length

section Mapping

variable {table : Entries String}

theorem pairwise_triedEntries (table : Entries String) :
    (triedEntries table).Pairwise fun a b => b.1.length ≤ a.1.length := by
  have hsorted := @List.pairwise_mergeSort _
    (fun a b : List Char × List Char => decide (b.1.length ≤ a.1.length))
    (fun a b c hab hbc => by simp only [decide_eq_true_eq] at *; omega)
    (fun a b => by simp only [Bool.or_eq_true, decide_eq_true_eq]; omega)
    (table.map fun e => (e.1.toList, e.2.toList))
  exact hsorted.imp of_decide_eq_true

theorem mem_triedEntries {key new : List Char} :
    (key, new) ∈ triedEntries table ↔ (String.ofList key, String.ofList new) ∈ table := by
  rw [triedEntries, List.mem_mergeSort, List.mem_map]
  constructor
  · rintro ⟨e, he, heq⟩
    obtain ⟨rfl, rfl⟩ := Prod.mk.inj heq
    simpa using he
  · intro he
    exact ⟨_, he, by simp⟩

theorem toList_replaceKeys (table : Entries String) (s : String) :
    (replaceKeys table s).toList = Text.substituteFrom (triedEntries table) 0 s.toList := by
  rw [replaceKeys, String.toList_ofList, Text.substitute_eq, triedEntries]

theorem keyAt_of_none {s : List Char} (hnone : ∀ k ∈ table.names, ¬ k.toList <+: s) :
    Text.keyAt (triedEntries table) s = none := by
  rw [Text.keyAt_eq_none_iff]
  rintro ⟨key, new⟩ he hstarts
  have hkey : String.ofList key ∈ table.names :=
    List.mem_map_of_mem (mem_triedEntries.mp he)
  exact hnone _ hkey (by rwa [String.toList_ofList])

/-- The longest key that stands at the start of a text is found, with the text of its entry. -/
theorem keyAt_of_isLongest (hmapping : table.names.Nodup) {k : String} {s : List Char}
    (hk : IsLongest table.names s k) :
    Text.keyAt (triedEntries table) s
      = some (k.toList.length, Portion.written table (.key k)) := by
  have htried : ∀ other ∈ table.names, ∃ new, (other.toList, new) ∈ triedEntries table := by
    intro other hother
    obtain ⟨e, he, rfl⟩ := List.mem_map.mp hother
    exact ⟨e.2.toList, mem_triedEntries.mpr (by simpa using he)⟩
  cases hfound : Text.keyAt (triedEntries table) s with
  | none =>
      obtain ⟨new, hnew⟩ := htried k hk.mem
      exact absurd hk.stands (Text.keyAt_eq_none_iff.mp hfound _ hnew)
  | some found =>
      obtain ⟨key, hkey, hstands, hsize, hmax⟩ :=
        Text.keyAt_sorted (pairwise_triedEntries table) hfound
      have hentry := mem_triedEntries.mp hkey
      have hlongest : IsLongest table.names s (String.ofList key) := by
        refine ⟨List.mem_map_of_mem hentry, by rwa [String.toList_ofList], ?_⟩
        intro other hother hstarts
        obtain ⟨new, hnew⟩ := htried other hother
        rw [String.length_ofList, ← String.length_toList]
        exact hmax _ hnew hstarts
      obtain rfl := hk.unique hlongest
      rw [Portion.written, (Entries.get?_eq_some_iff hmapping _ _).mpr hentry, Option.getD_some,
        String.toList_ofList, String.toList_ofList, hsize]

/-- Keys are replaced as a scan of the text finds them. -/
theorem Scan.substituteFrom_eq (hmapping : table.names.Nodup) (hkeys : "" ∉ table.names)
    {s : List Char} {portions : List Portion} (h : Scan table.names s portions) :
    Text.substituteFrom (triedEntries table) 0 s = portions.flatMap (Portion.written table) := by
  induction h with
  | done =>
      refine Text.substituteFrom_done (keyAt_of_none fun k hk hstarts => ?_)
      exact key_ne_nil hkeys hk (List.prefix_nil.mp hstarts)
  | key hk _ ih =>
      rw [Text.substituteFrom_key (key_ne_nil hkeys hk.mem) (keyAt_of_isLongest hmapping hk), ih,
        List.flatMap_cons]
  | char hnone _ ih =>
      rw [Text.substituteFrom_char (keyAt_of_none hnone), ih, List.flatMap_cons]
      rfl

theorem Scan.replaceKeys_eq (hmapping : table.names.Nodup) (hkeys : "" ∉ table.names)
    {s : String} {portions : List Portion} (h : Scan table.names s.toList portions) :
    (replaceKeys table s).toList = portions.flatMap (Portion.written table) :=
  (toList_replaceKeys table s).trans (h.substituteFrom_eq hmapping hkeys)

/-- A mapping in another order writes the same. -/
theorem Portion.written_perm {other : Entries String} (hmapping : table.names.Nodup)
    (hperm : other.Perm table) : Portion.written other = Portion.written table := by
  have hother : other.names.Nodup := (hperm.map Prod.fst).nodup_iff.mpr hmapping
  funext portion
  cases portion with
  | char c => rfl
  | key k =>
      have hget : other.get? k = table.get? k := Option.ext fun text => by
        rw [Entries.get?_eq_some_iff hother, Entries.get?_eq_some_iff hmapping, hperm.mem_iff]
      rw [Portion.written, Portion.written, hget]

end Mapping

/-- With a mapping that has no empty key, a text is gone through in one way, which depends on the
keys alone: at each place the longest key that stands there is replaced and passed over, and other
characters are copied. Whatever the mapping writes for its keys, nothing of it is searched. The
order of the entries does not matter, and keys of one character may be replaced part by part. -/
theorem keys_replaced_in_one_pass {table : Entries String} (hmapping : table.names.Nodup)
    (hkeys : "" ∉ table.names) :
    (∀ s : String, ∃ portions,
      (∀ other, Scan table.names s.toList other ↔ other = portions) ∧
      ∀ rewritten : Entries String, rewritten.names = table.names →
        (replaceKeys rewritten s).toList = portions.flatMap (Portion.written rewritten)) ∧
    (∀ other : Entries String, other.Perm table →
      ∀ s, replaceKeys other s = replaceKeys table s) ∧
    ((∀ k ∈ table.names, k.length = 1) →
      ∀ a b, replaceKeys table (a ++ b) = replaceKeys table a ++ replaceKeys table b) := by
  refine ⟨fun s => ?_, fun other hperm s => ?_, fun hone a b => ?_⟩
  · obtain ⟨portions, h⟩ := Scan.exists_portions hkeys s.toList
    refine ⟨portions, fun other => ⟨fun hother => hother.unique hkeys h, fun heq => heq ▸ h⟩, ?_⟩
    intro rewritten hnames
    exact Scan.replaceKeys_eq (hnames ▸ hmapping) (hnames ▸ hkeys) (hnames ▸ h)
  · -- The same keys give the same scan.
    have hnames : other.names.Perm table.names := hperm.map Prod.fst
    obtain ⟨portions, h⟩ := Scan.exists_portions hkeys s.toList
    have hother : Scan other.names s.toList portions := h.congr fun k => hnames.mem_iff
    rw [← String.toList_inj, h.replaceKeys_eq hmapping hkeys,
      hother.replaceKeys_eq (hnames.nodup_iff.mpr hmapping) (mt hnames.mem_iff.mp hkeys),
      Portion.written_perm hmapping hperm]
  · obtain ⟨first, hfirst⟩ := Scan.exists_portions hkeys a.toList
    obtain ⟨second, hsecond⟩ := Scan.exists_portions hkeys b.toList
    have hboth : Scan table.names (a ++ b).toList (first ++ second) := by
      rw [String.toList_append]
      exact hfirst.append hone hsecond
    rw [← String.toList_inj, String.toList_append, hboth.replaceKeys_eq hmapping hkeys,
      hfirst.replaceKeys_eq hmapping hkeys, hsecond.replaceKeys_eq hmapping hkeys,
      List.flatMap_append]

/-- Keys that start alike and texts in which keys stand; and keys of one character. -/
theorem keys_replaced_in_one_pass_alike :
    let table : Entries String := [("a", "ab"), ("ab", "b"), ("b", "a")]
    let single : Entries String := [("%", "!%"), ("!", "!!")]
    (table.names.Nodup ∧ "" ∉ table.names ∧
      replaceKeys table "aabb" = "abba" ∧ replaceKeys table.reverse "aabb" = "abba") ∧
    (single.names.Nodup ∧ "" ∉ single.names ∧ (∀ k ∈ single.names, k.length = 1) ∧
      replaceKeys single ("5%" ++ "!") = replaceKeys single "5%" ++ replaceKeys single "!") := by
  intro table single
  have hmapping : table.names.Nodup := by decide
  have hkeys : "" ∉ table.names := by decide
  obtain ⟨hscans, horders, -⟩ := keys_replaced_in_one_pass hmapping hkeys
  obtain ⟨portions, hportions, hwritten⟩ := hscans "aabb"
  have hscan : Scan table.names ("a".toList ++ ("ab".toList ++ ("b".toList ++ [])))
      [.key "a", .key "ab", .key "b"] :=
    .key ⟨by decide, by decide, by decide⟩ (.key ⟨by decide, by decide, by decide⟩
      (.key ⟨by decide, by decide, by decide⟩ .done))
  have htext : replaceKeys table "aabb" = "abba" := by
    rw [← String.toList_inj, hwritten table rfl, ← (hportions _).mp hscan]
    decide
  have hone : ∀ k ∈ single.names, k.length = 1 := by decide
  exact ⟨⟨hmapping, hkeys, htext, (horders _ table.reverse_perm _).trans htext⟩, by decide,
    by decide, hone, (keys_replaced_in_one_pass (by decide) (by decide)).2.2 hone _ _⟩

end SqlLoom
