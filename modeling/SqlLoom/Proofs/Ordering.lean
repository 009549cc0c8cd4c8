import SqlLoom.Proofs.Listing
import SqlLoom.Proofs.Trailing

/-!
# `SqlLoom.Proofs.Ordering`: one ordering in all of its spellings

An ordering is a list of names with their directions. It can be written as one text, as a list of
texts, of mappings and of keys, and as a mapping (`SpellsKeys`). In a text the direction stands
behind the name, in any case, and it may be left out where it is the ascending one: then the name
must not end like a text that has a direction (`KeyText`).

All of these read as the same keys (`orderings_read_alike`). Where a text is cut is settled by
`splitLine_direction` and `splitLine_undirected`, and how a list is parted by `splitNames_join`.
-/

set_option autoImplicit false

namespace SqlLoom

open Text (IsGap Padded Trimmed IsListed IsListedLine NamesDirection EndsInDirection)

variable {k : String × Direction} {s part : List Char} {v : Value}

/-! ### Keys -/

/-- The key that orders by a name. -/
def namedKey (k : String × Direction) : OrderKey := ⟨.text k.1, k.2⟩

/-- The text is a name with its direction behind white space, or only the name of an ascending
key. -/
inductive KeyText (k : String × Direction) : List Char → Prop where
  | directed {gap w : List Char} : IsGap gap → NamesDirection k.2 w →
      KeyText k (k.1.toList ++ gap ++ w)
  | ascending : k.2 = .asc → ¬ EndsInDirection k.1.toList → KeyText k k.1.toList

/-- The value is a direction, or names one in any case and with white space around it. -/
inductive SpellsDirection (d : Direction) : Value → Prop where
  | constant : SpellsDirection d (.direction d)
  | word {w part : List Char} : NamesDirection d w → Padded w part →
      SpellsDirection d (.text (String.ofList part))

/-- The value is a member of a list that spells the key: a text, a mapping with one entry, or the
key. -/
inductive SpellsKey (k : String × Direction) : Value → Prop where
  | text {s part : List Char} : KeyText k s → Padded s part →
      SpellsKey k (.text (String.ofList part))
  | map {d : Value} : SpellsDirection k.2 d → SpellsKey k (.map [(k.1, d)])
  | key : SpellsKey k (.order (namedKey k))

/-- The value spells the keys in their order. -/
inductive SpellsKeys (keys : List (String × Direction)) : Value → Prop where
  | text {parts : List (List Char)} :
      List.Forall₂ (fun k part => ∃ s, KeyText k s ∧ Padded s part) keys parts →
      SpellsKeys keys (.text (String.ofList (Text.join [','] parts)))
  | map {entries : Entries Value} :
      List.Forall₂ (fun k e => e.1 = k.1 ∧ SpellsDirection k.2 e.2) keys entries →
      SpellsKeys keys (.map entries)
  | list {items : List Value} : List.Forall₂ SpellsKey keys items → SpellsKeys keys (.list items)
  | tuple {items : List Value} : List.Forall₂ SpellsKey keys items → SpellsKeys keys (.tuple items)

/-! ### Reading them -/

theorem KeyText.isListed (hk : IsListed k.1.toList) (h : KeyText k s) : IsListed s := by
  cases h with
  | directed hgap hw =>
      exact hk.append hgap.clear
        ⟨hw.unbroken.trimmed, Text.clear_of_upper (Text.keyword_mem_lineWords k.2) hw⟩
  | ascending => exact hk

/-- A text that spells a key is read as this key. -/
theorem KeyText.orderKeyOfText_eq (hk : IsListedLine k.1.toList) (h : KeyText k s)
    (hpart : Text.trim part = s) : orderKeyOfText (String.ofList part) = namedKey k := by
  rw [orderKeyOfText, String.toList_ofList, hpart]
  cases h with
  | directed hgap hw =>
      rw [Text.splitLine_direction hk.trimmed hk.line hgap hw]
      show OrderKey.mk _ _ = OrderKey.mk _ _
      rw [String.ofList_toList]
      cases k.2 <;> rfl
  | ascending hasc hname =>
      rw [Text.splitLine_undirected hk.line hname]
      show OrderKey.mk _ _ = OrderKey.mk _ _
      rw [String.ofList_toList, hasc]

theorem SpellsDirection.toDirection_eq {d : Direction} (h : SpellsDirection d v) :
    v.toDirection = .ok d := by
  cases h with
  | constant => rfl
  | @word w part hw hpart =>
      have hword : String.ofList (Text.upper (Text.trim part)) = d.keyword := by
        rw [hpart.trim_eq hw.unbroken.trimmed, hw, String.ofList_toList]
      have hkeyword : Direction.ofKeyword? d.keyword = some d := by cases d <;> rfl
      have hshown : (Value.text (String.ofList part)).shown = String.ofList part := rfl
      rw [Value.toDirection, hshown, String.toList_ofList, hword, hkeyword]
      rintro _ ⟨⟩

theorem orderKeysOfEntries_eq {keys : List (String × Direction)} {entries : Entries Value}
    (h : List.Forall₂ (fun k e => e.1 = k.1 ∧ SpellsDirection k.2 e.2) keys entries) :
    orderKeysOfEntries entries = .ok (keys.map namedKey) := by
  induction h with
  | nil => rfl
  | @cons k e _ _ hfirst _ ih =>
      obtain ⟨hname, hd⟩ := hfirst
      rw [orderKeysOfEntries, hd.toDirection_eq, ih, hname]
      rfl

/-- A member of a list that spells a key is read as this key. -/
theorem SpellsKey.member_eq (hk : IsListedLine k.1.toList) (h : SpellsKey k v) :
    orderReading.member v (v.spelled orderReading) = .ok [namedKey k] := by
  cases h with
  | text hs hpart =>
      exact congrArg (fun key => Except.ok [key])
        (hs.orderKeyOfText_eq hk (hpart.trim_eq (hs.isListed hk.toIsListed).trimmed))
  | @map d hd =>
      have hentry : List.Forall₂ (fun k e => e.1 = k.1 ∧ SpellsDirection k.2 e.2) [k] [(k.1, d)] :=
        .cons ⟨rfl, hd⟩ .nil
      exact orderKeysOfEntries_eq hentry
  | key => rfl

/-- Keys that were read are read again as they are. -/
theorem toOrderKeys_again (keys : List OrderKey) :
    (Value.list (keys.map .order)).toOrderKeys = .ok keys := by
  refine spelledItems_eq ?_
  induction keys with
  | nil => exact .nil
  | cons key keys ih => exact .cons rfl ih

/-- All spellings of an ordering mean the same keys, and reading these again changes nothing. The
names may contain white space, and end in the words of a direction or be such words. -/
theorem orderings_read_alike (keys : List (String × Direction))
    (hkeys : ∀ k ∈ keys, IsListedLine k.1.toList) (v : Value) (hv : SpellsKeys keys v) :
    v.toOrderKeys = .ok (keys.map namedKey) ∧
      (Value.list ((keys.map namedKey).map .order)).toOrderKeys = .ok (keys.map namedKey) := by
  refine ⟨?_, toOrderKeys_again _⟩
  have hitems {items : List Value} (h : List.Forall₂ SpellsKey keys items) :
      spelledItems orderReading items = .ok (keys.map namedKey) := by
    refine spelledItems_eq (List.forall₂_map_left_iff.mpr ?_)
    exact ((List.forall₂_and_left _ _).mpr ⟨hkeys, h⟩).imp fun k v hv => hv.2.member_eq hv.1
  cases hv with
  | text hparts =>
      refine congrArg Except.ok (map_splitNames_join ?_)
      refine ((List.forall₂_and_left _ _).mpr ⟨hkeys, hparts⟩).imp ?_
      rintro k part ⟨hk, s, hs, hpart⟩
      have hlisted := hs.isListed hk.toIsListed
      have htrim := hpart.trim_eq hlisted.trimmed
      rw [htrim]
      exact ⟨hlisted, hs.orderKeyOfText_eq hk hlisted.trimmed.trim_eq⟩
  | map hentries => exact orderKeysOfEntries_eq hentries
  | list h => exact hitems h
  | tuple h => exact hitems h

/-- Names that end in a direction or are the word for one, as a text and as a list. -/
theorem orderings_read_alike_words :
    let keys : List (String × Direction) := [("a desc", .desc), ("basc", .asc), ("desc", .asc)]
    let text : Value := .text " a desc\t dEsC ,basc,desc  Asc\n"
    let list : Value := .list [.text "a desc\t dEsC", .order ⟨.text "basc", .asc⟩,
      .map [("desc", .text " asc")]]
    let read : List OrderKey := [⟨.text "a desc", .desc⟩, ⟨.text "basc", .asc⟩,
      ⟨.text "desc", .asc⟩]
    (∀ k ∈ keys, IsListedLine k.1.toList) ∧ SpellsKeys keys text ∧ SpellsKeys keys list ∧
      text.toOrderKeys = .ok read ∧ list.toOrderKeys = .ok read := by
  intro keys text list read
  have hkeys : ∀ k ∈ keys, IsListedLine k.1.toList := by decide
  have hspace : [' '].all Text.isBlank = true ∧ ['\n'].all Text.isBlank = true := by decide
  have hnone : [].all Text.isBlank = true := rfl
  have hgap : IsGap ['\t', ' '] ∧ IsGap [' ', ' '] := by decide
  have hdesc : NamesDirection .desc "dEsC".toList := by decide
  have hasc : NamesDirection .asc "Asc".toList ∧ NamesDirection .asc "asc".toList := by decide
  have hfirst : KeyText ("a desc", .desc) "a desc\t dEsC".toList := .directed hgap.1 hdesc
  have hsecond : KeyText ("basc", .asc) "basc".toList :=
    .ascending rfl (Text.Unbroken.not_endsInDirection (by decide))
  have hthird : KeyText ("desc", .asc) "desc  Asc".toList := .directed hgap.2 hasc.1
  have htext : SpellsKeys keys text :=
    .text (.cons ⟨_, hfirst, .of_all hspace.1 hspace.1 rfl⟩
      (.cons ⟨_, hsecond, .of_all hnone hnone rfl⟩
        (.cons ⟨_, hthird, .of_all hnone hspace.2 rfl⟩ .nil)))
  have hlist : SpellsKeys keys list :=
    .list (.cons (.text hfirst (.of_all hnone hnone rfl)) (.cons .key
      (.cons (.map (.word hasc.2 (.of_all hspace.1 hnone rfl))) .nil)))
  exact ⟨hkeys, htext, hlist, (orderings_read_alike keys hkeys text htext).1,
    (orderings_read_alike keys hkeys list hlist).1⟩

end SqlLoom
