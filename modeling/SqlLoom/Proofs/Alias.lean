import SqlLoom.Proofs.Fields
import SqlLoom.Proofs.Listing
import SqlLoom.Proofs.Trailing

/-!
# `SqlLoom.Proofs.Alias`: columns and sources under other names, in all spellings

A column or a source is given another name by a text, with AS between the two or without it, or by
a mapping of the other name to it. Several of them make one text with commas, a list of texts or one
mapping (`SpellsAliases`).

All of these compile to the same select list, the same sources and the same source of a join
(`aliases_compile_alike`). A mapping has the two names apart. A text is cut where `splitLine_alias`,
`splitLine_alias_as` and `splitLine_sourceAlias` say, which is behind the whole column or source,
even where it ends in AS or the alias is this word.
-/

set_option autoImplicit false

namespace SqlLoom

open Text (IsGap IsAs IsLink IsAlias Padded Unbroken IsListed IsListedLine)

variable {d : Dialect} {p : String × String} {pairs : List (String × String)} {s : List Char}
  {v : Value}

/-! ### Spellings -/

/-- A name and the other name that it is given. -/
structure IsAliased (p : String × String) : Prop where
  name : IsListedLine p.1.toList
  alias_ : IsAlias p.2.toList

instance (p : String × String) : Decidable (IsAliased p) :=
  decidable_of_iff (IsListedLine p.1.toList ∧ IsAlias p.2.toList)
    ⟨fun h => ⟨h.1, h.2⟩, fun h => ⟨h.1, h.2⟩⟩

/-- The text is a name and its alias with AS between them, or only white space where the name has
none itself. -/
inductive AliasedText (p : String × String) : List Char → Prop where
  | named {link : List Char} : IsAs link → AliasedText p (p.1.toList ++ link ++ p.2.toList)
  | bare {gap : List Char} : IsGap gap → Unbroken p.1.toList →
      AliasedText p (p.1.toList ++ gap ++ p.2.toList)

/-- The texts are those of the pairs, in order and with white space around them. -/
def AliasedTexts : List (String × String) → List (List Char) → Prop :=
  List.Forall₂ fun p part => ∃ s, AliasedText p s ∧ Padded s part

/-- Each name under its alias. -/
def aliasMapping (pairs : List (String × String)) : Value :=
  .map (pairs.map fun p => (p.2, .text p.1))

/-- The value spells the pairs in their order. -/
inductive SpellsAliases (pairs : List (String × String)) : Value → Prop where
  | text {parts : List (List Char)} : AliasedTexts pairs parts →
      SpellsAliases pairs (.text (String.ofList (Text.join [','] parts)))
  | list {parts : List (List Char)} : AliasedTexts pairs parts →
      SpellsAliases pairs (.list (parts.map fun part => .text (String.ofList part)))
  | tuple {parts : List (List Char)} : AliasedTexts pairs parts →
      SpellsAliases pairs (.tuple (parts.map fun part => .text (String.ofList part)))
  | map : SpellsAliases pairs (aliasMapping pairs)

theorem Text.IsAlias.isListed {a : List Char} (h : IsAlias a) : IsListed a where
  trimmed := h.unbroken.trimmed
  clear := by
    intro mark hmark hmem
    have hno : Text.listMarks.any Text.isAliasChar = false := by decide
    exact List.any_eq_false.mp hno mark hmark (h.2 mark hmem)

theorem Text.IsAs.clear {link : List Char} (h : IsAs link) :
    ∀ mark ∈ Text.listMarks, mark ∉ link := by
  obtain ⟨before, w, after, rfl, hbefore, hw, hafter⟩ := h
  intro mark hmark
  simp only [List.mem_append, not_or]
  exact ⟨hbefore.clear mark hmark, Text.clear_of_upper (by decide) hw mark hmark,
    hafter.clear mark hmark⟩

theorem AliasedText.isListed (hp : IsAliased p) (h : AliasedText p s) : IsListed s := by
  cases h with
  | named hlink => exact hp.name.append hlink.clear hp.alias_.isListed
  | bare hgap => exact hp.name.append hgap.clear hp.alias_.isListed

/-! ### Names that are read -/

/-- The text of a column under another name. -/
def aliasedColumn (d : Dialect) (p : String × String) : String :=
  d.quoteColumn p.1 ++ " AS " ++ d.quoteColumn p.2

/-- The text of a source under another name. -/
def aliasedSource (d : Dialect) (p : String × String) : String :=
  d.quoteTable p.1 ++ " " ++ d.quoteTable p.2

theorem contains_paren (h : IsListed s) : s.contains '(' = false := by
  simpa using h.clear '(' (by decide)

/-- A text for a column is cut into its two names. -/
theorem namedItem_of_text (hp : IsAliased p) (h : AliasedText p s) :
    namedItem d (String.ofList s) none = aliasedColumn d p := by
  have hsplit : Text.splitLine Text.aliasTail s = some (p.1.toList, p.2.toList) := by
    cases h with
    | named hlink => exact Text.splitLine_alias_as hp.name.trimmed hp.name.line hlink hp.alias_
    | bare hgap hname => exact Text.splitLine_alias hname (.inl hgap) hp.alias_
  simp only [namedItem, splitAlias, String.toList_ofList, contains_paren (h.isListed hp), hsplit,
    Option.map_some, String.ofList_toList]
  rfl

/-- A mapping has the names of a column as they are. -/
theorem namedItem_of_entry (hp : IsAliased p) :
    namedItem d p.1 (some p.2) = aliasedColumn d p := by
  simp only [namedItem, quoteUnlessExpression, contains_paren hp.name.toIsListed]
  rfl

/-- A text for a source is cut into its two names, where there is no white space in these. -/
theorem namedSource_of_text (hp : IsAliased p) (hname : Unbroken p.1.toList)
    (h : AliasedText p s) : namedSource d (String.ofList s) none = aliasedSource d p := by
  have hsplit : Text.splitLine Text.sourceAliasTail s = some (p.1.toList, p.2.toList) := by
    cases h with
    | named hlink => exact Text.splitLine_sourceAlias hname (.inr hlink) hp.alias_.unbroken
    | bare hgap => exact Text.splitLine_sourceAlias hname (.inl hgap) hp.alias_.unbroken
  simp only [namedSource, splitSourceAlias, String.toList_ofList, contains_paren (h.isListed hp),
    hsplit, Option.map_some, String.ofList_toList]
  rfl

theorem namedSource_of_entry (hp : IsAliased p) :
    namedSource d p.1 (some p.2) = aliasedSource d p := by
  simp only [namedSource, quoteUnlessExpression, contains_paren hp.name.toIsListed]
  rfl

/-! ### Clauses that are read -/

/-- A clause reads names, and mappings of an alias to a name. -/
structure Reading.ReadsNames {β : Type} (r : Reading β) (named : String → β)
    (entry : String × Value → β) : Prop where
  text : ∀ s, r.whole? (.text s) = some (.ok ((splitNames s).map named))
  member : ∀ s, r.ofText s = named (trimmed s)
  map : ∀ entries, r.whole? (.map entries) = some (.ok (entries.map entry))
  list : ∀ items, r.whole? (.list items) = none
  tuple : ∀ items, r.whole? (.tuple items) = none

theorem selectReading_readsNames :
    selectReading.ReadsNames (fun name => ⟨.text name, none⟩) fun e => ⟨e.2, some e.1⟩ :=
  ⟨fun _ => rfl, fun _ => rfl, fun _ => rfl, fun _ => rfl, fun _ => rfl⟩

theorem sourceReading_readsNames :
    sourceReading.ReadsNames (fun name => ⟨.text name, none⟩) fun e => ⟨e.2, some e.1⟩ :=
  ⟨fun _ => rfl, fun _ => rfl, fun _ => rfl, fun _ => rfl, fun _ => rfl⟩

/-- All spellings are read as parts with the same meaning, if the texts and the entries for each
pair have this meaning. -/
theorem SpellsAliases.spelled {β γ : Type} {r : Reading β} {named : String → β}
    {entry : String × Value → β} (hr : r.ReadsNames named entry) {meaning : β → γ}
    {of : String × String → γ} (hpairs : ∀ p ∈ pairs, IsAliased p)
    (hnamed : ∀ p ∈ pairs, ∀ s, AliasedText p s → meaning (named (String.ofList s)) = of p)
    (hentry : ∀ p ∈ pairs, meaning (entry (p.2, .text p.1)) = of p) (hv : SpellsAliases pairs v) :
    ∃ parts, v.spelled r = .ok parts ∧ parts.map meaning = pairs.map of := by
  -- A text that is cut at its commas and a sequence of texts both come down to these parts.
  have hread {parts : List (List Char)} (hparts : AliasedTexts pairs parts) :
      List.Forall₂ (fun p part => IsListed (Text.trim part) ∧
        meaning (named (String.ofList (Text.trim part))) = of p) pairs parts := by
    refine ((List.forall₂_and_left _ _).mpr
      ⟨fun p hp => (⟨hpairs p hp, hnamed p hp⟩ : IsAliased p ∧ ∀ s, _), hparts⟩).imp ?_
    rintro p part ⟨⟨hp, hmeaning⟩, s, hs, hpart⟩
    rw [hpart.trim_eq (hs.isListed hp).trimmed]
    exact ⟨hs.isListed hp, hmeaning s hs⟩
  have hitems {parts : List (List Char)} (hparts : AliasedTexts pairs parts) :
      ∃ members, spelledItems r (parts.map fun part => .text (String.ofList part)) = .ok members ∧
        members.map meaning = pairs.map of := by
    refine ⟨parts.map fun part => r.ofText (String.ofList part), spelledItems_eq ?_, ?_⟩
    · simp only [List.forall₂_map_left_iff, List.forall₂_map_right_iff, List.forall₂_same]
      exact fun _ _ => rfl
    · rw [List.map_map, ← List.forall₂_eq_eq_eq, List.forall₂_map_left_iff,
        List.forall₂_map_right_iff]
      refine (hread hparts).flip.imp fun part p h => ?_
      rw [Function.comp_apply, hr.member, trimmed, String.toList_ofList]
      exact h.2
  cases hv with
  | text hparts =>
      refine ⟨_, spelled_of_whole (hr.text _), ?_⟩
      rw [List.map_map]
      exact map_splitNames_join (hread hparts)
  | list hparts =>
      rw [Value.spelled, Reading.read, hr.list]
      exact hitems hparts
  | tuple hparts =>
      rw [Value.spelled, Reading.read, hr.tuple]
      exact hitems hparts
  | map =>
      refine ⟨_, spelled_of_whole (hr.map _), ?_⟩
      rw [List.map_map, List.map_map]
      exact List.map_congr_left hentry

theorem itemFragments_eq_mapM (d : Dialect) (items : List SelectItem) :
    itemFragments d items = items.mapM (SelectItem.fragment d) := by
  induction items with
  | nil => rfl
  | cons item items ih => rw [itemFragments, List.mapM_cons, ih]

theorem sourceFragments_eq_mapM (d : Dialect) (sources : List TableRef) :
    sourceFragments d sources = sources.mapM (TableRef.fragment d "FROM") := by
  induction sources with
  | nil => rfl
  | cons source sources ih => rw [sourceFragments, List.mapM_cons, ih]

/-- The select list of every spelling has each column and its alias in quotes. -/
theorem SpellsAliases.items_ok (d : Dialect) (hpairs : ∀ p ∈ pairs, IsAliased p)
    (hv : SpellsAliases pairs v) : ∃ items, v.toSelectItems = .ok items ∧
      itemFragments d items = .ok (pairs.map fun p => .ofText (aliasedColumn d p)) := by
  have hspelled : ∃ items, v.toSelectItems = .ok items ∧ items.map (SelectItem.fragment d)
      = pairs.map fun p => .ok (.ofText (aliasedColumn d p)) :=
    hv.spelled selectReading_readsNames hpairs
      (fun p hp _ hs => congrArg (fun text => Except.ok (Fragment.ofText text))
        (namedItem_of_text (hpairs p hp) hs))
      (fun p hp => congrArg (fun text => Except.ok (Fragment.ofText text))
        (namedItem_of_entry (hpairs p hp)))
  obtain ⟨items, hitems, hmeaning⟩ := hspelled
  exact ⟨items, hitems, (itemFragments_eq_mapM d items).trans (mapM_eq_ok hmeaning)⟩

/-- Each source of every spelling has itself and its alias in quotes, in every clause. -/
theorem SpellsAliases.sources_ok (d : Dialect) (clause : String)
    (hpairs : ∀ p ∈ pairs, IsAliased p) (hnames : ∀ p ∈ pairs, Unbroken p.1.toList)
    (hv : SpellsAliases pairs v) :
    ∃ sources, v.toTableRefs = .ok sources ∧ sources.map (TableRef.fragment d clause)
      = pairs.map fun p => .ok (.ofText (aliasedSource d p)) :=
  hv.spelled sourceReading_readsNames hpairs
    (fun p hp _ hs => congrArg (fun text => Except.ok (Fragment.ofText text))
      (namedSource_of_text (hpairs p hp) (hnames p hp) hs))
    (fun p hp => congrArg (fun text => Except.ok (Fragment.ofText text))
      (namedSource_of_entry (hpairs p hp)))

theorem SpellsAliases.from_ok (d : Dialect) (hpairs : ∀ p ∈ pairs, IsAliased p)
    (hnames : ∀ p ∈ pairs, Unbroken p.1.toList) (hv : SpellsAliases pairs v) :
    ∃ sources, v.toTableRefs = .ok sources ∧
      sourceFragments d sources = .ok (pairs.map fun p => .ofText (aliasedSource d p)) := by
  obtain ⟨sources, hsources, hmeaning⟩ := hv.sources_ok d "FROM" hpairs hnames
  exact ⟨sources, hsources, (sourceFragments_eq_mapM d sources).trans (mapM_eq_ok hmeaning)⟩

theorem SpellsAliases.join_ok (d : Dialect) (hp : IsAliased p) (hname : Unbroken p.1.toList)
    (hv : SpellsAliases [p] v) : ∃ source, v.toTableRef = .ok source ∧
      source.fragment d "JOIN" = .ok (.ofText (aliasedSource d p)) := by
  obtain ⟨sources, hsources, hmeaning⟩ :=
    hv.sources_ok d "JOIN" (by simpa using hp) (by simpa using hname)
  obtain ⟨source, rfl, hsource⟩ := List.map_eq_singleton_iff.mp hmeaning
  exact ⟨source, by rw [Value.toTableRef, hsources]; rfl, hsource⟩

/-- All spellings of columns under other names compile to the same select list, and all spellings
of sources to the same sources, and one by one to the same source of a join. -/
theorem aliases_compile_alike (d : Dialect) (pairs : List (String × String))
    (hpairs : ∀ p ∈ pairs, IsAliased p) (v : Value) (hv : SpellsAliases pairs v) :
    ((v.toSelectItems >>= itemFragments d) = .ok (pairs.map fun p => .ofText (aliasedColumn d p)) ∧
      SelectAlike d v (aliasMapping pairs)) ∧
    ((∀ p ∈ pairs, Unbroken p.1.toList) →
      ((v.toTableRefs >>= sourceFragments d)
          = .ok (pairs.map fun p => .ofText (aliasedSource d p)) ∧
        SourcesAlike d v (aliasMapping pairs)) ∧
      ∀ p, pairs = [p] →
        (v.toTableRef >>= TableRef.fragment d "JOIN") = .ok (.ofText (aliasedSource d p)) ∧
          JoinAlike d v (aliasMapping pairs)) := by
  have hmapping : SpellsAliases pairs (aliasMapping pairs) := .map
  refine ⟨?_, fun hnames => ⟨?_, ?_⟩⟩
  · obtain ⟨items, hitems, hfragments⟩ := hv.items_ok d hpairs
    obtain ⟨items', hitems', hfragments'⟩ := hmapping.items_ok d hpairs
    refine ⟨by rw [hitems]; exact hfragments, .of_items ?_⟩
    rw [hitems, hitems']
    exact .ok (hfragments.trans hfragments'.symm)
  · obtain ⟨sources, hsources, hfragments⟩ := hv.from_ok d hpairs hnames
    obtain ⟨sources', hsources', hfragments'⟩ := hmapping.from_ok d hpairs hnames
    refine ⟨by rw [hsources]; exact hfragments, .of_sources ?_⟩
    rw [hsources, hsources']
    exact .ok (hfragments.trans hfragments'.symm)
  · rintro p rfl
    obtain ⟨hp, -⟩ := List.forall_mem_cons.mp hpairs
    obtain ⟨hname, -⟩ := List.forall_mem_cons.mp hnames
    obtain ⟨source, hsource, hfragment⟩ := hv.join_ok d hp hname
    obtain ⟨source', hsource', hfragment'⟩ := hmapping.join_ok d hp hname
    refine ⟨by rw [hsource]; exact hfragment, .of_source ?_⟩
    rw [hsource, hsource']
    exact .ok (hfragment.trans hfragment'.symm)

/-- A column that ends in AS under this name, next to one without AS, and a source whose name and
alias are this word. -/
theorem aliases_compile_alike_as :
    let d : Dialect := .standard .ansi
    let columns : List (String × String) := [("x as", "as"), ("t.y", "b-1")]
    let text : Value := .text " x as\taS  as, t.y b-1"
    let sources : List (String × String) := [("as", "AS")]
    let list : Value := .list [.text "as As AS "]
    SpellsAliases columns text ∧ SpellsAliases sources list ∧
      (text.toSelectItems >>= itemFragments d)
        = .ok [.ofText "\"x as\" AS \"as\"", .ofText "\"t\".\"y\" AS \"b-1\""] ∧
      SelectAlike d text (aliasMapping columns) ∧
      (list.toTableRefs >>= sourceFragments d) = .ok [.ofText "\"as\" \"AS\""] ∧
      SourcesAlike d list (aliasMapping sources) ∧
      (list.toTableRef >>= TableRef.fragment d "JOIN") = .ok (.ofText "\"as\" \"AS\"") ∧
      JoinAlike d list (aliasMapping sources) := by
  intro d columns text sources list
  have hspace : [' '].all Text.isBlank = true := by decide
  have hnone : [].all Text.isBlank = true := rfl
  have hgap : IsGap [' '] := by decide
  have hlink : IsAs "\taS  ".toList :=
    ⟨['\t'], ['a', 'S'], [' ', ' '], rfl, by decide, rfl, by decide⟩
  have hlink' : IsAs " As ".toList := ⟨[' '], ['A', 's'], [' '], rfl, hgap, rfl, hgap⟩
  have hfirst : AliasedText ("x as", "as") "x as\taS  as".toList := .named hlink
  have hsecond : AliasedText ("t.y", "b-1") "t.y b-1".toList := .bare hgap (by decide)
  have hsource : AliasedText ("as", "AS") "as As AS".toList := .named hlink'
  have htext : SpellsAliases columns text :=
    .text (.cons ⟨_, hfirst, .of_all hspace hnone rfl⟩
      (.cons ⟨_, hsecond, .of_all hspace hnone rfl⟩ .nil))
  have hlist : SpellsAliases sources list :=
    .list (.cons ⟨_, hsource, .of_all hnone hspace rfl⟩ .nil)
  have hquoted : columns.map (aliasedColumn d)
      = ["\"x as\" AS \"as\"", "\"t\".\"y\" AS \"b-1\""] := by decide
  have hquotedSource : aliasedSource d ("as", "AS") = "\"as\" \"AS\"" := by decide
  obtain ⟨⟨hitems, hselect⟩, -⟩ := aliases_compile_alike d columns (by decide) text htext
  obtain ⟨-, hsources⟩ := aliases_compile_alike d sources (by decide) list hlist
  obtain ⟨⟨hrefs, hfrom⟩, hsingle⟩ := hsources (by decide)
  obtain ⟨hjoined, hjoin⟩ := hsingle _ rfl
  refine ⟨htext, hlist, hitems.trans ?_, hselect, hrefs.trans ?_, hfrom, hjoined.trans ?_, hjoin⟩
  · exact congrArg (fun texts => Except.ok (texts.map Fragment.ofText)) hquoted
  · exact congrArg (fun text => Except.ok [Fragment.ofText text]) hquotedSource
  · exact congrArg (fun text => Except.ok (Fragment.ofText text)) hquotedSource

end SqlLoom
