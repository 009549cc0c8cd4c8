import SqlLoom.Proofs.Shorthand

/-!
# `SqlLoom.Proofs.Shorthand.Spelling`: the words of an operator in any spelling

The head of a shorthand list names its operator in any case and with any white space around and
between its words. `Operator.Spelled` says so without capitals being taken: each letter is the
capital letter or its small letter. Capitals move no bound of a word of such a text
(`Text.words_upper_of_recased`), so it names the operator (`Operator.Spelled.ofWords_eq`).

Conditions that differ in such spellings only (`Respelled`), at any depth, are read alike and
compile alike (`Respelled.toCondition`, `Respelled.conditionFragment_eq`). Together with the
theorems on expansion this gives `shorthand_compiles_alike`.
-/

set_option autoImplicit false

namespace SqlLoom

open Fragment

namespace Text

/-! ### Words in capitals -/

/-- The character codes of white space. -/
def blankCodes : List Nat :=
  List.range' 9 5 ++ List.range' 28 5 ++ List.range' 0x2000 11
    ++ [0x85, 0xA0, 0x1680, 0x2028, 0x2029, 0x202F, 0x205F, 0x3000]

theorem toNat_mem_blankCodes {c : Char} (h : isBlank c = true) : c.toNat ∈ blankCodes := by
  simp only [isBlank, Bool.or_eq_true, Bool.and_eq_true, decide_eq_true_eq, beq_iff_eq] at h
  simp only [blankCodes, List.mem_append, List.mem_range'_1, List.mem_cons, List.not_mem_nil]
  omega

theorem upperChar_blankCodes : ∀ n ∈ blankCodes, upperChar (Char.ofNat n) = [Char.ofNat n] := by
  decide

/-- White space has no case. -/
theorem upperChar_of_isBlank {c : Char} (h : isBlank c = true) : upperChar c = [c] := by
  have hcode := upperChar_blankCodes c.toNat (toNat_mem_blankCodes h)
  rwa [Char.ofNat_toNat] at hcode

/-- A change of characters that keeps white space changes each word. -/
theorem wordsAfter_map {f : Char → Char} (open_ : List Char) {s : List Char}
    (h : ∀ c ∈ s, isBlank (f c) = isBlank c) :
    wordsAfter (open_.map f) (s.map f) = (wordsAfter open_ s).map (List.map f) := by
  induction s generalizing open_ with
  | nil =>
      rw [List.map_nil, wordsAfter, wordsAfter, List.isEmpty_map, ← List.map_reverse]
      split <;> rfl
  | cons c s ih =>
      obtain ⟨hc, hs⟩ := List.forall_mem_cons.mp h
      rw [List.map_cons, wordsAfter, wordsAfter, hc, List.isEmpty_map, ← List.map_reverse]
      have hnil := ih [] hs
      rw [List.map_nil] at hnil
      split
      · split
        · exact hnil
        · rw [hnil, List.map_cons]
      · exact ih (c :: open_) hs

/-- Every letter stands in a word. -/
theorem exists_mem_wordsAfter {c : Char} (open_ : List Char) {s : List Char}
    (h : c ∈ open_ ∨ c ∈ s ∧ isBlank c = false) : ∃ w ∈ wordsAfter open_ s, c ∈ w := by
  induction s generalizing open_ with
  | nil =>
      have hopen : c ∈ open_ := by simpa using h
      rw [wordsAfter, if_neg (by simpa using List.ne_nil_of_mem hopen)]
      exact ⟨_, List.mem_singleton_self _, List.mem_reverse.mpr hopen⟩
  | cons b s ih =>
      rw [wordsAfter]
      split
      · rename_i hb
        -- The character is not the blank that ends the unfinished word.
        have hrest : c ∈ open_ ∨ c ∈ s ∧ isBlank c = false := by
          refine h.imp_right fun hmem => ⟨?_, hmem.2⟩
          refine (List.mem_cons.mp hmem.1).resolve_left fun heq => ?_
          rw [← heq, hmem.2] at hb
          cases hb
        split
        · rename_i hempty
          rw [List.isEmpty_iff.mp hempty] at hrest
          exact ih [] hrest
        · rcases hrest with hopen | hmem
          · exact ⟨_, List.mem_cons_self, List.mem_reverse.mpr hopen⟩
          · obtain ⟨w, hw, hc⟩ := ih [] (.inr hmem)
            exact ⟨w, List.mem_cons_of_mem _ hw, hc⟩
      · refine ih _ ?_
        rcases h with hopen | ⟨hmem, hc⟩
        · exact .inl (List.mem_cons_of_mem _ hopen)
        · rcases List.mem_cons.mp hmem with rfl | hmem
          · exact .inl List.mem_cons_self
          · exact .inr ⟨hmem, hc⟩

/-! ### Words in any case -/

/-- The character is the capital letter or its small letter. -/
def Recased (c letter : Char) : Prop := c = letter ∨ c = letter.toLower

instance (c letter : Char) : Decidable (Recased c letter) :=
  inferInstanceAs (Decidable (_ ∨ _))

/-- The first character of the capitals of a character. -/
def capital (c : Char) : Char := (upperChar c).headD c

/-- Capitals do not move the bounds of a word at this character. -/
structure StaysWhole (c : Char) : Prop where
  upper : upperChar c = [capital c]
  blank : isBlank (capital c) = isBlank c

theorem StaysWhole.of_upperChar {c letter : Char} (hupper : upperChar c = [letter])
    (hblank : isBlank letter = isBlank c) : capital c = letter ∧ StaysWhole c := by
  have hcapital : capital c = letter := by rw [capital, hupper]; rfl
  exact ⟨hcapital, by rw [hcapital, hupper], by rw [hcapital, hblank]⟩

theorem upperChar_letters : ∀ n < 128, (Char.ofNat n).isUpper = true →
    upperChar (Char.ofNat n) = [Char.ofNat n] ∧
      upperChar (Char.ofNat n).toLower = [Char.ofNat n] ∧
      isBlank (Char.ofNat n) = isBlank (Char.ofNat n).toLower := by
  decide

theorem capital_of_recased {c letter : Char} (hletter : letter.isUpper = true)
    (h : Recased c letter) : capital c = letter ∧ StaysWhole c := by
  have hascii : letter.toNat < 128 := by
    delta Char.isUpper at hletter
    simp only [decide_eq_true_eq, UInt32.le_iff_toNat_le] at hletter
    exact Nat.lt_of_le_of_lt hletter.2 (by decide)
  have hcodes := upperChar_letters letter.toNat hascii
  rw [Char.ofNat_toNat] at hcodes
  obtain ⟨hupper, hlower, hblank⟩ := hcodes hletter
  rcases h with rfl | rfl
  · exact StaysWhole.of_upperChar hupper rfl
  · exact StaysWhole.of_upperChar hlower hblank

theorem map_capital_of_recased {w letters : List Char}
    (hletters : ∀ c ∈ letters, c.isUpper = true) (h : List.Forall₂ Recased w letters) :
    w.map capital = letters ∧ ∀ c ∈ w, StaysWhole c := by
  induction h with
  | nil => exact ⟨rfl, fun c hc => absurd hc List.not_mem_nil⟩
  | cons hc _ ih =>
      obtain ⟨hletter, hrest⟩ := List.forall_mem_cons.mp hletters
      obtain ⟨hcapital, hwhole⟩ := capital_of_recased hletter hc
      obtain ⟨hmap, hall⟩ := ih hrest
      exact ⟨by rw [List.map_cons, hcapital, hmap], List.forall_mem_cons.mpr ⟨hwhole, hall⟩⟩

theorem map_map_capital_of_recased {ws words : List (List Char)}
    (hletters : ∀ w ∈ words, ∀ c ∈ w, c.isUpper = true)
    (h : List.Forall₂ (List.Forall₂ Recased) ws words) :
    ws.map (List.map capital) = words ∧ ∀ w ∈ ws, ∀ c ∈ w, StaysWhole c := by
  induction h with
  | nil => exact ⟨rfl, fun w hw => absurd hw List.not_mem_nil⟩
  | cons hw _ ih =>
      obtain ⟨hletters, hrest⟩ := List.forall_mem_cons.mp hletters
      obtain ⟨hcapital, hwhole⟩ := map_capital_of_recased hletters hw
      obtain ⟨hmap, hall⟩ := ih hrest
      exact ⟨by rw [List.map_cons, hcapital, hmap], List.forall_mem_cons.mpr ⟨hwhole, hall⟩⟩

/-- The words of a text in capitals, where each word is one of capital letters in any case. -/
theorem words_upper_of_recased {s : List Char} {capitals : List (List Char)}
    (hletters : ∀ w ∈ capitals, ∀ c ∈ w, c.isUpper = true)
    (h : List.Forall₂ (List.Forall₂ Recased) (words s) capitals) : words (upper s) = capitals := by
  obtain ⟨hmap, hwords⟩ := map_map_capital_of_recased hletters h
  -- A character is white space, which stays, or a letter of some word.
  have hwhole : ∀ c ∈ s, StaysWhole c := by
    intro c hc
    cases hblank : isBlank c with
    | true => exact (StaysWhole.of_upperChar (upperChar_of_isBlank hblank) rfl).2
    | false =>
        obtain ⟨w, hw, hcw⟩ := exists_mem_wordsAfter [] (.inr ⟨hc, hblank⟩)
        exact hwords w hw c hcw
  have hupper : upper s = s.map capital := by
    rw [upper, List.map_eq_flatMap]
    exact List.flatMap_congr fun c hc => (hwhole c hc).upper
  rw [hupper, ← hmap]
  exact wordsAfter_map [] fun c hc => (hwhole c hc).blank

end Text

/-! ### Operator words -/

/-- The text is the words of the operator, each letter in any case, with any white space around and
between them. -/
def Operator.Spelled (op : Operator) (s : String) : Prop :=
  List.Forall₂ (List.Forall₂ Text.Recased) (Text.words s.toList) (Text.words op.keyword.toList)

instance (op : Operator) (s : String) : Decidable (op.Spelled s) :=
  inferInstanceAs (Decidable (List.Forall₂ _ _ _))

theorem keyword_letters : Operator.special.all (fun op =>
    (Text.words op.keyword.toList).all fun w => w.all Char.isUpper) = true := by
  decide

theorem ofKeyword_words : ∀ op ∈ Operator.special,
    Operator.ofKeyword (" ".intercalate ((Text.words op.keyword.toList).map String.ofList))
      = op := by
  decide

/-- However its words are spelled, they name the operator. -/
theorem Operator.Spelled.ofWords_eq {op : Operator} (hop : op ∈ Operator.special) {s : String}
    (h : op.Spelled s) : Operator.ofWords s = op := by
  have hletters : ∀ w ∈ Text.words op.keyword.toList, ∀ c ∈ w, c.isUpper = true := by
    have hwords := List.all_eq_true.mp keyword_letters op hop
    exact fun w hw => List.all_eq_true.mp (List.all_eq_true.mp hwords w hw)
  rw [ofWords, Text.words_upper_of_recased hletters h, ofKeyword_words op hop]

theorem headOperator_of_spelled {op : Operator} (hop : op ∈ Operator.special) {s : String}
    (h : op.Spelled s) : (Value.text s).headOperator = .ok op :=
  congrArg Except.ok (h.ofWords_eq hop)

theorem mem_special_of_isLogical {op : Operator} (h : op.isLogical = true) :
    op ∈ Operator.special := by
  cases op with
  | not | and | or => decide
  | _ => cases h

/-! ### Conditions that differ in spelling -/

mutual

/-- The conditions are the same up to the spelling of the operator words in their shorthand. -/
inductive Respelled : Value → Value → Prop where
  | refl (v : Value) : Respelled v v
  | list {items items' : List Value} (h : RespelledList items items') :
      Respelled (.list items) (.list items')
  | tuple {items items' : List Value} (h : RespelledList items items') :
      Respelled (.tuple items) (.tuple items')
  | node {op : Operator} {operands operands' : List Value} (hop : op.isLogical = true)
      (h : RespelledOperands operands operands') :
      Respelled (.cond op operands) (.cond op operands')

inductive RespelledList : List Value → List Value → Prop where
  /-- The operands of any operator stay as they are. -/
  | word {op : Operator} {s s' : String} {operands : List Value} (hop : op ∈ Operator.special)
      (hs : op.Spelled s) (hs' : op.Spelled s') :
      RespelledList (.text s :: operands) (.text s' :: operands)
  /-- The operands of a logical operator are conditions, which may be spelled otherwise too. -/
  | logical {op : Operator} {s s' : String} {operands operands' : List Value}
      (hop : op.isLogical = true) (hs : op.Spelled s) (hs' : op.Spelled s')
      (h : RespelledOperands operands operands') :
      RespelledList (.text s :: operands) (.text s' :: operands')

inductive RespelledOperands : List Value → List Value → Prop where
  | nil : RespelledOperands [] []
  | cons {v v' : Value} {rest rest' : List Value} (hv : Respelled v v')
      (hrest : RespelledOperands rest rest') : RespelledOperands (v :: rest) (v' :: rest')

end

mutual

/-- What is expanded differs in spelling only. -/
theorem Respelled.expanded (deep : Bool) {v v' : Value} :
    Respelled v v' → Agrees Respelled (v.expanded deep) (v'.expanded deep)
  | .refl v => .same .refl _
  | .list h | .tuple h => h.expanded deep
  | .node hop h => by
      rw [Value.expanded, Value.expanded]
      split
      · exact Agrees.bind (h.expanded deep) fun _ _ hoperands => .pure (.node hop hoperands)
      · exact .pure (.node hop h)

theorem RespelledList.expanded (deep : Bool) {items items' : List Value} :
    RespelledList items items' →
      Agrees Respelled (expandedList deep items) (expandedList deep items')
  | .word hop hs hs' => by
      rw [expandedList, expandedList, headOperator_of_spelled hop hs,
        headOperator_of_spelled hop hs']
      exact .same .refl _
  | .logical hop hs hs' h => by
      have hspecial := mem_special_of_isLogical hop
      rw [expandedList, expandedList, headOperator_of_spelled hspecial hs,
        headOperator_of_spelled hspecial hs']
      show Agrees Respelled (if _ then _ else _) (if _ then _ else _)
      rw [if_pos hop, if_pos hop]
      exact Agrees.bind (h.expanded deep) fun _ _ hoperands => .pure (.node hop hoperands)

theorem RespelledOperands.expanded (deep : Bool) {operands operands' : List Value} :
    RespelledOperands operands operands' →
      Agrees RespelledOperands (expandedOperands deep operands) (expandedOperands deep operands')
  | .nil => .ok .nil
  | .cons hv hrest => by
      rw [expandedOperands, expandedOperands]
      refine Agrees.bind (hv.expanded deep) fun _ _ hfirst => ?_
      exact Agrees.bind (hrest.expanded deep) fun _ _ hothers => .pure (.cons hfirst hothers)

end

theorem Respelled.toCondition {v v' : Value} (h : Respelled v v') :
    Agrees Respelled v.toCondition v'.toCondition := by
  have hlist : ∀ {items items' : List Value}, RespelledList items items' →
      Agrees Respelled (nodeOfShorthand items) (nodeOfShorthand items') := by
    intro items items' hitems
    have hexpanded := hitems.expanded false
    cases hitems with
    | word | logical =>
        rw [nodeOfShorthand_eq, nodeOfShorthand_eq]
        exact hexpanded
  cases h with
  | refl v => exact .same .refl _
  | list h | tuple h => exact hlist h
  -- A typed node is read as it is, with the shorthand that is left in it.
  | node hop h => exact .ok (.node hop h)

/-- Lists with one operator compile alike where their operands do. -/
theorem shorthandFragment_congr {d : Dialect} {subqueries : Bool} {op : Operator} {s s' : String}
    (hop : op ∈ Operator.special) (hs : op.Spelled s) (hs' : op.Spelled s')
    {operands operands' : List Value}
    (hlist : RespelledList (.text s :: operands) (.text s' :: operands'))
    (hnode : nodeFragment d subqueries op operands = nodeFragment d subqueries op operands') :
    shorthandFragment d subqueries (.text s :: operands)
      = shorthandFragment d subqueries (.text s' :: operands') := by
  rw [shorthandFragment_eq, shorthandFragment_eq, headOperator_of_spelled hop hs,
    headOperator_of_spelled hop hs']
  exact (hlist.expanded false).bind_eq fun _ _ _ => hnode

mutual

/-- The spelling of operator words does not matter for what a condition compiles to. -/
theorem Respelled.conditionFragment_eq (d : Dialect) (subqueries : Bool) {v v' : Value} :
    Respelled v v' → v.conditionFragment d subqueries = v'.conditionFragment d subqueries
  | .refl v => rfl
  | .list h | .tuple h => h.shorthandFragment_eq d subqueries
  | .node hop h => by
      rw [Value.conditionFragment, Value.conditionFragment, nodeFragment_logical d subqueries hop,
        nodeFragment_logical d subqueries hop, h.map_conditionFragment_eq d subqueries]

theorem RespelledList.shorthandFragment_eq (d : Dialect) (subqueries : Bool)
    {items items' : List Value} :
    RespelledList items items' →
      shorthandFragment d subqueries items = shorthandFragment d subqueries items'
  | .word hop hs hs' => shorthandFragment_congr hop hs hs' (.word hop hs hs') rfl
  | .logical hop hs hs' h => by
      have hspecial := mem_special_of_isLogical hop
      refine shorthandFragment_congr hspecial hs hs' (.logical hop hs hs' h) ?_
      rw [nodeFragment_logical d subqueries hop, nodeFragment_logical d subqueries hop,
        h.map_conditionFragment_eq d subqueries]

theorem RespelledOperands.map_conditionFragment_eq (d : Dialect) (subqueries : Bool)
    {operands operands' : List Value} :
    RespelledOperands operands operands' →
      operands.map (Value.conditionFragment d subqueries)
        = operands'.map (Value.conditionFragment d subqueries)
  | .nil => rfl
  | .cons hv hrest => by
      rw [List.map_cons, List.map_cons, hv.conditionFragment_eq d subqueries,
        hrest.map_conditionFragment_eq d subqueries]

end

/-! ### Shorthand and typed conditions -/

theorem Respelled.compiled_eq (d : Dialect) (subqueries : Bool) (t : ParamTable) {v v' : Value}
    (h : Respelled v v') : v'.compiled d subqueries t = v.compiled d subqueries t := by
  rw [Value.compiled, Value.compiled, h.conditionFragment_eq d subqueries]

/-- What is done first makes no difference to what is given, if it makes none where it succeeds and
nothing is given where it fails. -/
theorem eq_ok_iff_bind_eq_ok {α β : Type} {x : Except Error β} {first : Except Error α}
    {k : α → Except Error β} (hok : ∀ a, first = .ok a → k a = x)
    (herror : ∀ e, first = .error e → ∃ e', x = .error e') (b : β) :
    x = .ok b ↔ first >>= k = .ok b := by
  cases h : first with
  | ok a =>
      rw [← hok a h]
      rfl
  | error e =>
      obtain ⟨e', he'⟩ := herror e h
      rw [he']
      constructor <;> intro hb <;> cases hb

section Ways

variable (d : Dialect) (subqueries : Bool) (t : ParamTable) (v : Value)

theorem compiled_eq_ok_iff_early (out : String × ParamTable) :
    v.compiled d subqueries t = .ok out ↔
      (v.toCondition >>= Value.compiled d subqueries t) = .ok out := by
  refine eq_ok_iff_bind_eq_ok (fun w hw => ?_) (fun e he => ?_) out
  · exact compiled_eq_of_agrees (Value.toCondition_agrees hw) t
  · obtain ⟨-, e', -, hfails⟩ := Value.compiled_of_toCondition_error d subqueries he t
    exact ⟨e', hfails⟩

theorem compiled_eq_ok_iff_expanded (deep : Bool) (out : String × ParamTable) :
    v.compiled d subqueries t = .ok out ↔
      (v.expanded deep >>= Value.compiled d subqueries t) = .ok out :=
  eq_ok_iff_bind_eq_ok (fun _ hw => Value.compiled_expanded hw t)
    (fun _ he => (Value.compiled_of_expanded_error d subqueries he t).2) out

/-- What cannot be read is no condition either. -/
theorem compiled_isBuild_iff_early :
    (∃ cause, v.compiled d subqueries t = .error (.build cause)) ↔
      ∃ cause, (v.toCondition >>= Value.compiled d subqueries t) = .error (.build cause) := by
  cases h : v.toCondition with
  | ok w =>
      have heq : w.compiled d subqueries t = v.compiled d subqueries t :=
        compiled_eq_of_agrees (Value.toCondition_agrees h) t
      rw [← heq]
      rfl
  | error e =>
      obtain ⟨⟨cause, rfl⟩, _, ⟨cause', rfl⟩, hfails⟩ :=
        Value.compiled_of_toCondition_error d subqueries h t
      exact ⟨fun _ => ⟨cause, rfl⟩, fun _ => ⟨cause', hfails⟩⟩

/-- Where it fails, expansion fails with an error of building. -/
theorem expanded_isBuild_of_compiled (deep : Bool)
    (h : ∃ cause, v.compiled d subqueries t = .error (.build cause)) :
    ∃ cause, (v.expanded deep >>= Value.compiled d subqueries t) = .error (.build cause) := by
  cases hexpanded : v.expanded deep with
  | ok w =>
      rw [← Value.compiled_expanded hexpanded t] at h
      exact h
  | error e =>
      obtain ⟨⟨cause, rfl⟩, -⟩ := Value.compiled_of_expanded_error d subqueries hexpanded t
      exact ⟨cause, rfl⟩

end Ways

/-- A condition compiles over any table of parameters to the same text and the same table as what
is read of it beforehand (`early`) and as what it is where every shorthand in it is expanded
(`expanded`). An error of building is one of all three, unless it is an expansion that fails: then
the other two fail as well, but it may be at an operand that comes before. The spelling of operator
words changes none of the three. -/
theorem shorthand_compiles_alike (d : Dialect) (subqueries : Bool) (t : ParamTable) (v : Value) :
    let compiled := Value.compiled d subqueries t
    let early := v.toCondition >>= compiled
    let expanded := v.expanded true >>= compiled
    (∀ out, compiled v = .ok out ↔ early = .ok out) ∧
    (∀ out, compiled v = .ok out ↔ expanded = .ok out) ∧
    ((∃ cause, compiled v = .error (.build cause)) ↔ ∃ cause, early = .error (.build cause)) ∧
    ((∃ cause, compiled v = .error (.build cause)) → ∃ cause, expanded = .error (.build cause)) ∧
    (∀ w, v.expanded true = .ok w → compiled w = compiled v) ∧
    (∀ e, v.expanded true = .error e →
      (∃ cause, e = .build cause) ∧ (∃ e', compiled v = .error e') ∧ ∃ e', early = .error e') ∧
    ∀ v', Respelled v v' → compiled v' = compiled v ∧ (v'.toCondition >>= compiled) = early ∧
      (v'.expanded true >>= compiled) = expanded := by
  intro compiled early expanded
  have hearly := compiled_eq_ok_iff_early d subqueries t v
  refine ⟨hearly, compiled_eq_ok_iff_expanded d subqueries t v true,
    compiled_isBuild_iff_early d subqueries t v, expanded_isBuild_of_compiled d subqueries t v true,
    fun w hw => Value.compiled_expanded hw t, ?_, ?_⟩
  · intro e he
    obtain ⟨hbuild, e', hfails⟩ := Value.compiled_of_expanded_error d subqueries he t
    refine ⟨hbuild, ⟨e', hfails⟩, ?_⟩
    -- What was read early would compile to what the condition does.
    cases h : early with
    | error e'' => exact ⟨e'', rfl⟩
    | ok out =>
        rw [(hearly out).mpr h] at hfails
        cases hfails
  · intro v' hv
    have hcompiled : ∀ w w', Respelled w w' → compiled w = compiled w' :=
      fun w w' hw => (hw.compiled_eq d subqueries t).symm
    exact ⟨(hcompiled v v' hv).symm, (hv.toCondition.bind_eq hcompiled).symm,
      ((hv.expanded true).bind_eq hcompiled).symm⟩

/-- An OR inside of an AND node, with an empty mapping and a membership in it, and the same with
other spellings of OR and NOT IN. -/
theorem shorthand_compiles_alike_respelled :
    let compiled := Value.compiled (.standard .ansi) true (.ofEntries defaultMark [])
    let spec : String → String → Value := fun disjunction membership =>
      .cond .and [.list [.text disjunction, .map [], .tuple [.text membership, .text "a", .int 1]],
        .text "b"]
    let v := spec "OR" "NOT IN"
    let v' := spec "\toR " "not \u2003 In"
    let w : Value :=
      .cond .and [.cond .or [.text "", .cond (.membership true) [.text "a", .int 1]], .text "b"]
    Respelled v v' ∧ v.expanded true = .ok w ∧ compiled w = compiled v ∧ compiled v' = compiled v ∧
      (v'.toCondition >>= compiled) = (v.toCondition >>= compiled) ∧
      (compiled v).toOption.map Prod.fst = some "((\"a\"<>:qp0)) AND (b)" := by
  intro compiled spec v v' w
  have hmembership : ∀ s ∈ ["NOT IN", "not \u2003 In"], (Operator.membership true).Spelled s := by
    decide
  have hdisjunction : ∀ s ∈ ["OR", "\toR "], Operator.or.Spelled s := by decide
  have htuple : Respelled (.tuple [.text "NOT IN", .text "a", .int 1])
      (.tuple [.text "not \u2003 In", .text "a", .int 1]) :=
    .tuple (.word (by decide) (hmembership _ (by simp)) (hmembership _ (by simp)))
  have hlist : Respelled (.list [.text "OR", .map [], .tuple [.text "NOT IN", .text "a", .int 1]])
      (.list [.text "\toR ", .map [], .tuple [.text "not \u2003 In", .text "a", .int 1]]) :=
    .list (.logical rfl (hdisjunction _ (by simp)) (hdisjunction _ (by simp))
      (.cons (.refl _) (.cons htuple .nil)))
  have hspelling : Respelled v v' := .node rfl (.cons hlist (.cons (.refl _) .nil))
  have hw : v.expanded true = .ok w := rfl
  obtain ⟨-, -, -, -, hexpanded, -, hrespelled⟩ :=
    shorthand_compiles_alike (.standard .ansi) true (.ofEntries defaultMark []) v
  obtain ⟨hcompiled, hearly, -⟩ := hrespelled v' hspelling
  refine ⟨hspelling, hw, hexpanded w hw, hcompiled, hearly, ?_⟩
  show (Value.compiled _ true _ v).toOption.map Prod.fst = _
  rw [← hexpanded w hw]
  decide

/-- Operands are compiled from the first to the last, so an operand of the wrong kind is found
before a list after it that cannot be read. Where all shorthand is expanded, that list is found. -/
theorem unreadable_after_wrong_kind :
    let compiled := Value.compiled (.standard .ansi) true (.ofEntries defaultMark [])
    let v : Value := .cond .and [.cond (.like false false false) [.text "a", .text "v", .int 5],
      .list [.text "or", .list [.int 1]]]
    (v.expanded true >>= compiled) = .error (.build (.operatorNotText "int")) ∧
      compiled v = .error .badType ∧ (v.toCondition >>= compiled) = .error .badType :=
  ⟨rfl, rfl, rfl⟩

end SqlLoom
