import SqlLoom.Proofs.Identifier
import SqlLoom.Proofs.Literal

/-!
# `SqlLoom.Proofs.Template`: the tokens of a template

`Token.Valid` says which names a token can have, and `Token.text` how it is written. `tokenAt` finds
the token at the front of a text: `tokenAt_text` and `tokenAt_eq_some`. Resolving a template then
has four laws, which is all that the other modules use:

* `quoteSqlFrom_text`: a token gives way to what it stands for.
* `quoteSqlFrom_char`: a character at which no token stands is kept.
* `quoteSqlFrom_append`: a character that no token has divides a template into two.
* `resolveToken_eq`: a token stands for the quoted parts of its name, with the table prefix in the
  place of percent signs. So it starts with a quote (`resolveToken_head`) and never looks like the
  token.
-/

set_option autoImplicit false

namespace SqlLoom

/-! ### Replaced characters -/

namespace Text

variable {c p : Char} {s : List Char}

theorem replaceChar_cons_of_ne (h : c ≠ p) (new s : List Char) :
    replaceChar p new (c :: s) = c :: replaceChar p new s := by
  rw [replaceChar, List.flatMap_cons, if_neg h]
  rfl

theorem replaceChar_eq_self (h : p ∉ s) (new : List Char) : replaceChar p new s = s := by
  induction s with
  | nil => rfl
  | cons e s ih =>
      obtain ⟨hne, hrest⟩ := List.ne_and_not_mem_of_not_mem_cons h
      rw [replaceChar_cons_of_ne hne.symm, ih hrest]

end Text

namespace Dialect

/-! ### Tokens -/

/-- The name of a token. -/
def Token.name : Token → List Char
  | .table name => name
  | .column name => name

/-- A token as it is written. -/
def Token.text : Token → List Char
  | .table name => ['{', '{'] ++ name ++ ['}', '}']
  | .column name => ['[', '['] ++ name ++ [']', ']']

/-- A percent sign or nothing. -/
def IsPercent (s : List Char) : Prop := s = [] ∨ s = ['%']

/-- The names that a token can have: a run of word characters, hyphens, dots and blanks. That of a
table may have a percent sign on either side. -/
def Token.Valid : Token → Prop
  | .table name => ∃ before core after, name = before ++ core ++ after ∧ IsPercent before ∧
    IsPercent after ∧ core ≠ [] ∧ ∀ c ∈ core, isTokenChar c = true
  | .column name => name ≠ [] ∧ ∀ c ∈ name, isTokenChar c = true

/-- A token stands somewhere in a text. -/
def HasToken (s : List Char) : Prop := ∃ t : Token, t.Valid ∧ t.text <:+: s

variable {d : Dialect} {t : Token} {c : Char} {s rest : List Char} {n : Nat}

theorem splitPercent_append {mark : List Char} (hmark : IsPercent mark)
    (hrest : rest.head? ≠ some '%') : splitPercent (mark ++ rest) = (mark, rest) := by
  rcases hmark with rfl | rfl
  · rw [List.nil_append, splitPercent.eq_def]
    split
    · exact absurd rfl hrest
    · rfl
  · rfl

theorem splitPercent_eq (s : List Char) :
    IsPercent (splitPercent s).1 ∧ (splitPercent s).1 ++ (splitPercent s).2 = s := by
  rw [splitPercent.eq_def]
  split
  · exact ⟨.inr rfl, rfl⟩
  · exact ⟨.inl rfl, rfl⟩

theorem isTokenChar_of_mem_takeWhile (s : List Char) :
    ∀ c ∈ s.takeWhile isTokenChar, isTokenChar c = true :=
  List.all_eq_true.mp List.all_takeWhile

/-- A token at the front of a text is found. -/
theorem tokenAt_text (ht : t.Valid) (rest : List Char) :
    tokenAt (t.text ++ rest) = some (t, t.text.length - 1) := by
  cases t with
  | table name =>
      obtain ⟨before, core, after, rfl, hbefore, hafter, hne, hcore⟩ := ht
      obtain ⟨c, core, rfl⟩ := List.exists_cons_of_ne_nil hne
      -- A percent sign is no character of the run, so the run starts after the first one and ends
      -- before the second one.
      have hc : c ≠ '%' := fun h => by
        have := hcore c List.mem_cons_self
        rw [h] at this
        exact absurd this (by decide)
      have hsplit : splitPercent (before ++ (c :: core ++ (after ++ '}' :: '}' :: rest)))
          = (before, c :: core ++ (after ++ '}' :: '}' :: rest)) :=
        splitPercent_append hbefore (by simpa using hc)
      have hafter' : splitPercent (after ++ '}' :: '}' :: rest) = (after, '}' :: '}' :: rest) :=
        splitPercent_append hafter (by simp)
      have hend : ∀ e, (after ++ '}' :: '}' :: rest).head? = some e → isTokenChar e = false := by
        rcases hafter with rfl | rfl
        · simp only [List.nil_append, List.head?_cons, Option.some.injEq, forall_eq']
          decide
        · simp only [List.cons_append, List.head?_cons, Option.some.injEq, forall_eq']
          decide
      obtain ⟨htake, hdrop⟩ := Text.run_append hcore hend
      have htext : (Token.table (before ++ (c :: core) ++ after)).text ++ rest
          = '{' :: '{' :: (before ++ (c :: core ++ (after ++ '}' :: '}' :: rest))) := by
        simp [Token.text]
      rw [htext, tokenAt, hsplit]
      simp only [htake, hdrop, hafter']
      simp [Token.text]
      omega
  | column name =>
      obtain ⟨hne, hname⟩ := ht
      obtain ⟨c, core, rfl⟩ := List.exists_cons_of_ne_nil hne
      have hend : ∀ e, (']' :: ']' :: rest).head? = some e → isTokenChar e = false := by
        simp only [List.head?_cons, Option.some.injEq, forall_eq']
        decide
      obtain ⟨htake, hdrop⟩ := Text.run_append hname hend
      have htext : (Token.column (c :: core)).text ++ rest
          = '[' :: '[' :: (c :: core ++ ']' :: ']' :: rest) := by
        simp [Token.text]
      rw [htext, tokenAt]
      simp only [htake, hdrop]
      simp [Token.text]

/-- What is found at the front of a text is a token. -/
theorem tokenAt_eq_some (h : tokenAt s = some (t, n)) :
    t.Valid ∧ n + 1 = t.text.length ∧ ∃ rest, s = t.text ++ rest := by
  rw [tokenAt.eq_def] at h
  split at h
  · rename_i rest
    obtain ⟨hbefore, hsplit⟩ := splitPercent_eq rest
    obtain ⟨hafter, hsplit'⟩ := splitPercent_eq ((splitPercent rest).2.dropWhile isTokenChar)
    dsimp only at h
    split at h
    · rename_i c core rest' hname hrest'
      cases h
      have hne : (splitPercent rest).2.takeWhile isTokenChar ≠ [] := by simp [hname]
      refine ⟨⟨_, _, _, rfl, hbefore, hafter, hne, isTokenChar_of_mem_takeWhile _⟩, ?_, rest', ?_⟩
      · simp [Token.text]
        omega
      · have hcore := List.takeWhile_append_dropWhile (p := isTokenChar)
          (l := (splitPercent rest).2)
        have hrest := hsplit.symm
        rw [← hcore, ← hsplit', hrest'] at hrest
        simpa [Token.text] using hrest
    · cases h
  -- A column has no percent signs around its name.
  · rename_i rest
    dsimp only at h
    split at h
    · rename_i c core rest' hname hrest'
      cases h
      have hne : rest.takeWhile isTokenChar ≠ [] := by simp [hname]
      refine ⟨⟨hne, isTokenChar_of_mem_takeWhile _⟩, ?_, rest', ?_⟩
      · simp [Token.text]
      · have hcore := List.takeWhile_append_dropWhile (p := isTokenChar) (l := rest)
        rw [hrest'] at hcore
        simpa [Token.text] using hcore.symm
    · cases h
  · cases h

/-! ### Where tokens stand -/

/-- A character that a token can have. -/
def isMarkup (c : Char) : Bool := isTokenChar c || ['{', '}', '[', ']', '%'].contains c

theorem isMarkup_of_mem_text (ht : t.Valid) : ∀ c ∈ t.text, isMarkup c = true := by
  have hcore {core : List Char} (h : ∀ c ∈ core, isTokenChar c = true) :
      ∀ c ∈ core, isMarkup c = true := fun c hc => by simp [isMarkup, h c hc]
  have hpercent {mark : List Char} (h : IsPercent mark) : ∀ c ∈ mark, isMarkup c = true := by
    rcases h with rfl | rfl <;> simp [isMarkup]
  cases t with
  | table name =>
      obtain ⟨before, core, after, rfl, hbefore, hafter, -, hname⟩ := ht
      simp only [Token.text, List.forall_mem_append]
      exact ⟨⟨by simp [isMarkup], ⟨hpercent hbefore, hcore hname⟩, hpercent hafter⟩,
        by simp [isMarkup]⟩
  | column name =>
      simp only [Token.text, List.forall_mem_append]
      exact ⟨⟨by simp [isMarkup], hcore ht.2⟩, by simp [isMarkup]⟩

/-- A token starts with a bracket. -/
theorem tokenAt_of_head (hbrace : c ≠ '{') (hbracket : c ≠ '[') (rest : List Char) :
    tokenAt (c :: rest) = none := by
  rw [tokenAt.eq_def]
  split <;> simp_all

/-- A character that no token has hides what follows it. -/
theorem tokenAt_append (hc : isMarkup c = false) (s rest : List Char) :
    tokenAt (s ++ c :: rest) = tokenAt s := by
  cases hs : tokenAt s with
  | some found =>
      obtain ⟨t, n⟩ := found
      obtain ⟨ht, hn, after, rfl⟩ := tokenAt_eq_some hs
      rw [List.append_assoc, tokenAt_text ht, ← hn]
      rfl
  | none =>
      cases hwhole : tokenAt (s ++ c :: rest) with
      | none => rfl
      | some found =>
          obtain ⟨t, n⟩ := found
          obtain ⟨ht, hn, after, htext⟩ := tokenAt_eq_some hwhole
          -- The token ends before the character, or else it would have it.
          rcases List.append_eq_append_iff.mp htext with ⟨more, htoken, htail⟩ | ⟨more, hfront, -⟩
          · cases more with
            | nil =>
                rw [List.append_nil] at htoken
                have hfound := tokenAt_text ht []
                rw [List.append_nil, htoken, hs] at hfound
                cases hfound
            | cons e more =>
                obtain rfl : c = e := (List.cons.inj htail).1
                have hmem : c ∈ t.text := by rw [htoken]; simp
                rw [isMarkup_of_mem_text ht c hmem] at hc
                cases hc
          · rw [hfront, tokenAt_text ht] at hs
            cases hs

theorem isSome_tokenAt_iff (s : List Char) :
    (tokenAt s).isSome = true ↔ ∃ t : Token, t.Valid ∧ t.text <+: s := by
  constructor
  · intro h
    obtain ⟨⟨t, n⟩, ht⟩ := Option.isSome_iff_exists.mp h
    obtain ⟨hvalid, -, rest, rfl⟩ := tokenAt_eq_some ht
    exact ⟨t, hvalid, List.prefix_append _ _⟩
  · rintro ⟨t, hvalid, rest, rfl⟩
    rw [tokenAt_text hvalid]
    rfl

theorem not_hasToken_nil : ¬ HasToken [] := by
  rintro ⟨t, -, h⟩
  have htext : t.text = [] := List.infix_nil.mp h
  cases t <;> simp [Token.text] at htext

theorem hasToken_cons (c : Char) (s : List Char) :
    HasToken (c :: s) ↔ (tokenAt (c :: s)).isSome = true ∨ HasToken s := by
  simp only [HasToken, isSome_tokenAt_iff, List.infix_cons_iff, and_or_left, exists_or]

instance decidableHasToken : (s : List Char) → Decidable (HasToken s)
  | [] => isFalse not_hasToken_nil
  | c :: s =>
    haveI := decidableHasToken s
    decidable_of_iff ((tokenAt (c :: s)).isSome = true ∨ HasToken s) (hasToken_cons c s).symm

/-! ### Resolving -/

/-- The characters of a token are passed over. -/
theorem quoteSqlFrom_eq_drop (d : Dialect) (tablePrefix : List Char) (n : Nat) (s : List Char) :
    d.quoteSqlFrom tablePrefix n s = d.quoteSqlFrom tablePrefix 0 (s.drop n) := by
  induction s generalizing n with
  | nil => cases n <;> simp [quoteSqlFrom]
  | cons c s ih =>
      cases n with
      | zero => rfl
      | succ n => rw [quoteSqlFrom, ih, List.drop_succ_cons]

/-- A token gives way to what it stands for. -/
theorem quoteSqlFrom_text (ht : t.Valid) (tablePrefix rest : List Char) :
    d.quoteSqlFrom tablePrefix 0 (t.text ++ rest)
      = d.resolveToken tablePrefix t ++ d.quoteSqlFrom tablePrefix 0 rest := by
  have hfound := tokenAt_text ht rest
  obtain ⟨c, s, htext⟩ : ∃ c s, t.text = c :: s := by
    cases t <;> exact ⟨_, _, rfl⟩
  rw [htext, List.cons_append] at hfound ⊢
  rw [quoteSqlFrom, hfound]
  simp [quoteSqlFrom_eq_drop d tablePrefix s.length]

/-- A character at which no token stands is kept. -/
theorem quoteSqlFrom_char (tablePrefix : List Char) (h : tokenAt (c :: rest) = none) :
    d.quoteSqlFrom tablePrefix 0 (c :: rest) = c :: d.quoteSqlFrom tablePrefix 0 rest := by
  rw [quoteSqlFrom, h]

/-- A character that no token has divides a template into two. -/
theorem quoteSqlFrom_append (hc : isMarkup c = false) (tablePrefix s rest : List Char) :
    d.quoteSqlFrom tablePrefix 0 (s ++ c :: rest)
      = d.quoteSqlFrom tablePrefix 0 s ++ c :: d.quoteSqlFrom tablePrefix 0 rest := by
  -- A token takes several characters at once, so the induction is on the length.
  induction hs : s.length using Nat.strongRecOn generalizing s with
  | ind length ih =>
      cases s with
      | nil =>
          have hnone : tokenAt (c :: rest) = none := tokenAt_append hc [] rest
          exact quoteSqlFrom_char tablePrefix hnone
      | cons e s =>
          have hsame := tokenAt_append hc (e :: s) rest
          cases hfound : tokenAt (e :: s) with
          | none =>
              rw [hfound] at hsame
              rw [quoteSqlFrom_char tablePrefix hfound]
              rw [List.cons_append] at hsame ⊢
              rw [quoteSqlFrom_char tablePrefix hsame, ih s.length (by simp [← hs]) s rfl]
              rfl
          | some found =>
              obtain ⟨t, n⟩ := found
              obtain ⟨ht, hn, after, htext⟩ := tokenAt_eq_some hfound
              have hshort : after.length < length := by
                rw [← hs, htext, List.length_append]
                omega
              rw [htext, List.append_assoc, quoteSqlFrom_text ht, quoteSqlFrom_text ht,
                ih after.length hshort after rfl, List.append_assoc]

/-! ### What tokens stand for -/

section Names

variable {name : List Char}

/-- A name of word characters is no expression. -/
theorem not_isMarked_of_isWord {mark : List Char} (h : ∀ c ∈ name, Text.isWord c = true)
    (hmark : c ∈ mark) (hc : Text.isWord c = false) : ¬ IsMarked mark name :=
  not_isMarked_of_not_mem (Text.not_mem_of_forall h (by decide)) hmark
    (Text.not_mem_of_forall h hc)

/-- It is quoted as one part. -/
theorem quoteTableChars_of_isWord (h : ∀ c ∈ name, Text.isWord c = true) :
    d.quoteTableChars name = d.quoteSimpleTableChars name :=
  quoteTableChars_single (not_isMarked_of_isWord h List.mem_cons_self (by decide))
    (Text.not_mem_of_forall h (by decide))

theorem quoteColumnChars_of_isWord (h : ∀ c ∈ name, Text.isWord c = true) :
    d.quoteColumnChars name = d.quoteSimpleTableChars name := by
  have hbrace : '{' ∉ name := Text.not_mem_of_forall h (by decide)
  rw [quoteColumnChars_single, quoteSimpleColumnChars_eq (Text.not_mem_of_forall h (by decide))]
  · exact not_isMarked_of_isWord h List.mem_cons_self (by decide)
  · exact Text.not_mem_of_forall h (by decide)
  · exact fun htoken => hbrace (htoken.subset List.mem_cons_self)

variable {q : Char}

theorem QuotesNames.isMarkup (hq : d.QuotesNames q) : isMarkup q = false := by
  rcases hq.2 with rfl | rfl <;> decide

/-- The name of a token is made of the characters of names and of percent signs. -/
theorem Token.Valid.not_mem (ht : t.Valid) {c : Char} (hc : isTokenChar c = false)
    (hpercent : c ≠ '%') : c ∉ t.name := by
  cases t with
  | table name =>
      obtain ⟨before, core, after, rfl, hbefore, hafter, -, hcore⟩ := ht
      have hmark {mark : List Char} (h : IsPercent mark) : c ∉ mark := by
        rcases h with rfl | rfl <;> simp [hpercent]
      simp only [Token.name, List.mem_append, not_or]
      exact ⟨⟨hmark hbefore, Text.not_mem_of_forall hcore hc⟩, hmark hafter⟩
  | column name => exact Text.not_mem_of_forall ht.2 hc

theorem Token.Valid.plain (ht : t.Valid) (hq : d.QuotesNames q) : d.Plain t.name where
  paren := ht.not_mem (by decide) (by decide)
  bracket h := ht.not_mem (c := '[') (by decide) (by decide) (h.subset List.mem_cons_self)
  brace h := ht.not_mem (c := '{') (by decide) (by decide) (h.subset List.mem_cons_self)
  quote c hc := by
    rw [hq.1, List.mem_singleton] at hc
    rcases hq.2 with rfl | rfl <;> subst hc <;> exact ht.not_mem (by decide) (by decide)

/-- A plain column name is quoted like a table name, if it has no star. -/
theorem Plain.quoteColumnChars_eq_table {name : List Char} (h : d.Plain name)
    (hq : d.QuotesNames q) (hstar : '*' ∉ name) :
    d.quoteColumnChars name = d.quoteTableChars name := by
  obtain ⟨parts, last, hsplit, hcolumn⟩ := h.quoteColumnChars_eq hq
  have hlast : last ≠ ['*'] := by
    rintro rfl
    have hmem : ['*'] ∈ Text.splitAt '.' name := by
      rw [Text.splitAt_eq_splitOn, hsplit]
      simp
    exact hstar (Text.splitAt_subset '.' name _ hmem List.mem_cons_self)
  rw [hcolumn, h.quoteTableChars_eq hq, hsplit, if_neg hlast, List.map_append, List.map_singleton]

/-- A token stands for its quoted name, with the table prefix for percent signs. -/
theorem resolveToken_eq (hq : d.QuotesNames q) (ht : t.Valid) (tablePrefix : List Char) :
    d.resolveToken tablePrefix t
      = Text.replaceChar '%' tablePrefix (d.quoteTableChars t.name) := by
  cases t with
  | table name => rfl
  | column name =>
      have hpercent : '%' ∉ d.quoteTableChars name := by
        rw [← List.singleton_infix_iff, infix_quoteTableChars_iff hq (by decide)
          (hq.not_mem (by decide) (by decide)) (by decide), List.singleton_infix_iff]
        exact Text.not_mem_of_forall ht.2 (by decide)
      rw [resolveToken, Token.name, Text.replaceChar_eq_self hpercent]
      exact (ht.plain hq).quoteColumnChars_eq_table hq (ht.not_mem (by decide) (by decide))

/-- A plain table name starts with a quote, once it is quoted. -/
theorem Plain.quoteTableChars_head (h : d.Plain name) (hq : d.QuotesNames q) :
    ∃ more, d.quoteTableChars name = q :: more := by
  obtain ⟨part, parts, hsplit⟩ := List.exists_cons_of_ne_nil (List.splitOn_ne_nil '.' name)
  rw [h.quoteTableChars_eq hq, hsplit, List.map_cons, enclose_eq hq]
  cases parts <;> exact ⟨_, rfl⟩

theorem QuotesNames.ne_percent (hq : d.QuotesNames q) : q ≠ '%' := by
  rcases hq.2 with rfl | rfl <;> decide

/-- What a token stands for starts with a quote. -/
theorem resolveToken_head (hq : d.QuotesNames q) (ht : t.Valid) (tablePrefix : List Char) :
    ∃ more, d.resolveToken tablePrefix t = q :: more := by
  obtain ⟨more, hmore⟩ := (ht.plain hq).quoteTableChars_head hq
  exact ⟨_, by rw [resolveToken_eq hq ht, hmore, Text.replaceChar_cons_of_ne hq.ne_percent]⟩

end Names

end Dialect

end SqlLoom
