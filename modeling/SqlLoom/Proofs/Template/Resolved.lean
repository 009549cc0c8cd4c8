import SqlLoom.Connection
import SqlLoom.Proofs.Template

/-!
# `SqlLoom.Proofs.Template.Resolved`: a resolved template has no tokens

Tokens are resolved from left to right, and what has been written is not looked at again. That no
token is left then has three reasons:

* `prefix_of_prefix_quoteSqlFrom`: what a resolved text starts with, as far as its characters are
  those of tokens, the text has started with. So no token is put together from kept characters.
* `resolveToken_head`, `resolveToken_last`: what a token stands for starts and ends with a quote,
  which is in no token. So no token reaches over its border.
* `not_infix_resolveToken`: no bracket is doubled in it unless it is in the prefix. So no token
  stands inside.

`resolved_again`: a resolved template has no tokens, and is executed as it is.
-/

set_option autoImplicit false

namespace SqlLoom

/-! ### Doubled characters -/

namespace Text

variable {c p : Char} {new s : List Char}

theorem replaceChar_append (p : Char) (new s t : List Char) :
    replaceChar p new (s ++ t) = replaceChar p new s ++ replaceChar p new t :=
  List.flatMap_append

/-- What follows a replaced character is kept, if it is another one. -/
theorem replaceChar_head (hp : ¬ [p, p] <:+: p :: s) {e : Char} {rest : List Char}
    (h : replaceChar p new s = e :: rest) : e ∈ s := by
  cases s with
  | nil => cases h
  | cons next s =>
      have hne : next ≠ p := by
        rintro rfl
        exact hp (List.prefix_append [next, next] s).isInfix
      rw [replaceChar_cons_of_ne hne] at h
      rw [(List.cons.inj h).1]
      exact List.mem_cons_self

/-- Putting in a text doubles no character that is not doubled in it, if there is no such character
around it and the places for the text are apart. -/
theorem not_infix_replaceChar (hc : c ∉ s) (hp : ¬ [p, p] <:+: s) (hnew : ¬ [c, c] <:+: new) :
    ¬ [c, c] <:+: replaceChar p new s := by
  induction s with
  | nil => simp [replaceChar]
  | cons e s ih =>
      obtain ⟨hne, hs⟩ := List.ne_and_not_mem_of_not_mem_cons hc
      have hrest := ih hs fun h => hp (h.trans (List.suffix_cons e s).isInfix)
      by_cases he : e = p
      · subst he
        rw [replaceChar, List.flatMap_cons, if_pos rfl]
        intro hdouble
        rcases List.infix_append_iff.mp hdouble with h | h | ⟨front, back, hsplit, hfront, hback⟩
        · exact hnew h
        · exact hrest h
        · cases back with
          | nil =>
              rw [List.append_nil] at hsplit
              exact hnew (hsplit ▸ hfront.isInfix)
          | cons b back =>
              -- Over the border, the second of the two would be what follows the place.
              obtain ⟨tail, htail⟩ := hback
              have hb : b ∈ [c, c] := by rw [hsplit]; simp
              obtain rfl : b = c := by simpa using hb
              exact hs (replaceChar_head hp htail.symm)
      · rw [replaceChar_cons_of_ne he, List.infix_cons_iff]
        rintro (h | h)
        · exact hne (List.cons_prefix_cons.mp h).1
        · exact hrest h

end Text

namespace Dialect

variable {d : Dialect} {q : Char} {t : Token} {tablePrefix s : List Char}

/-! ### What tokens stand for -/

/-- Percent signs are apart in the name of a token. -/
theorem Token.Valid.not_infix_percent (ht : t.Valid) : ¬ ['%', '%'] <:+: t.name := by
  have hnone {core : List Char} (h : ∀ c ∈ core, isTokenChar c = true) : '%' ∉ core :=
    Text.not_mem_of_forall h (by decide)
  cases t with
  | table name =>
      obtain ⟨before, core, after, rfl, hbefore, hafter, hne, hcore⟩ := ht
      obtain ⟨c, core, rfl⟩ := List.exists_cons_of_ne_nil hne
      obtain ⟨hc, hrest⟩ := List.ne_and_not_mem_of_not_mem_cons (hnone hcore)
      have hfew {mark : List Char} (h : IsPercent mark) : mark.count '%' ≤ 1 := by
        rcases h with rfl | rfl <;> decide
      have hsplit : before ++ (c :: core) ++ after = before ++ c :: (core ++ after) := by simp
      rw [Token.name, hsplit, Text.infix_append_cons_iff (by simpa using hc.symm)]
      -- On either side of the run there is one percent sign at most.
      rintro (h | h)
      · have := h.sublist.count_le '%'
        have := hfew hbefore
        simp at *
        omega
      · have hcount := h.sublist.count_le '%'
        have := hfew hafter
        rw [List.count_append, List.count_eq_zero.mpr hrest] at hcount
        simp at *
        omega
  | column name => exact fun h => hnone ht.2 (h.subset List.mem_cons_self)

/-- A plain table name ends in a quote, once it is quoted. -/
theorem Plain.quoteTableChars_last {name : List Char} (h : d.Plain name) (hq : d.QuotesNames q) :
    ∃ front, d.quoteTableChars name = front ++ [q] := by
  have hlast (part : List Char) : d.enclose part = (q :: part) ++ [q] := by
    rw [enclose_eq hq]
    rfl
  obtain ⟨parts, last, hsplit⟩ : ∃ parts last, name.splitOn '.' = parts ++ [last] :=
    ⟨_, _, (List.dropLast_concat_getLast (List.splitOn_ne_nil '.' name)).symm⟩
  rw [h.quoteTableChars_eq hq, hsplit, List.map_append, List.map_singleton]
  cases parts with
  | nil => exact ⟨_, by rw [List.map_nil, List.nil_append, List.intercalate_singleton, hlast]⟩
  | cons part parts =>
      refine ⟨Text.join ['.'] ((part :: parts).map d.enclose) ++ '.' :: q :: last, ?_⟩
      have hparts : (part :: parts).map d.enclose ≠ [] := List.cons_ne_nil _ _
      have hjoin : ['.'].intercalate ((part :: parts).map d.enclose ++ [d.enclose last])
          = Text.join ['.'] ((part :: parts).map d.enclose) ++ '.' :: d.enclose last :=
        Text.join_concat hparts (d.enclose last)
      rw [hjoin, hlast]
      simp

/-- What a token stands for ends in a quote. -/
theorem resolveToken_last (hq : d.QuotesNames q) (ht : t.Valid) (tablePrefix : List Char) :
    ∃ front, d.resolveToken tablePrefix t = front ++ [q] := by
  obtain ⟨front, hfront⟩ := (ht.plain hq).quoteTableChars_last hq
  refine ⟨Text.replaceChar '%' tablePrefix front, ?_⟩
  rw [resolveToken_eq hq ht, hfront, Text.replaceChar_append,
    Text.replaceChar_cons_of_ne hq.ne_percent]
  rfl

/-- No bracket is doubled in what a token stands for, unless it is doubled in the prefix. -/
theorem not_infix_resolveToken (hq : d.QuotesNames q) (ht : t.Valid) {mark : List Char}
    (hmark : OpensToken mark) (hclean : ¬ mark <:+: tablePrefix) :
    ¬ mark <:+: d.resolveToken tablePrefix t := by
  have hpercent : ¬ ['%', '%'] <:+: d.quoteTableChars t.name := by
    rw [infix_quoteTableChars_iff hq (by decide) (hq.not_mem (by decide) (by decide)) (by decide)]
    exact ht.not_infix_percent
  have hbracket {c : Char} (hc : c = '{' ∨ c = '[') : c ∉ d.quoteTableChars t.name := by
    have hquote : q ∉ [c] := hq.not_mem (by rcases hc with rfl | rfl <;> decide)
      (by rcases hc with rfl | rfl <;> decide)
    rw [← List.singleton_infix_iff, infix_quoteTableChars_iff hq
      (by rcases hc with rfl | rfl <;> decide) hquote (List.cons_ne_nil _ _),
      List.singleton_infix_iff]
    rcases hc with rfl | rfl <;> exact ht.not_mem (by decide) (by decide)
  rw [resolveToken_eq hq ht]
  rcases hmark with rfl | rfl
  · exact Text.not_infix_replaceChar (hbracket (.inl rfl)) hpercent hclean
  · exact Text.not_infix_replaceChar (hbracket (.inr rfl)) hpercent hclean

/-! ### No token is left -/

theorem Token.opens (t : Token) : ∃ mark, OpensToken mark ∧ mark <+: t.text := by
  cases t with
  | table name => exact ⟨_, .brace, _, (List.append_assoc _ _ _).symm⟩
  | column name => exact ⟨_, .bracket, _, (List.append_assoc _ _ _).symm⟩

theorem QuotesNames.not_mem_text (hq : d.QuotesNames q) (ht : t.Valid) : q ∉ t.text :=
  Text.not_mem_of_forall (isMarkup_of_mem_text ht) hq.isMarkup

/-- A resolved text starts with characters of tokens only where the text has started with them: what
a token stands for starts with a quote. -/
theorem prefix_of_prefix_quoteSqlFrom (hq : d.QuotesNames q) {key : List Char}
    (hkey : ∀ c ∈ key, isMarkup c = true) (h : key <+: d.quoteSqlFrom tablePrefix 0 s) :
    key <+: s := by
  induction key generalizing s with
  | nil => exact List.nil_prefix
  | cons e key ih =>
      obtain ⟨he, hkey⟩ := List.forall_mem_cons.mp hkey
      cases s with
      | nil => simp [quoteSqlFrom] at h
      | cons c s =>
          cases hfound : tokenAt (c :: s) with
          | none =>
              rw [quoteSqlFrom_char tablePrefix hfound] at h
              obtain ⟨rfl, hrest⟩ := List.cons_prefix_cons.mp h
              exact List.cons_prefix_cons.mpr ⟨rfl, ih hkey hrest⟩
          | some found =>
              obtain ⟨t, n⟩ := found
              obtain ⟨ht, -, rest, htext⟩ := tokenAt_eq_some hfound
              obtain ⟨more, hmore⟩ := resolveToken_head hq ht tablePrefix
              rw [htext, quoteSqlFrom_text ht, hmore] at h
              obtain ⟨rfl, -⟩ := List.cons_prefix_cons.mp h
              rw [hq.isMarkup] at he
              cases he

/-- A resolved text has no token. -/
theorem not_hasToken_quoteSqlFrom (hq : d.QuotesNames q)
    (hclean : ∀ mark, OpensToken mark → ¬ mark <:+: tablePrefix) (s : List Char) :
    ¬ HasToken (d.quoteSqlFrom tablePrefix 0 s) := by
  -- A token takes several characters at once, so the induction is on the length.
  induction hs : s.length using Nat.strongRecOn generalizing s with
  | ind length ih =>
      cases s with
      | nil => exact not_hasToken_nil
      | cons c s =>
          cases hfound : tokenAt (c :: s) with
          | none =>
              have hwhole := quoteSqlFrom_char (d := d) tablePrefix hfound
              rw [hwhole, hasToken_cons, isSome_tokenAt_iff]
              rintro (⟨t, ht, hstart⟩ | hrest)
              · -- A token here would have been found.
                rw [← hwhole] at hstart
                have hfirst := prefix_of_prefix_quoteSqlFrom hq (isMarkup_of_mem_text ht) hstart
                have hsome := (isSome_tokenAt_iff (c :: s)).mpr ⟨t, ht, hfirst⟩
                rw [hfound] at hsome
                cases hsome
              · exact ih s.length (by simp [← hs]) s rfl hrest
          | some found =>
              obtain ⟨t, n⟩ := found
              obtain ⟨ht, hn, rest, htext⟩ := tokenAt_eq_some hfound
              have hshort : rest.length < length := by
                rw [← hs, htext, List.length_append]
                omega
              obtain ⟨front, hfront⟩ := resolveToken_last hq ht tablePrefix
              rw [htext, quoteSqlFrom_text ht, hfront, List.append_assoc]
              rintro ⟨u, hu, hinfix⟩
              rcases (Text.infix_append_cons_iff (hq.not_mem_text hu)).mp hinfix with h | h
              · obtain ⟨mark, hmark, hopens⟩ := u.opens
                refine not_infix_resolveToken hq ht hmark (hclean mark hmark) ?_
                rw [hfront]
                exact (hopens.isInfix.trans h).trans (List.prefix_append _ _).isInfix
              · exact ih rest.length hshort rest rfl ⟨u, hu, h⟩

/-- A text without tokens is resolved to itself. -/
theorem quoteSqlFrom_of_not_hasToken (d : Dialect) (tablePrefix : List Char) {s : List Char}
    (h : ¬ HasToken s) : d.quoteSqlFrom tablePrefix 0 s = s := by
  induction s with
  | nil => rfl
  | cons c s ih =>
      rw [hasToken_cons, not_or, Bool.not_eq_true, Option.isSome_eq_false_iff,
        Option.isNone_iff_eq_none] at h
      rw [quoteSqlFrom_char tablePrefix h.1, ih h.2]

theorem quoteSql_of_not_hasToken (d : Dialect) (tablePrefix : String) {sql : String}
    (h : ¬ HasToken sql.toList) : d.quoteSql sql tablePrefix = sql := by
  rw [quoteSql, quoteSqlFrom_of_not_hasToken d _ h, String.ofList_toList]

/-- A resolved template has no tokens. To resolve it again, with any prefix and for any dialect,
changes nothing, and a connection executes it like the template itself. -/
theorem resolved_again (b : Backend) (sql tablePrefix : String)
    (hbrace : ¬ ['{', '{'] <:+: tablePrefix.toList)
    (hbracket : ¬ ['[', '['] <:+: tablePrefix.toList) :
    let d := Dialect.standard b
    let resolved := d.quoteSql sql tablePrefix
    ¬ HasToken resolved.toList ∧
      d.quoteSql resolved tablePrefix = resolved ∧
      (∀ (other : Dialect) (otherPrefix : String), other.quoteSql resolved otherPrefix = resolved) ∧
      ∀ (σ : Type) (c : Connection σ), c.quoteSql resolved = resolved ∧
        (c.dialect = d → c.tablePrefix = tablePrefix → ∀ params : Entries Value,
          c.execute (c.quoteSql sql) params = c.execute sql params ∧
            c.queryScalar (c.quoteSql sql) params = c.queryScalar sql params) := by
  intro d resolved
  obtain ⟨q, hq⟩ := standard_quotesNames b
  have hnone : ¬ HasToken resolved.toList := by
    show ¬ HasToken (String.ofList _).toList
    rw [String.toList_ofList]
    refine not_hasToken_quoteSqlFrom hq ?_ sql.toList
    rintro mark (rfl | rfl)
    · exact hbrace
    · exact hbracket
  have hkept (other : Dialect) (otherPrefix : String) :
      other.quoteSql resolved otherPrefix = resolved :=
    quoteSql_of_not_hasToken other otherPrefix hnone
  refine ⟨hnone, hkept d tablePrefix, hkept, fun σ c => ⟨hkept _ _, ?_⟩⟩
  intro hd hclean params
  have hsame : c.quoteSql sql = resolved := by rw [Connection.quoteSql, hd, hclean]
  have hagain : c.quoteSql (c.quoteSql sql) = c.quoteSql sql := by
    rw [hsame]
    exact hkept _ _
  have hperform : c.perform (c.quoteSql sql) params = c.perform sql params := by
    rw [Connection.perform, Connection.perform, hagain]
  constructor
  · rw [Connection.execute, Connection.execute, Connection.complete, Connection.complete, hperform]
  · rw [Connection.queryScalar, Connection.queryScalar, Connection.complete, Connection.complete,
      hperform]

/-- Brackets that overlap, a prefix that is a bracket, and parts without a name. -/
theorem resolved_again_overlapping :
    let d := Dialect.standard .ansi
    let sql := "\x7b\x7b\x7b%t.%\x7d\x7d\x7d [[[a.]]]"
    let resolved := "\x7b\"\x7bt\".\"\x7b\"\x7d [\"a\".\"\"]"
    ¬ ['{', '{'] <:+: "\x7b".toList ∧ ¬ ['[', '['] <:+: "\x7b".toList ∧
      d.quoteSql sql "\x7b" = resolved ∧ d.quoteSql resolved "\x7b" = resolved := by
  intro d sql resolved
  have hbrace : ¬ ['{', '{'] <:+: "\x7b".toList := by decide
  have hbracket : ¬ ['[', '['] <:+: "\x7b".toList := by decide
  have hresolved : d.quoteSql sql "\x7b" = resolved := by decide
  obtain ⟨-, hagain, -⟩ := resolved_again .ansi sql "\x7b" hbrace hbracket
  refine ⟨hbrace, hbracket, hresolved, ?_⟩
  rw [← hresolved]
  exact hagain

end Dialect

end SqlLoom
