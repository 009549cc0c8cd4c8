import Mathlib.Algebra.GroupWithZero.Nat
import SqlLoom.Proofs.Batch
import SqlLoom.Proofs.Settlement
import SqlLoom.Proofs.Template

/-!
# `SqlLoom.Proofs.Batch.Sent`: what of a batch reaches the engine

A batch insert is a template when it is executed: its tokens are resolved, and the colons of its
literals are escaped. `batchSlots` is the text around the literals, with a slot for each, and
`Literal.readSlots` reads the literals in the slots.

* `EscapedColons`: escaping only puts backslashes in, each directly before a colon.
* `Literal.readSlots_resolved_iff`: literals whose tokens are resolved read as what was written
  exactly when there are none. The first token gives way to a quoted name, which never starts as a
  token does.
* `batch_sent_iff`: the values of a batch read back from what is sent exactly when none of them has
  a token.
* `batch_not_always_sent` is such a value.
-/

set_option autoImplicit false

namespace SqlLoom

variable {σ : Type}

/-! ### Escaping colons -/

/-- The second text is the first one with a backslash before some colons that a word character
follows. -/
inductive EscapedColons : List Char → List Char → Prop where
  | nil : EscapedColons [] []
  | keep (c : Char) {s t : List Char} : EscapedColons s t → EscapedColons (c :: s) (c :: t)
  | escape {c : Char} {s t : List Char} (hc : Text.isWord c = true) :
    EscapedColons (c :: s) t → EscapedColons (':' :: c :: s) ('\\' :: ':' :: t)

namespace EscapedColons

theorem append {s t s' t' : List Char} (h : EscapedColons s t) (h' : EscapedColons s' t') :
    EscapedColons (s ++ s') (t ++ t') := by
  induction h with
  | nil => exact h'
  | keep c _ ih => exact .keep c ih
  | escape hc _ ih => exact .escape hc ih

theorem escapeBinds (s : List Char) : EscapedColons s (SqlLoom.escapeBinds s) := by
  fun_induction SqlLoom.escapeBinds s with
  | case1 => exact .nil
  | case2 c rest hword ih => exact .escape hword ih
  | case3 c rest hword ih => exact .keep ':' ih
  | case4 c rest hcolon ih => exact .keep c ih

/-- Only the colons of literals are escaped. -/
theorem escapeColonsFrom (backslash : Bool) (n : Nat) (s : List Char) :
    EscapedColons (s.drop n) (SqlLoom.escapeColonsFrom backslash n s) := by
  fun_induction SqlLoom.escapeColonsFrom backslash n s with
  | case1 n => simpa using nil
  | case2 n c rest ih => exact ih
  | case3 rest n hlength ih =>
      have hsplit : '\'' :: rest = '\'' :: rest.take n ++ rest.drop n := by
        rw [List.cons_append, List.take_append_drop]
      rw [List.drop_zero, hsplit]
      exact (escapeBinds _).append ih
  | case4 rest hlength ih => exact .keep '\'' ih
  | case5 c rest hquote ih => exact .keep c ih

end EscapedColons

/-! ### Literals with tokens -/

namespace Literal

variable {d : Dialect} {q : Char} {tablePrefix : List Char}

/-- A character that is written in another way than as itself belongs to no token. -/
theorem written_cases (backslash : Bool) (c : Char) :
    written backslash c = [c] ∨
      Dialect.isMarkup c = false ∧ written backslash c = [c, c] := by
  unfold written
  split
  · rename_i hquote
    subst hquote
    exact .inr ⟨by decide, rfl⟩
  · split
    · rename_i hescape
      obtain ⟨rfl, -⟩ := hescape
      exact .inr ⟨by decide, rfl⟩
    · exact .inl rfl

/-- A literal has the token at its front that the text has. -/
theorem tokenAt_literalBody (d : Dialect) (s : List Char) :
    Dialect.tokenAt (d.literalBody s) = Dialect.tokenAt s := by
  rw [literalBody_eq]
  -- Up to its first special character the text is written as it is.
  let plain := fun c => written d.backslashInLiterals c == [c]
  have hp : ∀ c ∈ s.takeWhile plain, written d.backslashInLiterals c = [c] := fun c hc =>
    beq_iff_eq.mp (List.all_eq_true.mp List.all_takeWhile c hc)
  rw [← List.takeWhile_append_dropWhile (p := plain) (l := s), List.flatMap_append,
    List.flatMap_congr hp, List.flatMap_singleton']
  cases hrest : s.dropWhile plain with
  | nil => rfl
  | cons c rest =>
      have hspecial : plain c = false := by
        have hhead := List.head?_dropWhile_not plain s
        rw [hrest] at hhead
        simpa using hhead
      rcases written_cases d.backslashInLiterals c with hc | ⟨hmarkup, hc⟩
      · exact absurd (beq_iff_eq.mpr hc) (by simpa [plain] using hspecial)
      · rw [List.flatMap_cons, hc, Dialect.tokenAt_append hmarkup]
        exact Dialect.tokenAt_append hmarkup _ _

/-- A character at which no token stands is written as before. -/
theorem quoteSqlFrom_written (c : Char) (s : List Char) (h : Dialect.tokenAt (c :: s) = none) :
    d.quoteSqlFrom tablePrefix 0 (d.literalBody (c :: s))
      = written d.backslashInLiterals c ++ d.quoteSqlFrom tablePrefix 0 (d.literalBody s) := by
  have hbody := tokenAt_literalBody d (c :: s)
  rw [h] at hbody
  have hcons : d.literalBody (c :: s)
      = written d.backslashInLiterals c ++ d.literalBody s := by
    rw [literalBody_eq, literalBody_eq, List.flatMap_cons]
  rw [hcons] at hbody ⊢
  rcases written_cases d.backslashInLiterals c with hc | ⟨hmarkup, hc⟩ <;> rw [hc] at hbody ⊢
  · exact Dialect.quoteSqlFrom_char tablePrefix hbody
  -- The character is written twice, and at neither place a token can start.
  · have hfirst := Dialect.tokenAt_append hmarkup [] (c :: d.literalBody s)
    have hsecond := Dialect.tokenAt_append hmarkup [] (d.literalBody s)
    show d.quoteSqlFrom tablePrefix 0 (c :: c :: d.literalBody s) = _
    rw [Dialect.quoteSqlFrom_char tablePrefix hfirst,
      Dialect.quoteSqlFrom_char tablePrefix hsecond]
    rfl

variable {v : String}

/-- Text without a token is left as it is. -/
theorem quoteSqlFrom_literalBody {s : List Char} (h : ¬ Dialect.HasToken s) :
    d.quoteSqlFrom tablePrefix 0 (d.literalBody s) = d.literalBody s := by
  induction s with
  | nil =>
      rw [literalBody_eq]
      rfl
  | cons c s ih =>
      rw [Dialect.hasToken_cons, not_or, Bool.not_eq_true, Option.isSome_eq_false_iff,
        Option.isNone_iff_eq_none] at h
      rw [quoteSqlFrom_written c s h.1, ih h.2, literalBody_eq, literalBody_eq, List.flatMap_cons]

/-- A literal with its tokens resolved. -/
def resolved (d : Dialect) (tablePrefix : List Char) (v : String) : String :=
  String.ofList ('\'' :: d.quoteSqlFrom tablePrefix 0 (d.literalBody v.toList) ++ ['\''])

theorem toList_resolved_append (v : String) (rest : List Char) :
    (resolved d tablePrefix v).toList ++ rest
      = '\'' :: (d.quoteSqlFrom tablePrefix 0 (d.literalBody v.toList) ++ '\'' :: rest) := by
  simp [resolved]

/-- Without a token a literal is read back. -/
theorem readText_of_not_hasToken {s rest : List Char} (h : ¬ Dialect.HasToken s)
    (hrest : rest.head? ≠ some '\'') :
    readText d.backslashInLiterals
        (d.quoteSqlFrom tablePrefix 0 (d.literalBody s) ++ '\'' :: rest) = some (s, rest) := by
  rw [quoteSqlFrom_literalBody h]
  exact readText_literalBody d s hrest

/-- With a token a literal is not read as what was written. Up to the first token nothing has
changed, and there a quote stands where the text has a bracket. -/
theorem readText_of_hasToken (hq : d.QuotesNames q) {s : List Char} (h : Dialect.HasToken s)
    (rest rest' : List Char) :
    readText d.backslashInLiterals
      (d.quoteSqlFrom tablePrefix 0 (d.literalBody s) ++ rest) ≠ some (s, rest') := by
  induction s with
  | nil => exact absurd h Dialect.not_hasToken_nil
  | cons c s ih =>
      intro hread
      cases hfound : Dialect.tokenAt (c :: s) with
      | none =>
          -- The character is read back, and the first token is further on.
          have htail : Dialect.HasToken s := by
            rw [Dialect.hasToken_cons, hfound] at h
            exact h.resolve_left (by simp)
          rw [quoteSqlFrom_written c s hfound, List.append_assoc, readText_written] at hread
          obtain ⟨s', hs', hread'⟩ := prepend_eq_some hread
          cases hs'
          exact ih htail hread'
      | some found =>
          obtain ⟨t, n⟩ := found
          obtain ⟨ht, -, after, htext⟩ := Dialect.tokenAt_eq_some
            ((tokenAt_literalBody d (c :: s)).trans hfound)
          obtain ⟨-, -, after', htext'⟩ := Dialect.tokenAt_eq_some hfound
          obtain ⟨more, hmore⟩ := Dialect.resolveToken_head hq ht tablePrefix
          have hplain : q ≠ '\'' ∧ q ≠ '\\' := by
            rcases hq.2 with rfl | rfl <;> decide
          rw [htext, Dialect.quoteSqlFrom_text ht, hmore, List.cons_append, List.cons_append,
            readText_plain hplain.1 (fun hc => absurd hc hplain.2)] at hread
          obtain ⟨s', hs', -⟩ := prepend_eq_some hread
          obtain rfl : c = q := (List.cons.inj hs').1
          -- The token starts with a bracket, and no bracket quotes names.
          have hmarkup : Dialect.isMarkup c = true :=
            Dialect.isMarkup_of_mem_text ht c (by
              cases t <;> (rw [Dialect.Token.text] at htext' ⊢; cases htext'; simp))
          rw [hq.isMarkup] at hmarkup
          cases hmarkup

/-! ### Literals in the slots of a text -/

/-- Reads the literals in the slots of a text. -/
def readSlots (backslash : Bool) : List (Option Char) → List Char → Option (List String)
  | [], [] => some []
  | some c :: ts, e :: s => if e = c then readSlots backslash ts s else none
  | none :: ts, '\'' :: s => do
    let (v, s) ← readText backslash s
    return String.ofList v :: (← readSlots backslash ts s)
  | _, _ => none

/-- What may follow what: a slot needs a character after it, and no quote. -/
def Apart : Option Char → Option Char → Prop
  | some _, _ => True
  | none, some c => c ≠ '\''
  | none, none => False

variable {ts : List (Option Char)}

/-- Behind a slot there is no quote. -/
theorem head?_spell_of_apart (hts : (none :: ts).IsChain Apart) (names : List String) :
    (Fragment.spell ts names).head? ≠ some '\'' := by
  cases ts with
  | nil => simp [Fragment.spell]
  | cons t ts =>
      have hapart := (List.isChain_cons_cons.mp hts).1
      cases t with
      | none => exact hapart.elim
      | some c => exact fun hquote => hapart (Option.some.inj hquote)

/-- A literal in its slot, with its tokens resolved, is read back exactly when it has no token. -/
theorem readSlots_slot_iff (hq : d.QuotesNames q) {v : String} {vs : List String}
    {rest : List Char} (hrest : rest.head? ≠ some '\'') :
    readSlots d.backslashInLiterals (none :: ts) ((resolved d tablePrefix v).toList ++ rest)
        = some (v :: vs)
      ↔ ¬ Dialect.HasToken v.toList ∧ readSlots d.backslashInLiterals ts rest = some vs := by
  rw [toList_resolved_append, readSlots]
  by_cases htoken : Dialect.HasToken v.toList
  · refine iff_of_false (fun hread => ?_) fun h => h.1 htoken
    obtain ⟨⟨w, s⟩, hw, hmore⟩ := Option.bind_eq_some_iff.mp hread
    obtain ⟨ws, -, hws⟩ := Option.bind_eq_some_iff.mp hmore
    obtain rfl : String.ofList w = v := (List.cons.inj (Option.some.inj hws)).1
    rw [String.toList_ofList] at hw htoken
    exact readText_of_hasToken hq htoken _ _ hw
  · rw [readText_of_not_hasToken htoken hrest]
    simp [htoken, Option.bind_eq_some_iff]

/-- Literals in the slots of a text, with their tokens resolved, are read back exactly when they
have no token. -/
theorem readSlots_resolved_iff (hq : d.QuotesNames q) (hts : ts.IsChain Apart) {vs : List String}
    (hvs : vs.length = ts.count none) :
    readSlots d.backslashInLiterals ts (Fragment.spell ts (vs.map (resolved d tablePrefix)))
        = some vs
      ↔ ∀ v ∈ vs, ¬ Dialect.HasToken v.toList := by
  induction ts generalizing vs with
  | nil =>
      obtain rfl := List.eq_nil_of_length_eq_zero hvs
      simp [readSlots, Fragment.spell]
  | cons t ts ih =>
      have htail : ts.IsChain Apart := hts.tail
      cases t with
      | some c =>
          have hcount : vs.length = ts.count none := by simpa using hvs
          rw [Fragment.spell, readSlots, if_pos rfl]
          exact ih htail hcount
      | none =>
          cases vs with
          | nil => simp at hvs
          | cons v vs =>
              have hcount : vs.length = ts.count none := by simpa using hvs
              rw [List.map_cons, Fragment.spell,
                readSlots_slot_iff hq (head?_spell_of_apart hts _), ih htail hcount,
                List.forall_mem_cons]

/-- Resolving a template resolves each literal by itself where no bracket stands around them. -/
theorem quoteSqlFrom_spell (hts : ∀ c, some c ∈ ts → c ≠ '{' ∧ c ≠ '[') (vs : List String) :
    d.quoteSqlFrom tablePrefix 0 (Fragment.spell ts (vs.map d.quoteText))
      = Fragment.spell ts (vs.map (resolved d tablePrefix)) := by
  induction ts generalizing vs with
  | nil => rfl
  | cons t ts ih =>
      have ih := ih fun c hc => hts c (List.mem_cons_of_mem _ hc)
      cases t with
      | some c =>
          obtain ⟨hbrace, hbracket⟩ := hts c List.mem_cons_self
          rw [Fragment.spell, Fragment.spell,
            Dialect.quoteSqlFrom_char tablePrefix (Dialect.tokenAt_of_head hbrace hbracket _), ih]
      | none =>
          cases vs with
          | nil => exact ih []
          | cons v vs =>
              have hopen (rest : List Char) : Dialect.tokenAt ('\'' :: rest) = none :=
                Dialect.tokenAt_of_head (by decide) (by decide) rest
              rw [List.map_cons, Fragment.spell, toList_quoteText_append,
                Dialect.quoteSqlFrom_char _ (hopen _), Dialect.quoteSqlFrom_append (by decide), ih,
                List.map_cons, Fragment.spell, toList_resolved_append]

end Literal

/-! ### The slots of a batch -/

/-- The slots of the values of a row, with commas between them. -/
def memberSlots : Nat → List (Option Char)
  | 0 => []
  | 1 => [none]
  | n + 2 => none :: some ',' :: some ' ' :: memberSlots (n + 1)

/-- A row with a slot for each value. -/
def rowSlots (n : Nat) : List (Option Char) := some '(' :: (memberSlots n ++ [some ')'])

/-- Texts with rows between them, which have so many values each. -/
def batchSlots : List String → List Nat → List (Option Char)
  | [], _ => []
  | [t], _ => t.toList.map some
  | t :: ts, n :: ns => t.toList.map some ++ rowSlots n ++ batchSlots ts ns
  | t :: ts, [] => t.toList.map some ++ batchSlots ts []

theorem spell_memberSlots (vs more : List String) (ts : List (Option Char)) :
    Fragment.spell (memberSlots vs.length ++ ts) (vs ++ more)
      = (commaJoined vs).toList ++ Fragment.spell ts more := by
  induction vs with
  | nil => rfl
  | cons v vs ih =>
      cases vs with
      | nil =>
          show v.toList ++ Fragment.spell ts more = _
          rw [commaJoined, String.intercalate_singleton]
      | cons w ws =>
          show v.toList ++ ',' :: ' ' ::
            Fragment.spell (memberSlots (w :: ws).length ++ ts) ((w :: ws) ++ more) = _
          rw [ih]
          simp [commaJoined, String.intercalate_cons_cons]

/-- Rows between texts are their values in the slots. -/
theorem spell_batchSlots (texts : List String) (rows : List (List String)) :
    Fragment.spell (batchSlots texts (rows.map List.length)) rows.flatten
      = (Fragment.weave texts (rows.map fun row => "(" ++ commaJoined row ++ ")")).toList := by
  induction texts generalizing rows with
  | nil => rfl
  | cons t ts ih =>
      have htext (names : List String) : Fragment.spell (t.toList.map some) names = t.toList := by
        rw [← List.append_nil (t.toList.map some), Fragment.spell_chars]
        exact List.append_nil _
      cases ts with
      | nil => exact htext _
      | cons u us =>
          cases rows with
          | nil =>
              show Fragment.spell (t.toList.map some ++ batchSlots (u :: us) []) []
                = (t ++ Fragment.weave (u :: us) []).toList
              rw [Fragment.spell_chars, String.toList_append]
              exact congrArg (t.toList ++ ·) (ih [])
          | cons row rows =>
              have hslots : batchSlots (t :: u :: us) ((row :: rows).map List.length)
                  = t.toList.map some ++ (some '(' :: (memberSlots row.length ++
                    some ')' :: batchSlots (u :: us) (rows.map List.length))) := by
                simp [batchSlots, rowSlots]
              rw [hslots, Fragment.spell_chars, Fragment.spell, List.flatten_cons,
                spell_memberSlots, Fragment.spell, ih, List.map_cons, Fragment.weave]
              · simp
              · exact List.cons_ne_nil _ _

theorem count_memberSlots (n : Nat) : (memberSlots n).count none = n := by
  fun_induction memberSlots n with
  | case1 => rfl
  | case2 => rfl
  | case3 n ih => simp [ih]

/-- There is a slot for each value. -/
theorem count_batchSlots {texts : List String} {ns : List Nat} (h : texts.length = ns.length + 1) :
    (batchSlots texts ns).count none = ns.sum := by
  have hchars (t : String) : (t.toList.map some).count none = 0 := by
    simp [List.count_eq_zero]
  induction ns generalizing texts with
  | nil =>
      obtain ⟨t, rfl⟩ := List.length_eq_one_iff.mp h
      exact hchars t
  | cons n ns ih =>
      match texts, h with
      | t :: u :: us, h =>
          have hrest : (u :: us).length = ns.length + 1 := by simpa using h
          rw [batchSlots, List.count_append, List.count_append, hchars, ih hrest, rowSlots,
            List.count_cons, List.count_append, count_memberSlots]
          · simp
          · exact List.cons_ne_nil _ _

/-- Characters may stand in front of anything. -/
theorem isChain_chars (cs : List Char) {ts : List (Option Char)} (h : ts.IsChain Literal.Apart) :
    (cs.map some ++ ts).IsChain Literal.Apart := by
  induction cs with
  | nil => exact h
  | cons c cs ih => exact List.isChain_cons.mpr ⟨fun _ _ => trivial, ih⟩

theorem isChain_memberSlots (n : Nat) {ts : List (Option Char)} (h : ts.IsChain Literal.Apart) :
    (memberSlots n ++ some ')' :: ts).IsChain Literal.Apart := by
  have hclose : (some ')' :: ts).IsChain Literal.Apart := isChain_chars [')'] h
  fun_induction memberSlots n with
  | case1 => exact hclose
  | case2 => exact List.isChain_cons_cons.mpr ⟨(by decide : ')' ≠ '\''), hclose⟩
  | case3 n ih =>
      exact List.isChain_cons_cons.mpr
        ⟨(by decide : ',' ≠ '\''), isChain_chars [',', ' '] ih⟩

theorem isChain_batchSlots (texts : List String) (ns : List Nat) :
    (batchSlots texts ns).IsChain Literal.Apart := by
  fun_induction batchSlots texts ns with
  | case1 => exact .nil
  | case2 t => simpa using isChain_chars t.toList .nil
  | case3 t ts n ns hts ih =>
      rw [List.append_assoc]
      refine isChain_chars t.toList ?_
      have hrow : rowSlots n ++ batchSlots ts ns
          = ['('].map some ++ (memberSlots n ++ some ')' :: batchSlots ts ns) := by
        simp [rowSlots]
      rw [hrow]
      exact isChain_chars ['('] (isChain_memberSlots n ih)
  | case4 t ts hts ih => exact isChain_chars t.toList ih

theorem mem_memberSlots {n : Nat} {c : Char} (h : some c ∈ memberSlots n) : c ∈ [',', ' '] := by
  fun_induction memberSlots n with
  | case1 => cases h
  | case2 => simp at h
  | case3 n ih =>
      simp only [List.mem_cons, reduceCtorEq, Option.some.injEq, false_or] at h
      rcases h with rfl | rfl | h
      · decide
      · decide
      · exact ih h

theorem mem_rowSlots {n : Nat} {c : Char} (h : some c ∈ rowSlots n) : c ∈ ['(', ')', ',', ' '] := by
  simp only [rowSlots, List.mem_cons, List.mem_append, Option.some.injEq, List.not_mem_nil,
    or_false] at h
  rcases h with rfl | h | rfl
  · decide
  · exact List.mem_cons_of_mem _ (List.mem_cons_of_mem _ (mem_memberSlots h))
  · decide

/-- The characters around the slots are those of the texts and of the rows. -/
theorem mem_batchSlots {texts : List String} {ns : List Nat} {c : Char}
    (h : some c ∈ batchSlots texts ns) :
    (∃ t ∈ texts, c ∈ t.toList) ∨ c ∈ ['(', ')', ',', ' '] := by
  have hchars {t : String} (h : some c ∈ t.toList.map some) : c ∈ t.toList := by simpa using h
  -- What is found in the rest of the texts is found in all of them.
  have hrest {t : String} {ts : List String}
      (h : (∃ u ∈ ts, c ∈ u.toList) ∨ c ∈ ['(', ')', ',', ' ']) :
      (∃ u ∈ t :: ts, c ∈ u.toList) ∨ c ∈ ['(', ')', ',', ' '] :=
    h.imp_left fun ⟨u, hu, hc⟩ => ⟨u, List.mem_cons_of_mem _ hu, hc⟩
  fun_induction batchSlots texts ns with
  | case1 => cases h
  | case2 t => exact .inl ⟨t, List.mem_cons_self, hchars h⟩
  | case3 t ts n ns hts ih =>
      rcases List.mem_append.mp h with h | h
      · rcases List.mem_append.mp h with h | h
        · exact .inl ⟨t, List.mem_cons_self, hchars h⟩
        · exact .inr (mem_rowSlots h)
      · exact hrest (ih h)
  | case4 t ts hts ih =>
      rcases List.mem_append.mp h with h | h
      · exact .inl ⟨t, List.mem_cons_self, hchars h⟩
      · exact hrest (ih h)

/-! ### The text around the rows -/

/-- No token starts in the text. -/
def Bracketless (s : String) : Prop := ∀ c ∈ s.toList, c ≠ '{' ∧ c ≠ '['

instance (s : String) : Decidable (Bracketless s) :=
  decidable_of_iff (s.toList.all (fun c => c != '{' && c != '[') = true) (by simp [Bracketless])

namespace Bracketless

theorem append {s t : String} (hs : Bracketless s) (ht : Bracketless t) : Bracketless (s ++ t) := by
  intro c hc
  rw [String.toList_append] at hc
  exact (List.mem_append.mp hc).elim (hs c) (ht c)

theorem commaJoined {parts : List String} (h : ∀ s ∈ parts, Bracketless s) :
    Bracketless (commaJoined parts) := by
  have hcomma : Bracketless ", " := by decide
  induction parts with
  | nil => exact (by decide : Bracketless "")
  | cons s parts ih =>
      obtain ⟨hs, hparts⟩ := List.forall_mem_cons.mp h
      cases parts with
      | nil => exact hs
      | cons t parts =>
          rw [SqlLoom.commaJoined, String.intercalate_cons_cons]
          exact (hs.append hcomma).append (ih hparts)

/-- A name of word characters in quotes. -/
theorem quoted {d : Dialect} {q : Char} (hq : d.QuotesNames q) {name : List Char}
    (hname : ∀ c ∈ name, Text.isWord c = true) :
    Bracketless (String.ofList (d.quoteSimpleTableChars name)) := by
  have hword : ∀ c ∈ name, c ≠ '{' ∧ c ≠ '[' := by
    refine fun c hc => ⟨?_, ?_⟩ <;>
      (rintro rfl; exact absurd (hname _ hc) (by decide))
  have hquote : q ≠ '{' ∧ q ≠ '[' := by
    rcases hq.2 with rfl | rfl <;> decide
  intro c hc
  rw [String.toList_ofList, Dialect.quoteSimpleTableChars] at hc
  split at hc
  · exact hword c hc
  · rw [Dialect.enclose, hq.1] at hc
    simp only [List.mem_append, List.mem_singleton] at hc
    rcases hc with (rfl | hc) | rfl
    · exact hquote
    · exact hword c hc
    · exact hquote

/-- The text around the rows of a batch. -/
theorem batchFrame {d : Dialect} {q : Char} (hq : d.QuotesNames q) {table : String}
    {columns : List String} (htable : ∀ c ∈ table.toList, Text.isWord c = true)
    (hcolumns : ∀ name ∈ columns, ∀ c ∈ name.toList, Text.isWord c = true) (n : Nat) :
    ∀ t ∈ batchFrame d table columns n, Bracketless t := by
  have htarget : Bracketless ("INTO " ++ d.quoteTable table ++ " ("
      ++ SqlLoom.commaJoined (columns.map d.quoteColumn) ++ ")" ++ " VALUES ") := by
    have hname : Bracketless (d.quoteTable table) := by
      rw [Dialect.quoteTable, Dialect.quoteTableChars_of_isWord htable]
      exact quoted hq htable
    have hnames : Bracketless (SqlLoom.commaJoined (columns.map d.quoteColumn)) := by
      refine commaJoined (List.forall_mem_map.mpr fun name hmem => ?_)
      rw [Dialect.quoteColumn, Dialect.quoteColumnChars_of_isWord (hcolumns name hmem)]
      exact quoted hq (hcolumns name hmem)
    have hinto : Bracketless "INTO " := by decide
    have hopen : Bracketless " (" := by decide
    have hclose : Bracketless ")" := by decide
    have hvalues : Bracketless " VALUES " := by decide
    exact ((((hinto.append hname).append hopen).append hnames).append hclose).append hvalues
  cases n with
  | zero => simpa [SqlLoom.batchFrame] using (by decide : Bracketless "")
  | succ n =>
      rw [SqlLoom.batchFrame]
      split
      · simp only [List.cons_append, List.forall_mem_cons, List.forall_mem_append]
        refine ⟨(by decide : Bracketless "INSERT ALL ").append htarget, fun t ht => ?_,
          by decide, List.forall_mem_nil _⟩
        rw [List.eq_of_mem_replicate ht]
        exact (by decide : Bracketless " ").append htarget
      · simp only [List.cons_append, List.forall_mem_cons, List.forall_mem_append]
        refine ⟨(by decide : Bracketless "INSERT ").append htarget, fun t ht => ?_,
          by decide, List.forall_mem_nil _⟩
        rw [List.eq_of_mem_replicate ht]
        decide

end Bracketless

/-! ### What is sent of a batch -/

/-- The compiler of a connection, with some metadata. -/
def Connection.compilerWith (c : Connection σ) (schema? : Option Schema) : Compiler :=
  ⟨c.dialect, schema?, c.mark⟩

/-- Rows of texts as a value. -/
def Value.ofRows (rows : List (List String)) : Value :=
  .list (rows.map fun row => .list (row.map .text))

/-- A row of texts that the columns leave alone is written as its literals. -/
theorem batchRow_texts (c : Compiler) (table : String) (columns row : List String)
    (hcast : castRow (c.table? table) columns 0 (row.map .text) = row.map .text) :
    batchRow c table columns (row.map .text)
      = "(" ++ commaJoined (row.map c.dialect.quoteText) ++ ")" := by
  rw [batchRow, batchValues_eq, hcast, List.map_map]
  rfl

/-- The text of a batch of texts, with the literals in their slots. -/
theorem batchInsert_texts (c : Compiler) (table : String) (columns : List String)
    (rows : List (List String))
    (hcast : ∀ row ∈ rows,
      castRow (c.table? table) columns 0 (row.map .text) = row.map .text) :
    ∃ sql, c.batchInsert table columns (.ofRows rows) = .ok ⟨sql, [], c.dialect.name⟩ ∧
      sql.toList = Fragment.spell
        (batchSlots (batchFrame c.dialect table columns rows.length) (rows.map List.length))
        (rows.flatten.map c.dialect.quoteText) := by
  have hrows : (do (← (Value.ofRows rows).goThrough).mapM Value.goThrough)
      = .ok (rows.map fun row => row.map Value.text) := by
    show (rows.map fun row => Value.list (row.map .text)).mapM Value.goThrough = _
    rw [List.mapM_map]
    exact List.mapM_pure
  refine ⟨_, batchInsert_ok c table columns hrows, ?_⟩
  have htexts : (rows.map fun row => row.map Value.text).map (batchRow c table columns)
      = (rows.map fun row => row.map c.dialect.quoteText).map
        fun row => "(" ++ commaJoined row ++ ")" := by
    rw [List.map_map, List.map_map]
    exact List.map_congr_left fun row hrow => batchRow_texts c table columns row (hcast row hrow)
  have hlengths : (rows.map fun row => row.map c.dialect.quoteText).map List.length
      = rows.map List.length := by
    rw [List.map_map]
    exact List.map_congr_left fun row _ => List.length_map _
  have hspell := spell_batchSlots (batchFrame c.dialect table columns rows.length)
    (rows.map fun row => row.map c.dialect.quoteText)
  rw [hlengths, ← List.map_flatten] at hspell
  rw [htexts, List.length_map, hspell]

theorem length_batchFrame (d : Dialect) (table : String) (columns : List String) (n : Nat) :
    (batchFrame d table columns n).length = n + 1 := by
  cases n with
  | zero => rfl
  | succ n =>
      rw [batchFrame]
      split <;> simp

/-- A batch of texts is compiled, and what is sent of it is the compiled text with its tokens
resolved, and with backslashes before colons. Without those backslashes each of its literals, in
its slot, reads as the text of its row, exactly when no text has a token. -/
theorem batch_sent_iff (b : Backend) (c : Connection σ) (hd : c.dialect = .standard b)
    (schema? : Option Schema) (table : String) (columns : List String) (rows : List (List String))
    (htable : ∀ e ∈ table.toList, Text.isWord e = true)
    (hcolumns : ∀ name ∈ columns, ∀ e ∈ name.toList, Text.isWord e = true)
    (hcast : ∀ row ∈ rows, castRow ((c.compilerWith schema?).table? table) columns 0
      (row.map .text) = row.map .text)
    (s : Connection.State σ) (hopen : s.isOpen = true) :
    ∃ compiled sent,
      (c.compilerWith schema?).batchInsert table columns (.ofRows rows) = .ok compiled ∧
      c.submitted? s compiled.sql compiled.params = some (sent, []) ∧
      EscapedColons (c.quoteSql compiled.sql).toList sent.toList ∧
      (Literal.readSlots c.dialect.backslashInLiterals
          (batchSlots (batchFrame c.dialect table columns rows.length) (rows.map List.length))
          (c.quoteSql compiled.sql).toList = some rows.flatten
        ↔ ∀ row ∈ rows, ∀ v ∈ row, ¬ Dialect.HasToken v.toList) := by
  obtain ⟨q, hq⟩ := Dialect.standard_quotesNames b
  rw [← hd] at hq
  obtain ⟨sql, hcompiled, hsql⟩ :=
    batchInsert_texts (c.compilerWith schema?) table columns rows hcast
  refine ⟨_, _, hcompiled, if_pos ⟨hopen, nofun⟩, ?_, ?_⟩
  · have hescaped := EscapedColons.escapeColonsFrom c.dialect.backslashInLiterals 0
      (c.quoteSql sql).toList
    rw [List.drop_zero] at hescaped
    simpa [escapeColons] using hescaped
  -- No bracket stands around the slots, so each literal is resolved by itself.
  · have hrow : Bracketless "(), " := by decide
    have hplain : ∀ e, some e ∈ batchSlots (batchFrame c.dialect table columns rows.length)
        (rows.map List.length) → e ≠ '{' ∧ e ≠ '[' := by
      intro e he
      rcases mem_batchSlots he with ⟨t, ht, hmem⟩ | hmem
      · exact Bracketless.batchFrame hq htable hcolumns rows.length t ht e hmem
      · exact hrow e hmem
    have hquoted : (c.quoteSql sql).toList = Fragment.spell
        (batchSlots (batchFrame c.dialect table columns rows.length) (rows.map List.length))
        (rows.flatten.map (Literal.resolved c.dialect c.tablePrefix.toList)) := by
      rw [Connection.quoteSql, Dialect.quoteSql, String.toList_ofList, hsql]
      exact Literal.quoteSqlFrom_spell hplain rows.flatten
    have hcount : rows.flatten.length = (batchSlots (batchFrame c.dialect table columns rows.length)
        (rows.map List.length)).count none := by
      rw [count_batchSlots (by simp [length_batchFrame]), List.length_flatten]
    dsimp only
    rw [hquoted, Literal.readSlots_resolved_iff hq (isChain_batchSlots _ _) hcount]
    simp only [List.mem_flatten]
    constructor
    · exact fun h row hrow v hv => h v ⟨row, hrow, hv⟩
    · rintro h v ⟨row, hrow, hv⟩
      exact h row hrow v hv

/-- A text that looks like a table token gives way to a quoted name, inside its literal. -/
theorem batch_not_always_sent :
    let c : Connection ScriptedEngine := ⟨ScriptedEngine.engine, .standard .ansi, "", ":qp", true⟩
    let sql := "INSERT INTO \"t\" (\"a\") VALUES ('\x7b\x7ba\x7d\x7d')"
    let sent := "INSERT INTO \"t\" (\"a\") VALUES ('\"a\"')"
    (c.compilerWith none).batchInsert "t" ["a"] (.ofRows [["\x7b\x7ba\x7d\x7d"]])
        = .ok ⟨sql, [], "ansi"⟩ ∧
      c.submitted? ⟨true, false, none, {}⟩ sql [] = some (sent, []) ∧
      c.quoteSql sql = sent ∧
      Literal.readSlots false (batchSlots (batchFrame c.dialect "t" ["a"] 1) [1]) sent.toList
        = some ["\"a\""] :=
  ⟨rfl, rfl, rfl, rfl⟩

/-- Quotes, a backslash and a colon before a name, in rows of different lengths. -/
theorem batch_sent_iff_quotes :
    let c : Connection ScriptedEngine :=
      ⟨ScriptedEngine.engine, .standard .mysql, "app_", ":qp", true⟩
    let rows := [["it's \\", "at :noon"], ["x"]]
    ∃ compiled sent,
      (c.compilerWith none).batchInsert "t" ["a", "b"] (.ofRows rows) = .ok compiled ∧
      c.submitted? ⟨true, false, none, {}⟩ compiled.sql compiled.params = some (sent, []) ∧
      EscapedColons (c.quoteSql compiled.sql).toList sent.toList ∧
      Literal.readSlots true (batchSlots (batchFrame c.dialect "t" ["a", "b"] 2) [2, 1])
        (c.quoteSql compiled.sql).toList = some ["it's \\", "at :noon", "x"] := by
  intro c rows
  have hcast : ∀ row ∈ rows, castRow ((c.compilerWith none).table? "t") ["a", "b"] 0
      (row.map .text) = row.map .text := by
    simp only [rows, List.forall_mem_cons]
    exact ⟨rfl, rfl, nofun⟩
  have hword (name : String) (h : name.toList.all Text.isWord = true) :
      ∀ e ∈ name.toList, Text.isWord e = true := List.all_eq_true.mp h
  have hcolumns : ∀ name ∈ ["a", "b"], ∀ e ∈ name.toList, Text.isWord e = true := by
    simp only [List.forall_mem_cons]
    exact ⟨hword "a" rfl, hword "b" rfl, nofun⟩
  obtain ⟨compiled, sent, hcompiled, hsent, hescaped, hread⟩ :=
    batch_sent_iff .mysql c rfl none "t" ["a", "b"] rows (hword "t" rfl) hcolumns hcast
      ⟨true, false, none, {}⟩ rfl
  exact ⟨compiled, sent, hcompiled, hsent, hescaped, hread.mpr (by decide)⟩

end SqlLoom
