import SqlLoom.Connection.Literal
import SqlLoom.Proofs.Literal
import SqlLoom.Rehearsal.Engine

/-!
# `SqlLoom.Proofs.Literal.Colons`: escaping reaches the colons of literals, and no others

A statement is text without single quotes, with literals in it (`Dialect.withLiterals`). To escape
its colons is to put a backslash in front of some of its characters; `shielded` says of which, where
all of a text is to be escaped, and `unshielded` puts nothing anywhere.

* `literalLength_of_readText`: escaping sees the end of a literal where a database sees it.
* `quoteTextChars_append`: two literals without text between them are one literal, so every text in
  front of which a literal has to end does not start with a quote.
* `escapeColonsFrom_literals`: so each literal is escaped by itself and the texts are left alone.
* `Engine.ReadsNames`: what an engine is known to do when it reads names off a text. It binds none
  inside a literal whose colons are shielded (`Engine.ReadsNames.boundNames_shielded`).
* `literal_colons_shielded`: what is escaped of a statement, and which names it binds then, for
  every such engine. `ScriptedEngine.readsNames`: the engine of a script is one.
-/

set_option autoImplicit false

namespace SqlLoom

variable {backslash : Bool} {c : Char} {s t rest : List Char}

/-! ### Shielded colons -/

/-- What is put in front of a character: a backslash if it is a colon and a word character follows
it. -/
def shield (c : Char) (rest : List Char) : List Char :=
  if c = ':' ∧ rest.head?.any Text.isWord = true then ['\\'] else []

/-- The characters of a text, each with its shield in front of it. -/
def shielded : List Char → List (List Char × Char)
  | [] => []
  | c :: rest => (shield c rest, c) :: shielded rest

/-- The characters of a text, with nothing in front of them. -/
def unshielded (s : List Char) : List (List Char × Char) := s.map fun c => ([], c)

/-- The text of characters and of what is put in front of them. -/
def fullText (cs : List (List Char × Char)) : List Char := cs.flatMap fun e => e.1 ++ [e.2]

theorem fullText_append (cs ds : List (List Char × Char)) :
    fullText (cs ++ ds) = fullText cs ++ fullText ds :=
  List.flatMap_append

theorem fullText_shielded_cons (c : Char) (s : List Char) :
    fullText (shielded (c :: s)) = shield c s ++ c :: fullText (shielded s) := by
  rw [shielded, fullText, List.flatMap_cons, List.append_assoc]
  rfl

theorem fullText_unshielded (s : List Char) : fullText (unshielded s) = s := by
  rw [fullText, unshielded, List.flatMap_map]
  exact List.flatMap_singleton' s

theorem map_snd_shielded (s : List Char) : (shielded s).map Prod.snd = s := by
  induction s with
  | nil => rfl
  | cons c s ih => rw [shielded, List.map_cons, ih]

theorem map_snd_unshielded (s : List Char) : (unshielded s).map Prod.snd = s := by
  rw [unshielded, List.map_map]
  exact List.map_id s

/-- A text that starts with no word character shields nothing in front of it. -/
theorem shielded_append (ht : t.head?.any Text.isWord = false) :
    shielded (s ++ t) = shielded s ++ shielded t := by
  induction s with
  | nil => rfl
  | cons c s ih =>
      have hshield : shield c (s ++ t) = shield c s := by
        cases s with
        | nil => simp [shield, ht]
        | cons e s => rfl
      rw [List.cons_append, shielded, ih, hshield]
      rfl

theorem escapeBinds_cons (c : Char) (rest : List Char) :
    escapeBinds (c :: rest) = shield c rest ++ c :: escapeBinds rest := by
  cases rest with
  | nil => simp [escapeBinds, shield]
  | cons e rest =>
      by_cases hc : c = ':'
      · subst hc
        by_cases he : Text.isWord e = true <;> simp [escapeBinds, shield, he]
      · simp [escapeBinds, shield, hc]

/-- To escape the colons of a text is to put the shields into it. -/
theorem escapeBinds_eq (s : List Char) : escapeBinds s = fullText (shielded s) := by
  induction s with
  | nil => rfl
  | cons c s ih => rw [escapeBinds_cons, fullText_shielded_cons, ih]

/-! ### Where literals end -/

theorem literalLength_doubled (n : Nat) (fallback : Option Nat) (rest : List Char) :
    literalLength backslash n fallback ('\'' :: '\'' :: rest)
      = literalLength backslash (n + 2) (some (n + 1)) rest := by
  rw [literalLength]

theorem literalLength_end (n : Nat) (fallback : Option Nat) (h : rest.head? ≠ some '\'') :
    literalLength backslash n fallback ('\'' :: rest) = some (n + 1) := by
  cases rest with
  | nil => rfl
  | cons c rest =>
      rw [literalLength]
      rintro rest' ⟨rfl, -⟩
      exact h rfl

theorem literalLength_escaped (n : Nat) (fallback : Option Nat) (c : Char) (rest : List Char) :
    literalLength true n fallback ('\\' :: c :: rest)
      = literalLength true (n + 2) fallback rest := by
  rw [literalLength, if_pos rfl]

theorem literalLength_plain (n : Nat) (fallback : Option Nat) (hquote : c ≠ '\'')
    (hbackslash : c = '\\' → backslash = false) :
    literalLength backslash n fallback (c :: rest)
      = literalLength backslash (n + 1) fallback rest := by
  rw [literalLength.eq_def]
  split
  all_goals simp_all

/-- A literal that can be read has the length at which the reader stops. -/
theorem literalLength_of_readText {text : List Char}
    (h : Literal.readText backslash s = some (text, rest)) (n : Nat) (fallback : Option Nat) :
    ∃ inside, s = inside ++ '\'' :: rest ∧
      literalLength backslash n fallback s = some (n + inside.length + 1) := by
  -- Each step of the reader is one of the scanner. The characters read so far and the end to fall
  -- back on change on the way, but a literal that is read does not fall back.
  fun_induction Literal.readText backslash s generalizing text n fallback with
  | case1 => cases h
  | case2 rest' ih =>
      obtain ⟨_, -, hread⟩ := Literal.prepend_eq_some h
      obtain ⟨inside, rfl, hlength⟩ := ih hread (n + 2) (some (n + 1))
      refine ⟨'\'' :: '\'' :: inside, rfl, ?_⟩
      rw [literalLength_doubled, hlength, List.length_cons, List.length_cons]
      exact congrArg some (by omega)
  | case3 rest' hsingle =>
      cases h
      refine ⟨[], rfl, literalLength_end n fallback fun hquote => ?_⟩
      obtain ⟨more, rfl⟩ := List.head?_eq_some_iff.mp hquote
      exact hsingle more rfl
  | case4 c rest' hbackslash ih =>
      obtain ⟨_, -, hread⟩ := Literal.prepend_eq_some h
      obtain ⟨inside, rfl, hlength⟩ := ih hread (n + 2) fallback
      refine ⟨'\\' :: c :: inside, rfl, ?_⟩
      rw [hbackslash] at hlength ⊢
      rw [literalLength_escaped, hlength, List.length_cons, List.length_cons]
      exact congrArg some (by omega)
  | case5 c rest' hbackslash ih =>
      obtain ⟨_, -, hread⟩ := Literal.prepend_eq_some h
      obtain ⟨inside, hinside, hlength⟩ := ih hread (n + 1) fallback
      refine ⟨'\\' :: inside, by rw [hinside]; rfl, ?_⟩
      rw [literalLength_plain n fallback (by decide) fun _ => Bool.eq_false_iff.mpr hbackslash,
        hlength, List.length_cons]
      exact congrArg some (by omega)
  | case6 c rest' hdoubled hquote hescaped ih =>
      obtain ⟨_, -, hread⟩ := Literal.prepend_eq_some h
      obtain ⟨inside, rfl, hlength⟩ := ih hread (n + 1) fallback
      -- Behind a backslash there is nothing, and nothing is not read.
      have hplain : c ≠ '\\' := fun hc => by
        cases inside with
        | nil => exact hescaped _ _ hc rfl
        | cons e inside => exact hescaped _ _ hc rfl
      refine ⟨c :: inside, rfl, ?_⟩
      rw [literalLength_plain n fallback hquote fun hc => absurd hc hplain, hlength,
        List.length_cons]
      exact congrArg some (by omega)

/-! ### Literals in a statement -/

/-- Two literals side by side are one. -/
theorem quoteTextChars_append (d : Dialect) (s t : List Char) :
    d.quoteTextChars s ++ d.quoteTextChars t = d.quoteTextChars (s ++ '\'' :: t) := by
  have hquote : Literal.written d.backslashInLiterals '\'' = ['\'', '\''] := rfl
  simp only [Dialect.quoteTextChars, Literal.literalBody_eq, List.flatMap_append,
    List.flatMap_cons, hquote]
  simp

/-- The characters of a literal already written are passed over. -/
theorem escapeColonsFrom_eq_drop (backslash : Bool) (n : Nat) (s : List Char) :
    escapeColonsFrom backslash n s = escapeColonsFrom backslash 0 (s.drop n) := by
  induction s generalizing n with
  | nil => cases n <;> simp [escapeColonsFrom]
  | cons c s ih =>
      cases n with
      | zero => rfl
      | succ n => rw [escapeColonsFrom, ih, List.drop_succ_cons]

/-- Text without a quote is left as it is. -/
theorem escapeColonsFrom_text (ht : '\'' ∉ t) (rest : List Char) :
    escapeColonsFrom backslash 0 (t ++ rest) = t ++ escapeColonsFrom backslash 0 rest := by
  induction t with
  | nil => rfl
  | cons c t ih =>
      obtain ⟨hc, ht⟩ := not_or.mp (mt List.mem_cons.mpr ht)
      rw [List.cons_append, escapeColonsFrom, if_neg (Ne.symm hc), ih ht]
      rfl

/-- A literal that no quote follows has its colons shielded. -/
theorem escapeColonsFrom_literal (d : Dialect) (s : List Char) (h : rest.head? ≠ some '\'') :
    escapeColonsFrom d.backslashInLiterals 0 (d.quoteTextChars s ++ rest)
      = fullText (shielded (d.quoteTextChars s))
        ++ escapeColonsFrom d.backslashInLiterals 0 rest := by
  obtain ⟨inside, hinside, hlength⟩ :=
    literalLength_of_readText (Literal.readText_literalBody d s h) 0 none
  obtain rfl : d.literalBody s = inside := List.append_cancel_right hinside
  have htext : d.quoteTextChars s ++ rest = '\'' :: (d.literalBody s ++ '\'' :: rest) := by
    simp [Dialect.quoteTextChars]
  have hsplit : d.literalBody s ++ '\'' :: rest = (d.literalBody s ++ ['\'']) ++ rest := by simp
  have hcount : 0 + (d.literalBody s).length + 1 = (d.literalBody s ++ ['\'']).length := by simp
  rw [htext, escapeColonsFrom, if_pos rfl, hlength]
  show escapeBinds ('\'' :: List.take _ _) ++ escapeColonsFrom _ _ _ = _
  rw [escapeColonsFrom_eq_drop, hcount, hsplit, List.take_left, List.drop_left, escapeBinds_eq]
  rfl

/-- A statement: text, and then literals with text behind each. -/
def Dialect.withLiterals (d : Dialect) (first : String) (rest : List (String × String)) : String :=
  first ++ String.join (rest.map fun p => d.quoteText p.1 ++ p.2)

/-- The characters of literals with text behind each. -/
def Dialect.literalChars (d : Dialect) (parts : List (String × String)) : List Char :=
  parts.flatMap fun p => d.quoteTextChars p.1.toList ++ p.2.toList

/-- The same characters, with the colons of literals shielded. -/
def Dialect.shieldedLiterals (d : Dialect) (parts : List (String × String)) :
    List (List Char × Char) :=
  parts.flatMap fun p => shielded (d.quoteTextChars p.1.toList) ++ unshielded p.2.toList

theorem toList_withLiterals (d : Dialect) (first : String) (parts : List (String × String)) :
    (d.withLiterals first parts).toList = first.toList ++ d.literalChars parts := by
  rw [Dialect.withLiterals, String.toList_append]
  refine congrArg (first.toList ++ ·) ?_
  induction parts with
  | nil => rfl
  | cons p parts ih =>
      rw [List.map_cons, String.join_cons, String.toList_append, ih, Dialect.literalChars,
        Dialect.literalChars, List.flatMap_cons, String.toList_append, Dialect.quoteText,
        String.toList_ofList]

theorem literalChars_cons (d : Dialect) (p : String × String) (parts : List (String × String)) :
    d.literalChars (p :: parts)
      = d.quoteTextChars p.1.toList ++ (p.2.toList ++ d.literalChars parts) := by
  rw [Dialect.literalChars, List.flatMap_cons, List.append_assoc]
  rfl

/-- Without the shields the literals and texts are left. -/
theorem map_snd_shieldedLiterals (d : Dialect) (parts : List (String × String)) :
    (d.shieldedLiterals parts).map Prod.snd = d.literalChars parts := by
  rw [Dialect.shieldedLiterals, List.map_flatMap]
  simp only [List.map_append, map_snd_shielded, map_snd_unshielded]
  rfl

theorem fullText_shieldedLiterals_cons (d : Dialect) (p : String × String)
    (parts : List (String × String)) :
    fullText (d.shieldedLiterals (p :: parts))
      = fullText (shielded (d.quoteTextChars p.1.toList)) ++ (p.2.toList
        ++ fullText (d.shieldedLiterals parts)) := by
  rw [Dialect.shieldedLiterals, List.flatMap_cons, fullText_append, fullText_append,
    fullText_unshielded, List.append_assoc]
  rfl

/-- A literal, the text behind it and what follows, with only the colons of literals escaped. Where
there is no text between two literals, they are one. -/
theorem escapeColonsFrom_literal_text (d : Dialect) (s t : List Char) (ht : '\'' ∉ t)
    (parts : List (String × String)) (hparts : ∀ p ∈ parts, '\'' ∉ p.2.toList) :
    escapeColonsFrom d.backslashInLiterals 0 (d.quoteTextChars s ++ (t ++ d.literalChars parts))
      = fullText (shielded (d.quoteTextChars s)) ++ (t ++ fullText (d.shieldedLiterals parts)) := by
  -- By induction on the literals still to come, for every `s`: the text of a literal grows when
  -- the next one joins it.
  induction parts generalizing s t with
  | nil =>
      have hend : (t ++ d.literalChars []).head? ≠ some '\'' := by
        rw [Dialect.literalChars, List.flatMap_nil, List.append_nil]
        exact fun hquote => ht (List.mem_of_mem_head? hquote)
      rw [escapeColonsFrom_literal d s hend, escapeColonsFrom_text ht]
      rfl
  | cons p parts ih =>
      obtain ⟨hp, hparts⟩ := List.forall_mem_cons.mp hparts
      rw [literalChars_cons, fullText_shieldedLiterals_cons]
      cases t with
      | nil =>
          have hquote : (d.quoteTextChars p.1.toList).head?.any Text.isWord = false := rfl
          rw [List.nil_append, List.nil_append, ← List.append_assoc, quoteTextChars_append,
            ih _ _ hp hparts, ← quoteTextChars_append, shielded_append hquote, fullText_append,
            List.append_assoc]
      | cons c t =>
          have hc : (c :: t ++ (d.quoteTextChars p.1.toList ++ (p.2.toList
              ++ d.literalChars parts))).head? ≠ some '\'' := fun hquote =>
            ht (by rw [← Option.some.inj hquote]; exact List.mem_cons_self)
          rw [escapeColonsFrom_literal d s hc, escapeColonsFrom_text ht, ih _ _ hp hparts]

/-- Literals and texts, with only the colons of literals escaped. -/
theorem escapeColonsFrom_literals (d : Dialect) (parts : List (String × String))
    (hparts : ∀ p ∈ parts, '\'' ∉ p.2.toList) :
    escapeColonsFrom d.backslashInLiterals 0 (d.literalChars parts)
      = fullText (d.shieldedLiterals parts) := by
  cases parts with
  | nil => rfl
  | cons p parts =>
      obtain ⟨hp, hparts⟩ := List.forall_mem_cons.mp hparts
      rw [literalChars_cons, fullText_shieldedLiterals_cons]
      exact escapeColonsFrom_literal_text d _ _ hp parts hparts

/-! ### Names that are bound -/

/-- What is known of an engine that reads the names of parameters off a text. -/
structure Engine.ReadsNames {σ : Type} (e : Engine σ) : Prop where
  /-- A quote is no part of a parameter and hides none, so a text is read on each side of it. -/
  quote (s t : String) : e.boundNames (s ++ "'" ++ t) = e.boundNames s ++ e.boundNames t
  /-- Some colon of a text with parameters has a word character behind it, and no backslash in front
  of it. -/
  marked (s : String) (h : e.boundNames s ≠ []) : ∃ before after, s.toList = before ++ ':' :: after ∧
    before.getLast? ≠ some '\\' ∧ after.head?.any Text.isWord = true

/-- What is shielded starts with a word character only if the text does. -/
theorem head?_fullText_shielded (h : s.head?.any Text.isWord = false) :
    (fullText (shielded s)).head?.any Text.isWord = false := by
  cases s with
  | nil => rfl
  | cons c s =>
      rw [fullText_shielded_cons, shield]
      split
      · show Text.isWord '\\' = false
        decide
      · exact h

/-- A colon of a shielded text that a word character follows has a backslash in front of it. -/
theorem getLast?_of_shielded {before after : List Char}
    (h : fullText (shielded s) = before ++ ':' :: after)
    (hword : after.head?.any Text.isWord = true) : before.getLast? = some '\\' := by
  induction s generalizing before with
  | nil =>
      rw [shielded, fullText, List.flatMap_nil] at h
      exact absurd h.symm (List.append_ne_nil_of_right_ne_nil _ (List.cons_ne_nil _ _))
  | cons c s ih =>
      -- What stands in front of a colon further on ends as it does without the first characters.
      have hlater {x : Char} {more : List Char}
          (hmore : fullText (shielded s) = more ++ ':' :: after) :
          (x :: more).getLast? = some '\\' := by
        rw [List.getLast?_cons, ih hmore]
        rfl
      rw [fullText_shielded_cons] at h
      by_cases hshield : c = ':' ∧ s.head?.any Text.isWord = true
      · rw [shield, if_pos hshield, hshield.1] at h
        match before, h with
        | [], h => exact absurd (List.cons.inj h).1 (by decide)
        | [x], h =>
            obtain ⟨rfl, -⟩ := List.cons.inj h
            rfl
        | x :: y :: more, h =>
            have hmore := (List.cons.inj (List.cons.inj h).2).2
            rw [List.getLast?_cons_cons]
            exact hlater hmore
      · rw [shield, if_neg hshield, List.nil_append] at h
        match before, h with
        | [], h =>
            obtain ⟨rfl, rfl⟩ := List.cons.inj h
            have hplain := head?_fullText_shielded
              (Bool.eq_false_iff.mpr fun hhead => hshield ⟨rfl, hhead⟩)
            rw [hplain] at hword
            cases hword
        | x :: more, h => exact hlater (List.cons.inj h).2

namespace Engine.ReadsNames

variable {σ : Type} {e : Engine σ}

/-- No name is bound inside a literal whose colons are shielded. -/
theorem boundNames_shielded (h : e.ReadsNames) (s : List Char) :
    e.boundNames (String.ofList (fullText (shielded s))) = [] := by
  refine Classical.byContradiction fun hnames => ?_
  obtain ⟨before, after, htext, hbefore, hafter⟩ := h.marked _ hnames
  rw [String.toList_ofList] at htext
  exact hbefore (getLast?_of_shielded htext hafter)

/-- A text is read on each side of a quote. -/
theorem boundNames_append (h : e.ReadsNames) (s t : List Char) :
    e.boundNames (String.ofList (s ++ '\'' :: t))
      = e.boundNames (String.ofList s) ++ e.boundNames (String.ofList t) := by
  rw [← h.quote]
  refine congrArg e.boundNames (String.toList_inj.mp ?_)
  simp

/-- Of a literal with its colons shielded only what is around it is read. -/
theorem boundNames_literal (h : e.ReadsNames) (d : Dialect) (t s rest : List Char) :
    e.boundNames (String.ofList (t ++ (fullText (shielded (d.quoteTextChars s)) ++ rest)))
      = e.boundNames (String.ofList t) ++ e.boundNames (String.ofList rest) := by
  have hquoted : d.quoteTextChars s = '\'' :: (d.literalBody s ++ ['\'']) := rfl
  have hopening (s : List Char) : shield '\'' s = [] := if_neg fun h => by cases h.1
  have hquote : fullText (shielded ['\'']) = ['\''] := by decide
  have htext : fullText (shielded (d.quoteTextChars s)) ++ rest
      = '\'' :: (fullText (shielded (d.literalBody s)) ++ '\'' :: rest) := by
    rw [hquoted, fullText_shielded_cons, hopening, shielded_append (by decide), fullText_append,
      hquote]
    simp
  rw [htext, h.boundNames_append, h.boundNames_append, h.boundNames_shielded, List.nil_append]

/-- The names of a statement with its literals shielded are those of its texts. -/
theorem boundNames_literals (h : e.ReadsNames) (d : Dialect) (t : List Char)
    (parts : List (String × String)) :
    e.boundNames (String.ofList (t ++ fullText (d.shieldedLiterals parts)))
      = e.boundNames (String.ofList t) ++ parts.flatMap fun p => e.boundNames p.2 := by
  induction parts generalizing t with
  | nil =>
      show e.boundNames (String.ofList (t ++ [])) = _ ++ []
      rw [List.append_nil, List.append_nil]
  | cons p parts ih =>
      rw [fullText_shieldedLiterals_cons, h.boundNames_literal, ih, String.ofList_toList,
        List.flatMap_cons]

end Engine.ReadsNames

/-- Only the literals of a statement are changed when its colons are escaped: each of their colons
that a word character follows gets one backslash in front of it. Without these backslashes the
statement is what it was, and with them the names that an engine binds are those of its texts. -/
theorem literal_colons_shielded (b : Backend) (first : String) (parts : List (String × String))
    (hfirst : '\'' ∉ first.toList) (hparts : ∀ p ∈ parts, '\'' ∉ p.2.toList) :
    let d := Dialect.standard b
    let sql := d.withLiterals first parts
    let escaped := escapeColons d.backslashInLiterals sql
    let chars := unshielded first.toList ++ parts.flatMap fun p =>
      shielded (d.quoteText p.1).toList ++ unshielded p.2.toList
    escaped.toList = chars.flatMap (fun e => e.1 ++ [e.2]) ∧ chars.map Prod.snd = sql.toList ∧
      ∀ (σ : Type) (e : Engine σ), e.ReadsNames →
        e.boundNames escaped = e.boundNames first ++ parts.flatMap fun p => e.boundNames p.2 := by
  intro d sql escaped chars
  have hchars : chars = unshielded first.toList ++ d.shieldedLiterals parts := by
    simp only [chars, Dialect.shieldedLiterals, Dialect.quoteText, String.toList_ofList]
  have hescaped : escaped = String.ofList (first.toList ++ fullText (d.shieldedLiterals parts)) := by
    show String.ofList (escapeColonsFrom _ 0 (d.withLiterals first parts).toList) = _
    rw [toList_withLiterals, escapeColonsFrom_text hfirst, escapeColonsFrom_literals d parts hparts]
  refine ⟨?_, ?_, fun σ e hreads => ?_⟩
  · rw [hescaped, hchars, String.toList_ofList]
    show _ = fullText _
    rw [fullText_append, fullText_unshielded]
  · rw [hchars, toList_withLiterals, List.map_append, map_snd_unshielded,
      map_snd_shieldedLiterals]
  · rw [hescaped, hreads.boundNames_literals, String.ofList_toList]

/-! ### The engine of a script -/

namespace ScriptedEngine

/-- A quote ends a name. -/
theorem nameAfterColon_append (t rest : List Char) :
    nameAfterColon (t ++ '\'' :: rest) = nameAfterColon t := by
  have hquote : Text.isWord '\'' = false := by decide
  have hrun : ∀ e ∈ t.takeWhile Text.isWord, Text.isWord e = true :=
    List.all_eq_true.mp List.all_takeWhile
  -- The run of word characters ends within `t`, or else at the quote.
  have hend : ∀ e, (t.dropWhile Text.isWord ++ '\'' :: rest).head? = some e →
      Text.isWord e = false := by
    have hhead := List.head?_dropWhile_not Text.isWord t
    cases hdrop : t.dropWhile Text.isWord with
    | nil => simpa using hquote
    | cons c more =>
        rw [hdrop] at hhead
        simpa using hhead
  obtain ⟨htake, hdrop⟩ := Text.run_append hrun hend
  rw [← List.append_assoc, List.takeWhile_append_dropWhile] at htake hdrop
  rw [nameAfterColon, nameAfterColon, htake, hdrop]
  cases t.dropWhile Text.isWord <;> rfl

theorem boundNamesAfter_of_ne (before : Option Char) (hc : c ≠ ':') (rest : List Char) :
    boundNamesAfter before (c :: rest) = boundNamesAfter (some c) rest := by
  rw [boundNamesAfter]
  simp [hc]

/-- The names in a text that a quote follows. -/
theorem boundNamesAfter_append (before : Option Char) (t rest : List Char) :
    boundNamesAfter before (t ++ '\'' :: rest)
      = boundNamesAfter before t ++ boundNamesAfter (some '\'') rest := by
  induction t generalizing before with
  | nil => exact boundNamesAfter_of_ne before (by decide) rest
  | cons c t ih =>
      rw [List.cons_append, boundNamesAfter, boundNamesAfter, nameAfterColon_append, ih]
      split <;> rfl

/-- A text has the same names at the start of a statement and behind a quote. -/
theorem boundNamesAfter_quote (t : List Char) :
    boundNamesAfter (some '\'') t = boundNamesAfter none t := by
  have hquote : hidesColon (some '\'') = hidesColon none := by decide
  cases t with
  | nil => rfl
  | cons c t => rw [boundNamesAfter, boundNamesAfter, hquote]

/-- Where no word character follows a colon, there is no name. -/
theorem nameAfterColon_eq_nil (h : rest.head?.any Text.isWord = false) :
    nameAfterColon rest = [] := by
  cases rest with
  | nil => rfl
  | cons c rest =>
      have hc : Text.isWord c = false := h
      simp [nameAfterColon, hc]

/-- A text with names has a colon that marks one. -/
theorem exists_mark {before : Option Char} (h : boundNamesAfter before s ≠ []) :
    ∃ front after, s = front ++ ':' :: after ∧ (front.getLast?.or before) ≠ some '\\' ∧
      after.head?.any Text.isWord = true := by
  induction s generalizing before with
  | nil => exact absurd rfl h
  | cons c s ih =>
      by_cases hmark : c = ':' ∧ before ≠ some '\\' ∧ s.head?.any Text.isWord = true
      · exact ⟨[], s, by rw [hmark.1]; rfl, hmark.2⟩
      · have hlater : boundNamesAfter before (c :: s) = boundNamesAfter (some c) s := by
          rw [boundNamesAfter]
          refine if_neg fun hname => ?_
          simp only [Bool.and_eq_true, decide_eq_true_eq, Bool.not_eq_true'] at hname
          obtain ⟨⟨hc, hfree⟩, hne⟩ := hname
          refine hmark ⟨hc, fun hbackslash => ?_, Bool.of_not_eq_false fun hword => ?_⟩
          · rw [hbackslash] at hfree
            cases hfree
          · rw [nameAfterColon_eq_nil hword] at hne
            cases hne
        rw [hlater] at h
        obtain ⟨front, after, rfl, hfront, hafter⟩ := ih h
        refine ⟨c :: front, after, rfl, ?_, hafter⟩
        rw [List.getLast?_cons]
        cases hlast : front.getLast? <;> rw [hlast] at hfront <;> exact hfront

/-- The engine of a script reads names so. -/
theorem readsNames : engine.ReadsNames where
  quote s t := by
    show boundNames (s ++ "'" ++ t) = boundNames s ++ boundNames t
    have htext : (s ++ "'" ++ t).toList = s.toList ++ '\'' :: t.toList := by simp
    rw [boundNames, boundNames, boundNames, htext, boundNamesAfter_append, boundNamesAfter_quote,
      List.map_append]
  marked s h := by
    have hnames : boundNamesAfter none s.toList ≠ [] := fun hnone => h (by
      show boundNames s = []
      rw [boundNames, hnone, List.map_nil])
    simpa using exists_mark hnames

end ScriptedEngine

/-- Quotes, backslashes and colons, in two literals side by side and in the texts around them. -/
theorem literal_colons_shielded_side_by_side :
    let d := Dialect.standard .mysql
    let sql := d.withLiterals "SET a=:a, b=" [("it's \\", ""), (":x::y \\:z:", ", c=:c")]
    ('\'' ∉ "SET a=:a, b=".toList ∧
      ∀ p ∈ [("it's \\", ""), (":x::y \\:z:", ", c=:c")], '\'' ∉ p.2.toList) ∧
      ScriptedEngine.engine.ReadsNames ∧
      sql = "SET a=:a, b='it''s \\\\'':x::y \\\\:z:', c=:c" ∧
      escapeColons true sql = "SET a=:a, b='it''s \\\\''\\:x:\\:y \\\\\\:z:', c=:c" ∧
      ScriptedEngine.engine.boundNames (escapeColons true sql) = ["a", "c"] := by
  intro d sql
  have hfirst : '\'' ∉ "SET a=:a, b=".toList := by decide
  have hparts : ∀ p ∈ [("it's \\", ""), (":x::y \\:z:", ", c=:c")], '\'' ∉ p.2.toList := by decide
  obtain ⟨hescaped, -, hnames⟩ := literal_colons_shielded .mysql "SET a=:a, b=" _ hfirst hparts
  refine ⟨⟨hfirst, hparts⟩, ScriptedEngine.readsNames, by decide, ?_, ?_⟩
  · exact String.toList_inj.mp (hescaped.trans (by decide))
  · exact (hnames _ _ ScriptedEngine.readsNames).trans (by decide)

end SqlLoom
