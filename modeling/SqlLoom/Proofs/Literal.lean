import SqlLoom.Dialect.Insert

/-!
# `SqlLoom.Proofs.Literal`: the literals of a dialect read back

`Literal.read` reads one literal at the front of a text, the way a database does: a word, a whole
number, or text between quotes, in which a doubled quote is a quote and, where the dialect has such
escapes, a character after a backslash stands for another one.

* `Literal.read_quoteText`: what `Dialect.quoteText` writes is read back as the text itself.
* `Literal.quoteValue_read_iff`: it is read back in front of a text exactly when no quote follows.
* `Literal.read_eq_text_iff`: a whole text is one literal exactly when the base dialect writes it.
* `Literal.read_batchLiteral`: what `Dialect.batchLiteral` writes is read back as the literal that
  the value has; a value without one, `Literal.ofValue?`, is not read at all.

A literal ends before a comma or a closing parenthesis, `Literal.Delimited`: the digits of a number
and a quote at the end of a text would otherwise be taken together with what follows.
-/

set_option autoImplicit false

namespace SqlLoom

/-- What a literal stands for. -/
inductive Literal where
  | null
  | bool (b : Bool)
  | number (n : Int)
  | text (s : List Char)
  deriving DecidableEq, Repr

/-- A run of characters ends before a character of another kind. -/
theorem Text.run_append {p : Char → Bool} {s rest : List Char} (hs : ∀ c ∈ s, p c = true)
    (hrest : ∀ c, rest.head? = some c → p c = false) :
    (s ++ rest).takeWhile p = s ∧ (s ++ rest).dropWhile p = rest := by
  have hnone : rest.takeWhile p = [] ∧ rest.dropWhile p = rest := by
    cases rest with
    | nil => exact ⟨rfl, rfl⟩
    | cons c rest => simp [hrest c rfl]
  rw [List.takeWhile_append_of_pos hs, List.dropWhile_append_of_pos hs, hnone.1, hnone.2,
    List.append_nil]
  exact ⟨rfl, rfl⟩

/-- Where quotes are doubled any other character stays. -/
theorem Text.double_plain_cons {c : Char} (hc : c ≠ '\'') (s : List Char) :
    Text.replaceChar '\'' ['\'', '\''] (c :: s) = c :: Text.replaceChar '\'' ['\'', '\''] s := by
  simp [Text.replaceChar, hc]

namespace Literal

/-! ### Reading a literal -/

/-- What a character after a backslash stands for. The two characters that have a meaning in
patterns keep their backslash. -/
def unescaped : Char → List Char
  | '0' => ['\x00']
  | 'b' => ['\x08']
  | 'n' => ['\n']
  | 'r' => ['\r']
  | 't' => ['\t']
  | 'Z' => ['\x1a']
  | '%' => ['\\', '%']
  | '_' => ['\\', '_']
  | c => [c]

/-- Text in front of what has been read. -/
def prepend (s : List Char) (read? : Option (List Char × List Char)) :
    Option (List Char × List Char) :=
  read?.map fun r => (s ++ r.1, r.2)

/-- Reads text after its opening quote. Gives the text and what follows the closing quote. -/
def readText (backslash : Bool) : List Char → Option (List Char × List Char)
  | [] => none
  | '\'' :: '\'' :: rest => prepend ['\''] (readText backslash rest)
  | '\'' :: rest => some ([], rest)
  | '\\' :: c :: rest =>
    if backslash then prepend (unescaped c) (readText backslash rest)
    else prepend ['\\'] (readText backslash (c :: rest))
  | c :: rest => prepend [c] (readText backslash rest)

/-- Reads a number without a sign. -/
def readDigits (s : List Char) : Option (Nat × List Char) :=
  let digits := s.takeWhile Char.isDigit
  if digits.isEmpty then none else some (Nat.ofDigitChars 10 digits 0, s.dropWhile Char.isDigit)

/-- Reads a number. -/
def readNumber : List Char → Option (Literal × List Char)
  | '-' :: rest => (readDigits rest).map fun r => (.number (-r.1), r.2)
  | s => (readDigits s).map fun r => (.number r.1, r.2)

/-- Reads a word that is a literal. -/
def readWord (s : List Char) : Option (Literal × List Char) :=
  match String.ofList (s.takeWhile Char.isAlpha) with
  | "NULL" => some (.null, s.dropWhile Char.isAlpha)
  | "TRUE" => some (.bool true, s.dropWhile Char.isAlpha)
  | "FALSE" => some (.bool false, s.dropWhile Char.isAlpha)
  | _ => none

/-- Reads the literal at the front of a text. Gives the literal and what follows it. -/
def read (backslash : Bool) : List Char → Option (Literal × List Char)
  | '\'' :: rest => (readText backslash rest).map fun r => (.text r.1, r.2)
  | s => (readWord s).or (readNumber s)

/-- A literal ends before this text. -/
def Delimited (rest : List Char) : Prop := ∀ c, rest.head? = some c → c = ',' ∨ c = ')'

variable {backslash : Bool} {c : Char} {s rest : List Char}

/-- A run of characters ends where its literal ends. -/
theorem Delimited.run {p : Char → Bool} (h : Delimited rest) (hcomma : p ',' = false)
    (hclose : p ')' = false) (hs : ∀ c ∈ s, p c = true) :
    (s ++ rest).takeWhile p = s ∧ (s ++ rest).dropWhile p = rest := by
  refine Text.run_append hs fun c hc => ?_
  rcases h c hc with rfl | rfl
  · exact hcomma
  · exact hclose

/-! ### Text -/

/-- What has been read starts with the text put in front of it. -/
theorem prepend_eq_some {t : List Char} {read? : Option (List Char × List Char)}
    (h : prepend s read? = some (t, rest)) : ∃ t', t = s ++ t' ∧ read? = some (t', rest) := by
  obtain ⟨⟨t', rest'⟩, hread, heq⟩ := Option.map_eq_some_iff.mp h
  cases heq
  exact ⟨t', rfl, hread⟩

theorem readText_doubled (rest : List Char) :
    readText backslash ('\'' :: '\'' :: rest) = prepend ['\''] (readText backslash rest) := by
  rw [readText]

/-- A quote that no other follows ends the text. -/
theorem readText_end (h : rest.head? ≠ some '\'') :
    readText backslash ('\'' :: rest) = some ([], rest) := by
  cases rest with
  | nil => rfl
  | cons c rest =>
      rw [readText]
      rintro rest' ⟨rfl, -⟩
      exact h rfl

theorem readText_escaped (c : Char) (rest : List Char) :
    readText true ('\\' :: c :: rest) = prepend (unescaped c) (readText true rest) := by
  rw [readText, if_pos rfl]

/-- A character that means nothing else stands for itself. -/
theorem readText_plain (hquote : c ≠ '\'') (hbackslash : c = '\\' → backslash = false) :
    readText backslash (c :: rest) = prepend [c] (readText backslash rest) := by
  rw [readText.eq_def]
  split
  all_goals simp_all

/-- A character as it is written between the quotes. -/
def written (backslash : Bool) (c : Char) : List Char :=
  if c = '\'' then ['\'', '\'']
  else if c = '\\' ∧ backslash = true then ['\\', '\\']
  else [c]

theorem literalBody_eq (d : Dialect) (s : List Char) :
    d.literalBody s = s.flatMap (written d.backslashInLiterals) := by
  cases hbackslash : d.backslashInLiterals with
  | false =>
      simp only [Dialect.literalBody, hbackslash, Bool.false_eq_true, if_false, Text.replaceChar]
      refine congrArg (s.flatMap ·) (funext fun c => ?_)
      simp [written]
  | true =>
      simp only [Dialect.literalBody, hbackslash, if_true, Text.replaceChar, List.flatMap_assoc]
      refine congrArg (s.flatMap ·) (funext fun c => ?_)
      -- The backslashes are doubled first, and doubling the quotes leaves them alone.
      by_cases hquote : c = '\''
      · subst hquote
        rfl
      · by_cases hescape : c = '\\'
        · subst hescape
          rfl
        · simp [written, hquote, hescape]

/-- A character is read back from what is written for it. -/
theorem readText_written (c : Char) (rest : List Char) :
    readText backslash (written backslash c ++ rest) = prepend [c] (readText backslash rest) := by
  unfold written
  split
  · rename_i hquote
    subst hquote
    exact readText_doubled rest
  · split
    · rename_i hescape
      obtain ⟨rfl, rfl⟩ := hescape
      exact readText_escaped '\\' rest
    · rename_i hquote hescape
      exact readText_plain hquote fun hc => by simpa [hc] using hescape

/-- What is written for a text is read back, whatever stands behind it. -/
theorem readText_literalBody_append (d : Dialect) (s rest : List Char) :
    readText d.backslashInLiterals (d.literalBody s ++ rest)
      = prepend s (readText d.backslashInLiterals rest) := by
  rw [literalBody_eq]
  induction s with
  | nil => exact (congrFun Option.map_id _).symm
  | cons c s ih =>
      rw [List.flatMap_cons, List.append_assoc, readText_written, ih, prepend, prepend, prepend,
        Option.map_map]
      rfl

/-- Text is read back from what stands between its quotes. -/
theorem readText_literalBody (d : Dialect) (s : List Char) (h : rest.head? ≠ some '\'') :
    readText d.backslashInLiterals (d.literalBody s ++ '\'' :: rest) = some (s, rest) := by
  rw [readText_literalBody_append, readText_end h, prepend, Option.map_some, List.append_nil]

theorem toList_quoteText_append (d : Dialect) (s : String) (rest : List Char) :
    (d.quoteText s).toList ++ rest = '\'' :: (d.literalBody s.toList ++ '\'' :: rest) := by
  simp [Dialect.quoteText, Dialect.quoteTextChars]

/-- A quoted text is one literal. -/
theorem read_quoteText (d : Dialect) (s : String) (h : rest.head? ≠ some '\'') :
    read d.backslashInLiterals ((d.quoteText s).toList ++ rest) = some (.text s.toList, rest) := by
  rw [toList_quoteText_append, read, readText_literalBody d s.toList h]
  rfl

/-- A text that becomes a literal is read back, and the literal ends at its closing quote, in front
of any text but one that starts with a quote: with that the closing quote would make a doubled
one. -/
theorem quoteValue_read_iff (b : Backend) (s : String) (rest : List Char) :
    let d := Dialect.standard b
    ∃ quoted, d.quoteValue (.text s) = .text quoted ∧
      (read d.backslashInLiterals (quoted.toList ++ rest) = some (.text s.toList, rest) ↔
        rest.head? ≠ some '\'') := by
  intro d
  refine ⟨d.quoteText s, rfl, fun hread hquote => ?_, read_quoteText d s⟩
  obtain ⟨more, rfl⟩ := List.head?_eq_some_iff.mp hquote
  -- The text goes on with a quote, so it is longer than the one that was written.
  rw [toList_quoteText_append, read, readText_literalBody_append, readText_doubled] at hread
  obtain ⟨⟨text, after⟩, htext, heq⟩ := Option.map_eq_some_iff.mp hread
  obtain ⟨more', rfl, hmore⟩ := prepend_eq_some htext
  obtain ⟨last, rfl, -⟩ := prepend_eq_some hmore
  have hlonger : s.toList ++ (['\''] ++ last) = s.toList := Literal.text.inj (Prod.mk.inj heq).1
  simp at hlonger

/-- Text that is read was written with its quotes doubled. -/
theorem eq_of_readText {t : List Char} (h : readText false s = some (t, rest)) :
    s = Text.replaceChar '\'' ['\'', '\''] t ++ '\'' :: rest := by
  fun_induction readText false s generalizing t with
  | case1 => cases h
  | case2 rest' ih =>
      obtain ⟨t, rfl, hread⟩ := prepend_eq_some h
      exact congrArg ('\'' :: '\'' :: ·) (ih hread)
  | case3 rest' hsingle =>
      cases h
      rfl
  | case4 c rest' hbackslash ih => cases hbackslash
  | case5 c rest' hbackslash ih =>
      obtain ⟨t, rfl, hread⟩ := prepend_eq_some h
      exact congrArg ('\\' :: ·) (ih hread)
  | case6 c rest' hdoubled hquote hescaped ih =>
      obtain ⟨t, rfl, hread⟩ := prepend_eq_some h
      rw [List.singleton_append, Text.double_plain_cons hquote, ih hread]
      rfl

/-- A text is one literal exactly if it is what the base dialect writes. -/
theorem read_eq_text_iff {t : List Char} :
    read false s = some (.text t, []) ↔ s = (Dialect.standard .ansi).quoteTextChars t := by
  constructor
  · intro hread
    rw [read.eq_def] at hread
    split at hread
    · rename_i rest
      obtain ⟨⟨text, behind⟩, htext, heq⟩ := Option.map_eq_some_iff.mp hread
      cases heq
      rw [eq_of_readText htext]
      rfl
    · -- A word or a number is no text.
      rcases Option.or_eq_some_iff.mp hread with hword | ⟨-, hnumber⟩
      · simp only [readWord] at hword
        split at hword <;> cases hword
      · rw [readNumber.eq_def] at hnumber
        split at hnumber <;> obtain ⟨_, -, heq⟩ := Option.map_eq_some_iff.mp hnumber <;> cases heq
  · rintro rfl
    have hread : read _ (_ ++ []) = _ :=
      read_quoteText (Dialect.standard .ansi) (String.ofList t) (by simp)
    rwa [Dialect.quoteText, String.toList_ofList, String.toList_ofList, List.append_nil] at hread

/-! ### Numbers and words -/

theorem readDigits_toDigits (n : Nat) (h : Delimited rest) :
    readDigits (Nat.toDigits 10 n ++ rest) = some (n, rest) := by
  have hdigit : ∀ c ∈ Nat.toDigits 10 n, c.isDigit = true := fun c =>
    Nat.isDigit_of_mem_toDigits (by decide) (by decide)
  obtain ⟨htake, hdrop⟩ := h.run (p := Char.isDigit) rfl rfl hdigit
  rw [readDigits, htake, hdrop, Nat.ofDigitChars_ten_toDigits, if_neg]
  simp

theorem isAlpha_of_isDigit (h : c.isDigit = true) : c.isAlpha = false := by
  delta Char.isDigit at h
  delta Char.isAlpha Char.isUpper Char.isLower
  simp only [Bool.and_eq_true, decide_eq_true_eq, ge_iff_le, UInt32.le_iff_toNat_le] at h
  simp only [Bool.or_eq_false_iff, Bool.and_eq_false_iff, decide_eq_false_iff_not, ge_iff_le,
    UInt32.le_iff_toNat_le]
  -- The codes of the digits come before those of all letters.
  change 48 ≤ c.toNat ∧ c.toNat ≤ 57 at h
  change ¬ (65 ≤ c.toNat ∧ c.toNat ≤ 90) ∧ (¬ 97 ≤ c.toNat ∨ ¬ c.toNat ≤ 122)
  omega

/-- Without a quote or a letter in front there is only a number to read. -/
theorem read_eq_readNumber (hquote : s.head? ≠ some '\'')
    (hletter : ∀ c, s.head? = some c → c.isAlpha = false) : read backslash s = readNumber s := by
  have hword : readWord s = none := by
    cases s with
    | nil => rfl
    | cons c s => simp [readWord, hletter c rfl]
  rw [read.eq_def]
  split
  · simp at hquote
  · rw [hword, Option.none_or]

theorem read_toDigits (n : Nat) (h : Delimited rest) :
    read backslash (Nat.toDigits 10 n ++ rest) = some (.number n, rest) := by
  obtain ⟨c, digits, hdigits⟩ := List.exists_cons_of_ne_nil (@Nat.toDigits_ne_nil n 10)
  have hc : c.isDigit = true :=
    Nat.isDigit_of_mem_toDigits (b := 10) (n := n) (by decide) (by decide) (by simp [hdigits])
  have hhead : (Nat.toDigits 10 n ++ rest).head? = some c := by rw [hdigits]; rfl
  have hread := readDigits_toDigits n h
  rw [read_eq_readNumber (fun hquote => ?_) (fun c' hc' => ?_), readNumber.eq_def]
  · split
    · rename_i heq
      -- A digit is no sign.
      rw [heq] at hhead
      cases hhead
      exact absurd hc (by decide)
    · rw [hread]
      rfl
  · rw [hhead] at hquote
    cases hquote
    exact absurd hc (by decide)
  · rw [hhead] at hc'
    cases hc'
    exact isAlpha_of_isDigit hc

/-- A number is read back from its decimal text. -/
theorem read_int (n : Int) (h : Delimited rest) :
    read backslash ((toString n).toList ++ rest) = some (.number n, rest) := by
  cases n with
  | ofNat n =>
      have htext : (toString (Int.ofNat n)).toList = Nat.toDigits 10 n := by
        show (toString n).toList = _
        rw [Nat.toString_eq_repr, Nat.toList_repr]
      rw [htext]
      exact read_toDigits n h
  | negSucc n =>
      have htext : (toString (Int.negSucc n)).toList = '-' :: Nat.toDigits 10 (n + 1) := by
        show ("-" ++ toString (n + 1)).toList = _
        rw [String.toList_append, Nat.toString_eq_repr, Nat.toList_repr]
        rfl
      rw [htext, List.cons_append, read_eq_readNumber (by simp) (by simp), readNumber,
        readDigits_toDigits (n + 1) h]
      rfl

/-- A word is read up to its end. -/
theorem readWord_append {l : Literal} (hs : ∀ c ∈ s, c.isAlpha = true)
    (hl : readWord s = some (l, [])) (h : Delimited rest) :
    readWord (s ++ rest) = some (l, rest) := by
  obtain ⟨htake, hdrop⟩ := h.run (p := Char.isAlpha) rfl rfl hs
  have hnil : Delimited [] := nofun
  obtain ⟨htake', -⟩ := hnil.run (p := Char.isAlpha) rfl rfl hs
  rw [List.append_nil] at htake'
  rw [readWord, htake'] at hl
  rw [readWord, htake, hdrop]
  split at hl <;> simp_all

theorem read_word {word : String} {l : Literal} (hword : word.toList.all Char.isAlpha = true)
    (hl : readWord word.toList = some (l, [])) (h : Delimited rest) :
    read backslash (word.toList ++ rest) = some (l, rest) := by
  have hread := readWord_append (List.all_eq_true.mp hword) hl h
  rw [read.eq_def]
  split
  · rename_i heq
    rw [heq] at hread
    simp [readWord] at hread
  · rw [hread, Option.some_or]

/-! ### Values -/

/-- The literal that a value has, if it has one. -/
def ofValue? (d : Dialect) : Value → Option Literal
  | .null => some .null
  | .bool b => some (if d.backend = .postgres then .bool b else .number (if b then 1 else 0))
  | .int n => some (.number n)
  | v => v.text?.map fun s => .text s.toList

/-- A truth value is a word or a digit. -/
theorem read_boolLiteral (d : Dialect) (b : Bool) (h : Delimited rest) :
    read backslash ((d.boolLiteral b).toList ++ rest)
      = some (if d.backend = .postgres then .bool b else .number (if b then 1 else 0), rest) := by
  have hdigit (n : Nat) : read backslash ((toString (n : Int)).toList ++ rest)
      = some (.number n, rest) := read_int n h
  unfold Dialect.boolLiteral
  cases d.backend with
  | postgres =>
      cases b
      · exact read_word rfl rfl h
      · exact read_word rfl rfl h
  | ansi | mysql | oracle =>
      cases b
      · exact hdigit 0
      · exact hdigit 1

/-- Nothing that starts with a bracket is a literal. -/
theorem read_bracket (hc : c = '[' ∨ c = '(' ∨ c = '\x7b') : read backslash (c :: s) = none := by
  rcases hc with rfl | rfl | rfl <;>
    (rw [read_eq_readNumber (by simp) (by simp)]; rfl)

/-- Octets are shown after a letter that is no literal. -/
theorem read_octets (hc : c = '\'' ∨ c = '"') : read backslash ('b' :: c :: s) = none := by
  rcases hc with rfl | rfl <;> rfl

end Literal

/-- Nothing, a truth value, a whole number, text, octets, a list, a tuple or a mapping. -/
def Value.isDatum : Value → Bool
  | .null | .bool _ | .int _ | .text _ | .bytes _ | .list _ | .tuple _ | .map _ => true
  | _ => false

/-- The literal of a datum is read back, and a datum without one is not read at all. -/
theorem Literal.read_batchLiteral (d : Dialect) {v : Value} (hv : v.isDatum = true)
    {rest : List Char} (h : Literal.Delimited rest) :
    Literal.read d.backslashInLiterals ((d.batchLiteral v).toList ++ rest)
      = (Literal.ofValue? d v).map fun l => (l, rest) := by
  have hquote : rest.head? ≠ some '\'' := fun hc => by simpa using h _ hc
  -- A collection is shown in brackets, and octets after a letter.
  have hbracket {c : Char} (hc : c = '[' ∨ c = '(' ∨ c = '\x7b') {opening : String}
      (hopening : opening.toList = [c]) (text : String) :
      read d.backslashInLiterals ((opening ++ text).toList ++ rest) = none := by
    rw [String.toList_append, hopening]
    exact read_bracket hc
  cases v with
  | null =>
      show read _ ("NULL".toList ++ rest) = some (.null, rest)
      exact read_word rfl rfl h
  | bool b => exact read_boolLiteral d b h
  | int n => exact read_int n h
  | text s => exact read_quoteText d s hquote
  | bytes octets =>
      have htext : (d.batchLiteral (.bytes octets)).toList = Text.quotedOctets octets :=
        String.toList_ofList
      rw [htext]
      refine read_octets ?_
      unfold Text.quoteFor
      split
      · exact .inr rfl
      · exact .inl rfl
  | list items =>
      show read _ ((("[" ++ commaJoined (nestedItems items)) ++ "]").toList ++ rest) = none
      rw [String.append_assoc]
      exact hbracket (.inl rfl) rfl _
  | tuple items =>
      show read _ ((parenthesized (nestedItems items)).toList ++ rest) = none
      unfold parenthesized
      split
      · rw [String.append_assoc]
        exact hbracket (.inr (.inl rfl)) rfl _
      · rw [String.append_assoc]
        exact hbracket (.inr (.inl rfl)) rfl _
  | map entries =>
      show read _ ((braced (nestedEntries entries)).toList ++ rest) = none
      unfold braced
      rw [String.append_assoc]
      exact hbracket (.inr (.inr rfl)) rfl _
  | _ => cases hv

end SqlLoom
