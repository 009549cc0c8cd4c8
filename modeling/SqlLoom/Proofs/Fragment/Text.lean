import Mathlib.Data.List.Chain
import SqlLoom.Proofs.Fragment.Run

/-!
# `SqlLoom.Proofs.Fragment.Text`: the text of a fragment around its slots

A fragment with `k` slots has `k + 1` texts around them (`texts`), and binding it weaves the
generated names between the texts (`weave`). The theorems:

* `join_fill`: filling the slots of the pieces is weaving the names between the texts.
* `delimited_texts`: where every slot has a neighbour on both sides that ends a name
  (`Adjacent`), each text ends in an opening character and the next one starts with a closing one.
* `bind_append`, `Within.bind`: a fragment inside another one is bound in place as it is alone,
  over the table that the steps before it leave.
-/

set_option autoImplicit false

namespace SqlLoom.Fragment

/-! ### Texts and names -/

/-- The texts around the slots. -/
def texts : List Piece → List String
  | [] => [""]
  | .text s :: rest =>
    match texts rest with
    | [] => [s]
    | t :: ts => (s ++ t) :: ts
  | .slot :: rest => "" :: texts rest

/-- Texts with names between them. -/
def weave : List String → List String → String
  | [], _ => ""
  | [t], _ => t
  | t :: ts, name :: names => t ++ name ++ weave ts names
  | t :: ts, [] => t ++ weave ts []

theorem texts_ne_nil (ps : List Piece) : texts ps ≠ [] := by
  cases ps with
  | nil => exact List.cons_ne_nil _ _
  | cons p rest =>
      cases p with
      | text s => rw [texts]; split <;> exact List.cons_ne_nil _ _
      | slot => exact List.cons_ne_nil _ _

/-- There is one text more than there are slots. -/
theorem length_texts (ps : List Piece) : (texts ps).length = slots ps + 1 := by
  induction ps with
  | nil => rfl
  | cons p rest ih =>
      cases p with
      | text s =>
          -- A text is put before the first of the texts behind it and adds none.
          obtain ⟨t, ts, h⟩ := List.exists_cons_of_ne_nil (texts_ne_nil rest)
          rw [texts, slots, ← ih, h]
          rfl
      | slot => rw [texts, slots, List.length_cons, ih]

/-- A text in front of the first one. -/
theorem weave_append_head (s t : String) (ts names : List String) :
    weave ((s ++ t) :: ts) names = s ++ weave (t :: ts) names := by
  cases ts with
  | nil => rfl
  | cons u us => cases names <;> simp only [weave, String.append_assoc]

/-- Filling the slots weaves the names between the texts. -/
theorem join_fill (ps : List Piece) (names : List String) (h : names.length = slots ps) :
    String.join (fill ps names) = weave (texts ps) names := by
  induction ps generalizing names with
  | nil => rfl
  | cons p rest ih =>
      obtain ⟨t, ts, hts⟩ := List.exists_cons_of_ne_nil (texts_ne_nil rest)
      cases p with
      | text s => rw [fill, String.join_cons, ih names h, texts, hts, weave_append_head]
      | slot =>
          cases names with
          | nil => simp [slots] at h
          | cons name names =>
              -- The slot ends the text before it and takes the first name.
              have hlen : names.length = slots rest := by simpa [slots] using h
              rw [fill, String.join_cons, ih names hlen, texts, hts, weave, String.empty_append]
              exact List.cons_ne_nil _ _

/-! ### The neighbours of a slot -/

/-- The characters that may stand directly before a generated name. -/
def openers : List Char := ['=', '>', '(', ' ']

/-- The characters that may stand directly after a generated name. -/
def closers : List Char := [')', ',', ' ']

/-- The characters of a text with slots; a slot is none. -/
def tokens : List Piece → List (Option Char)
  | [] => []
  | .text s :: rest => s.toList.map some ++ tokens rest
  | .slot :: rest => none :: tokens rest

/-- What may stand next to each other: a slot needs an opening character before it and a closing
one after it. -/
def Adjacent : Option Char → Option Char → Prop
  | some _, some _ => True
  | some c, none => c ∈ openers
  | none, some c => c ∈ closers
  | none, none => False

@[simp]
theorem tokens_append (ps qs : List Piece) : tokens (ps ++ qs) = tokens ps ++ tokens qs := by
  induction ps with
  | nil => rfl
  | cons p rest ih =>
      cases p with
      | text s => rw [List.cons_append, tokens, ih, tokens, List.append_assoc]
      | slot => rw [List.cons_append, tokens, ih, tokens, List.cons_append]

/-- The texts around generated names: each ends in an opening character where a name follows, and
starts with a closing one where a name precedes, or else is empty and the last. -/
def Delimited : List String → Prop
  | s :: t :: rest =>
    (∃ c ∈ openers, s.toList.getLast? = some c) ∧
      ((∃ c ∈ closers, t.toList.head? = some c) ∨ t = "" ∧ rest = []) ∧ Delimited (t :: rest)
  | _ => True

/-- The characters of texts with a slot between each two. -/
def textTokens : List String → List (Option Char)
  | [] => []
  | [t] => t.toList.map some
  | t :: ts => t.toList.map some ++ none :: textTokens ts

theorem textTokens_cons_cons (s t : String) (ts : List String) :
    textTokens (s :: t :: ts) = s.toList.map some ++ none :: textTokens (t :: ts) := rfl

theorem textTokens_append_head (s t : String) (ts : List String) :
    textTokens ((s ++ t) :: ts) = s.toList.map some ++ textTokens (t :: ts) := by
  cases ts with
  | nil => simp [textTokens]
  | cons u us => simp [textTokens]

theorem textTokens_texts (ps : List Piece) : textTokens (texts ps) = tokens ps := by
  induction ps with
  | nil => rfl
  | cons p rest ih =>
      obtain ⟨t, ts, hts⟩ := List.exists_cons_of_ne_nil (texts_ne_nil rest)
      rw [hts] at ih
      cases p with
      | text s => rw [texts, hts, textTokens_append_head, ih, tokens]
      | slot =>
          rw [texts, hts, textTokens_cons_cons, ih, tokens]
          rfl

/-- Texts whose slots have the neighbours they need are delimited. The first text must not be
empty where a slot follows it. -/
theorem delimited_of_isChain (ts : List String) (h : (textTokens ts).IsChain Adjacent)
    (hhead : (textTokens ts).head? ≠ some none) : Delimited ts := by
  induction ts with
  | nil => trivial
  | cons s rest ih =>
      cases rest with
      | nil => trivial
      | cons t us =>
          rw [textTokens_cons_cons] at h hhead
          obtain ⟨-, htail, hglue⟩ := List.isChain_append.mp h
          have hnext := List.isChain_cons.mp htail
          refine ⟨?_, ?_, ih hnext.2 fun hslot => hnext.1 none hslot⟩
          · -- The last character before the slot: there is one, since no slot comes first.
            cases hlast : s.toList.getLast? with
            | none =>
                rw [List.getLast?_eq_none_iff] at hlast
                exact absurd (by rw [hlast]; rfl) hhead
            | some c => exact ⟨c, hglue (some c) (by simp [hlast]) none rfl, rfl⟩
          · -- A character follows the slot, or nothing at all: no slot follows another one.
            cases hfirst : t.toList with
            | nil =>
                have ht : t = "" := String.toList_injective hfirst
                cases us with
                | nil => exact .inr ⟨ht, rfl⟩
                | cons u vs => exact (hnext.1 none (by simp [textTokens, hfirst])).elim
            | cons c cs =>
                refine .inl ⟨c, hnext.1 (some c) ?_, rfl⟩
                cases us <;> simp [textTokens, hfirst]

/-- The texts of a fragment whose slots have the neighbours they need. -/
theorem delimited_texts (ps : List Piece) (h : (tokens ps).IsChain Adjacent)
    (hhead : (tokens ps).head? ≠ some none) : Delimited (texts ps) := by
  rw [← textTokens_texts] at h hhead
  exact delimited_of_isChain (texts ps) h hhead

/-! ### The characters of a bound text -/

/-- The characters of a text with names in the slots. -/
def spell : List (Option Char) → List String → List Char
  | [], _ => []
  | some c :: rest, names => c :: spell rest names
  | none :: rest, name :: names => name.toList ++ spell rest names
  | none :: rest, [] => spell rest []

theorem spell_chars (cs : List Char) (ts : List (Option Char)) (names : List String) :
    spell (cs.map some ++ ts) names = cs ++ spell ts names := by
  induction cs with
  | nil => rfl
  | cons c cs ih => rw [List.map_cons, List.cons_append, spell, ih, List.cons_append]

theorem toList_join_fill (ps : List Piece) (names : List String) :
    (String.join (fill ps names)).toList = spell (tokens ps) names := by
  induction ps generalizing names with
  | nil => rfl
  | cons p rest ih =>
      cases p with
      | text s =>
          rw [fill, String.join_cons, String.toList_append, ih, tokens, spell_chars]
      | slot =>
          cases names with
          | nil => exact ih []
          | cons name names => rw [fill, String.join_cons, String.toList_append, ih]; rfl

/-- The second of two runs of tokens gets the names that the first one leaves. -/
theorem spell_append (ts us : List (Option Char)) (names : List String) :
    ∃ left, spell (ts ++ us) names = spell ts names ++ spell us left := by
  induction ts generalizing names with
  | nil => exact ⟨names, rfl⟩
  | cons t rest ih =>
      cases t with
      | some c =>
          obtain ⟨left, h⟩ := ih names
          exact ⟨left, by rw [List.cons_append, spell, h]; rfl⟩
      | none =>
          cases names with
          | nil =>
              obtain ⟨left, h⟩ := ih []
              exact ⟨left, h⟩
          | cons name names =>
              obtain ⟨left, h⟩ := ih names
              exact ⟨left, by rw [List.cons_append, spell, h, spell, List.append_assoc]⟩

/-- Characters that stand in a fragment next to each other do so in its text. -/
theorem infix_bind {f : Fragment} {s : String} (h : s.toList.map some <:+: tokens f.pieces)
    (t : ParamTable) : s.toList <:+: (f.bind t).1.toList := by
  obtain ⟨before, after, htokens⟩ := h
  rw [bind, toList_join_fill, ← htokens, List.append_assoc]
  -- Names come only where slots are, so a run of characters is not broken up.
  obtain ⟨left, hleft⟩ := spell_append before (s.toList.map some ++ after) (run f.steps t).1
  rw [hleft, spell_chars]
  exact ⟨_, _, List.append_assoc _ _ _⟩

/-! ### Fragments inside a fragment -/

@[simp]
theorem append_steps (f g : Fragment) : (f ++ g).steps = f.steps ++ g.steps := rfl

@[simp]
theorem append_pieces (f g : Fragment) : (f ++ g).pieces = f.pieces ++ g.pieces := rfl

theorem append_assoc (f g h : Fragment) : f ++ g ++ h = f ++ (g ++ h) := by
  show Fragment.mk _ _ = Fragment.mk _ _
  simp

/-- Every slot has an `add` of its own. -/
def Balanced (f : Fragment) : Prop := slots f.pieces = adds f.steps

/-- The fragment stands in another one as a whole: its steps in a row, its pieces in a row, and the
slots before it are as many as the names before it. -/
def Within (g f : Fragment) : Prop :=
  ∃ before after : Fragment, before.Balanced ∧ f = before ++ g ++ after

theorem fill_append (ps qs : List Piece) (ns ms : List String) (h : ns.length = slots ps) :
    fill (ps ++ qs) (ns ++ ms) = fill ps ns ++ fill qs ms := by
  induction ps generalizing ns with
  | nil =>
      rw [List.eq_nil_of_length_eq_zero h]
      rfl
  | cons p rest ih =>
      cases p with
      | text s => rw [List.cons_append, fill, ih ns h, fill, List.cons_append]
      | slot =>
          cases ns with
          | nil => simp [slots] at h
          | cons n ns =>
              have hlen : ns.length = slots rest := by simpa [slots] using h
              rw [List.cons_append, List.cons_append, fill, ih ns hlen, fill, List.cons_append]

/-- Binding two fragments in a row binds the first one, and the second one over the table that the
first one leaves. -/
theorem bind_append (f g : Fragment) (t : ParamTable) (h : f.Balanced) :
    (f ++ g).bind t = ((f.bind t).1 ++ (g.bind (f.bind t).2).1, (g.bind (f.bind t).2).2) := by
  have hlen : (run f.steps t).1.length = slots f.pieces := by rw [length_run_names, h]
  simp only [bind, append_steps, append_pieces, run_append]
  rw [fill_append _ _ _ _ hlen, String.join_append]

theorem fill_append_text (ps : List Piece) (s : String) (names : List String) :
    fill (ps ++ [.text s]) names = fill ps names ++ [s] := by
  fun_induction fill ps names <;> simp_all [fill]

/-- A text behind a fragment. It has no slot, so names are not counted. -/
theorem bind_append_ofText (f : Fragment) (s : String) (t : ParamTable) :
    (f ++ ofText s).bind t = ((f.bind t).1 ++ s, (f.bind t).2) := by
  have hsteps : (f ++ ofText s).steps = f.steps := List.append_nil _
  have hpieces : (f ++ ofText s).pieces = f.pieces ++ [.text s] := rfl
  simp only [bind, hsteps, hpieces, fill_append_text, String.join_append]
  simp

/-- A text in front of a fragment. -/
theorem bind_ofText_append (s : String) (f : Fragment) (t : ParamTable) :
    (ofText s ++ f).bind t = (s ++ (f.bind t).1, (f.bind t).2) := by
  show (String.join (s :: fill f.pieces (run f.steps t).1), (run f.steps t).2) = _
  rw [String.join_cons]
  rfl

/-- A fragment inside another one gives there the text that it gives alone, over the table that
the steps before it leave. -/
theorem Within.bind {g f : Fragment} (h : g.Within f) (hg : g.Balanced) :
    ∃ before after, f.steps = before ++ g.steps ++ after ∧
      ∀ t : ParamTable, ∃ left right,
        (f.bind t).1 = left ++ (g.bind (run before t).2).1 ++ right := by
  obtain ⟨before, after, hbefore, rfl⟩ := h
  refine ⟨before.steps, after.steps, rfl, fun t => ?_⟩
  refine ⟨(before.bind t).1, (after.bind ((before ++ g).bind t).2).1, ?_⟩
  -- With as many names as slots before `g`, its own slots get its own names.
  have hboth : (before ++ g).Balanced := by
    simp only [Fragment.Balanced, append_pieces, append_steps, slots_append, adds_append]
    rw [hbefore, hg]
  rw [bind_append _ _ t hboth, bind_append _ _ t hbefore]
  rfl

/-- A bound fragment is its texts with the generated names between them. -/
theorem bind_eq_weave (f : Fragment) (t : ParamTable) (h : f.Balanced) :
    f.bind t = (weave (texts f.pieces) (run f.steps t).1, (run f.steps t).2) := by
  rw [← join_fill]
  · rfl
  · rw [length_run_names, h]

end SqlLoom.Fragment
