import SqlLoom.Proofs.Fragment.Join
import SqlLoom.Proofs.Outcome
import SqlLoom.Proofs.Parts

/-!
# `SqlLoom.Proofs.Fragment.Fits`: fragments made of parts

`Fits d parts f` says that the fragment `f` is what the parts come to: its steps are those of the
parts, every slot has an `add` and the neighbours that it needs, every raw expression among the
parts is written out, and every query among the parts stands in `f` as it compiles alone.
`Stands d parts f` says besides that `f` does not start with a slot, so that it may stand at the
start of a statement.

One theorem for each operation on fragments says how the parts of its result come from those of
its operands. Putting two fragments in a row asks that they meet well (`Meets`): a text that ends
in an opening character (`Opens`) meets anything, and so does one that starts with a closing
character (`Closes`).

* `Fits.append`, `Fits.afterStepsOf`: two fragments in a row.
* `Each.join`, `Each.joinShown`, `Each.grouped`: a list of fragments (`Each`) with a text between
  them.
-/

set_option autoImplicit false

namespace SqlLoom

open Fragment

/-! ### Meeting -/

namespace Fragment

/-- The end of the first fragment and the start of the second may stand next to each other. -/
def Meets (f g : Fragment) : Prop :=
  ∀ a ∈ (tokens f.pieces).getLast?, ∀ b ∈ (tokens g.pieces).head?, Adjacent a b

/-- The fragment ends in a character after which a generated name may stand. -/
def Opens (f : Fragment) : Prop := ∃ c ∈ openers, (tokens f.pieces).getLast? = some (some c)

/-- The fragment starts with a character before which a generated name may stand. -/
def Closes (f : Fragment) : Prop := ∃ c ∈ closers, (tokens f.pieces).head? = some (some c)

/-- The fragment has no slot. -/
def Plain (f : Fragment) : Prop := slots f.pieces = 0

/-- The slots are the tokens that are no character. -/
theorem slots_eq_count (ps : List Piece) : slots ps = (tokens ps).count none := by
  induction ps with
  | nil => rfl
  | cons p rest ih =>
      cases p with
      | text s =>
          have hchars : (s.toList.map some).count none = 0 := by
            rw [List.count_eq_zero]
            simp
          rw [slots, tokens, List.count_append, hchars, ih, Nat.zero_add]
      | slot => rw [slots, tokens, List.count_cons_self, ih]

theorem Plain.none_not_mem {f : Fragment} (h : f.Plain) : none ∉ tokens f.pieces := by
  rwa [Plain, slots_eq_count, List.count_eq_zero] at h

theorem Meets.of_opens {f : Fragment} (h : f.Opens) (g : Fragment) : f.Meets g := by
  obtain ⟨c, hc, hlast⟩ := h
  intro a ha b _
  rw [hlast] at ha
  cases ha
  cases b with
  | none => exact hc
  | some _ => trivial

theorem Meets.of_closes (f : Fragment) {g : Fragment} (h : g.Closes) : f.Meets g := by
  obtain ⟨c, hc, hhead⟩ := h
  intro a _ b hb
  rw [hhead] at hb
  cases hb
  cases a with
  | none => exact hc
  | some _ => trivial

/-- A fragment without slots meets one that does not start with a slot. -/
theorem Meets.of_plain {f g : Fragment} (hf : f.Plain)
    (hg : (tokens g.pieces).head? ≠ some none) : f.Meets g := by
  intro a ha b hb
  cases a with
  | none => exact absurd (List.mem_of_getLast? ha) hf.none_not_mem
  | some c =>
      cases b with
      | none => exact absurd hb hg
      | some e => trivial

/-- A fragment without text meets anything. -/
theorem Meets.of_nil_left {f : Fragment} (h : tokens f.pieces = []) (g : Fragment) : f.Meets g := by
  intro a ha
  rw [h] at ha
  cases ha

theorem Meets.of_nil_right (f : Fragment) {g : Fragment} (h : tokens g.pieces = []) :
    f.Meets g := by
  intro a _ b hb
  rw [h] at hb
  cases hb

/-- Only the end of the first fragment counts. -/
theorem Opens.append (f : Fragment) {g : Fragment} (h : g.Opens) : (f ++ g).Opens := by
  obtain ⟨c, hc, hlast⟩ := h
  refine ⟨c, hc, ?_⟩
  rw [append_pieces, tokens_append, List.getLast?_append, hlast]
  rfl

/-- Only the start of the second fragment counts. -/
theorem Closes.append {f : Fragment} (h : f.Closes) (g : Fragment) : (f ++ g).Closes := by
  obtain ⟨c, hc, hhead⟩ := h
  refine ⟨c, hc, ?_⟩
  rw [append_pieces, tokens_append, List.head?_append, hhead]
  rfl

theorem tokens_ofText (s : String) : tokens (ofText s).pieces = s.toList.map some := by
  simp [ofText, tokens]

theorem opens_ofText {s : String} (c : Char) (hc : c ∈ openers)
    (h : s.toList.getLast? = some c) : (ofText s).Opens := by
  refine ⟨c, hc, ?_⟩
  rw [tokens_ofText, List.getLast?_map, h]
  rfl

theorem closes_ofText {s : String} (c : Char) (hc : c ∈ closers)
    (h : s.toList.head? = some c) : (ofText s).Closes := by
  refine ⟨c, hc, ?_⟩
  rw [tokens_ofText, List.head?_map, h]
  rfl

theorem opens_ofText_append (s : String) {t : String} (c : Char) (hc : c ∈ openers)
    (h : t.toList.getLast? = some c) : (ofText (s ++ t)).Opens := by
  refine opens_ofText c hc ?_
  rw [String.toList_append, List.getLast?_append, h]
  rfl

theorem closes_ofText_append {s : String} (c : Char) (hc : c ∈ closers)
    (h : s.toList.head? = some c) (t : String) : (ofText (s ++ t)).Closes := by
  refine closes_ofText c hc ?_
  rw [String.toList_append, List.head?_append, h]
  rfl

theorem opens_of_space {s : String} (h : s.toList.getLast? = some ' ') : (ofText s).Opens :=
  opens_ofText ' ' (by decide) h

theorem closes_of_space {s : String} (h : s.toList.head? = some ' ') : (ofText s).Closes :=
  closes_ofText ' ' (by decide) h

/-- A text that ends in a space. -/
theorem opens_space (s : String) : (ofText (s ++ " ")).Opens :=
  opens_ofText_append s ' ' (by decide) rfl

/-- A text that starts with a space. -/
theorem closes_space (s : String) : (ofText (" " ++ s)).Closes :=
  closes_ofText_append ' ' (by decide) rfl s

/-! ### Text that is shown -/

/-- The characters stand in the fragment next to each other. -/
def Shows (f : Fragment) (s : String) : Prop := s.toList.map some <:+: tokens f.pieces

theorem Shows.append_right {f : Fragment} {s : String} (h : f.Shows s) (g : Fragment) :
    (f ++ g).Shows s := by
  rw [Shows, append_pieces, tokens_append]
  exact h.trans (List.prefix_append _ _).isInfix

theorem Shows.append_left {f : Fragment} {s : String} (h : f.Shows s) (g : Fragment) :
    (g ++ f).Shows s := by
  rw [Shows, append_pieces, tokens_append]
  exact h.trans (List.suffix_append _ _).isInfix

theorem infix_between (a s b : String) : s.toList <:+: (a ++ s ++ b).toList :=
  ⟨a.toList, b.toList, by simp⟩

theorem infix_after (a s : String) : s.toList <:+: (a ++ s).toList :=
  ⟨a.toList, [], by simp⟩

theorem shows_ofText {s t : String} (h : s.toList <:+: t.toList) : (ofText t).Shows s := by
  rw [Shows, tokens_ofText]
  exact h.map some

/-! ### Fragments without text -/

/-- A fragment has no text where it has no tokens. -/
theorem isEmpty_iff_tokens (f : Fragment) : f.isEmpty = true ↔ tokens f.pieces = [] := by
  obtain ⟨steps, ps⟩ := f
  show (ps.all _) = true ↔ tokens ps = []
  induction ps with
  | nil => simp [tokens]
  | cons p rest ih =>
      rw [List.all_cons, Bool.and_eq_true, ih]
      cases p with
      | text s => simp [tokens]
      | slot => simp [tokens]

/-- What holds text is not empty. -/
theorem Within.isEmpty_eq_false {g f : Fragment} (h : g.Within f) (hg : g.isEmpty = false) :
    f.isEmpty = false := by
  obtain ⟨before, after, -, rfl⟩ := h
  simp [isEmpty_append, hg]

/-! ### Inside one another -/

theorem Within.refl (f : Fragment) : f.Within f := by
  refine ⟨empty, empty, rfl, ?_⟩
  show f = Fragment.mk _ _
  simp [empty]

theorem Within.append_right {g f : Fragment} (h : g.Within f) (f' : Fragment) :
    g.Within (f ++ f') := by
  obtain ⟨before, after, hbefore, rfl⟩ := h
  exact ⟨before, after ++ f', hbefore, by simp only [append_assoc]⟩

theorem Within.append_left {g f : Fragment} (h : g.Within f) {f' : Fragment} (hf' : f'.Balanced) :
    g.Within (f' ++ f) := by
  obtain ⟨before, after, hbefore, rfl⟩ := h
  refine ⟨f' ++ before, after, ?_, by simp only [append_assoc]⟩
  rw [Fragment.Balanced, append_pieces, append_steps, slots_append, adds_append, hf', hbefore]

/-- The text of a plain fragment may come before, and its steps after. -/
theorem Within.afterStepsOf {g f : Fragment} (h : g.Within f) {name : Fragment}
    (hname : name.Plain) : g.Within (name.afterStepsOf f) := by
  obtain ⟨before, after, hbefore, rfl⟩ := h
  refine ⟨⟨before.steps, name.pieces ++ before.pieces⟩, ⟨after.steps ++ name.steps, after.pieces⟩,
    ?_, ?_⟩
  · show slots _ = adds _
    rw [slots_append, hname, Nat.zero_add]
    exact hbefore
  · show Fragment.mk _ _ = Fragment.mk _ _
    simp

/-! ### Texts around a fragment -/

/-- The fragment by itself, before a text, or between two texts. -/
inductive Framed (f : Fragment) : Fragment → Prop where
  | bare : Framed f f
  | before {tail : String} (htail : (ofText tail).Closes) : Framed f (f ++ ofText tail)
  | around {head tail : String} (hhead : (ofText head).Opens) (htail : (ofText tail).Closes) :
    Framed f (ofText head ++ f ++ ofText tail)

theorem Framed.parens (f : Fragment) : Framed f f.parens :=
  .around (opens_ofText '(' (by decide) rfl) (closes_ofText ')' (by decide) rfl)

theorem Framed.isEmpty_eq_false {f g : Fragment} (h : Framed f g) (hf : f.isEmpty = false) :
    g.isEmpty = false := by
  cases h with
  | bare => exact hf
  | before _ => simp [isEmpty_append, hf]
  | around _ _ => simp [isEmpty_append, hf]

end Fragment

/-! ### A query has text -/

theorem isEmpty_selectHead (distinct option : Value) :
    (ofText (selectHead distinct option ++ " ")).isEmpty = false := by
  rw [Bool.eq_false_iff, Ne, isEmpty_iff_tokens, tokens_ofText]
  simp

theorem isEmpty_selectClause (distinct option : Value) (items : List Fragment) :
    (selectClause distinct option items).isEmpty = false := by
  rw [selectClause, isEmpty_append, isEmpty_selectHead, Bool.false_and]

/-- The words before the select list write out an option that is an expression. -/
theorem selectHead_shows (distinct : Value) (e : Expression) :
    e.text.toList <:+: (selectHead distinct (.expr e) ++ " ").toList := by
  unfold selectHead
  show _ <:+: (_ ++ (" " ++ e.text) ++ " ").toList
  rw [← String.append_assoc]
  exact infix_between _ e.text " "

/-- The clauses that limit the rows write out their expressions. -/
theorem limitClause_shows (d : Dialect) {limit offset : Value} (e : Expression)
    (h : limit = .expr e ∨ offset = .expr e) :
    e.text.toList <:+: (d.limitClause limit offset).toList := by
  rcases h with rfl | rfl
  · have hlimit : (Value.expr e).hasLimit = true := rfl
    cases hoffset : offset.hasOffset with
    | true =>
        rw [Dialect.limitClause, hlimit, hoffset, String.append_assoc]
        exact infix_between "LIMIT " e.text _
    | false =>
        rw [Dialect.limitClause, hlimit, hoffset]
        exact infix_after "LIMIT " e.text
  · have hoffset : (Value.expr e).hasOffset = true := rfl
    cases hlimit : limit.hasLimit with
    | true =>
        rw [Dialect.limitClause, hlimit, hoffset]
        exact infix_after _ e.text
    | false =>
        unfold Dialect.limitClause
        rw [hlimit, hoffset]
        cases d.backend <;> exact infix_after _ e.text

/-- The conditions on row numbers write out their expressions. -/
theorem rowFilters_shows {limit offset : Value} (e : Expression)
    (h : limit = .expr e ∨ offset = .expr e) :
    e.text.toList <:+: (" AND ".intercalate (Dialect.rowFilters limit offset)).toList := by
  rcases h with rfl | rfl
  · have hlimit : (Value.expr e).hasLimit = true := rfl
    cases hoffset : offset.hasOffset with
    | true =>
        rw [Dialect.rowFilters, hlimit, hoffset]
        show _ <:+: ("ROWNUMID > " ++ offset.shown ++ " AND " ++ ("ROWNUM <= " ++ e.text)).toList
        rw [← String.append_assoc]
        exact infix_after _ e.text
    | false =>
        rw [Dialect.rowFilters, hlimit, hoffset]
        exact infix_after "ROWNUM <= " e.text
  · have hoffset : (Value.expr e).hasOffset = true := rfl
    cases hlimit : limit.hasLimit with
    | true =>
        rw [Dialect.rowFilters, hlimit, hoffset]
        show _ <:+: ("ROWNUMID > " ++ e.text ++ " AND " ++ ("ROWNUM <= " ++ limit.shown)).toList
        rw [String.append_assoc]
        exact infix_between _ e.text _
    | false =>
        rw [Dialect.rowFilters, hlimit, hoffset]
        exact infix_after "ROWNUMID > " e.text

/-- Ordering and paging put texts around a query with its ordering, and write out the expressions
that limit its rows. -/
theorem gives_paged (d : Dialect) (sql : Fragment) (keys : List OrderKey) (limit offset : Value) :
    Gives (d.paged sql keys limit offset) fun f =>
      (∃ order, d.orderClause keys = .ok order ∧
        Framed (if order.isEmpty then sql ++ order else sql ++ ofText " " ++ order) f) ∧
      ∀ e, limit = .expr e ∨ offset = .expr e → f.Shows e.text := by
  rw [Dialect.paged]
  refine Gives.andThen fun order horder => ?_
  generalize hordered : (if order.isEmpty then sql ++ order else sql ++ ofText " " ++ order)
    = ordered
  refine Gives.imp (P := fun f => Framed ordered f ∧
    ∀ e, limit = .expr e ∨ offset = .expr e → f.Shows e.text) ?_
    fun f hf => ⟨⟨order, horder, hordered ▸ hf.1⟩, hf.2⟩
  -- From here on it does not matter what is ordered, only what is put around it.
  clear horder hordered
  dsimp only
  split
  · split
    · -- No condition on row numbers: an expression among them has no text.
      rename_i hempty
      refine Gives.pure ⟨.bare, fun e he => ?_⟩
      have hshown := rowFilters_shows e he
      rw [List.isEmpty_iff.mp hempty] at hshown
      rw [Shows, List.eq_nil_of_infix_nil hshown]
      exact List.nil_infix
    · refine Gives.pure ⟨.around (opens_ofText '(' (by decide) rfl) ?_, fun e he => ?_⟩
      · rw [String.append_assoc]
        exact closes_ofText_append ')' (by decide) rfl _
      · refine Shows.append_left (shows_ofText ?_) _
        rw [String.toList_append]
        exact (rowFilters_shows e he).trans (List.suffix_append _ _).isInfix
  · refine Gives.pure ?_
    split
    · -- No clause to limit the rows: an expression in it has no text.
      rename_i hempty
      refine ⟨.bare, fun e he => ?_⟩
      have hshown := limitClause_shows d e he
      rw [String.isEmpty_iff.mp hempty] at hshown
      rw [Shows, List.eq_nil_of_infix_nil hshown]
      exact List.nil_infix
    · refine ⟨.before (closes_space _), fun e he => Shows.append_left (shows_ofText ?_) _⟩
      rw [String.toList_append]
      exact (limitClause_shows d e he).trans (List.suffix_append _ _).isInfix

/-- A query compiles to a text that is not empty: it selects something. -/
theorem Query.gives_text (d : Dialect) (q : Query) :
    Gives (q.fragment d) fun f => f.isEmpty = false := by
  obtain ⟨items, distinct, option, sources, joins, filter, grouping, groupFilter, ordering, limit,
    offset, branches, params⟩ := q
  rw [Query.fragment]
  -- Whatever the clauses are, the first one selects something.
  iterate 6 refine Gives.andThen fun _ _ => ?_
  refine Gives.bind (gives_paged d _ ordering limit offset) fun paged hpaged => ?_
  obtain ⟨⟨order, -, hframed⟩, -⟩ := hpaged
  have hpaged : paged.isEmpty = false := by
    refine hframed.isEmpty_eq_false ?_
    split <;> simp [isEmpty_append, isEmpty_joinShown_cons, isEmpty_selectClause]
  refine Gives.andThen fun united _ => Gives.pure ?_
  split
  · exact hpaged
  · simp [parens, isEmpty_append, hpaged]

/-! ### Fragments of parts -/

variable {d : Dialect}

/-- The fragment is what the parts come to. -/
structure Fits (d : Dialect) (parts : List Part) (f : Fragment) : Prop where
  /-- Its table steps are those of the parts, in order. -/
  steps : f.steps = parts.flatMap Part.steps
  /-- Every slot has an `add` of its own. -/
  balanced : f.Balanced
  /-- Every slot has the neighbours that it needs. -/
  delimited : (tokens f.pieces).IsChain Adjacent
  /-- Every raw expression is written out. -/
  shown : ∀ p ∈ parts, ∀ e, p.expression? = some e → f.Shows e.text
  /-- Every query stands in it as it compiles alone. -/
  nested : ∀ q, Part.query q ∈ parts → ∃ g, q.fragment d = .ok g ∧ g.Within f

/-- The fragment is what the parts come to, and it does not start with a slot. -/
structure Stands (d : Dialect) (parts : List Part) (f : Fragment) : Prop extends
    Fits d parts f where
  apart : (tokens f.pieces).head? ≠ some none

/-- The parts are raw expressions, which bind nothing. -/
def Raw (parts : List Part) : Prop := ∀ p ∈ parts, ∃ e, p = Part.raw e

theorem Raw.query_not_mem {parts : List Part} (h : Raw parts) (q : Query) :
    Part.query q ∉ parts := by
  intro hq
  obtain ⟨e, he⟩ := h _ hq
  cases he

theorem Raw.adds_eq_zero {parts : List Part} (h : Raw parts) :
    adds (parts.flatMap Part.steps) = 0 := by
  induction parts with
  | nil => rfl
  | cons p rest ih =>
      obtain ⟨e, rfl⟩ := h p List.mem_cons_self
      rw [List.flatMap_cons, adds_append, ih fun p hp => h p (List.mem_cons_of_mem _ hp)]
      rfl

namespace Fits

/-- A fragment whose parts bind nothing has no slot. -/
theorem plain {parts : List Part} {f : Fragment} (h : Fits d parts f) (hraw : Raw parts) :
    f.Plain := by
  rw [Plain, h.balanced, h.steps, hraw.adds_eq_zero]

theorem ofText (d : Dialect) (s : String) : Fits d [] (ofText s) where
  steps := rfl
  balanced := rfl
  delimited := by
    -- Characters may stand next to each other.
    rw [tokens_ofText, List.isChain_map]
    exact (List.pairwise_of_forall fun _ _ => trivial).isChain
  shown _ h := absurd h List.not_mem_nil
  nested _ h := absurd h List.not_mem_nil

theorem empty (d : Dialect) : Fits d [] Fragment.empty where
  steps := rfl
  balanced := rfl
  delimited := List.isChain_nil
  shown _ h := absurd h List.not_mem_nil
  nested _ h := absurd h List.not_mem_nil

theorem append {ps qs : List Part} {f g : Fragment} (hf : Fits d ps f) (hg : Fits d qs g)
    (h : f.Meets g) : Fits d (ps ++ qs) (f ++ g) where
  steps := by rw [append_steps, hf.steps, hg.steps, List.flatMap_append]
  balanced := by
    rw [Fragment.Balanced, append_pieces, append_steps, slots_append, adds_append, hf.balanced,
      hg.balanced]
  delimited := by
    rw [append_pieces, tokens_append, List.isChain_append]
    exact ⟨hf.delimited, hg.delimited, h⟩
  shown p hp e he := by
    rcases List.mem_append.mp hp with hp | hp
    · exact (hf.shown p hp e he).append_right g
    · exact (hg.shown p hp e he).append_left f
  nested q hq := by
    rcases List.mem_append.mp hq with hq | hq
    · obtain ⟨r, hr, hwithin⟩ := hf.nested q hq
      exact ⟨r, hr, hwithin.append_right g⟩
    · obtain ⟨r, hr, hwithin⟩ := hg.nested q hq
      exact ⟨r, hr, hwithin.append_left hf.balanced⟩

/-- A fragment of no parts in front. -/
theorem append_left {qs : List Part} {f g : Fragment} (hf : Fits d [] f) (hg : Fits d qs g)
    (h : f.Meets g) : Fits d qs (f ++ g) := hf.append hg h

/-- A fragment of no parts behind. -/
theorem append_right {ps : List Part} {f g : Fragment} (hf : Fits d ps f) (hg : Fits d [] g)
    (h : f.Meets g) : Fits d ps (f ++ g) := by
  have hboth := hf.append hg h
  rwa [List.append_nil] at hboth

/-- The text of a name may stand before what is compiled first. -/
theorem afterStepsOf {ps qs : List Part} {name f : Fragment} (hname : Fits d ps name)
    (hraw : Raw ps) (hf : Fits d qs f) (h : name.Meets f) :
    Fits d (qs ++ ps) (name.afterStepsOf f) where
  steps := by
    show f.steps ++ name.steps = _
    rw [hf.steps, hname.steps, List.flatMap_append]
  balanced := by
    show slots (name.pieces ++ f.pieces) = adds (f.steps ++ name.steps)
    rw [slots_append, adds_append, hname.balanced, hf.balanced, Nat.add_comm]
  delimited := by
    show (tokens (name.pieces ++ f.pieces)).IsChain Adjacent
    rw [tokens_append, List.isChain_append]
    exact ⟨hname.delimited, hf.delimited, h⟩
  shown p hp e he := by
    rcases List.mem_append.mp hp with hp | hp
    · exact (hf.shown p hp e he).append_left name
    · exact (hname.shown p hp e he).append_right f
  nested q hq := by
    rcases List.mem_append.mp hq with hq | hq
    · -- The name moves in front of the query, and it has no slot that would take a name.
      obtain ⟨r, hr, hwithin⟩ := hf.nested q hq
      exact ⟨r, hr, hwithin.afterStepsOf (hname.plain hraw)⟩
    · exact absurd hq (hraw.query_not_mem q)

/-- A query among the parts has text. -/
theorem query_not_mem {ps : List Part} {f : Fragment} (hf : Fits d ps f)
    (hempty : f.isEmpty = true) (q : Query) : Part.query q ∉ ps := by
  intro hq
  obtain ⟨g, hg, hwithin⟩ := hf.nested q hq
  rw [hwithin.isEmpty_eq_false (q.gives_text d g hg)] at hempty
  cases hempty

/-- A fragment that shows nothing is left out but for its table steps. -/
theorem withoutText {ps : List Part} {f : Fragment} (hf : Fits d ps f)
    (hempty : f.isEmpty = true) : Fits d ps f.withoutText where
  steps := hf.steps
  balanced := by
    show 0 = adds f.steps
    rw [← hf.balanced, slots_eq_count, (isEmpty_iff_tokens f).mp hempty]
    rfl
  delimited := List.isChain_nil
  shown p hp e he := by
    have hshown := hf.shown p hp e he
    rw [Shows, (isEmpty_iff_tokens f).mp hempty] at hshown
    exact hshown
  nested q hq := absurd hq (hf.query_not_mem hempty q)

/-- A text that binds nothing may stand without its table steps. -/
theorem textOnly {ps : List Part} {f : Fragment} (hf : Fits d ps f) (hraw : Raw ps) :
    Fits d [] f.textOnly where
  steps := rfl
  balanced := hf.plain hraw
  delimited := hf.delimited
  shown _ hp := absurd hp List.not_mem_nil
  nested _ hq := absurd hq List.not_mem_nil

/-- An expression may be written out and its parameters left behind. -/
theorem bare {ps : List Part} {f : Fragment} (hf : Fits d ps f) (v : Value)
    (hv : ∀ e, v = .expr e → f.Shows e.text) : Fits d (ps ++ v.bareParts) f := by
  cases v with
  | expr e =>
      -- A bare part adds no step and is no query.
      refine ⟨?_, hf.balanced, hf.delimited, ?_, ?_⟩
      · rw [List.flatMap_append, hf.steps]
        exact (List.append_nil _).symm
      · intro p hp e' he'
        rcases List.mem_append.mp hp with hp | hp
        · exact hf.shown p hp e' he'
        · rw [List.mem_singleton.mp hp] at he'
          cases he'
          exact hv e rfl
      · intro q hq
        rcases List.mem_append.mp hq with hq | hq
        · exact hf.nested q hq
        · cases List.mem_singleton.mp hq
  | _ =>
      rw [show Value.bareParts _ = [] from rfl, List.append_nil]
      exact hf

/-- A query stands in itself. -/
theorem query {ps : List Part} {f : Fragment} (hf : Fits d ps f) {q : Query}
    (hq : q.fragment d = .ok f) : Fits d (.query q :: ps) f where
  steps := hf.steps
  balanced := hf.balanced
  delimited := hf.delimited
  shown p hp e he := by
    rcases List.mem_cons.mp hp with rfl | hmem
    · cases he
    · exact hf.shown p hmem e he
  nested r hr := by
    rcases List.mem_cons.mp hr with heq | hmem
    · cases heq
      exact ⟨f, hq, .refl f⟩
    · exact hf.nested r hmem

/-- Texts around a fragment bring no parts. -/
theorem framed {ps : List Part} {f g : Fragment} (hf : Fits d ps f) (h : Framed f g) :
    Fits d ps g := by
  cases h with
  | bare => exact hf
  | before htail => exact hf.append_right (ofText d _) (.of_closes f htail)
  | around hhead htail =>
      exact ((ofText d _).append_left hf (.of_opens hhead f)).append_right (ofText d _)
        (.of_closes _ htail)

theorem parens {ps : List Part} {f : Fragment} (hf : Fits d ps f) : Fits d ps f.parens :=
  hf.framed (.parens f)

/-- The parameters of a query are taken over before anything else. -/
theorem merging (d : Dialect) (params : Entries Value) :
    Fits d [.named params] (Fragment.merging params) where
  steps := rfl
  balanced := rfl
  delimited := List.isChain_nil
  shown p hp e he := by
    rw [List.mem_singleton.mp hp] at he
    cases he
  nested q h := by simp at h

theorem bound (d : Dialect) (v : Value) : Fits d [.bound v] (Fragment.bound v) where
  steps := rfl
  balanced := rfl
  delimited := List.isChain_singleton _
  shown p hp e he := by
    rw [List.mem_singleton.mp hp] at he
    cases he
  nested q h := by simp at h

end Fits

/-! ### Fragments at the start -/

/-- Two runs of tokens do not start with a slot where neither of them does. -/
theorem apart_append {ts us : List (Option Char)} (ht : ts.head? ≠ some none)
    (hu : us.head? ≠ some none) : (ts ++ us).head? ≠ some none := by
  cases ts with
  | nil => exact hu
  | cons t rest => exact ht

namespace Stands

theorem bare {ps : List Part} {f : Fragment} (hf : Stands d ps f) (v : Value)
    (hv : ∀ e, v = .expr e → f.Shows e.text) : Stands d (ps ++ v.bareParts) f :=
  ⟨hf.toFits.bare v hv, hf.apart⟩

theorem ofText (d : Dialect) (s : String) : Stands d [] (ofText s) where
  toFits := .ofText d s
  apart := by
    rw [tokens_ofText, List.head?_map]
    cases s.toList.head? <;> exact fun h => by cases h

theorem empty (d : Dialect) : Stands d [] Fragment.empty where
  toFits := .empty d
  apart h := by cases h

theorem ofExpression (d : Dialect) (e : Expression) :
    Stands d [.raw e] (Fragment.ofExpression e) where
  steps := rfl
  balanced := rfl
  delimited := (Stands.ofText d e.text).delimited
  shown p hp e' he := by
    rw [List.mem_singleton.mp hp] at he
    cases he
    exact shows_ofText (List.infix_refl _)
  nested q h := by simp at h
  apart := (Stands.ofText d e.text).apart

theorem merging (d : Dialect) (params : Entries Value) :
    Stands d [.named params] (Fragment.merging params) where
  toFits := .merging d params
  apart h := by cases h

/-- A fragment stands where its parts fit and it starts as one that stands, not with nothing. -/
theorem of_append {ps qs : List Part} {f g : Fragment} (hf : Stands d ps f)
    (hne : f.isEmpty = false) (hfits : Fits d qs (f ++ g)) : Stands d qs (f ++ g) where
  toFits := hfits
  apart := by
    rw [append_pieces, tokens_append]
    cases htokens : tokens f.pieces with
    | nil =>
        rw [(isEmpty_iff_tokens f).mpr htokens] at hne
        cases hne
    | cons t ts =>
        -- The first token of both is the first one of `f`.
        have hapart := hf.apart
        rw [htokens] at hapart
        exact hapart

theorem append {ps qs : List Part} {f g : Fragment} (hf : Stands d ps f) (hg : Stands d qs g)
    (h : f.Meets g) : Stands d (ps ++ qs) (f ++ g) where
  toFits := hf.toFits.append hg.toFits h
  apart := by
    rw [append_pieces, tokens_append]
    exact apart_append hf.apart hg.apart

theorem afterStepsOf {ps qs : List Part} {name f : Fragment} (hname : Stands d ps name)
    (hraw : Raw ps) (hf : Stands d qs f) : Stands d (qs ++ ps) (name.afterStepsOf f) where
  toFits := hname.toFits.afterStepsOf hraw hf.toFits (.of_plain (hname.plain hraw) hf.apart)
  apart := by
    show (tokens (name.pieces ++ f.pieces)).head? ≠ some none
    rw [tokens_append]
    exact apart_append hname.apart hf.apart

/-- A text in front of a fragment that fits. -/
theorem text_append {qs : List Part} {s : String} {g : Fragment} (hs : (Fragment.ofText s).Opens)
    (hg : Fits d qs g) : Stands d qs (Fragment.ofText s ++ g) := by
  refine (Stands.ofText d s).of_append ?_ ((Fits.ofText d s).append_left hg (.of_opens hs g))
  obtain ⟨c, -, hlast⟩ := hs
  rw [Bool.eq_false_iff, Ne, isEmpty_iff_tokens]
  intro hnil
  rw [hnil] at hlast
  cases hlast

theorem framed {ps : List Part} {f g : Fragment} (hf : Stands d ps f) (h : Framed f g) :
    Stands d ps g := by
  cases h with
  | bare => exact hf
  | before htail =>
      have hboth := hf.append (ofText d _) (.of_closes f htail)
      rwa [List.append_nil] at hboth
  | around hhead htail =>
      rw [append_assoc]
      exact text_append hhead (hf.toFits.append_right (.ofText d _) (.of_closes f htail))

end Stands

theorem Fits.parens_stands {ps : List Part} {f : Fragment} (hf : Fits d ps f) :
    Stands d ps f.parens := by
  rw [Fragment.parens, append_assoc]
  exact Stands.text_append (opens_ofText '(' (by decide) rfl)
    (hf.append_right (.ofText d _) (.of_closes f (closes_ofText ')' (by decide) rfl)))

/-! ### Lists of fragments -/

/-- Each fragment of a list has the parts that stand at its place. -/
inductive Each (P : List Part → Fragment → Prop) : List Part → List Fragment → Prop where
  | nil : Each P [] []
  | cons {ps qs : List Part} {f : Fragment} {fs : List Fragment} :
    P ps f → Each P qs fs → Each P (ps ++ qs) (f :: fs)

namespace Each

theorem imp {P Q : List Part → Fragment → Prop} {ps : List Part} {fs : List Fragment}
    (h : Each P ps fs) (hPQ : ∀ ps f, P ps f → Q ps f) : Each Q ps fs := by
  induction h with
  | nil => exact .nil
  | cons hf _ ih => exact .cons (hPQ _ _ hf) ih

/-- Every fragment of a list may be changed in the same way. -/
theorem mapFragments {P Q : List Part → Fragment → Prop} {g : Fragment → Fragment}
    {ps : List Part} {fs : List Fragment} (h : Each P ps fs)
    (hPQ : ∀ ps f, P ps f → Q ps (g f)) : Each Q ps (fs.map g) := by
  induction h with
  | nil => exact .nil
  | cons hf _ ih => exact .cons (hPQ _ _ hf) ih

theorem singleton {P : List Part → Fragment → Prop} {ps : List Part} {f : Fragment} (h : P ps f) :
    Each P ps [f] := by
  have hboth := Each.cons h .nil
  rwa [List.append_nil] at hboth

theorem map {α : Type} {P : List Part → Fragment → Prop} {parts : α → List Part}
    {f : α → Fragment} (as : List α) (h : ∀ a, P (parts a) (f a)) :
    Each P (as.flatMap parts) (as.map f) := by
  induction as with
  | nil => exact .nil
  | cons a as ih =>
      rw [List.flatMap_cons, List.map_cons]
      exact .cons (h a) ih

/-- There are as many fragments as there are members. -/
theorem mapM {α : Type} {P : List Part → Fragment → Prop} {parts : α → List Part}
    {f : α → Except Error Fragment} (as : List α) (h : ∀ a, Gives (f a) (P (parts a))) :
    Gives (as.mapM f) fun fs => Each P (as.flatMap parts) fs ∧ fs.length = as.length := by
  induction as with
  | nil => exact Gives.pure ⟨.nil, rfl⟩
  | cons a as ih =>
      rw [List.mapM_cons, List.flatMap_cons]
      refine Gives.bind (h a) fun g hg => ?_
      refine Gives.bind ih fun gs hgs => Gives.pure ⟨.cons hg hgs.1, ?_⟩
      rw [List.length_cons, List.length_cons, hgs.2]

/-- A text between two fragments closes the one before it and opens the one after it. -/
theorem join {sep : String} (hopens : (ofText sep).Opens) (hcloses : (ofText sep).Closes)
    {ps : List Part} {fs : List Fragment} (h : Each (Fits d) ps fs) :
    Fits d ps (Fragment.join sep fs) := by
  induction h with
  | nil => exact .empty d
  | @cons ps qs f fs hf hfs ih =>
      cases hfs with
      | nil =>
          rw [join_singleton, List.append_nil]
          exact hf
      | @cons _ _ g rest _ _ =>
          -- The separator closes `f` and opens the rest.
          rw [join_cons_cons]
          exact (hf.append_right (.ofText d sep) (.of_closes f hcloses)).append ih
            (.of_opens (hopens.append f) _)

theorem join_stands {sep : String} (hopens : (ofText sep).Opens) (hcloses : (ofText sep).Closes)
    {ps : List Part} {fs : List Fragment} (h : Each (Stands d) ps fs) :
    Stands d ps (Fragment.join sep fs) := by
  refine ⟨(h.imp fun _ _ hf => hf.toFits).join hopens hcloses, ?_⟩
  induction h with
  | nil => exact fun h => by cases h
  | @cons ps qs f fs hf hfs ih =>
      cases hfs with
      | nil =>
          rw [join_singleton]
          exact hf.apart
      | @cons _ _ g rest _ _ =>
          rw [join_cons_cons, append_pieces, append_pieces, tokens_append, tokens_append]
          exact apart_append (apart_append hf.apart (Stands.ofText d sep).apart) ih

/-- Fragments that show nothing leave only their steps. -/
theorem joinShown {sep : String} (hopens : (ofText sep).Opens) (hcloses : (ofText sep).Closes)
    {ps : List Part} {fs : List Fragment} (h : Each (Fits d) ps fs) :
    Fits d ps (Fragment.joinShown sep fs) := by
  induction h with
  | nil => exact .empty d
  | @cons ps qs f fs hf hfs ih =>
      rw [joinShown_cons]
      by_cases hempty : f.isEmpty = true
      · -- `f` leaves its steps and no separator.
        rw [if_pos hempty]
        exact (hf.withoutText hempty).append ih (.of_nil_left rfl _)
      · rw [if_neg hempty]
        by_cases hlast : (fs.filter fun g => !g.isEmpty).isEmpty = true
        · -- Nothing is shown after `f`.
          rw [if_pos hlast]
          refine hf.append ih (.of_nil_right f ?_)
          rw [Fragment.joinShown, List.isEmpty_iff.mp hlast]
          rfl
        · rw [if_neg hlast]
          exact (hf.append_right (.ofText d sep) (.of_closes f hcloses)).append ih
            (.of_opens (hopens.append f) _)

/-- A list that starts with a text stands. -/
theorem joinShown_stands {sep : String} (hopens : (ofText sep).Opens)
    (hcloses : (ofText sep).Closes) {ps qs : List Part} {f : Fragment} {fs : List Fragment}
    (hf : Stands d ps f) (hne : f.isEmpty = false) (h : Each (Fits d) qs fs) :
    Stands d (ps ++ qs) (Fragment.joinShown sep (f :: fs)) := by
  have hfits := Each.joinShown hopens hcloses (.cons hf.toFits h)
  rw [joinShown_cons, hne, if_neg Bool.false_ne_true] at hfits ⊢
  split at hfits
  · rename_i hlast
    rw [if_pos hlast]
    exact hf.of_append hne hfits
  · rename_i hlast
    rw [if_neg hlast]
    rw [append_assoc] at hfits ⊢
    exact hf.of_append hne hfits

/-- Parentheses around the fragments that are shown. -/
theorem grouped (op : String) {ps : List Part} {fs : List Fragment} (h : Each (Fits d) ps fs) :
    Stands d ps (Fragment.grouped op fs) := by
  have hopens : (ofText (") " ++ op ++ " (")).Opens :=
    opens_ofText_append _ '(' (by decide) rfl
  have hcloses : (ofText (") " ++ op ++ " (")).Closes := by
    rw [String.append_assoc]
    exact closes_ofText_append ')' (by decide) rfl _
  have hbody := h.joinShown hopens hcloses
  rw [Fragment.grouped]
  split
  · rename_i hempty
    refine ⟨hbody, ?_⟩
    rw [(isEmpty_iff_tokens _).mp hempty]
    exact fun h => by cases h
  · exact hbody.parens_stands

end Each

end SqlLoom
