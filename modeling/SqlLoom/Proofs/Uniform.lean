import SqlLoom.Proofs.Statement

/-!
# `SqlLoom.Proofs.Uniform`: compilation over any table

What a statement compiles to does not depend on the parameters of the caller, nor on the mark of
generated names. The same writes to the table and the same texts around the generated names serve
for all of them.

* `Compiler.compile_uniform`: either the statement never compiles, or there are writes and texts
  such that the compiled text is the texts with the generated names between them. A name stands
  where the character before it and the one after it keep it apart, and a query inside the statement
  has the text and the writes that it has when it is built alone.
-/

set_option autoImplicit false

namespace SqlLoom

open Fragment

namespace Compiler

/-- The compiler with another mark of generated names. -/
def withMark (c : Compiler) (mark : String) : Compiler := { c with mark := mark }

/-- Fragments do not depend on the mark. -/
theorem fragment_withMark (c : Compiler) (mark : String) (s : Statement) :
    (c.withMark mark).fragment s = c.fragment s := by
  cases s <;> rfl

/-- A bound fragment with as many slots as names is its texts with the names between them. -/
theorem finish_withMark (c : Compiler) (mark : String) (params : Entries Value) {f : Fragment}
    (hf : f.Balanced) :
    (c.withMark mark).finish params f = ⟨weave (texts f.pieces)
        (run f.steps (.ofEntries mark params)).1,
      (run f.steps (.ofEntries mark params)).2.entries, c.dialect.name⟩ := by
  show Compiled.mk (f.bind _).1 (f.bind _).2.entries _ = _
  rw [bind_eq_weave f _ hf]
  rfl

/-- A query that compiles is built over the entries of a table as its fragment is bound to the
table. -/
theorem build_over (c : Compiler) {t : ParamTable} (ht : t.Distinct) {q : Query} {g : Fragment}
    (hg : q.fragment c.dialect = .ok g) :
    (c.withMark t.mark).build q t.entries
      = .ok ⟨(g.bind t).1, (g.bind t).2.entries, c.dialect.name⟩ := by
  have hbuild : (c.withMark t.mark).build q t.entries
      = .ok ((c.withMark t.mark).finish t.entries g) := by
    show (q.fragment c.dialect >>= fun f => pure ((c.withMark t.mark).finish t.entries f)) = _
    rw [hg]
    rfl
  rw [hbuild]
  show Except.ok (Compiled.mk (g.bind (.ofEntries t.mark t.entries)).1
    (g.bind (.ofEntries t.mark t.entries)).2.entries _) = _
  rw [ht.ofEntries_eq]
  rfl

/-- The same writes and the same texts serve for every table and every mark, unless the statement
does not compile at all. -/
theorem compile_uniform (c : Compiler) (s : Statement) :
    (∃ e, ∀ mark params, (c.withMark mark).compile params s = .error e) ∨
    ∃ steps texts, texts.length = adds steps + 1 ∧ Delimited texts ∧
      (∀ mark params,
        let final := run steps (.ofEntries mark params)
        (c.withMark mark).compile params s
            = .ok ⟨weave texts final.1, final.2.entries, c.dialect.name⟩ ∧ final.1.Nodup) ∧
      ∀ q, Part.query q ∈ s.parts c → ∃ before own after, steps = before ++ own ++ after ∧
        ∀ mark params,
          let table := (run before (.ofEntries mark params)).2
          ∃ left sql right,
            weave texts (run steps (.ofEntries mark params)).1 = left ++ sql ++ right ∧
            (c.withMark mark).build q table.entries
              = .ok ⟨sql, (run own table).2.entries, c.dialect.name⟩ := by
  cases hfragment : c.fragment s with
  | error e =>
      -- Fragments fail without looking at a table, so the error is always the same.
      refine .inl ⟨e, fun mark params => ?_⟩
      rw [compile_eq, fragment_withMark, hfragment]
      rfl
  | ok f =>
      have hstands := c.fragment_stands s f hfragment
      refine .inr ⟨f.steps, texts f.pieces, ?_, ?_, fun mark params => ⟨?_, ?_⟩, fun q hq => ?_⟩
      · rw [length_texts, hstands.balanced]
      · exact delimited_texts f.pieces hstands.delimited hstands.apart
      · rw [compile_eq, fragment_withMark, hfragment, ← finish_withMark c mark params
          hstands.balanced]
        rfl
      · exact (nodup_run_names f.steps _).1
      · -- The query stands in the fragment as a whole.
        obtain ⟨g, hg, hwithin⟩ := hstands.nested q hq
        have hbalanced := (Query.fragment_stands c.dialect q g hg).balanced
        obtain ⟨before, after, hsteps, htext⟩ := hwithin.bind hbalanced
        refine ⟨before, g.steps, after, hsteps, fun mark params => ?_⟩
        obtain ⟨left, right, hbind⟩ := htext (.ofEntries mark params)
        refine ⟨left, (g.bind (run before (.ofEntries mark params)).2).1, right, ?_, ?_⟩
        · rw [← hbind, bind_eq_weave f _ hstands.balanced]
        · -- Built alone, the query starts from a table with the same entries.
          have hdistinct := distinct_run before (ParamTable.distinct_ofEntries mark params)
          have hbuild := c.build_over hdistinct hg
          rw [mark_run] at hbuild
          exact hbuild

end Compiler

end SqlLoom
