import SqlLoom.Proofs.Fragment.Text

/-!
# `SqlLoom.Proofs.Fragment.Join`: lists of fragments one member at a time

`Fragment.join` puts a text between the members of a list, and `Fragment.joinShown` does so with
those that show something. The equations here take the first member off, so that a proof about a
list of fragments is an induction on that list.
-/

set_option autoImplicit false

namespace SqlLoom.Fragment

theorem isEmpty_append (f g : Fragment) : (f ++ g).isEmpty = (f.isEmpty && g.isEmpty) :=
  List.all_append

@[simp]
theorem join_nil (sep : String) : join sep [] = empty := rfl

@[simp]
theorem join_singleton (sep : String) (f : Fragment) : join sep [f] = f := by
  show Fragment.mk _ _ = f
  simp

theorem join_cons_cons (sep : String) (f g : Fragment) (rest : List Fragment) :
    join sep (f :: g :: rest) = f ++ ofText sep ++ join sep (g :: rest) := by
  show Fragment.mk _ _ = Fragment.mk _ _
  simp [join, concat]

/-- The first fragment of a list is left out where it shows nothing, and stands before the others
where they show something. -/
theorem joinShown_cons (sep : String) (f : Fragment) (rest : List Fragment) :
    joinShown sep (f :: rest) =
      if f.isEmpty then f.withoutText ++ joinShown sep rest
      else if (rest.filter fun g => !g.isEmpty).isEmpty then f ++ joinShown sep rest
      else f ++ ofText sep ++ joinShown sep rest := by
  cases hf : f.isEmpty with
  | true =>
      show Fragment.mk _ _ = Fragment.mk _ _
      simp [hf, joinShown, withoutText]
  | false =>
      have hfilter : ((f :: rest).filter fun g => !g.isEmpty)
          = f :: rest.filter fun g => !g.isEmpty := by
        simp [hf]
      rw [joinShown, hfilter]
      cases hshown : rest.filter fun g => !g.isEmpty with
      | nil =>
          show Fragment.mk _ _ = Fragment.mk _ _
          simp [joinShown, hshown, empty]
      | cons g gs =>
          rw [join_cons_cons]
          show Fragment.mk _ _ = Fragment.mk _ _
          simp [joinShown, hshown, ofText]

/-- A list that starts with a text shows it. -/
theorem isEmpty_joinShown_cons (sep : String) {f : Fragment} (rest : List Fragment)
    (hf : f.isEmpty = false) : (joinShown sep (f :: rest)).isEmpty = false := by
  rw [joinShown_cons, hf, if_neg Bool.false_ne_true]
  split <;> simp [isEmpty_append, hf]

end SqlLoom.Fragment
