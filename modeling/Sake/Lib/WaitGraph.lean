import Mathlib.Logic.Relation

namespace Sake.Lib.WaitGraph
open Relation

variable {α : Type*}

/-- Who waits for whom, without infinite chains. -/
def Grounded (waits : α → α → Prop) : Prop := WellFounded fun y x => waits x y

theorem Grounded.mono (h : Grounded w) (hle : ∀ x y, w' x y → w x y) : Grounded w' :=
  Subrelation.wf (fun {_ _} hxy => hle _ _ hxy) h

/-- Whoever does not get to `a` is not affected by a new wait of `a`. -/
theorem acc_of_not_reaching (h : Acc (fun y x => w x y) z)
    (hz : ¬ ReflTransGen w z a) : Acc (fun y x => w x y ∨ x = a ∧ y = b) z := by
  induction h with
  | intro z _ ih =>
    constructor
    intro y hy
    rcases hy with hy | ⟨rfl,-⟩
    · exact ih y hy fun hya => hz (.head hy hya)
    · exact absurd .refl hz

/-- `a` may start to wait for `b` if `b` does not, in the end, wait for `a`. -/
theorem Grounded.add (h : Grounded w) (hb : ¬ ReflTransGen w b a) : Grounded fun x y => w x y ∨ x = a ∧ y = b := by
  have hacc := acc_of_not_reaching (b := b) (h.apply b) hb
  constructor
  intro z
  induction h.apply z with
  | intro z _ ih =>
    constructor
    intro y hy
    rcases hy with hy | ⟨-,rfl⟩
    · exact ih y hy
    · exact hacc

end Sake.Lib.WaitGraph
