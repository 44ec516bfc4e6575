import Mathlib.Data.Set.Basic
import Mathlib.Tactic.Tauto

namespace Sake.Lib.Mirror

variable {K : Type*}

/-- A set that is kept on the other side of a line. `known` is our copy of it, `pending` are the keys that
we have asked for and not heard of, and `remote` is what the other side has once it has done all we asked. -/
structure Mirrors (want known pending remote : Set K) : Prop where
  pending_want : pending ⊆ want
  known_pending : known ∪ pending = want
  remote_want : remote = want

variable {pending : Set K}

theorem Mirrors.known_eq (h : Mirrors want known pending remote) (hp : pending = ∅) : known = want := by
  rw [← h.known_pending,hp,Set.union_empty]

/-- We ask the other side to drop what is not wanted any more and to add what is not known. A key that is
pending has to stay wanted: nothing would drop it. -/
theorem Mirrors.update (h : Mirrors want known pending remote) (hp : pending ⊆ want') :
    Mirrors want' (known ∩ want') (pending ∪ want' \ known) (remote \ (known \ want') ∪ want' \ known) := by
  refine ⟨?_,?_,?_⟩
  · exact Set.union_subset hp fun k hk => hk.1
  · ext k
    have hpk := @hp k
    simp only [Set.mem_union,Set.mem_inter_iff,Set.mem_sdiff]
    tauto
  · ext k
    have hr : k ∈ remote ↔ k ∈ known ∨ k ∈ pending := by
      rw [h.remote_want,← h.known_pending]
      rfl
    have hpk := @hp k
    simp only [Set.mem_union,Set.mem_sdiff]
    tauto

/-- When nothing is wanted we may as well ask the other side to drop everything. -/
theorem Mirrors.clear (hp : pending ⊆ want') (hw : want' = ∅) :
    Mirrors want' (known ∩ want') (pending ∪ want' \ known) ∅ := by
  subst hw
  have hnone : pending = ∅ := Set.subset_empty_iff.mp hp
  subst hnone
  refine ⟨?_,?_,rfl⟩
  · exact Set.union_subset hp fun k hk => hk.1
  · ext k
    simp

theorem Mirrors.answer (h : Mirrors want known pending remote) (heard pending' : Set K) (hh : heard ⊆ pending)
    (hp : pending' ⊆ pending) (hrest : pending ⊆ heard ∪ pending') : Mirrors want (known ∪ heard) pending' remote := by
  refine ⟨hp.trans h.pending_want,?_,h.remote_want⟩
  rw [← h.known_pending]
  ext k
  have h1 := @hh k
  have h2 := @hp k
  have h3 := @hrest k
  simp only [Set.mem_union] at h3 ⊢
  tauto

end Sake.Lib.Mirror
