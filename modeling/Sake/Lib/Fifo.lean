import Mathlib.Data.List.Basic

namespace Sake.Lib.Fifo

/-- What is in flight between a producer and a consumer that both follow the same
protocol: the consumer may take every item in turn, and ends up where the producer
already is. -/
structure InFlight {C E : Type*} (next : C → E → C) (ok : C → E → Prop)
    (consumer producer : C) (queue : List E) : Prop where
  admissible : ∀ front e back, queue = front ++ e :: back → ok (front.foldl next consumer) e
  catches_up : queue.foldl next consumer = producer

section
variable {C E : Type*}

theorem InFlight.empty : InFlight next ok c c [] := by
  refine ⟨?_,rfl⟩
  intro front e back h
  simp at h

theorem InFlight.put (h : InFlight next ok c p queue) (hok : ok p e) :
    InFlight next ok c (next p e) (queue ++ [e]) := by
  refine ⟨?_,by simp [h.catches_up]⟩
  intro front x back hq
  obtain rfl | ⟨back,last,rfl⟩ := List.eq_nil_or_concat back
  · obtain ⟨rfl,hx⟩ := List.append_inj' hq rfl
    obtain ⟨rfl,-⟩ := List.cons.inj hx
    exact h.catches_up ▸ hok
  · rw [List.concat_eq_append,← List.cons_append,← List.append_assoc] at hq
    exact h.admissible front x back (List.append_inj_left' hq rfl)

theorem InFlight.take (h : InFlight next ok c p (e :: queue)) : ok c e ∧ InFlight next ok (next c e) p queue := by
  refine ⟨h.admissible [] e queue rfl,?_,h.catches_up⟩
  intro front x back hq
  exact h.admissible (e :: front) x back (congrArg (e :: ·) hq)

end

end Sake.Lib.Fifo
