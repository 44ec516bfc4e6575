import Sake.InactiveUsers

namespace Sake.Proofs.InactiveUsers
open Sake.InactiveUsers Lib.Runs

variable {cfg : Config}

structure Inv (s : State) : Prop where
  count : s.numDownstreamConns = s.downstreamConns.length
  empty : Outstanding s → s.downstreamConns = []

theorem updateUser_frame (o : Outcome) (s : State) (enabled : Bool) (time : Int) :
    (updateUser o s enabled time).numDownstreamConns = s.numDownstreamConns ∧
      (updateUser o s enabled time).downstreamConns = s.downstreamConns ∧
      (updateUser o s enabled time).queue = s.queue ∧ (updateUser o s enabled time).sweep = s.sweep := by
  unfold updateUser
  grind

theorem Inv.updateUser (h : Inv s) (o : Outcome) (enabled : Bool) (time : Int) : Inv (updateUser o s enabled time) := by
  obtain ⟨hn,hc,hq,hs⟩ := updateUser_frame o s enabled time
  refine ⟨by rw [hn,hc,h.count],fun ho => ?_⟩
  rw [Outstanding,hq,hs] at ho
  rw [hc,h.empty ho]

theorem Inv.bump (h : Inv s) (o : Outcome) (dc : Conn) : Inv (bumpDownstreamInteractionTime o s dc) := by
  unfold bumpDownstreamInteractionTime
  split
  · exact h
  · exact h.updateUser o _ _

theorem Inv.handle (h : Inv s) (o : Outcome) {e : UserEvent} (he : ∀ dc, e = .connected dc → ¬ Outstanding s) :
    Inv (handle cfg o s e) := by
  cases e with
  | connected dc =>
    have hn := he dc rfl
    -- enabling the user on the way leaves what is counted alone
    generalize hr : (if !s.enabled && cfg.enableUsersOnAuth then
      Sake.InactiveUsers.updateUser o s true s.downstreamInteractedAt else s) = r
    have h' : Inv r ∧ ¬ Outstanding r := by
      obtain ⟨-,-,hq,hs⟩ := updateUser_frame o s true s.downstreamInteractedAt
      subst hr
      split
      · exact ⟨h.updateUser o _ _,by rwa [Outstanding,hq,hs]⟩
      · exact ⟨h,hn⟩
    simp only [Sake.InactiveUsers.handle,hr]
    split
    · exact h'.1
    · refine Inv.bump ?_ o dc
      exact ⟨by simp [h'.1.count],fun ho => absurd ho h'.2⟩
  | disconnected dc =>
    refine Inv.bump ?_ o dc
    split
    · next hm =>
      have := List.length_erase_of_mem hm
      have := List.length_pos_of_mem hm
      refine ⟨?_,fun ho => ?_⟩
      · have := h.count
        simp only
        omega
      · exact absurd (h.empty ho ▸ hm) List.not_mem_nil
    · exact h
  | disable => exact h.updateUser o _ _

theorem Inv.step (h : Inv s) {e : Event} (hg : Alone s e) {t : State} (ht : step cfg s e = some t) : Inv t := by
  cases e with
  | elapse n =>
    cases ht
    exact ⟨h.count,h.empty⟩
  | send dc gone =>
    cases ht
    refine ⟨h.count,fun ho => h.empty ?_⟩
    cases gone <;> simpa [Outstanding] using ho
  | list =>
    obtain ⟨-,he⟩ := Option.ite_none_right_eq_some.mp ht
    cases he
    exact ⟨h.count,fun ho => h.empty (.inr (by simpa [Outstanding] using ho))⟩
  | check =>
    obtain ⟨-,he⟩ := Option.ite_none_right_eq_some.mp ht
    cases he
    refine ⟨h.count,fun ho => ?_⟩
    by_cases hn : s.numDownstreamConns > 0
    · exact h.empty (.inr (by simpa [Outstanding,hn] using ho))
    have hl : s.downstreamConns.length = 0 := by
      have := h.count
      omega
    exact List.eq_nil_of_length_eq_zero hl
  | post =>
    obtain ⟨hc,he⟩ := Option.ite_none_right_eq_some.mp ht
    cases he
    exact ⟨h.count,fun _ => h.empty (.inl hc)⟩
  | giveUp =>
    cases ht
    exact ⟨h.count,fun ho => h.empty (.inr (by simpa [Outstanding] using ho))⟩
  | handle o =>
    simp only [Sake.InactiveUsers.step] at ht
    split at ht
    · cases ht
    next e queue hq =>
    cases ht
    have hsub : Outstanding { s with queue } → Outstanding s := by
      rintro (ho | ho)
      · exact .inl ho
      · exact .inr (hq ▸ List.mem_cons_of_mem _ ho)
    refine Inv.handle (s := { s with queue }) ⟨h.count,fun ho => h.empty (hsub ho)⟩ o ?_
    rintro dc rfl
    exact mt hsub (hg dc (by simp [hq]))

def daily : Config := ⟨10,false⟩

def yui : Conn := ⟨1,false⟩

end Sake.Proofs.InactiveUsers
