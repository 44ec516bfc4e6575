import Sake.PushTargets

namespace Sake.Proofs.PushTargets
open Sake.PushTargets Lib.Runs Option

variable {timestamp : Int}

/-- What the marker has passed is being dismissed. -/
structure Inv (timestamp : Int) (s : State) : Prop where
  target : ∀ e m, s.target = some e → s.marker = some m → e ≤ m → s.command = some (true,m)
  read : s.check = .read → ∀ m, s.marker = some m → timestamp ≤ m → s.command = some (true,m)

theorem Inv.step (h : Inv timestamp s) {e : Event} (hg : Timely timestamp s e) {t : State}
    (ht : step timestamp s e = some t) : Inv timestamp t := by
  cases e with
  | readReceipt ok =>
    obtain ⟨-,he⟩ := ite_none_right_eq_some.mp ht
    cases he
    refine ⟨h.target,fun hr m hm hle => ?_⟩
    simp [show s.marker = some m from hm,hle] at hr
  | setTarget =>
    obtain ⟨hr,he⟩ := ite_none_right_eq_some.mp ht
    cases he
    refine ⟨fun e m he => ?_,fun hr => nomatch hr⟩
    cases he
    exact h.read hr m
  | pushMessage =>
    obtain ⟨-,he⟩ := ite_none_right_eq_some.mp ht
    cases he
    exact ⟨h.target,fun hr => nomatch hr⟩
  | markRead criteria stored =>
    obtain ⟨hc,he⟩ := ite_none_left_eq_some.mp ht
    rw [isSome_iff_ne_none,not_not] at hc
    split at he
    · split at he <;> cases he
      · exact ⟨by simp_all,by simp_all⟩
      · exact h
    · cases he
      refine ⟨fun e m he hm hle => ?_,fun hr m hm hle => ?_⟩
      · exact nomatch hc.symm.trans (h.target e m he hm hle)
      · exact nomatch hc.symm.trans (h.read hr m hm hle)
  | dismiss =>
    simp only [PushTargets.step] at ht
    split at ht
    · cases ht
    next broadcast r hc =>
    have hread : s.check = .read → ∀ m, s.marker = some m → ¬ timestamp ≤ m := by
      intro hr m hm hle
      have := hg hr m (h.read hr m hm hle)
      omega
    split at ht <;> cases ht
    · refine ⟨fun e m he hm hle => ?_,fun hr m hm hle => absurd hle (hread hr m hm)⟩
      obtain ⟨ht,hlt⟩ := filter_eq_some_iff.mp he
      cases hc.symm.trans (h.target e m ht hm hle)
      simp at hlt
      omega
    · next hb =>
      refine ⟨fun e m he hm hle => ?_,fun hr m hm hle => absurd hle (hread hr m hm)⟩
      cases hc.symm.trans (h.target e m he hm hle)
      simp [show s.target = some e from he] at hb
  | pushMarkRead =>
    obtain ⟨-,he⟩ := ite_none_right_eq_some.mp ht
    cases he
    exact ⟨h.target,h.read⟩

/-- In time, a MARKREAD removes the target of every message it covers. -/
theorem read_messages_dismissed (timestamp : Int) (marker target : Option Int)
    (h0 : ∀ e m, target = some e → marker = some m → m < e) (events : List Event)
    (hg : AllSteps (step timestamp) (Timely timestamp) { marker, target } events) :
    AllStates (step timestamp) (Dismissed timestamp) { marker, target } events := by
  refine AllStates.of_steps (Inv timestamp) ⟨fun e m he hm hle => ?_,fun hr => nomatch hr⟩ ?_
    (fun _ _ _ h hg ht => h.step hg ht) hg
  · have := h0 e m he hm
    omega
  · intro s h _ hc _ m hm _
    refine .inl fun e he => ?_
    by_contra hle
    exact nomatch hc.symm.trans (h.target e m he hm (by omega))

theorem read_after_push : AllStates (step 10) (Dismissed 10) { marker := some 5, target := none }
    [.readReceipt true,.setTarget,.pushMessage,.markRead (some 12) true,.dismiss,.pushMarkRead] := by
  apply read_messages_dismissed
  · exact fun _ _ he => nomatch he
  · refine .cons_some trivial rfl (.cons_some trivial rfl (.cons_some trivial rfl (.cons_some trivial rfl ?_)))
    exact .cons_some (fun hr => nomatch hr) rfl (.cons_some trivial rfl trivial)

/-- The marker moves after the check has read it and is applied before there is an entry. -/
theorem read_before_push : ¬ AllStates (step 10) (Dismissed 10) { marker := some 5, target := none }
    [.readReceipt true,.markRead (some 12) true,.dismiss,.setTarget,.pushMessage] := by
  intro h
  have hd : Dismissed 10 ⟨some 12,some 10,.done,none,0,[.message]⟩ := h.last rfl
  obtain h | ⟨before,after,hs,hm⟩ := hd rfl rfl rfl 12 rfl (by decide)
  · exact absurd (h 10 rfl) (by decide)
  cases before with
  | nil =>
    cases hs
    cases hm
  | cons p before => simp at hs

end Sake.Proofs.PushTargets
