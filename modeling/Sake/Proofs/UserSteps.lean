import Sake.Proofs.UserReplies

namespace Sake.Proofs.UserCommands
open Sake.UserCommands

section
variable {s : Server}

theorem begin_fits (users : List String) (h : Fits user (.running out cmd)) :
    Fits user (begin users user out cmd) ∧ job user (begin users user out cmd) = job user (.running out cmd) := by
  cases out with
  | none =>
    cases cmd with
    | other lines => exact ⟨rfl,rfl⟩
    | update target =>
      simp only [begin]
      split
      · exact ⟨rfl,rfl⟩
      · split
        · exact ⟨⟨rfl,‹_›,nofun⟩,rfl⟩
        · exact ⟨rfl,rfl⟩
    | delete target =>
      simp only [begin]
      split
      · exact ⟨rfl,rfl⟩
      · rw [if_neg h]
        exact ⟨⟨rfl,h,nofun⟩,rfl⟩
    | run target cmd =>
      simp only [begin]
      rcases h with ⟨rfl,hflat⟩ | ⟨hne,hlocal⟩
      · rw [if_pos rfl]
        exact ⟨hflat,rfl⟩
      rw [if_neg hne]
      split
      · refine ⟨⟨rfl,hne,?_⟩,rfl⟩
        intro c hc
        cases hc
        exact hlocal
      · exact ⟨rfl,rfl⟩
  | some ch =>
    cases cmd with
    | other lines => exact ⟨rfl,rfl⟩
    | update target =>
      obtain rfl : target = user := h
      simp only [begin]
      exact ⟨rfl,rfl⟩
    | delete target => exact absurd h id
    | run target cmd =>
      obtain ⟨rfl,hlocal⟩ := h
      simp only [begin]
      exact ⟨hlocal,rfl⟩

theorem begin_ne (users : List String) (user : String) (out : Option Nat) (cmd : Cmd) :
    begin users user out cmd ≠ .ended ∧
      ∀ out' target req ch, begin users user out cmd ≠ .awaiting out' target req ch := by
  cases cmd with
  | other lines => exact ⟨nofun,nofun⟩
  | _ =>
    simp only [begin]
    split
    · exact ⟨nofun,nofun⟩
    · split <;> exact ⟨nofun,nofun⟩

theorem setBuf_same : s.setBuf ch (s.chans ch).buf = s := by simp [Server.setBuf]

theorem unread_job (hm : (ch,rest) ∈ jobs s v) :
    (s.chans ch).buf.toList.length + (rest.length + 1) ≤ unread s v ch := by
  have hmem : rest.length + 1 ∈ ((jobs s v).filter (·.1 = ch)).map fun j => j.2.length + 1 :=
    List.mem_map.mpr ⟨(ch,rest),List.mem_filter.mpr ⟨hm,by simp⟩,rfl⟩
  obtain ⟨before,after,he⟩ := List.append_of_mem hmem
  simp only [unread,he,List.sum_append,List.sum_cons]
  omega

variable (h : Invariant s)
include h

theorem take_step (hs : take s user = some t) : Invariant t := by
  simp only [take] at hs
  split at hs
  · rename_i e events hd hq
    have hfe := h.queued user e (hq ▸ List.mem_cons_self)
    cases e with
    | command cmd | userRun ch cmd =>
      cases hs
      exact take_invariant h hd hq hfe rfl rfl nofun nofun nofun
    | userUpdate ch =>
      cases hs
      exact take_update_invariant h hd hq
    | stop =>
      cases hs
      exact take_invariant h hd hq trivial rfl rfl nofun (fun _ => rfl) nofun
  · cases hs

theorem start_step (hs : start s user = some t) : Invariant t := by
  simp only [start] at hs
  split at hs
  · rename_i out cmd hd
    cases hs
    obtain ⟨hf,hj⟩ := begin_fits s.users (hd ▸ h.fits user)
    obtain ⟨hend,hnew⟩ := begin_ne s.users user out cmd
    exact h.move hf (hd ▸ hj) (by simp [hd]) hend hnew (by simp [hd])
  · cases hs

theorem post_step (hg : Prudent s (.post user)) (hs : post s user = some t) : Invariant t := by
  simp only [post] at hs
  split at hs
  · rename_i out target req hd
    split at hs
    · obtain ⟨rfl,-⟩ : out = none ∧ _ := hd ▸ h.fits user
      cases hs
      refine posted_invariant h hd ?_ ?_
      · intro hreq
        exact (hg none target req hd hreq).1
      · rintro rfl
        exact (hg none target .update hd nofun).2 rfl
    · cases hs
  · cases hs

theorem receive_step (hs : receive s user = some t) : Invariant t := by
  simp only [receive] at hs
  split at hs
  · rename_i out target hd
    obtain ⟨rfl,-⟩ : out = none ∧ _ := hd ▸ h.fits user
    split at hs
    · cases hs
      exact h.move rfl (by simp [hd,job]) (by simp [hd]) nofun nofun (by simp [hd])
    · cases hs
  · rename_i out target ch hd
    obtain ⟨rfl,-⟩ : out = none ∧ _ := hd ▸ h.fits user
    split at hs
    · cases hs
      exact h.move rfl (by simp [hd,job]) (by simp [hd]) nofun nofun (by simp [hd])
    · cases hs
  · rename_i out target ch hd
    obtain ⟨rfl,-⟩ : out = none ∧ _ := hd ▸ h.fits user
    have hasker := (h.waitsOk _ _ _ _ _ hd).asker
    split at hs
    · rename_i hb
      cases hs
      refine h.stopReading none _ hd ?_
      intro v rest hv hm
      rcases (h.jobsOk v hv ch rest hm).read with ⟨cmd,hr⟩ | ⟨-,hnone⟩
      · rw [hasker,hd] at hr
        cases hr
      · rw [hb] at hnone
        cases hnone
    · cases hs
  · rename_i out target cmd ch hd
    obtain ⟨rfl,-⟩ : out = none ∧ _ := hd ▸ h.fits user
    split at hs
    · rename_i hb
      split at hs
      · rename_i htext
        cases hs
        refine h.stopReading none _ hd ?_
        intro v rest hv hm
        obtain ⟨text',hne,he⟩ := (h.jobsOk v hv ch rest hm).lines_only _ hb
        cases he
        exact absurd htext hne
      · cases hs
        exact h.readLine hd hb
    · rename_i hb
      cases hs
      refine h.stopReading none _ hd ?_
      intro v rest hv hm
      obtain ⟨text,-,he⟩ := (h.jobsOk v hv ch rest hm).lines_only _ hb
      cases he
    · cases hs
  · cases hs

theorem timeout_step (hg : Prudent s (.timeout user)) (hs : timeout s user = some t) : Invariant t := by
  simp only [timeout] at hs
  split at hs
  · rename_i hd
    split at hs
    · cases hs
      exact h.move rfl (by simp [hd,job]) (by simp [hd]) nofun nofun (by simp [hd])
    · cases hs
  · rename_i target req ch hd
    split at hs
    · rename_i hc
      cases hs
      cases req with
      | update => exact absurd rfl hc.2
      | stop => exact h.move rfl (by simp [hd,job]) (by simp [hd]) nofun nofun (by simp [hd])
      | run cmd =>
        have hstop := h.stopReading (s.chans ch).buf [] hd ?_
        · rwa [setBuf_same] at hstop
        intro v rest hv hm
        have hasked := (h.waitsOk _ _ _ _ _ hd).asked
        obtain rfl : v = target := (h.owned v ch (mem_served_of_mem_jobs hm)).2.symm.trans hasked
        rcases hg none v cmd ch hd with he | hle
        · exact absurd he hv
        have hj := unread_job hm
        refine ⟨List.length_eq_zero_iff.mp (by omega),?_⟩
        have hz : (s.chans ch).buf.toList.length = 0 := by omega
        cases hb : (s.chans ch).buf with
        | none => rfl
        | some r =>
          rw [hb] at hz
          cases hz
    · cases hs
  · cases hs

theorem print_step (hs : print s user = some t) : Invariant t := by
  simp only [print] at hs
  split at hs
  · rename_i ch text lines after hd
    have hf := h.fits user
    rw [hd] at hf
    obtain rfl : after = .return := hf
    split at hs
    · cases hs
      have hok := h.jobsOk user (by simp [hd]) ch (text :: lines) (by simp [jobs,hd,job])
      have htext : text ≠ "" := fun he => hok.nonempty (he ▸ List.mem_cons_self)
      have hlines : "" ∉ lines := fun hm => hok.nonempty (List.mem_cons_of_mem _ hm)
      exact h.reply hd rfl (by simp) (by simp) (.inl ⟨lines,rfl,hlines,text,htext,rfl,by simp⟩)
    · cases hs
  · cases hs

theorem finish_step (hs : finish s user = some t) : Invariant t := by
  simp only [finish] at hs
  split at hs
  · rename_i out lines after hd
    have hf := h.fits user
    rw [hd] at hf
    obtain rfl : after = .return := hf
    split at hs
    · cases out with
      | none =>
        cases hs
        exact h.move trivial (by simp [hd,job]) (by simp [hd]) nofun nofun (by simp [hd])
      | some ch =>
        simp only at hs
        split at hs
        · cases hs
          exact h.reply hd trivial nofun nofun (.inr ⟨rfl,rfl⟩)
        · cases hs
    · cases hs
  · cases hs

theorem step_invariant (act : Action) (hg : Prudent s act) (hs : step s act = some t) : Invariant t := by
  cases act with
  | arrive user cmd =>
    simp only [step] at hs
    split at hs
    · cases hs
      exact arrive_invariant h hg
    · cases hs
  | take user => exact take_step h hs
  | start user => exact start_step h hs
  | post user => exact post_step h hg hs
  | receive user => exact receive_step h hs
  | timeout user => exact timeout_step h hg hs
  | print user => exact print_step h hs
  | finish user => exact finish_step h hs
  | remove user =>
    simp only [step] at hs
    split at hs
    · cases hs
      refine ⟨h.fits,h.queued,h.nodup,h.owned,?_,?_,h.grounded⟩
      · intro v hv ch rest hm
        have hok := h.jobsOk v hv ch rest hm
        exact ⟨hok.nonempty,hok.lines_only,hok.read⟩
      · intro u out target req ch hu
        have hw := h.waitsOk u out target req ch hu
        exact ⟨hw.fresh,hw.asker,hw.asked,hw.answerable⟩
    · cases hs

end

theorem init_invariant (users : List String) : Invariant (init users) := by
  have hdoing : ∀ user, (init users).doing user = .idle ∨ (init users).doing user = .ended := by
    intro user
    simp only [init]
    split
    · exact .inl rfl
    · exact .inr rfl
  have hwait : ∀ user out target req ch, (init users).doing user ≠ .awaiting out target req ch := by
    intro user out target req ch he
    rcases hdoing user with hd | hd <;> rw [hd] at he <;> cases he
  have hjob : ∀ user, job user ((init users).doing user) = [] := by
    intro user
    rcases hdoing user with hd | hd <;> rw [hd] <;> rfl
  have hserved : ∀ user, served (init users) user = [] := by
    intro user
    simp only [served,hjob]
    rfl
  refine ⟨?_,by simp [init],?_,?_,?_,?_,?_⟩
  · intro user
    rcases hdoing user with hd | hd <;> rw [hd] <;> trivial
  · intro user
    rw [hserved]
    exact List.nodup_nil
  · intro user ch hc
    rw [hserved] at hc
    cases hc
  · intro user _ ch lines hm
    simp only [jobs,hjob] at hm
    cases hm
  · intro user out target req ch hu
    exact absurd hu (hwait _ _ _ _ _)
  · refine ⟨fun x => ⟨x,?_⟩⟩
    intro y hxy
    obtain ⟨out,req,ch,hx,-⟩ := hxy
    exact absurd hx (hwait _ _ _ _ _)

end Sake.Proofs.UserCommands
