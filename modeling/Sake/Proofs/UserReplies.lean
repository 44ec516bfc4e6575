import Sake.Proofs.UserCommands

namespace Sake.Proofs.UserCommands
open Sake.UserCommands Sake.Lib.WaitGraph Relation List

variable {target : String} {req : Request}

section
variable {s : Server} {user : String}

theorem take_update_invariant (h : Invariant s) (hd : s.doing user = .idle)
    (hq : s.queue user = .userUpdate ch :: events) : Invariant ((s.setQueue user events).setBuf ch (some .final)) := by
  have hserved : served s user = ch :: events.flatMap eventChans := by simp [served,hd,hq,job,eventChans]
  have hmem : ch ∈ served s user := hserved ▸ mem_cons_self
  have hjobs : ∀ v, jobs ((s.setQueue user events).setBuf ch (some .final)) v = jobs s v := by
    intro v
    by_cases hv : v = user
    · subst v
      simp [jobs,hq,eventJob]
    · exact jobs_congr rfl (setQueue_ne hv events)
  have hnodup := nodup_cons.mp (hserved ▸ h.nodup user)
  have hown : served ((s.setQueue user events).setBuf ch (some .final)) user = events.flatMap eventChans := by
    simp [served,hd,job]
  have hothers : ∀ {v}, v ≠ user → served ((s.setQueue user events).setBuf ch (some .final)) v = served s v :=
    fun hv => served_congr rfl (setQueue_ne hv events)
  refine ⟨h.fits,?_,?_,?_,?_,?_,h.grounded⟩
  · intro u e he
    by_cases hu : u = user
    · subst u
      rw [setBuf_queue,setQueue_self] at he
      exact h.queued user e (hq ▸ mem_cons_of_mem _ he)
    · rw [setBuf_queue,setQueue_ne hu] at he
      exact h.queued u e he
  · intro v
    by_cases hv : v = user
    · subst v
      rw [hown]
      exact hnodup.2
    · rw [hothers hv]
      exact h.nodup v
  · intro v c hc
    rw [setBuf_nextChan,setBuf_target]
    refine h.owned v c ?_
    by_cases hv : v = user
    · subst v
      rw [hserved]
      exact mem_cons_of_mem _ (hown ▸ hc)
    · rwa [hothers hv] at hc
  · intro v hv c lines hm
    -- the update's channel carries no job
    have hne : c ≠ ch := by
      by_cases hu : v = user
      · subst v
        rintro rfl
        exact hnodup.1 (hown ▸ mem_served_of_mem_jobs hm)
      · rw [hjobs] at hm
        exact h.served_apart hu hmem (mem_served_of_mem_jobs hm)
    rw [hjobs] at hm
    exact (h.jobsOk v hv c lines hm).frame (setBuf_ne hne _) fun _ hr => hr
  · intro u out target req c hu
    have hw := h.waitsOk u out target req c hu
    by_cases hc : c = ch
    · subst c
      refine ⟨hw.fresh,by simpa using hw.asker,by simpa using hw.asked,?_⟩
      cases req with
      | update => exact .inl (by simp)
      | run cmd => exact .inr (.inl (by simp))
      | stop => trivial
    · refine hw.frame (Nat.le_refl _) (setBuf_ne hc _) ?_ id fun lines hm => ⟨lines,hjobs target ▸ hm⟩
      intro hup
      obtain ⟨hl,front,back,he,hfront⟩ := hup
      refine ⟨hl,?_⟩
      by_cases ht : target = user
      · subst target
        rcases behind_head hq he hfront with hh | ⟨-,front',hev,hnot⟩
        · exact absurd (Event.userUpdate.inj hh).symm hc
        · exact ⟨front',back,by simpa using hev,hnot⟩
      · rw [setBuf_queue,setQueue_ne ht]
        exact ⟨front,back,he,hfront⟩

/-- The requester on `ch` takes what is there, or gives up, and waits no more. -/
theorem Invariant.stopReading (h : Invariant s)
    (b : Option Reply) (lines : List String) (hd : s.doing user = .awaiting none target req ch)
    (hjob : ∀ v rest, s.doing v ≠ .ended → (ch,rest) ∈ jobs s v → rest = [] ∧ b = none) :
    Invariant ((s.setBuf ch b).setDoing user (.printing none lines .return)) := by
  set t := (s.setBuf ch b).setDoing user (.printing none lines .return)
  have hasker := (h.waitsOk user _ _ _ _ hd).asker
  have hothers : ∀ {v}, v ≠ user → t.doing v = s.doing v := fun hv => setDoing_ne hv _
  have hjobs : ∀ v, jobs t v = jobs s v := by
    intro v
    by_cases hv : v = user
    · subst v
      simp [t,jobs,hd,job]
    · exact jobs_congr (hothers hv) rfl
  have hserved : ∀ v, served t v = served s v := by
    intro v
    by_cases hv : v = user
    · subst v
      simp [t,served,hd,job]
    · exact served_congr (hothers hv) rfl
  have hawait : ∀ {u out target req c},
      t.doing u = .awaiting out target req c → u ≠ user ∧ s.doing u = .awaiting out target req c := by
    intro u out target req c hu
    rcases doing_cases hu with ⟨-,he⟩ | hu
    · cases he
    · exact hu
  have hended : ∀ {v}, t.doing v = .ended ↔ s.doing v = .ended := by
    intro v
    by_cases hv : v = user
    · subst v
      simp [t,hd]
    · rw [hothers hv]
  refine ⟨fits_setDoing h.fits rfl,h.queued,?_,?_,?_,?_,
    grounded_of_awaiting h.grounded fun _ _ _ _ _ hu => (hawait hu).2⟩
  · intro v
    rw [hserved]
    exact h.nodup v
  · intro v c hc
    rw [hserved] at hc
    simpa [t] using h.owned v c hc
  · intro v hv c rest hm
    rw [hjobs] at hm
    have hlive : s.doing v ≠ .ended := fun he => hv (hended.mpr he)
    by_cases hc : c = ch
    · subst c
      obtain ⟨rfl,rfl⟩ := hjob v rest hlive hm
      exact ⟨not_mem_nil,by simp [t],.inr ⟨rfl,by simp [t]⟩⟩
    refine (h.jobsOk v hlive c rest hm).frame (setBuf_ne hc b) ?_
    intro cmd hr
    -- the user reads another channel
    refine (hothers ?_).trans hr
    intro he
    rw [he,hd] at hr
    cases hr
    exact hc rfl
  · intro u out target' req' c hu
    obtain ⟨hne,hu⟩ := hawait hu
    have hw := h.waitsOk u out target' req' c hu
    have hc : c ≠ ch := by
      rintro rfl
      exact hne (hw.asker.symm.trans hasker)
    exact hw.frame (Nat.le_refl _) (setBuf_ne hc b)
      (fun hup => ⟨fun he => hup.1 (hended.mp he),hup.2⟩) hended.mpr
      (fun rest hm => ⟨rest,hjobs target' ▸ hm⟩)

theorem Invariant.readLine (h : Invariant s) (hd : s.doing user = .awaiting none target (.run cmd) ch)
    (hb : (s.chans ch).buf = some (.line text)) : Invariant (s.setBuf ch none) := by
  have hasker := (h.waitsOk user _ _ _ _ hd).asker
  refine ⟨h.fits,h.queued,h.nodup,?_,?_,?_,h.grounded⟩
  · intro v c hc
    simpa using h.owned v c hc
  · intro v hv c rest hm
    have hok := h.jobsOk v hv c rest hm
    by_cases hc : c = ch
    · subst c
      refine ⟨hok.nonempty,by simp,?_⟩
      rcases hok.read with ⟨cmd',hr⟩ | ⟨-,hnone⟩
      · exact .inl ⟨cmd',by simpa using hr⟩
      · rw [hb] at hnone
        cases hnone
    · exact hok.frame (setBuf_ne hc none) fun _ hr => hr
  · intro u out target' req c hu
    have hw := h.waitsOk u out target' req c hu
    by_cases hc : c = ch
    · subst c
      obtain rfl : u = user := hw.asker.symm.trans hasker
      rw [setBuf_doing,hd] at hu
      cases hu
      refine ⟨hw.fresh,by simpa using hw.asker,by simpa using hw.asked,?_⟩
      rcases hw.answerable with he | hf | hm
      · exact .inl he
      · rw [hb] at hf
        cases hf
      · exact .inr (.inr hm)
    · exact hw.frame (Nat.le_refl _) (setBuf_ne hc none) id id fun rest hm => ⟨rest,hm⟩

section Printing
variable (hd : s.doing user = .printing (some ch) lines .return)
include hd

theorem printing_served : served s user = ch :: (s.queue user).flatMap eventChans := by
  simp [served,hd,job]

theorem printing_jobs : jobs s user = (ch,lines) :: (s.queue user).flatMap (eventJob user) := by
  simp [jobs,hd,job]

theorem Invariant.queued_apart (h : Invariant s)
    (hm : (c,rest) ∈ (s.queue user).flatMap (eventJob user)) : c ≠ ch := by
  rintro rfl
  have hs : c ∈ served (s.setDoing user .idle) user := mem_served_of_mem_jobs (mem_append_right _ (by simpa using hm))
  have hnodup := nodup_cons.mp (printing_served hd ▸ h.nodup user)
  exact hnodup.1 (by simpa [served,job] using hs)

/-- A reply does not concern the jobs of other channels. -/
theorem mem_jobs_replied (hj : ∀ j ∈ job user a, j.1 = ch)
    (hc : c ≠ ch) : (c,rest) ∈ jobs ((s.setBuf ch (some r)).setDoing user a) v ↔ (c,rest) ∈ jobs s v := by
  by_cases hv : v = user
  · subst v
    have hnot : (c,rest) ∉ job user a := fun hm => hc (hj _ hm)
    rw [printing_jobs hd]
    simp [jobs,hnot,hc]
  · have he : jobs ((s.setBuf ch (some r)).setDoing user a) v = jobs s v := jobs_congr (setDoing_ne hv a) rfl
    rw [he]

/-- What is left to do on the channel of a reply is what the user is left with. -/
theorem Invariant.job_replied (h : Invariant s)
    (hm : (ch,rest) ∈ jobs ((s.setBuf ch (some r)).setDoing user a) v) : v = user ∧ (ch,rest) ∈ job user a := by
  obtain rfl : v = user := by
    by_contra hv
    rw [jobs_congr (setDoing_ne hv a) rfl] at hm
    have hmem : ch ∈ served s user := printing_served hd ▸ mem_cons_self
    exact h.served_apart hv hmem (mem_served_of_mem_jobs hm) rfl
  have hall : (ch,rest) ∈ job v a ++ (s.queue v).flatMap (eventJob v) := by simpa [jobs] using hm
  rcases mem_append.mp hall with hown | hlater
  · exact ⟨rfl,hown⟩
  · exact absurd rfl (h.queued_apart hd hlater)

/-- The user puts a reply into the channel of the job it is at, and is left with `a`. -/
theorem Invariant.reply (h : Invariant s) (hf : Fits user a)
    (hend : a ≠ .ended) (hnew : ∀ out target req c, a ≠ .awaiting out target req c)
    (hjob : (∃ rest, job user a = [(ch,rest)] ∧ "" ∉ rest ∧ ∃ text, text ≠ "" ∧ r = .line text ∧
      lines ≠ []) ∨ job user a = [] ∧ r = .final) : Invariant ((s.setBuf ch (some r)).setDoing user a) := by
  have hserved := printing_served hd
  have hmem : ch ∈ served s user := hserved ▸ mem_cons_self
  have hnodup := nodup_cons.mp (hserved ▸ h.nodup user)
  have hown : ∀ j ∈ job user a, j.1 = ch := by
    rcases hjob with ⟨rest,hj,-⟩ | ⟨hj,-⟩ <;> simp [hj]
  have hother : ∀ {v}, v ≠ user →
      ((s.setBuf ch (some r)).setDoing user a).doing v = s.doing v := fun hv => setDoing_ne hv a
  have hreader : ∀ {u target cmd c}, s.doing u = .awaiting none target (.run cmd) c → u ≠ user := by
    rintro u target cmd c hu rfl
    rw [hd] at hu
    cases hu
  have hawait : ∀ {u out target req c}, ((s.setBuf ch (some r)).setDoing user a).doing u = .awaiting out target req c →
      s.doing u = .awaiting out target req c := by
    intro u out target req c hu
    rcases doing_cases hu with ⟨-,he⟩ | hu
    · exact absurd he (hnew _ _ _ _)
    · exact hu.2
  have hended : ∀ {v}, ((s.setBuf ch (some r)).setDoing user a).doing v = .ended ↔ s.doing v = .ended := by
    intro v
    by_cases hv : v = user
    · subst v
      simp [hd,hend]
    · rw [hother hv]
  refine ⟨fits_setDoing h.fits hf,h.queued,?_,?_,?_,?_,grounded_of_awaiting h.grounded fun _ _ _ _ _ => hawait⟩
  · intro v
    by_cases hv : v = user
    · subst v
      rcases hjob with ⟨rest,hj,-⟩ | ⟨hj,-⟩
      · simpa [served,hj] using hnodup
      · simpa [served,hj] using hnodup.2
    · rw [served_congr (hother hv) rfl]
      exact h.nodup v
  · intro v c hc
    rw [setDoing_nextChan,setDoing_chans,setBuf_target]
    refine h.owned v c ?_
    by_cases hv : v = user
    · subst v
      rw [hserved]
      rcases hjob with ⟨rest,hj,-⟩ | ⟨hj,-⟩
      · simpa [served,hj] using hc
      · exact mem_cons_of_mem _ (by simpa [served,hj] using hc)
    · rwa [served_congr (hother hv) rfl] at hc
  · intro v hv c rest hm
    have hlive : s.doing v ≠ .ended := fun he => hv (hended.mpr he)
    by_cases hc : c = ch
    · subst c
      obtain ⟨rfl,hleft⟩ := h.job_replied hd hm
      rcases hjob with ⟨rest',hj,hne,text,htext,rfl,hlines⟩ | ⟨hj,-⟩
      · rw [hj] at hleft
        cases mem_singleton.mp hleft
        refine ⟨hne,?_,.inl ?_⟩
        · intro r hr
          rw [setDoing_chans,setBuf_self] at hr
          cases hr
          exact ⟨text,htext,rfl⟩
        · rcases (h.jobsOk v hlive ch lines (printing_jobs hd ▸ mem_cons_self)).read with
            ⟨cmd,hr⟩ | ⟨hnil,-⟩
          · exact ⟨cmd,by simpa [hother (hreader hr)] using hr⟩
          · exact absurd hnil hlines
      · rw [hj] at hleft
        cases hleft
    · exact (h.jobsOk v hlive c rest ((mem_jobs_replied hd hown hc).mp hm)).frame (setBuf_ne hc _)
        fun _ hr => (hother (hreader hr)).trans hr
  · intro u out target req c hu
    have hw := h.waitsOk u out target req c (hawait hu)
    by_cases hc : c = ch
    · subst c
      refine ⟨hw.fresh,by simpa using hw.asker,by simpa using hw.asked,?_⟩
      obtain rfl : target = user := hw.asked.symm.trans (h.owned user ch hmem).2
      cases req with
      | update => exact .inl (by simp)
      | run cmd =>
        rcases hjob with ⟨rest,hj,-⟩ | ⟨-,rfl⟩
        · exact .inr (.inr ⟨rest,by simp [jobs,hj]⟩)
        · exact .inr (.inl (by simp))
      | stop => trivial
    · exact hw.frame (Nat.le_refl _) (setBuf_ne hc _)
        (fun hup => ⟨fun he => hup.1 (hended.mp he),hup.2⟩) hended.mpr
        (fun rest hm => ⟨rest,(mem_jobs_replied hd hown hc).mpr hm⟩)

end Printing

theorem Local.nonempty (h : Local user cmd) : "" ∉ printedBy user cmd := by
  induction cmd with
  | other lines => exact h
  | update target =>
    intro hm
    have hlen := congrArg String.length (mem_singleton.mp hm)
    have hquote : "\"".length = 1 := rfl
    simp only [updatedText,String.length_append,String.length_empty] at hlen
    omega
  | delete target => exact absurd h id
  | run target cmd ih => exact ih h.2

/-- What a posted request leaves behind. -/
def posted (s : Server) (user target : String) (req : Request) : Server :=
  { s.setQueue target (s.queue target ++ [req.event s.nextChan]) with
    chans := Function.update s.chans s.nextChan ⟨user,target,none⟩
    nextChan := s.nextChan + 1 }.setDoing user (.awaiting none target req s.nextChan)

section
theorem posted_chans (hc : c ≠ s.nextChan) : (posted s user target req).chans c = s.chans c := by
  simp [posted,Function.update_of_ne hc]

theorem posted_doing (hv : v ≠ user) : (posted s user target req).doing v = s.doing v := by simp [posted,setDoing_ne hv]

theorem posted_queue_ne (hv : v ≠ target) : (posted s user target req).queue v = s.queue v := by
  simp [posted,setQueue_ne hv]

theorem posted_queue : (posted s user target req).queue target = s.queue target ++ [req.event s.nextChan] := by
  simp [posted]

section
variable (hd : s.doing user = .posting none target req)
include hd

theorem posted_job (v : String) : job v ((posted s user target req).doing v) = job v (s.doing v) := by
  by_cases hv : v = user
  · subst v
    simp [posted,hd,job]
  · rw [posted_doing hv]

theorem posted_served (v : String) : served (posted s user target req) v =
      served s v ++ if v = target then eventChans (req.event s.nextChan) else [] := by
  simp only [served,posted_job hd]
  by_cases hv : v = target
  · subst v
    simp [posted_queue]
  · simp [posted_queue_ne hv,hv]

theorem posted_jobs (v : String) : jobs (posted s user target req) v =
      jobs s v ++ if v = target then eventJob target (req.event s.nextChan) else [] := by
  simp only [jobs,posted_job hd]
  by_cases hv : v = target
  · subst v
    simp [posted_queue]
  · simp [posted_queue_ne hv,hv]

theorem posted_ended : (posted s user target req).doing v = .ended ↔ s.doing v = .ended := by
  by_cases hv : v = user
  · subst v
    simp [posted,hd]
  · rw [posted_doing hv]

end

theorem posted_awaiting (hu : (posted s user target req).doing u = .awaiting out other req' c) :
    u = user ∧ other = target ∧ req' = req ∧ c = s.nextChan ∨ u ≠ user ∧ s.doing u = .awaiting out other req' c := by
  rcases doing_cases hu with ⟨rfl,he⟩ | hu
  · cases he
    exact .inl ⟨rfl,rfl,rfl,rfl⟩
  · exact .inr hu

theorem mem_eventChans (h : c ∈ eventChans (req.event ch)) : c = ch := by
  cases req with
  | update | run cmd => exact mem_singleton.mp h
  | stop => cases h

theorem nodup_eventChans (ch : Nat) : (eventChans (req.event ch)).Nodup := by
  cases req <;> simp [Request.event,eventChans]

theorem Invariant.old_chan (h : Invariant s) (hc : c ∈ served s v) : c ≠ s.nextChan := Nat.ne_of_lt (h.owned v c hc).1

section
variable (h : Invariant s) (hd : s.doing user = .posting none target req)
include h hd

theorem posted_nodup (v : String) : (served (posted s user target req) v).Nodup := by
  rw [posted_served hd]
  split
  · refine nodup_append.mpr ⟨h.nodup v,nodup_eventChans _,?_⟩
    intro c hc d hd'
    rw [mem_eventChans hd']
    exact h.old_chan hc
  · rw [append_nil]
    exact h.nodup v

theorem posted_owned (v : String) (c : Nat) (hc : c ∈ served (posted s user target req) v) :
    c < s.nextChan + 1 ∧ ((posted s user target req).chans c).target = v := by
  rw [posted_served hd] at hc
  rcases mem_append.mp hc with hc | hnew
  · rw [posted_chans (h.old_chan hc)]
    obtain ⟨hlt,ht⟩ := h.owned v c hc
    exact ⟨Nat.lt_succ_of_lt hlt,ht⟩
  · split at hnew
    · subst v
      cases mem_eventChans hnew
      simp [posted]
    · cases hnew

theorem posted_jobsOk (hlocal : ∀ cmd, req = .run cmd → Local target cmd) (v : String)
    (hv : (posted s user target req).doing v ≠ .ended) (c : Nat) (rest : List String)
    (hm : (c,rest) ∈ jobs (posted s user target req) v) : JobOk (posted s user target req) v c rest := by
  rw [posted_jobs hd] at hm
  rcases mem_append.mp hm with hm | hnew
  · have hok := h.jobsOk v (fun he => hv ((posted_ended hd).mpr he)) c rest hm
    refine hok.frame (posted_chans (h.old_chan (mem_served_of_mem_jobs hm))) ?_
    intro cmd hr
    refine (posted_doing ?_).trans hr
    intro he
    rw [he,hd] at hr
    cases hr
  · split at hnew
    · subst v
      cases req with
      | update | stop => cases hnew
      | run cmd =>
        cases mem_singleton.mp hnew
        refine ⟨(hlocal cmd rfl).nonempty,?_,.inl ⟨cmd,?_⟩⟩
        · intro r hr
          simp [posted] at hr
        · simp [posted]
    · cases hnew

end

theorem posted_waitOk (hd : s.doing user = .posting none target req)
    (hlive : req = .update → s.doing target ≠ .ended ∧ .stop ∉ s.queue target) :
    WaitOk (posted s user target req) user target req s.nextChan := by
  refine ⟨Nat.lt_succ_self _,by simp [posted],by simp [posted],?_⟩
  cases req with
  | update =>
    obtain ⟨hl,hstop⟩ := hlive rfl
    exact .inr ⟨fun he => hl ((posted_ended hd).mp he),s.queue target,[],posted_queue,hstop⟩
  | run cmd =>
    refine .inr (.inr ⟨printedBy target cmd,?_⟩)
    rw [posted_jobs hd,if_pos rfl]
    exact mem_append_right _ (mem_singleton_self _)
  | stop => trivial

theorem posted_waitOk_old (hd : s.doing user = .posting none target req) (hw : WaitOk s u other req' c) :
    WaitOk (posted s user target req) u other req' c := by
  refine hw.frame (Nat.le_succ _) (posted_chans (Nat.ne_of_lt hw.fresh)) ?_ (posted_ended hd).mpr ?_
  · intro hup
    obtain ⟨hl,front,back,hq,hfront⟩ := hup
    refine ⟨fun he => hl ((posted_ended hd).mp he),?_⟩
    by_cases ht : other = target
    · subst other
      exact ⟨front,back ++ [req.event s.nextChan],by simp [posted_queue,hq],hfront⟩
    · exact ⟨front,back,(posted_queue_ne ht).trans hq,hfront⟩
  · intro rest hm
    rw [posted_jobs hd]
    exact ⟨rest,mem_append_left _ hm⟩

theorem posted_grounded (h : Grounded (Waits s)) (hcycle : req ≠ .stop → ¬ ReflTransGen (Waits s) target user) :
    Grounded (Waits (posted s user target req)) := by
  have hedge : ∀ x y, Waits (posted s user target req) x y → Waits s x y ∨ req ≠ .stop ∧ x = user ∧ y = target := by
    intro x y hxy
    obtain ⟨out,req',c,hx,hreq⟩ := hxy
    rcases posted_awaiting hx with ⟨rfl,rfl,rfl,-⟩ | ⟨-,hx⟩
    · exact .inr ⟨hreq,rfl,rfl⟩
    · exact .inl ⟨out,req',c,hx,hreq⟩
  by_cases hreq : req = .stop
  · refine h.mono ?_
    intro x y hxy
    rcases hedge x y hxy with hxy | ⟨hn,-⟩
    · exact hxy
    · exact absurd hreq hn
  · refine (h.add (hcycle hreq)).mono ?_
    intro x y hxy
    rcases hedge x y hxy with hxy | ⟨-,hx,hy⟩
    · exact .inl hxy
    · exact .inr ⟨hx,hy⟩

theorem posted_invariant (h : Invariant s) (hd : s.doing user = .posting none target req)
    (hcycle : req ≠ .stop → ¬ ReflTransGen (Waits s) target user)
    (hlive : req = .update → s.doing target ≠ .ended ∧ .stop ∉ s.queue target) :
    Invariant (posted s user target req) := by
  obtain ⟨-,hne,hlocal⟩ : none = none ∧ target ≠ user ∧ ∀ cmd, req = .run cmd → Local target cmd := hd ▸ h.fits user
  refine ⟨?_,?_,posted_nodup h hd,posted_owned h hd,posted_jobsOk h hd hlocal,?_, posted_grounded h.grounded hcycle⟩
  · intro u
    by_cases hu : u = user
    · subst u
      simp only [posted,setDoing_self]
      exact ⟨rfl,hne⟩
    · rw [posted_doing hu]
      exact h.fits u
  · intro u e he
    by_cases hu : u = target
    · subst u
      rw [posted_queue] at he
      rcases mem_append.mp he with he | he
      · exact h.queued _ e he
      cases mem_singleton.mp he
      cases req with
      | update => trivial
      | run cmd => exact hlocal cmd rfl
      | stop => trivial
    · rw [posted_queue_ne hu] at he
      exact h.queued u e he
  · intro u out other req' c hu
    rcases posted_awaiting hu with ⟨rfl,rfl,rfl,rfl⟩ | ⟨-,hu⟩
    · exact posted_waitOk hd hlive
    · exact posted_waitOk_old hd (h.waitsOk u out other req' c hu)

end

end

end Sake.Proofs.UserCommands
