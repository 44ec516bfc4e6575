import Sake.Proofs.UserSteps

namespace Sake.Proofs.Deadlock
open Sake.UserCommands Sake.Proofs.UserCommands Sake.Lib.Runs Sake.Lib.WaitGraph

variable {s t : Server} {user : String} {ch : Nat} {e : Event} {events : List Event} {a : Action}

/-- A goroutine is held up by another one, or by itself. -/
def Waiting : Activity → Prop
  | .posting _ _ _ => True
  | .awaiting _ _ _ _ => True
  | _ => False

/-- Nothing that can happen gets the user out of its wait. -/
def Stuck (s : Server) (user : String) : Prop :=
  Waiting (s.doing user) ∧ ∀ as t, run step s as = some t → t.doing user = s.doing user

def DeadlockFree (s : Server) : Prop := ∀ user, ¬ Stuck s user

/-- The user waits for no reply. -/
def Free (s : Server) (user : String) : Prop := ∀ y, ¬ Waits s user y

/-- A bound on the steps a user needs to work off its activity and its queue when it
gives up every request before it is posted. -/
def cmdWork : Cmd → Nat
  | .other lines => 2 * lines.length + 4
  | .run _ cmd => cmdWork cmd + 8
  | _ => 8

def activityWork : Activity → Nat
  | .running _ cmd => cmdWork cmd
  | .posting _ _ _ => 3
  | .awaiting _ _ _ _ => 3
  | .printing _ lines _ => 2 * lines.length + 2
  | _ => 0

def eventWork : Event → Nat
  | .command cmd => cmdWork cmd + 1
  | .userRun _ cmd => cmdWork cmd + 2
  | _ => 1

/-- A reply that the reader has to take first. -/
def buffered (s : Server) (user : String) : Nat :=
  ((job user (s.doing user)).map fun j => (s.chans j.1).buf.toList.length).sum

def work (s : Server) (user : String) : Nat :=
  activityWork (s.doing user) + buffered s user + ((s.queue user).map eventWork).sum

/-- One step brings `user` forward and leaves all others where they are. -/
structure Advance (s t : Server) (user : String) : Prop where
  reached : ∃ a, step s a = some t ∧ Prudent s a
  less : work t user < work s user
  others : ∀ x, x ≠ user → t.doing x = s.doing x
  free : Free t user

section
variable {target : String}

theorem free_of_not_awaiting (h : ∀ out target req ch, s.doing user = .awaiting out target req ch → req = .stop) :
    Free s user := by
  intro y hy
  obtain ⟨out,req,ch,hd,hreq⟩ := hy
  exact hreq (h out y req ch hd)

theorem buffered_le : buffered s user ≤ (job user (s.doing user)).length := by
  unfold buffered
  induction job user (s.doing user) with
  | nil => exact Nat.le_refl _
  | cons j jobs ih =>
    have hj : (s.chans j.1).buf.toList.length ≤ 1 := by cases (s.chans j.1).buf <;> simp
    simp only [List.map_cons,List.sum_cons,List.length_cons]
    omega

theorem buffered_none (h : job user (s.doing user) = []) : buffered s user = 0 := by simp [buffered,h]

theorem advance_turn (a : Activity)
    (hq : s.queue user = e :: events) (ht : take s user = some ((s.setQueue user events).setDoing user a))
    (hless : activityWork a + (job user a).length < eventWork e)
    (hnew : ∀ out target req ch, a ≠ .awaiting out target req ch) : ∃ t, Advance s t user := by
  refine ⟨_,⟨.take user,ht,trivial⟩,?_,fun x hx => setDoing_ne hx _,free_of_not_awaiting ?_⟩
  · have hb : buffered ((s.setQueue user events).setDoing user a) user ≤ (job user a).length := by
      simpa using @buffered_le ((s.setQueue user events).setDoing user a) user
    simp only [work,setDoing_self,setDoing_queue,setQueue_self,hq,List.map_cons,List.sum_cons]
    omega
  · intro out target req ch ha
    exact absurd ((setDoing_self _ _).symm.trans ha) (hnew _ _ _ _)

theorem advance_take (hd : s.doing user = .idle) (hq : s.queue user = e :: events) : ∃ t, Advance s t user := by
  cases e with
  | command cmd => exact advance_turn (.running none cmd) hq (by simp [take,hd,hq]) (Nat.lt_succ_self _) (by simp)
  | userRun ch cmd => exact advance_turn (.running (some ch) cmd) hq (by simp [take,hd,hq]) (Nat.lt_succ_self _) (by simp)
  | stop => exact advance_turn .ended hq (by simp [take,hd,hq]) Nat.one_pos (by simp)
  | userUpdate ch =>
    refine ⟨(s.setQueue user events).setBuf ch (some .final),
      ⟨.take user,by simp [step,take,hd,hq],trivial⟩,?_,fun x hx => rfl,
      free_of_not_awaiting (by simp [hd])⟩
    have hb : buffered ((s.setQueue user events).setBuf ch (some .final)) user = 0 := buffered_none (by simp [hd,job])
    simp only [work,setBuf_doing,setBuf_queue,setQueue_doing,setQueue_self,hq,eventWork,List.map_cons, List.sum_cons]
    omega

theorem advance_move (act : Action) (a : Activity) (hs : step s act = some (s.setDoing user a)) (hg : Prudent s act)
    (hj : job user a = job user (s.doing user)) (hless : activityWork a < activityWork (s.doing user))
    (hnew : ∀ out target req ch, a ≠ .awaiting out target req ch) : Advance s (s.setDoing user a) user := by
  refine ⟨⟨act,hs,hg⟩,?_,fun x hx => setDoing_ne hx a,free_of_not_awaiting ?_⟩
  · have hb : buffered (s.setDoing user a) user = buffered s user := by simp [buffered,hj]
    simp only [work,setDoing_self,setDoing_queue]
    omega
  · intro out target req ch hd
    rw [setDoing_self] at hd
    exact absurd hd (hnew _ _ _ _)

theorem begin_work (users : List String) (out : Option Nat) (cmd : Cmd) :
    activityWork (begin users user out cmd) < cmdWork cmd := by
  cases cmd with
  | other lines => simp [begin,activityWork,cmdWork]
  | _ =>
    simp only [begin]
    split
    · simp [activityWork,cmdWork]
    · split <;> simp [activityWork,cmdWork]

theorem buffered_job (hj : job user (s.doing user) = [(ch,lines)]) :
    buffered s user = (s.chans ch).buf.toList.length := by
  simp [buffered,hj]

theorem advance_read (h : Invariant s) (hd : s.doing user = .printing (some ch) lines .return)
    (hb : (s.chans ch).buf = some r) : ∃ t, Advance s t user := by
  have hj : job user (s.doing user) = [(ch,lines)] := by simp [hd,job]
  have hok := h.jobsOk user (by simp [hd]) ch lines (by simp [jobs,hj])
  obtain ⟨text,htext,rfl⟩ := hok.lines_only r hb
  rcases hok.read with ⟨cmd,hr⟩ | ⟨-,hnone⟩
  · refine ⟨s.setBuf ch none,⟨.receive (s.chans ch).requester,?_,trivial⟩,?_,fun _ _ => rfl,
      free_of_not_awaiting (by simp [hd])⟩
    · simp [step,receive,hr,hb,htext]
    · have hbefore : buffered s user = 1 := by simp [buffered_job hj,hb]
      have hafter : buffered (s.setBuf ch none) user = 0 := by
        rw [buffered_job (s := s.setBuf ch none) hj,setBuf_self]
        rfl
      simp only [work,setBuf_doing,setBuf_queue]
      omega
  · rw [hb] at hnone
    cases hnone

theorem advance_printing (h : Invariant s)
    (hd : s.doing user = .printing out lines .return) : ∃ t, Advance s t user := by
  cases out with
  | none =>
    refine ⟨_,advance_move (.finish user) .idle ?_ trivial ?_ ?_ nofun⟩
    · simp [step,finish,hd]
    · simp [hd,job]
    · simp [hd,activityWork]
  | some ch =>
    have hj : job user (s.doing user) = [(ch,lines)] := by simp [hd,job]
    cases hb : (s.chans ch).buf with
    | some r => exact advance_read h hd hb
    | none =>
      have hbefore : buffered s user = 0 := by simp [buffered_job hj,hb]
      cases lines with
      | nil =>
        refine ⟨(s.setBuf ch (some .final)).setDoing user .idle,⟨.finish user,?_,trivial⟩,?_,
          fun x hx => setDoing_ne hx _,free_of_not_awaiting (by simp)⟩
        · simp [step,finish,hd,hb]
        · have hafter : buffered ((s.setBuf ch (some .final)).setDoing user .idle) user = 0 :=
            buffered_none (by simp [job])
          simp [work,hbefore,hafter,hd,activityWork]
      | cons text lines =>
        refine ⟨(s.setBuf ch (some (.line text))).setDoing user (.printing (some ch) lines .return),
          ⟨.print user,?_,trivial⟩,?_,fun x hx => setDoing_ne hx _,
          free_of_not_awaiting (by simp)⟩
        · simp [step,print,hd,hb]
        have hafter : buffered ((s.setBuf ch (some (.line text))).setDoing user
            (.printing (some ch) lines .return)) user ≤ 1 :=
          Nat.le_trans buffered_le (by simp [job])
        simp only [work,hd,activityWork,setDoing_self,setDoing_queue,setBuf_queue,List.length_cons]
        omega

theorem advance_timeout (hs : timeout s user = some (s.setDoing user (.printing none [] .return)))
    (hrun : ∀ out target cmd ch, s.doing user ≠ .awaiting out target (.run cmd) ch)
    (hj : job user (s.doing user) = []) (hw : activityWork (s.doing user) = 3) : ∃ t, Advance s t user :=
  ⟨_,advance_move (.timeout user) (.printing none [] .return) hs
    (fun _ _ _ _ he => absurd he (hrun _ _ _ _)) hj.symm (hw ▸ Nat.lt_succ_self _) nofun⟩

/-- A live user that waits for no reply and has something to do can go on. -/
theorem advance_exists (h : Invariant s) (hlive : s.doing user ≠ .ended) (hfree : Free s user)
    (hbusy : s.doing user ≠ .idle ∨ s.queue user ≠ []) : ∃ t, Advance s t user := by
  have hf := h.fits user
  cases hd : s.doing user with
  | ended => exact absurd hd hlive
  | idle =>
    cases hq : s.queue user with
    | nil => exact absurd hq (hbusy.resolve_left (not_not.mpr hd))
    | cons e events => exact advance_take hd hq
  | running out cmd =>
    rw [hd] at hf
    obtain ⟨-,hj⟩ := begin_fits s.users hf
    refine ⟨_,advance_move (.start user) (begin s.users user out cmd) ?_ trivial ?_ ?_ (begin_ne _ _ _ _).2⟩
    · simp [step,start,hd]
    · rw [hd]
      exact hj
    · rw [hd]
      exact begin_work s.users out cmd
  | posting out target req =>
    rw [hd] at hf
    obtain ⟨rfl,hne,-⟩ := hf
    exact advance_timeout (by simp [timeout,hd,hne]) (by simp [hd]) (by simp [hd,job]) (by simp [hd,activityWork])
  | awaiting out target req ch =>
    rw [hd] at hf
    obtain ⟨rfl,hne⟩ := hf
    cases req with
    | update => exact absurd ⟨none,.update,ch,hd,by simp⟩ (hfree target)
    | run cmd => exact absurd ⟨none,.run cmd,ch,hd,by simp⟩ (hfree target)
    | stop =>
      exact advance_timeout (by simp [timeout,hd,hne]) (by simp [hd]) (by simp [hd,job])
        (by simp [hd,activityWork])
  | printing out lines after =>
    rw [hd] at hf
    obtain rfl : after = .return := hf
    exact advance_printing h hd

/-- A prudent continuation after which `user` waits for no reply, and nobody waits that
did not wait before. -/
def Freed (s : Server) (user : String) : Prop :=
  ∃ as t, run step s as = some t ∧ Invariant t ∧ Free t user ∧ ∀ x y, Waits t x y → Waits s x y

theorem Freed.of_step (h : Invariant s) (hs : step s a = some t) (hg : Prudent s a)
    (hd : t.doing user = .printing none lines .return) (hothers : ∀ x, x ≠ user → t.doing x = s.doing x) :
    Freed s user := by
  have hfree : Free t user := free_of_not_awaiting (by simp [hd])
  refine ⟨[a],t,by simp [run,hs],step_invariant h a hg hs,hfree,?_⟩
  intro x y hxy
  have hx : x ≠ user := by
    rintro rfl
    exact hfree y hxy
  obtain ⟨out,req,ch,hd,hreq⟩ := hxy
  exact ⟨out,req,ch,(hothers x hx).symm.trans hd,hreq⟩

theorem freed_by_update (h : Invariant s) (hd : s.doing user = .awaiting none target .update ch)
    (hb : (s.chans ch).buf ≠ none) : Freed s user := by
  obtain ⟨r,hr⟩ := Option.ne_none_iff_exists'.mp hb
  refine Freed.of_step (a := .receive user) (t := (s.setBuf ch none).setDoing user
    (.printing none [updatedText target] .return)) h ?_ trivial (setDoing_self _ _)
    (fun x hx => setDoing_ne hx _)
  simp [step,receive,hd,hr]

/-- So does one whose command has come to its end. -/
theorem freed_by_final (h : Invariant s) (hd : s.doing user = .awaiting none target (.run cmd) ch)
    (hb : (s.chans ch).buf = some .final) : Freed s user := by
  refine Freed.of_step (a := .receive user) (t := (s.setBuf ch none).setDoing user
    (.printing none [] .return)) h ?_ trivial (setDoing_self _ _) (fun x hx => setDoing_ne hx _)
  simp [step,receive,hd,hb]

theorem freed_by_timeout (h : Invariant s) (hd : s.doing user = .awaiting none target (.run cmd) ch)
    (he : s.doing target = .ended) : Freed s user := by
  have hf := h.fits user
  rw [hd] at hf
  refine Freed.of_step (a := .timeout user) (t := s.setDoing user (.printing none [] .return)) h ?_
    ?_ (setDoing_self _ _) (fun x hx => setDoing_ne hx _)
  · simp [step,timeout,hd,hf.2]
  intro out target' cmd' ch' hd'
  rw [hd] at hd'
  cases hd'
  exact .inl he

/-- Whoever waits for a user that waits for no reply itself gets its reply. -/
theorem freed_of_free_target : ∀ {s : Server},
    Invariant s → s.doing user = .awaiting none target req ch → req ≠ .stop → Free s target →
    Freed s user := by
  intro s
  induction hn : work s target using Nat.strongRecOn generalizing s with
  | _ n ih =>
    intro h hd hreq hfree
    have hne : user ≠ target := by
      have hf := h.fits user
      rw [hd] at hf
      exact hf.2.symm
    -- as long as the reply is to come, the target has something to do
    have hgo : s.doing target ≠ .ended → (s.doing target ≠ .idle ∨ s.queue target ≠ []) → Freed s user := by
      intro hlive hbusy
      obtain ⟨t,ht⟩ := advance_exists h hlive hfree hbusy
      obtain ⟨a,hs,hg⟩ := ht.reached
      obtain ⟨as,t',hr,hinv,hfr,hw⟩ := ih _ (hn ▸ ht.less) rfl (step_invariant h a hg hs)
        ((ht.others user hne).trans hd) hreq ht.free
      refine ⟨a :: as,t',by simp [run,hs,hr],hinv,hfr,?_⟩
      intro x y hxy
      have hxt := hw x y hxy
      have hx : x ≠ target := by
        rintro rfl
        exact ht.free y hxt
      obtain ⟨out,req,c,hx',hreq'⟩ := hxt
      exact ⟨out,req,c,(ht.others x hx).symm.trans hx',hreq'⟩
    have hans := (h.waitsOk _ _ _ _ _ hd).answerable
    cases req with
    | stop => exact absurd rfl hreq
    | update =>
      rcases hans with hb | ⟨hlive,front,back,hq,-⟩
      · exact freed_by_update h hd hb
      · exact hgo hlive (.inr (by simp [hq]))
    | run cmd =>
      rcases hans with he | hb | ⟨lines,hm⟩
      · exact freed_by_timeout h hd he
      · exact freed_by_final h hd hb
      by_cases hlive : s.doing target = .ended
      · exact freed_by_timeout h hd hlive
      refine hgo hlive ?_
      by_contra hnot
      obtain ⟨hidle,hempty⟩ := not_or.mp hnot
      rw [not_not] at hidle hempty
      simp [jobs,hidle,hempty,job] at hm

/-- Along the chain of waits, from its end. -/
theorem freed_of_grounded (s₀ : Server) (hg : Grounded (Waits s₀)) (user : String) :
    ∀ {s : Server}, Invariant s → (∀ x y, Waits s x y → Waits s₀ x y) → (∃ y, Waits s user y) → Freed s user := by
  induction hg.apply user with
  | intro user _ ih =>
    intro s h hle hwaits
    obtain ⟨target,hw⟩ := hwaits
    -- once the target waits for nobody, the user itself can be freed
    have hfreed : ∀ {t : Server}, Invariant t → (∀ x y, Waits t x y → Waits s₀ x y) →
        Free t target → Free t user ∨ Freed t user := by
      intro t ht hle' hfree
      by_cases hu : ∃ y, Waits t user y
      · obtain ⟨y,out,req,ch,hd,hreq⟩ := hu
        right
        obtain ⟨out',req',ch',hd',-⟩ := hle' user y ⟨out,req,ch,hd,hreq⟩
        obtain ⟨out'',req'',ch'',hd'',-⟩ := hle user target hw
        rw [hd'] at hd''
        obtain rfl : y = target := by
          cases hd''
          rfl
        have hf := ht.fits user
        rw [hd] at hf
        obtain ⟨rfl,-⟩ := hf
        exact freed_of_free_target ht hd hreq hfree
      · left
        intro y hy
        exact hu ⟨y,hy⟩
    by_cases hfree : Free s target
    · rcases hfreed h hle hfree with hf | hf
      · exact absurd hw (hf target)
      · exact hf
    have hex : ∃ y, Waits s target y := by
      by_contra hno
      exact hfree fun y hy => hno ⟨y,hy⟩
    obtain ⟨as,t,hr,hinv,hft,hwt⟩ := ih target (hle user target hw) h hle hex
    rcases hfreed hinv (fun x y hxy => hle x y (hwt x y hxy)) hft with hf | hf
    · exact ⟨as,t,hr,hinv,hf,hwt⟩
    obtain ⟨bs,t',hr',hinv',hf',hwt'⟩ := hf
    refine ⟨as ++ bs,t',?_,hinv',hf',fun x y hxy => hwt x y (hwt' x y hxy)⟩
    rw [run_append,hr]
    exact hr'

theorem Invariant.deadlockFree (h : Invariant s) : DeadlockFree s := by
  intro user hstuck
  obtain ⟨hwait,hforever⟩ := hstuck
  have hf := h.fits user
  have hgive : timeout s user = some (s.setDoing user (.printing none [] .return)) → False := by
    intro ht
    have hsame := hforever [.timeout user] (s.setDoing user (.printing none [] .return)) (by simp [run,step,ht])
    rw [← hsame,setDoing_self] at hwait
    exact hwait
  cases hd : s.doing user with
  | posting out target req =>
    rw [hd] at hf
    obtain ⟨rfl,hne,-⟩ := hf
    exact hgive (by simp [timeout,hd,hne])
  | awaiting out target req ch =>
    rw [hd] at hf
    obtain ⟨rfl,hne⟩ := hf
    by_cases hreq : req = .stop
    · subst req
      exact hgive (by simp [timeout,hd,hne])
    · obtain ⟨as,t,hr,-,hfree,-⟩ := freed_of_grounded s h.grounded user h (fun _ _ hxy => hxy)
        ⟨target,none,req,ch,hd,hreq⟩
      exact hfree target ⟨none,req,ch,(hforever as t hr).trans hd,hreq⟩
  | _ =>
    rw [hd] at hwait
    exact hwait

end

/-- As long as the steps are prudent, every wait of a user goroutine can end. -/
theorem prudent_runs_deadlock_free (users : List String) (as : List Action)
    (h : AllSteps step Prudent (init users) as) : AllStates step DeadlockFree (init users) as :=
  AllStates.of_steps Invariant (init_invariant users) (fun _ hi => Invariant.deadlockFree hi)
    (fun _ a _ hi hg hs => step_invariant hi a hg hs) h

/-- An administrator updates another user, who is idle. -/
def updateOther : List Action :=
  [.arrive "admin" (.update "bob"),.take "admin",.start "admin",.post "admin",.take "bob",
    .receive "admin",.finish "admin"]

theorem update_of_idle_user_returns : AllStates step DeadlockFree (init ["admin","bob"]) updateOther := by
  refine prudent_runs_deadlock_free ["admin","bob"] updateOther ?_
  refine .cons_some trivial rfl (.cons_some trivial rfl (.cons_some trivial rfl
    (.cons_some ?_ rfl (.cons_some trivial rfl (.cons_some trivial rfl (.cons_some trivial rfl trivial))))))
  intro out target req hd hreq
  have hpost : Activity.posting none "bob" .update = .posting out target req := hd
  cases hpost
  refine ⟨?_,fun _ => ⟨nofun,nofun⟩⟩
  intro hpath
  -- bob waits for nobody
  rcases hpath.cases_head with he | ⟨c,⟨_,_,_,hw,_⟩,_⟩
  · exact absurd he (by decide)
  · have hidle : Activity.idle = .awaiting _ _ _ _ := hw
    cases hidle

/-- The user whose goroutine, or client, takes a step. -/
def actor : Action → String
  | .arrive user _ => user
  | .take user => user
  | .start user => user
  | .post user => user
  | .receive user => user
  | .timeout user => user
  | .print user => user
  | .finish user => user
  | .remove user => user

theorem step_other (hs : step s a = some t) (hx : x ≠ actor a) : t.doing x = s.doing x := by
  cases a with
  | _ =>
    simp only [step,take,start,post,receive,timeout,print,finish] at hs
    -- every branch changes the activity of the acting user at most
    repeat' split at hs
    all_goals cases hs
    all_goals first | rfl | exact setDoing_ne hx _

theorem self_wait_stays (hd : s.doing user = .awaiting none user .stop ch)
    (hs : step s a = some t) : t.doing user = .awaiting none user .stop ch := by
  by_cases hx : user = actor a
  · subst hx
    cases a with
    | arrive u cmd =>
      simp only [step] at hs
      split at hs
      · cases hs
        exact hd
      · cases hs
    | _ =>
      simp only [actor] at hd
      simp [step,take,start,post,receive,timeout,print,finish,hd] at hs
  · exact (step_other hs hx).trans hd

def deleteSelf : List Action :=
  [.arrive "bob" (.delete "bob"),.take "bob",.start "bob",.finish "bob",.post "bob"]

/-- A user deletes itself: its goroutine waits for its own end. -/
theorem self_deletion_deadlocks : ¬ AllStates step DeadlockFree (init ["bob"]) deleteSelf := by
  intro h
  have hlast := h.last rfl
  refine hlast "bob" ⟨trivial,?_⟩
  intro as t hr
  exact run_invariant (fun s => s.doing "bob" = .awaiting none "bob" .stop 0) rfl
    (fun _ _ _ => self_wait_stays) hr

end Sake.Proofs.Deadlock
