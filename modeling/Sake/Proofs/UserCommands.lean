import Mathlib.Algebra.GroupWithZero.Nat
import Sake.UserCommands
import Sake.Lib.WaitGraph

namespace Sake.Proofs.UserCommands
open Sake.UserCommands Sake.Lib.Runs Sake.Lib.WaitGraph Relation List

variable {s : Server} {user v : String} {ch : Nat} {lines : List String}

/-- What a command prints when it waits for nobody. -/
def printedBy (user : String) : Cmd → List String
  | .other lines => lines
  | .update _ => [updatedText user]
  | .delete _ => []
  | .run _ cmd => printedBy user cmd

/-- The user can run the command without waiting for another one, and prints no empty
line doing so. -/
def Local (user : String) : Cmd → Prop
  | .other lines => "" ∉ lines
  | .update target => target = user
  | .delete _ => False
  | .run target cmd => target = user ∧ Local user cmd

/-- A client's command that does not delete its own user, and has other users run
local commands only. -/
def Flat (user : String) : Cmd → Prop
  | .other _ => True
  | .update _ => True
  | .delete target => target ≠ user
  | .run target cmd => target = user ∧ Flat user cmd ∨ target ≠ user ∧ Local target cmd

/-- `x` waits for a reply of `y`. The wait for the end of a goroutine is left out: it
can be given up without consequences. -/
def Waits (s : Server) (x y : String) : Prop :=
  ∃ out req ch, s.doing x = .awaiting out y req ch ∧ req ≠ .stop

/-- The replies an activity or an event still has to send, by channel. -/
def job (user : String) : Activity → List (Nat × List String)
  | .running (some ch) cmd => [(ch,printedBy user cmd)]
  | .printing (some ch) lines _ => [(ch,lines)]
  | _ => []

def eventJob (user : String) : Event → List (Nat × List String)
  | .userRun ch cmd => [(ch,printedBy user cmd)]
  | _ => []

def jobs (s : Server) (user : String) : List (Nat × List String) :=
  job user (s.doing user) ++ (s.queue user).flatMap (eventJob user)

/-- How many replies are on their way through a channel. -/
def unread (s : Server) (user : String) (ch : Nat) : Nat :=
  (s.chans ch).buf.toList.length + (((jobs s user).filter (·.1 = ch)).map fun j => j.2.length + 1).sum

/-- A step that keeps clear of the waits without an end. -/
def Prudent (s : Server) : Action → Prop
  | .arrive user cmd => Flat user cmd
  | .post user => ∀ out target req, s.doing user = .posting out target req → req ≠ .stop →
      ¬ ReflTransGen (Waits s) target user ∧ (req = .update → s.doing target ≠ .ended ∧ .stop ∉ s.queue target)
  | .timeout user => ∀ out target cmd ch, s.doing user = .awaiting out target (.run cmd) ch →
      s.doing target = .ended ∨ unread s target ch ≤ 1
  | _ => True

section
variable {other : String}

@[simp] theorem setDoing_queue : (s.setDoing user a).queue = s.queue := rfl

@[simp] theorem setDoing_chans : (s.setDoing user a).chans = s.chans := rfl

@[simp] theorem setDoing_nextChan : (s.setDoing user a).nextChan = s.nextChan := rfl

@[simp] theorem setDoing_self (user : String) (a : Activity) : (s.setDoing user a).doing user = a := by
  simp [Server.setDoing]

theorem setDoing_ne (h : other ≠ user) (a : Activity) : (s.setDoing user a).doing other = s.doing other := by
  simp [Server.setDoing,Function.update_of_ne h]

@[simp] theorem setQueue_doing : (s.setQueue user es).doing = s.doing := rfl

@[simp] theorem setQueue_chans : (s.setQueue user es).chans = s.chans := rfl

@[simp] theorem setQueue_self : (s.setQueue user es).queue user = es := by
  simp [Server.setQueue]

theorem setQueue_ne (h : other ≠ user) (es : List Event) : (s.setQueue user es).queue other = s.queue other := by
  simp [Server.setQueue,Function.update_of_ne h]

@[simp] theorem setBuf_doing : (s.setBuf ch b).doing = s.doing := rfl

@[simp] theorem setBuf_queue : (s.setBuf ch b).queue = s.queue := rfl

@[simp] theorem setBuf_nextChan : (s.setBuf ch b).nextChan = s.nextChan := rfl

@[simp] theorem setBuf_self : ((s.setBuf ch b).chans ch).buf = b := by
  simp [Server.setBuf]

theorem setBuf_ne {other : Nat} (h : other ≠ ch) (b : Option Reply) : (s.setBuf ch b).chans other = s.chans other := by
  simp [Server.setBuf,Function.update_of_ne h]

@[simp] theorem setBuf_requester (ch other : Nat) (b : Option Reply) : ((s.setBuf ch b).chans other).requester = (s.chans other).requester := by
  by_cases h : other = ch
  · subst other
    simp [Server.setBuf]
  · rw [setBuf_ne h]

@[simp] theorem setBuf_target (ch other : Nat) (b : Option Reply) :
    ((s.setBuf ch b).chans other).target = (s.chans other).target := by
  by_cases h : other = ch
  · subst other
    simp [Server.setBuf]
  · rw [setBuf_ne h]

end

def eventChans : Event → List Nat
  | .userRun ch _ => [ch]
  | .userUpdate ch => [ch]
  | _ => []

/-- The channels a user owes replies on. -/
def served (s : Server) (user : String) : List Nat :=
  (job user (s.doing user)).map Prod.fst ++ (s.queue user).flatMap eventChans

def Fits (user : String) : Activity → Prop
  | .running none cmd => Flat user cmd
  | .running (some _) cmd => Local user cmd
  | .posting out target req =>
    out = none ∧ target ≠ user ∧ ∀ cmd, req = .run cmd → Local target cmd
  | .awaiting out target _ _ => out = none ∧ target ≠ user
  | .printing _ _ after => after = .return
  | _ => True

def FitsEvent (user : String) : Event → Prop
  | .command cmd => Flat user cmd
  | .userRun _ cmd => Local user cmd
  | _ => True

def Reader (s : Server) (user : String) (ch : Nat) : Prop :=
  ∃ cmd, s.doing (s.chans ch).requester = .awaiting none user (.run cmd) ch

/-- A job of a live user is read, or fits into the channel. -/
structure JobOk (s : Server) (user : String) (ch : Nat) (lines : List String) : Prop where
  nonempty : "" ∉ lines
  lines_only : ∀ r, (s.chans ch).buf = some r → ∃ text, text ≠ "" ∧ r = .line text
  read : Reader s user ch ∨ lines = [] ∧ (s.chans ch).buf = none

/-- The reply is there, or still to come. -/
def Answerable (s : Server) (target : String) (ch : Nat) : Request → Prop
  | .update => (s.chans ch).buf ≠ none ∨ s.doing target ≠ .ended ∧
      ∃ front back, s.queue target = front ++ .userUpdate ch :: back ∧ .stop ∉ front
  | .run _ => s.doing target = .ended ∨ (s.chans ch).buf = some .final ∨ ∃ lines, (ch,lines) ∈ jobs s target
  | .stop => True

structure WaitOk (s : Server) (user target : String) (req : Request) (ch : Nat) : Prop where
  fresh : ch < s.nextChan
  asker : (s.chans ch).requester = user
  asked : (s.chans ch).target = target
  answerable : Answerable s target ch req

structure Invariant (s : Server) : Prop where
  fits : ∀ user, Fits user (s.doing user)
  queued : ∀ user, ∀ e ∈ s.queue user, FitsEvent user e
  nodup : ∀ user, (served s user).Nodup
  owned : ∀ user, ∀ ch ∈ served s user, ch < s.nextChan ∧ (s.chans ch).target = user
  jobsOk : ∀ user, s.doing user ≠ .ended → ∀ ch lines, (ch,lines) ∈ jobs s user → JobOk s user ch lines
  waitsOk : ∀ user out target req ch, s.doing user = .awaiting out target req ch → WaitOk s user target req ch
  grounded : Grounded (Waits s)

theorem mem_served_of_mem_jobs (h : (ch,lines) ∈ jobs s user) : ch ∈ served s user := by
  rcases mem_append.mp h with h | h
  · exact mem_append_left _ (mem_map.mpr ⟨_,h,rfl⟩)
  refine mem_append_right _ ?_
  obtain ⟨e,he,hj⟩ := mem_flatMap.mp h
  refine mem_flatMap.mpr ⟨e,he,?_⟩
  cases e with
  | userRun c cmd =>
    cases mem_singleton.mp hj
    exact mem_singleton_self _
  | command cmd | userUpdate c | stop => cases hj

/-- An update is queued that the target will get to. -/
def UpdateQueued (s : Server) (target : String) (ch : Nat) : Prop :=
  s.doing target ≠ .ended ∧ ∃ front back, s.queue target = front ++ .userUpdate ch :: back ∧ .stop ∉ front

section Frames
theorem jobs_congr (hd : t.doing v = s.doing v) (hq : t.queue v = s.queue v) : jobs t v = jobs s v := by
  simp [jobs,hd,hq]

theorem served_congr (hd : t.doing v = s.doing v) (hq : t.queue v = s.queue v) : served t v = served s v := by
  simp [served,hd,hq]

/-- A job is not disturbed while its channel and the one who reads it stay. -/
theorem JobOk.frame (hok : JobOk s user ch lines) (hch : t.chans ch = s.chans ch)
    (hread : ∀ cmd, s.doing (s.chans ch).requester = .awaiting none user (.run cmd) ch →
      t.doing (s.chans ch).requester = .awaiting none user (.run cmd) ch) : JobOk t user ch lines := by
  refine ⟨hok.nonempty,?_,?_⟩
  · rw [hch]
    exact hok.lines_only
  · simp only [Reader,hch]
    rcases hok.read with ⟨cmd,hr⟩ | hr
    · exact .inl ⟨cmd,hread cmd hr⟩
    · exact .inr hr

/-- A wait is not disturbed while its channel stays, and with it what the target has queued
for it. -/
theorem WaitOk.frame (hw : WaitOk s user target req ch) (hnext : s.nextChan ≤ t.nextChan)
    (hch : t.chans ch = s.chans ch) (hup : UpdateQueued s target ch → UpdateQueued t target ch)
    (hend : s.doing target = .ended → t.doing target = .ended)
    (hjob : ∀ lines, (ch,lines) ∈ jobs s target → ∃ rest, (ch,rest) ∈ jobs t target) :
    WaitOk t user target req ch := by
  refine ⟨Nat.lt_of_lt_of_le hw.fresh hnext,by rw [hch,hw.asker],by rw [hch,hw.asked],?_⟩
  have hans := hw.answerable
  cases req with
  | update =>
    rcases hans with hb | hq
    · refine .inl ?_
      rwa [hch]
    · exact .inr (hup hq)
  | run cmd =>
    rcases hans with he | hb | ⟨lines,hm⟩
    · exact .inl (hend he)
    · refine .inr (.inl ?_)
      rwa [hch]
    · exact .inr (.inr (hjob lines hm))
  | stop => trivial

theorem grounded_of_awaiting (h : Grounded (Waits s))
    (hawait : ∀ u out target req ch, t.doing u = .awaiting out target req ch →
      s.doing u = .awaiting out target req ch) : Grounded (Waits t) := by
  refine h.mono ?_
  intro x y hxy
  obtain ⟨out,req,ch,hx,hreq⟩ := hxy
  exact ⟨out,req,ch,hawait _ _ _ _ _ hx,hreq⟩

end Frames

section
variable {a : Activity} {e : Event} {events : List Event}

theorem doing_cases (h : (s.setDoing user a).doing u = x) : u = user ∧ a = x ∨ u ≠ user ∧ s.doing u = x := by
  by_cases hu : u = user
  · subst u
    exact .inl ⟨rfl,(setDoing_self user a).symm.trans h⟩
  · exact .inr ⟨hu,(setDoing_ne hu a).symm.trans h⟩

theorem fits_setDoing (h : ∀ u, Fits u (s.doing u)) (hf : Fits user a) (u : String) :
    Fits u ((s.setDoing user a).doing u) := by
  by_cases hu : u = user
  · subst u
    rwa [setDoing_self]
  · rw [setDoing_ne hu]
    exact h u

/-- A goroutine moves on and events enter or leave its queue, with its jobs and
waiting requests kept as they are. -/
theorem Invariant.rearrange (h : Invariant s) (events : List Event) (hf : Fits user a)
    (hfe : ∀ e ∈ events, FitsEvent user e) (hj : job user a ++ events.flatMap (eventJob user) = jobs s user)
    (hc : (job user a).map Prod.fst ++ events.flatMap eventChans = served s user)
    (hup : ∀ ch, UpdateQueued s user ch →
      a ≠ .ended ∧ ∃ front back, events = front ++ .userUpdate ch :: back ∧ .stop ∉ front)
    (hend : s.doing user = .ended → a = .ended)
    (hnew : ∀ out target req ch, a = .awaiting out target req ch → s.doing user = a)
    (hold : ∀ out target cmd ch, s.doing user = .awaiting out target (.run cmd) ch →
      a = s.doing user) : Invariant ((s.setQueue user events).setDoing user a) := by
  have hdoing : ∀ {u}, u ≠ user → ((s.setQueue user events).setDoing user a).doing u = s.doing u :=
    fun hu => setDoing_ne hu a
  have hjobs : ∀ v, jobs ((s.setQueue user events).setDoing user a) v = jobs s v := by
    intro v
    by_cases hv : v = user
    · subst v
      rw [← hj]
      simp [jobs]
    · exact jobs_congr (hdoing hv) (setQueue_ne hv events)
  have hserved : ∀ v, served ((s.setQueue user events).setDoing user a) v = served s v := by
    intro v
    by_cases hv : v = user
    · subst v
      rw [← hc]
      simp [served]
    · exact served_congr (hdoing hv) (setQueue_ne hv events)
  have hawait : ∀ {u out target req ch},
      ((s.setQueue user events).setDoing user a).doing u = .awaiting out target req ch →
      s.doing u = .awaiting out target req ch := by
    intro u out target req ch hu
    rcases doing_cases hu with ⟨rfl,he⟩ | ⟨-,hu⟩
    · exact (hnew _ _ _ _ he).trans he
    · exact hu
  have hended : ∀ {v}, s.doing v = .ended → ((s.setQueue user events).setDoing user a).doing v = .ended := by
    intro v he
    by_cases hv : v = user
    · subst v
      exact (setDoing_self _ a).trans (hend he)
    · exact (hdoing hv).trans he
  refine ⟨fits_setDoing h.fits hf,?_,?_,?_,?_,?_,grounded_of_awaiting h.grounded fun _ _ _ _ _ => hawait⟩
  · intro u e he
    by_cases hu : u = user
    · subst u
      rw [setDoing_queue,setQueue_self] at he
      exact hfe e he
    · rw [setDoing_queue,setQueue_ne hu] at he
      exact h.queued u e he
  · intro v
    rw [hserved]
    exact h.nodup v
  · intro v
    rw [hserved]
    exact h.owned v
  · intro v hv ch lines hm
    rw [hjobs] at hm
    refine (h.jobsOk v (fun he => hv (hended he)) ch lines hm).frame rfl ?_
    intro cmd hr
    by_cases hu : (s.chans ch).requester = user
    · rw [hu] at hr ⊢
      exact (setDoing_self _ a).trans ((hold _ _ _ _ hr).trans hr)
    · exact (hdoing hu).trans hr
  · intro u out target req ch hu
    refine (h.waitsOk u out target req ch (hawait hu)).frame (Nat.le_refl _) rfl ?_ hended ?_
    · intro hq
      by_cases ht : target = user
      · subst target
        simpa [UpdateQueued] using hup ch hq
      · simpa [UpdateQueued,hdoing ht,setQueue_ne ht] using hq
    · intro lines hm
      exact ⟨lines,(hjobs target).symm ▸ hm⟩

theorem setQueue_same : s.setQueue user (s.queue user) = s := by simp [Server.setQueue]

theorem setDoing_same : s.setDoing user (s.doing user) = s := by simp [Server.setDoing]

/-- A goroutine goes from one activity to another that nobody else takes notice of. -/
theorem Invariant.move (h : Invariant s) (hf : Fits user a) (hj : job user a = job user (s.doing user))
    (hlive : s.doing user ≠ .ended) (hend : a ≠ .ended) (hnew : ∀ out target req ch, a ≠ .awaiting out target req ch)
    (hold : ∀ out target cmd ch, s.doing user ≠ .awaiting out target (.run cmd) ch) :
    Invariant (s.setDoing user a) := by
  have hr := h.rearrange (s.queue user) hf (h.queued user) (by rw [hj]; rfl)
    (by rw [hj]; rfl) (fun ch hq => ⟨hend,hq.2⟩)
    (fun he => absurd he hlive) (fun _ _ _ _ he => absurd he (hnew _ _ _ _))
    (fun _ _ _ _ he => absurd he (hold _ _ _ _))
  rwa [setQueue_same] at hr

theorem arrive_invariant (h : Invariant s) (hcmd : Flat user cmd) :
    Invariant (s.setQueue user (s.queue user ++ [.command cmd])) := by
  have hr := h.rearrange (s.queue user ++ [.command cmd]) (h.fits user) ?_ ?_ ?_ ?_
    id (fun _ _ _ _ _ => rfl) (fun _ _ _ _ _ => rfl)
  · exact setDoing_same (s := s.setQueue user (s.queue user ++ [.command cmd])) ▸ hr
  · intro e he
    rcases mem_append.mp he with he | he
    · exact h.queued user e he
    · cases mem_singleton.mp he
      exact hcmd
  · simp [jobs,eventJob]
  · simp [served,eventChans]
  · intro ch hup
    obtain ⟨hlive,front,back,hq,hfront⟩ := hup
    exact ⟨hlive,front,back ++ [.command cmd],by simp [hq],hfront⟩

/-- A wait for an update is about the first event, or one behind it. -/
theorem behind_head (hq : s.queue user = e :: events)
    (he : s.queue user = front ++ .userUpdate ch :: back) (hfront : .stop ∉ front) : e = .userUpdate ch ∨
      e ≠ .stop ∧ ∃ front', events = front' ++ .userUpdate ch :: back ∧ .stop ∉ front' := by
  rw [hq] at he
  cases front with
  | nil => exact .inl (List.cons.inj he).1
  | cons f front =>
    obtain ⟨rfl,htail⟩ := List.cons.inj he
    refine .inr ⟨?_,front,htail,fun hm => hfront (mem_cons_of_mem _ hm)⟩
    intro hs
    exact hfront (hs ▸ mem_cons_self)

/-- The loop takes any event but an update, and turns to what it says. -/
theorem take_invariant (h : Invariant s) (hd : s.doing user = .idle) (hq : s.queue user = e :: events)
    (hf : Fits user a) (hj : job user a = eventJob user e) (hc : (job user a).map Prod.fst = eventChans e)
    (hne : ∀ ch, e ≠ .userUpdate ch) (hstop : a = .ended → e = .stop)
    (hnew : ∀ out target req ch, a ≠ .awaiting out target req ch) :
    Invariant ((s.setQueue user events).setDoing user a) := by
  refine h.rearrange events hf ?_ ?_ ?_ ?_ ?_ ?_ ?_
  · intro e he
    exact h.queued user e (hq ▸ mem_cons_of_mem _ he)
  · rw [hj]
    simp [jobs,hd,hq,job]
  · rw [hc]
    simp [served,hd,hq,job]
  · intro ch hup
    obtain ⟨-,front,back,he,hfront⟩ := hup
    rcases behind_head hq he hfront with hh | ⟨hs,front',hev,hnot⟩
    · exact absurd hh (hne ch)
    · exact ⟨fun ha => hs (hstop ha),front',back,hev,hnot⟩
  · simp [hd]
  · intro _ _ _ _ ha
    exact absurd ha (hnew _ _ _ _)
  · simp [hd]

/-- A channel is served by one user only. -/
theorem Invariant.served_apart (h : Invariant s) (hv : v ≠ user)
    (hch : ch ∈ served s user) (hc : c ∈ served s v) : c ≠ ch := by
  rintro rfl
  exact hv ((h.owned v c hc).2.symm.trans (h.owned user c hch).2)

end

end Sake.Proofs.UserCommands
