import Sake.Broadcast

namespace Sake.Proofs.Broadcast
open Sake.Broadcast Sake.Lib.Runs
open Sake.EventLoop (eventQueueCap)

variable {s t : Server} {path : Path}

/-- A broadcast waits for room in the full queue of a user that will not make any: the
sender itself, or one that waits for the lock. -/
def Blocked (s : Server) (sender user : String) : Prop :=
  ∃ path rest expired, s.doing sender = .visiting path (user :: rest) expired ∧ ¬ s.queue user < eventQueueCap ∧
    (user = sender ∨ ∃ purpose, s.doing user = .locking purpose)

/-- Such a broadcast holds the lock, and nothing that can happen makes it let go. -/
def LockLost (s : Server) : Prop :=
  ∃ sender user, s.lock = some sender ∧ Blocked s sender user ∧ ∀ as t, run step s as = some t → t.lock = some sender

section

@[simp] theorem setDoing_queue : (s.setDoing user a).queue = s.queue := rfl

theorem setDoing_self (user : String) (a : Activity) : (s.setDoing user a).doing user = a := by simp [Server.setDoing]

theorem setDoing_ne (h : other ≠ user) (a : Activity) : (s.setDoing user a).doing other = s.doing other := by
  simp [Server.setDoing,Function.update_of_ne h]

@[simp] theorem setQueue_doing : (s.setQueue user n).doing = s.doing := rfl

@[simp] theorem setQueue_users (user : String) (n : Nat) : (s.setQueue user n).users = s.users := rfl

theorem setQueue_self : (s.setQueue user n).queue user = n := by simp [Server.setQueue]

theorem setQueue_ne (h : other ≠ user) (n : Nat) : (s.setQueue user n).queue other = s.queue other := by
  simp [Server.setQueue,Function.update_of_ne h]

/-- What a step can do: post, move a goroutine that is neither locking nor visiting,
take the lock, or go on with the broadcast that holds it. -/
inductive Moved (s : Server) (a : Action) : Server → Prop
  | posted {user} (room : s.queue user < eventQueueCap) :
      Moved s a (s.setQueue user (s.queue user + 1))
  | worked {user activity n} (free : s.doing user = .idle ∨ s.doing user = .handling)
      (turns : activity = .idle ∨ activity = .handling ∨
        ∃ purpose, activity = .locking purpose ∧ a = .wantLock user purpose) :
      Moved s a ((s.setQueue user n).setDoing user activity)
  | locked {user purpose order t} (free : s.lock = none)
      (waits : s.doing user = .locking purpose) (crit : locked s user order purpose = some t) :
      Moved s a t
  | sent {sender path user rest expired}
      (visits : s.doing sender = .visiting path (user :: rest) expired)
      (room : s.queue user < eventQueueCap) :
      Moved s a ((s.setQueue user (s.queue user + 1)).setDoing sender (.visiting path rest expired))
  | expired {sender rest expired}
      (visits : s.doing sender = .visiting (.serverNotice true) rest expired) :
      Moved s a (s.setDoing sender (.visiting (.serverNotice true) rest true))
  | skipped {sender path user rest} (visits : s.doing sender = .visiting path (user :: rest) true) :
      Moved s a (s.setDoing sender (.visiting path rest true))
  | released {sender path expired} (visits : s.doing sender = .visiting path [] expired) :
      Moved s a ({ s with lock := none }.setDoing sender .handling)

theorem setQueue_same : s.setQueue user (s.queue user) = s := by simp [Server.setQueue]

variable {user u : String} {a : Action} {purpose : Purpose}

theorem moved_of_step (h : step s a = some t) : Moved s a t := by
  cases a with
  | post user =>
    simp only [step] at h
    split at h
    · cases h
      exact .posted ‹_›
    · cases h
  | take user =>
    simp only [step] at h
    split at h
    · rename_i hc
      cases h
      exact .worked (.inl hc.1) (.inr (.inl rfl))
    · cases h
  | finish user =>
    simp only [step] at h
    split at h
    · rename_i hc
      cases h
      have := Moved.worked (a := .finish user) (n := s.queue user) (.inr hc) (.inl rfl)
      rwa [setQueue_same] at this
    · cases h
  | wantLock user purpose =>
    simp only [step] at h
    split at h
    · rename_i hc
      cases h
      have := Moved.worked (n := s.queue user) (.inr hc) (.inr (.inr ⟨purpose,rfl,rfl⟩))
      rwa [setQueue_same] at this
    · cases h
  | acquire user order =>
    simp only [step] at h
    split at h
    · exact .locked ‹_› ‹_› h
    · cases h
  | send user =>
    simp only [step,send] at h
    split at h
    · rename_i hv
      split at h
      · cases h
        exact .sent hv ‹_›
      · cases h
    · cases h
  | expire user =>
    simp only [step,expire] at h
    split at h
    · rename_i hv
      cases h
      exact .expired hv
    · cases h
  | skip user =>
    simp only [step,skip] at h
    split at h
    · rename_i hv
      cases h
      exact .skipped hv
    · cases h
  | release user =>
    simp only [step,release] at h
    split at h
    · rename_i hv
      cases h
      exact .released hv
    · cases h

theorem doing_cases {a : Activity} (h : (s.setDoing user a).doing u = x) :
    u = user ∧ a = x ∨ u ≠ user ∧ s.doing u = x := by
  by_cases hu : u = user
  · subst u
    exact .inl ⟨rfl,(setDoing_self user a).symm.trans h⟩
  · exact .inr ⟨hu,(setDoing_ne hu a).symm.trans h⟩

/-- Whoever visits the users holds the lock. -/
def Owned (s : Server) : Prop :=
  ∀ u path rest expired, s.doing u = .visiting path rest expired → s.lock = some u

theorem Owned.set (h : Owned s) {a : Activity}
    (ha : ∀ path rest expired, a = .visiting path rest expired → s.lock = some user) : Owned (s.setDoing user a) := by
  intro u path rest expired hu
  rcases doing_cases hu with ⟨rfl,hx⟩ | ⟨-,hu⟩
  · exact ha _ _ _ hx
  · exact h _ _ _ _ hu

theorem locked_owned (h : Owned s) (hfree : s.lock = none) (hc : locked s user order purpose = some t) : Owned t := by
  cases purpose with
  | getUser =>
    cases hc
    exact h.set nofun
  | createUser name =>
    simp only [locked] at hc
    split at hc
    · cases hc
      exact h.set nofun
    · cases hc
      have hidle : Owned (({ s with users := name :: s.users }.setQueue name 0).setDoing name .idle) :=
        Owned.set h nofun
      exact hidle.set nofun
  | leave =>
    cases hc
    exact Owned.set h nofun
  | broadcast path =>
    simp only [locked] at hc
    split at hc
    · cases hc
      intro u p rest expired hu
      rcases doing_cases hu with ⟨rfl,-⟩ | ⟨-,hu⟩
      · rfl
      · have hl := h u p rest expired hu
        rw [hfree] at hl
        cases hl
    · cases hc

theorem step_owned (h : Owned s) (hs : step s a = some t) : Owned t := by
  cases moved_of_step hs with
  | posted _ => exact h
  | @worked user activity n _ turns =>
    refine Owned.set h ?_
    intro path rest expired he
    rcases turns with rfl | rfl | ⟨p,rfl,-⟩ <;> cases he
  | locked free _ crit => exact locked_owned h free crit
  | @sent sender path user rest expired visits _ =>
    refine Owned.set h ?_
    intro _ _ _ _
    exact h _ _ _ _ visits
  | expired visits | skipped visits => exact h.set fun _ _ _ _ => h _ _ _ _ visits
  | @released sender path expired visits =>
    intro u p rest e hu
    rcases doing_cases hu with ⟨-,hx⟩ | ⟨hne,hu⟩
    · cases hx
    · have hu' := h _ _ _ _ hu
      rw [h _ _ _ _ visits] at hu'
      exact absurd (Option.some.inj hu').symm hne

/-- A blocked broadcast whose sends never give up. -/
structure Wedged (s : Server) (sender user : String) : Prop where
  owned : Owned s
  visits : ∃ path rest, s.doing sender = .visiting path (user :: rest) false ∧ path ≠ .serverNotice true
  full : ¬ s.queue user < eventQueueCap
  waits : user = sender ∨ ∃ purpose, s.doing user = .locking purpose

theorem Wedged.lock (h : Wedged s sender user) : s.lock = some sender := by
  obtain ⟨path,rest,hv,-⟩ := h.visits
  exact h.owned _ _ _ _ hv

/-- Neither the sender nor the owner of the queue can be the one that moves. -/
theorem Wedged.busy (h : Wedged s sender user)
    (hu : s.doing u = .idle ∨ s.doing u = .handling) : u ≠ sender ∧ u ≠ user := by
  obtain ⟨path,rest,hv,-⟩ := h.visits
  have hs : u ≠ sender := by
    rintro rfl
    rcases hu with hu | hu <;> rw [hv] at hu <;> cases hu
  refine ⟨hs,?_⟩
  rintro rfl
  rcases h.waits with he | ⟨purpose,hp⟩
  · exact hs he
  · rcases hu with hu | hu <;> rw [hp] at hu <;> cases hu

theorem step_wedged (h : Wedged s sender user) (hs : step s a = some t) : Wedged t sender user := by
  have howned := step_owned h.owned hs
  obtain ⟨path,rest,hv,hpath⟩ := h.visits
  have hsender : ∀ {u path' rest' e}, s.doing u = .visiting path' rest' e → u = sender := by
    intro u path' rest' e hu
    have hl := h.owned _ _ _ _ hu
    rw [h.lock] at hl
    exact (Option.some.inj hl).symm
  cases moved_of_step hs with
  | @posted u room =>
    have hne : user ≠ u := by
      rintro rfl
      exact h.full room
    refine ⟨howned,h.visits,?_,h.waits⟩
    rw [setQueue_ne hne]
    exact h.full
  | @worked u activity n free _ =>
    obtain ⟨hns,hnu⟩ := h.busy free
    refine ⟨howned,⟨path,rest,?_,hpath⟩,?_,?_⟩
    · rw [setDoing_ne hns.symm]
      exact hv
    · rw [setDoing_queue,setQueue_ne hnu.symm]
      exact h.full
    · rw [setDoing_ne hnu.symm]
      exact h.waits
  | locked free _ _ =>
    rw [h.lock] at free
    cases free
  | @sent sender' path' u rest' expired visits room =>
    obtain rfl := hsender visits
    rw [hv] at visits
    cases visits
    exact absurd room h.full
  | expired visits =>
    obtain rfl := hsender visits
    rw [hv] at visits
    cases visits
    exact absurd rfl hpath
  | skipped visits | released visits =>
    obtain rfl := hsender visits
    rw [hv] at visits
    cases visits

theorem Wedged.lockLost (h : Wedged s sender user) : LockLost s := by
  obtain ⟨path,rest,hv,-⟩ := h.visits
  refine ⟨sender,user,h.lock,⟨path,rest,false,hv,h.full,h.waits⟩,?_⟩
  intro as t hr
  have hend := run_invariant (fun t => Wedged t sender user) h (fun _ _ _ => step_wedged) hr
  exact hend.lock

/-- Every broadcast under way or about to start gives up some time. -/
def Timely : Activity → Prop
  | .visiting path _ _ => path = .serverNotice true
  | .locking (.broadcast path) => path = .serverNotice true
  | _ => True

def Timed (a : Action) : Prop :=
  ∀ user path, a = .wantLock user (.broadcast path) → path = .serverNotice true

structure AllTimely (s : Server) : Prop where
  owned : Owned s
  timely : ∀ u, Timely (s.doing u)

theorem timely_set (h : ∀ u, Timely (s.doing u)) (user : String) {a : Activity} (ha : Timely a) :
    ∀ u, Timely ((s.setDoing user a).doing u) := by
  intro u
  rcases doing_cases (rfl : (s.setDoing user a).doing u = _) with ⟨-,hx⟩ | ⟨-,hx⟩
  · exact hx ▸ ha
  · exact hx ▸ h u

theorem locked_timely (ht : ∀ u, Timely (s.doing u)) (waits : s.doing user = .locking purpose)
    (crit : locked s user order purpose = some t) : ∀ u, Timely (t.doing u) := by
  cases purpose with
  | getUser =>
    cases crit
    exact timely_set ht user trivial
  | createUser name =>
    simp only [locked] at crit
    split at crit
    · cases crit
      exact timely_set ht user trivial
    · cases crit
      have hidle := timely_set (a := .idle) ht name trivial
      exact timely_set hidle user trivial
  | leave =>
    cases crit
    exact timely_set ht user trivial
  | broadcast path =>
    have hp := ht user
    rw [waits] at hp
    simp only [locked] at crit
    split at crit
    · cases crit
      exact timely_set ht user hp
    · cases crit

theorem step_timely (h : AllTimely s) (ha : Timed a) (hs : step s a = some t) : AllTimely t := by
  refine ⟨step_owned h.owned hs,?_⟩
  have ht := h.timely
  cases moved_of_step hs with
  | posted _ => exact ht
  | @worked user activity n _ turns =>
    refine timely_set ht user ?_
    rcases turns with rfl | rfl | ⟨purpose,rfl,rfl⟩
    · trivial
    · trivial
    · cases purpose with
      | broadcast path => exact ha user path rfl
      | getUser | createUser name | leave => trivial
  | locked free waits crit => exact locked_timely ht waits crit
  | @sent sender path user rest expired visits _ =>
    have hp := ht sender
    rw [visits] at hp
    exact timely_set ht sender hp
  | expired visits => exact timely_set ht _ rfl
  | @skipped sender path user rest visits =>
    have hp := ht sender
    rw [visits] at hp
    exact timely_set ht sender hp
  | released visits => exact timely_set ht _ trivial

/-- An expired broadcast skips the rest of the users and lets go of the lock. -/
theorem expired_releases (hv : s.doing sender = .visiting path rest true) :
    ∃ as t, run step s as = some t ∧ t.lock = none := by
  induction rest generalizing s with
  | nil =>
    refine ⟨[.release sender],{ s with lock := none }.setDoing sender .handling,?_,rfl⟩
    simp [run,step,release,hv]
  | cons u rest ih =>
    obtain ⟨as,t,hr,hl⟩ := ih (s := s.setDoing sender (.visiting path rest true))
      (setDoing_self sender _)
    refine ⟨.skip sender :: as,t,?_,hl⟩
    simp [run,step,skip,hv,hr]

theorem AllTimely.not_lost (h : AllTimely s) : ¬ LockLost s := by
  rintro ⟨sender,user,-,⟨path,rest,expired,hv,-,-⟩,hforever⟩
  have hp := h.timely sender
  rw [hv] at hp
  obtain rfl : path = .serverNotice true := hp
  obtain ⟨as,t,hr,hl⟩ := expired_releases
    (s := s.setDoing sender (.visiting (.serverNotice true) (user :: rest) true))
    (setDoing_self sender _)
  have hlock := hforever (.expire sender :: as) t (by simp [run,step,expire,hv,hr])
  rw [hl] at hlock
  cases hlock

/-- Other goroutines may fill a queue while the lock is held. -/
theorem fill_queue (user : String) : ∀ (n : Nat) (s : Server), eventQueueCap - s.queue user = n →
    ∃ t, run step s (List.replicate n (.post user)) = some t ∧ ¬ t.queue user < eventQueueCap ∧
      t.lock = s.lock ∧ t.doing = s.doing := by
  intro n
  induction n with
  | zero =>
    intro s hn
    exact ⟨s,rfl,by omega,rfl,rfl⟩
  | succ n ih =>
    intro s hn
    have hroom : s.queue user < eventQueueCap := by omega
    obtain ⟨t,hr,hfull,hlock,hdoing⟩ := ih (s.setQueue user (s.queue user + 1))
      (by rw [setQueue_self]; omega)
    refine ⟨t,?_,hfull,hlock,hdoing⟩
    simp [List.replicate_succ,run,step,hroom,hr]

/-- From an idle user with an event queued: it takes the event, broadcasts, visits
itself first, and finds its own queue filled up. -/
theorem broadcast_wedges (user : String) (path : Path) (ho : Owned s) (hidle : s.doing user = .idle)
    (hlock : s.lock = none) (hmem : user ∈ s.users) (hevent : 0 < s.queue user) (hpath : path ≠ .serverNotice true) :
    ∃ as t, run step s as = some t ∧ Wedged t user user ∧ ∀ u p, .wantLock u (.broadcast p) ∈ as → p = path := by
  have htake : step s (.take user) = some ((s.setQueue user (s.queue user - 1)).setDoing user
      .handling) := by simp [step,hidle,hevent]
  obtain ⟨s₁,hs₁,ho₁,hd₁,hl₁,hu₁⟩ : ∃ s₁, step s (.take user) = some s₁ ∧ Owned s₁ ∧
      s₁.doing user = .handling ∧ s₁.lock = none ∧ s₁.users = s.users :=
    ⟨_,htake,step_owned ho htake,setDoing_self _ _,hlock,rfl⟩
  have hwant : step s₁ (.wantLock user (.broadcast path)) =
      some (s₁.setDoing user (.locking (.broadcast path))) := by simp [step,hd₁]
  obtain ⟨s₂,hs₂,ho₂,hd₂,hl₂,hu₂⟩ : ∃ s₂, step s₁ (.wantLock user (.broadcast path)) = some s₂ ∧
      Owned s₂ ∧ s₂.doing user = .locking (.broadcast path) ∧ s₂.lock = none ∧ s₂.users = s.users :=
    ⟨_,hwant,step_owned ho₁ hwant,setDoing_self _ _,hl₁,hu₁⟩
  set order := user :: s.users.erase user
  have horder : order.Perm s₂.users := by
    rw [hu₂]
    exact (List.perm_cons_erase hmem).symm
  have hacquire : step s₂ (.acquire user order) =
      some ({ s₂ with lock := some user }.setDoing user (.visiting path order false)) := by
    simp [step,hl₂,hd₂,locked,horder]
  obtain ⟨s₃,hs₃,ho₃,hd₃⟩ : ∃ s₃, step s₂ (.acquire user order) = some s₃ ∧
      Owned s₃ ∧ s₃.doing user = .visiting path order false :=
    ⟨_,hacquire,step_owned ho₂ hacquire,setDoing_self _ _⟩
  obtain ⟨t,hr,hfull,hlock,hdoing⟩ := fill_queue user _ s₃ rfl
  refine ⟨.take user :: .wantLock user (.broadcast path) :: .acquire user order ::
      List.replicate (eventQueueCap - s₃.queue user) (.post user),t,?_,?_,?_⟩
  · simp only [run,hs₁,hs₂,hs₃,Option.bind_some]
    exact hr
  · refine ⟨?_,⟨path,_,hdoing ▸ hd₃,hpath⟩,hfull,.inl rfl⟩
    intro u p rest expired hv
    rw [hlock]
    exact ho₃ u p rest expired (hdoing ▸ hv)
  · intro u p hm
    have hboth : u = user ∧ p = path := by simpa using hm
    exact hboth.2

end

theorem start_owned (users : List String) (queue : String → Nat) : Owned (start users queue) := by
  intro u path rest expired h
  simp only [start] at h
  split at h <;> cases h

theorem step_deserted (h : ∀ u, s.doing u = .stopped) (hs : step s a = some t) : ∀ u, t.doing u = .stopped := by
  cases moved_of_step hs with
  | posted _ => exact h
  | @worked user _ _ free _ => rcases free with hf | hf <;> rw [h user] at hf <;> cases hf
  | @locked user _ _ _ _ waits _ => rw [h user] at waits; cases waits
  | @sent sender _ _ _ _ visits _ => rw [h sender] at visits; cases visits
  | @expired sender _ _ visits => rw [h sender] at visits; cases visits
  | @skipped sender _ _ _ visits => rw [h sender] at visits; cases visits
  | @released sender _ _ visits => rw [h sender] at visits; cases visits

theorem event_queued (user : String) (users : List String) (queue : String → Nat) :
    ∃ as s, run step (start (user :: users) queue) as = some s ∧ Owned s ∧ s.doing user = .idle ∧
      s.lock = none ∧ user ∈ s.users ∧ 0 < s.queue user ∧
      ∀ u p, .wantLock u (.broadcast p) ∉ as := by
  have ho := start_owned (user :: users) queue
  cases hq : queue user with
  | zero =>
    refine ⟨[.post user],(start (user :: users) queue).setQueue user 1,?_,ho,?_,rfl,?_,?_,by simp⟩
    · simp [run,step,start,hq,eventQueueCap]
    · simp [start]
    · simp [start]
    · rw [setQueue_self]
      exact Nat.one_pos
  | succ n => exact ⟨[],_,rfl,ho,by simp [start],rfl,by simp [start],by simp [start,hq],by simp⟩

/-- A user and a path that does not give up are enough to lose the lock. -/
theorem lock_lost_by (hpath : path ≠ .serverNotice true) (user : String) (users : List String) (queue : String → Nat) :
    ∃ as t, run step (start (user :: users) queue) as = some t ∧ LockLost t ∧
      ∀ u p, .wantLock u (.broadcast p) ∈ as → p = path := by
  obtain ⟨pre,s,hpre,ho,hidle,hlock,hmem,hevent,hposts⟩ := event_queued user users queue
  obtain ⟨as,t,hr,hw,has⟩ := broadcast_wedges user path ho hidle hlock hmem hevent hpath
  refine ⟨pre ++ as,t,?_,hw.lockLost,?_⟩
  · rw [run_append,hpre]
    exact hr
  · intro u p hm
    rcases List.mem_append.mp hm with hm | hm
    · exact absurd hm (hposts u p)
    · exact has u p hm

theorem lock_kept_deserted (queue : String → Nat) (as : List Action) :
    AllStates step (fun s => ¬ LockLost s) (start [] queue) as := by
  refine AllStates.of_steps (fun s => ∀ u, s.doing u = .stopped)
    ?_ ?_ ?_ (.of_forall fun _ _ _ => trivial)
  · intro u
    rfl
  · rintro s hs ⟨sender,user,-,⟨path,rest,expired,hv,-⟩,-⟩
    rw [hs sender] at hv
    cases hv
  · intro s a t hs _ ht
    exact step_deserted hs ht

theorem lock_kept_timed (users : List String) (queue : String → Nat)
    (h : ∀ a ∈ as, Timed a) : AllStates step (fun s => ¬ LockLost s) (start users queue) as := by
  refine AllStates.of_steps AllTimely ?_ ?_ ?_
    (.of_forall fun a ha _ => h a ha)
  · refine ⟨start_owned users queue,?_⟩
    intro u
    simp only [start]
    split <;> trivial
  · intro s hs
    exact hs.not_lost
  · intro s a t hs ha ht
    exact step_timely hs ha ht

/-- Broadcasts by the given paths never lose the lock, in any run from any filling of
the queues, exactly when they all go through `server notice` with a timed context
(or there is no user to broadcast). -/
theorem lock_never_lost_iff (users : List String) (queue : String → Nat) (paths : List Path) :
    (∀ as, (∀ user path, .wantLock user (.broadcast path) ∈ as → path ∈ paths) →
        AllStates step (fun s => ¬ LockLost s) (start users queue) as) ↔
      users = [] ∨ ∀ path ∈ paths, path = .serverNotice true := by
  constructor
  · intro h
    cases users with
    | nil => exact .inl rfl
    | cons user users =>
      refine .inr fun path hp => ?_
      by_contra hpath
      obtain ⟨as,t,hr,hlost,has⟩ := lock_lost_by hpath user users queue
      exact (h as fun u p hm => has u p hm ▸ hp).last hr hlost
  · rintro (rfl | htimed) as has
    · exact lock_kept_deserted queue as
    · refine lock_kept_timed users queue ?_
      intro a ha user path he
      exact htimed path (has user path (he ▸ ha))

/-- One user, one event queued: the user sends a message to the server mask, and its
own queue fills up before its turn. -/
theorem own_queue_full_loses_lock : ¬ ∀ as, AllStates step (fun s => ¬ LockLost s) (start ["admin"] fun _ => 1) as := by
  intro h
  obtain ⟨as,t,hr,hlost,-⟩ := @lock_lost_by .serverMask nofun "admin" [] fun _ => 1
  exact (h as).last hr hlost

end Sake.Proofs.Broadcast
