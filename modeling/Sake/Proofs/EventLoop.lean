import Sake.EventLoop

namespace Sake.Proofs.EventLoop
open Sake.EventLoop Sake.Lib.Runs Sake.Lib.Fifo Function Function User

variable {u : User} {o : Outcome} {dc : Nat}

/-- How far a connection has come, as told by the events about it. -/
inductive Stage
  | away
  | attached
  | gone
deriving DecidableEq

/-- The events follow one another as `serveConn` posts them. -/
def next (view : Nat → Stage) : Event → Nat → Stage
  | .downstreamConnected dc => Function.update view dc .attached
  | .downstreamDisconnected dc => Function.update view dc .gone
  | _ => view

def InOrder (view : Nat → Stage) : Event → Prop
  | .downstreamConnected dc => view dc = .away
  | .downstreamMessage dc _ => view dc = .attached
  | .downstreamDisconnected dc => view dc = .attached
  | _ => True

def posted : Phase → Stage
  | .registering => .away
  | .dropped => .away
  | .registered => .away
  | .serving => .attached
  | .done => .gone

/-- The connections that count as attached have been welcomed. -/
def Agrees (u : User) (view : Nat → Stage) : Prop :=
  ∀ dc, view dc = .attached → (u.dcs dc).hasUser = true ∧ dc ∈ u.downstreamConns

/-- Every call so far was for a connection that had been welcomed. -/
def Welcomed (u : User) : Prop :=
  ∀ call ∈ u.calls, call.hasUser = true ∧ call.attached = true

structure Invariant (u : User) : Prop where
  calls : Welcomed u
  registering : ∀ dc, (u.dcs dc).phase = .registering → (u.dcs dc).registered = false
  inFlight : u.running = true → ∃ view, Agrees u view ∧
    InFlight next InOrder view (fun dc => posted (u.dcs dc).phase) u.events

/-- What `serveConn` keeps to itself. -/
structure Kept (u t : User) : Prop where
  events : t.events = u.events
  phase : ∀ dc, (t.dcs dc).phase = (u.dcs dc).phase
  registered : ∀ dc, (t.dcs dc).registered = (u.dcs dc).registered
  running : t.running = true → u.running = true

theorem Kept.trans (h : Kept u t) (h' : Kept t v) : Kept u v where
  events := h'.events.trans h.events
  phase dc := (h'.phase dc).trans (h.phase dc)
  registered dc := (h'.registered dc).trans (h.registered dc)
  running hr := h.running (h'.running hr)

theorem close_conn (u : User) (dcs : List Nat) (dc : Nat) : ((u.close dcs).dcs dc).phase = (u.dcs dc).phase ∧
      ((u.close dcs).dcs dc).registered = (u.dcs dc).registered ∧
      ((u.close dcs).dcs dc).hasUser = (u.dcs dc).hasUser := by
  simp only [close]
  split <;> exact ⟨rfl,rfl,rfl⟩

theorem close_kept (u : User) (dcs : List Nat) : Kept u (u.close dcs) where
  events := rfl
  phase dc := (close_conn u dcs dc).1
  registered dc := (close_conn u dcs dc).2.1
  running hr := hr

theorem Agrees.close (h : Agrees u view) (dcs : List Nat) : Agrees (u.close dcs) view := by
  intro dc hd
  obtain ⟨hu,hm⟩ := h dc hd
  exact ⟨(close_conn u dcs dc).2.2.trans hu,hm⟩

/-- An event was handled, and the connections stand as `view` says. -/
structure Handled (u t : User) (view : Nat → Stage) : Prop where
  kept : Kept u t
  agrees : t.running = true → Agrees t view
  calls : Welcomed t

section
theorem Handled.same (ha : Agrees u view) (hc : Welcomed u) : Handled u u view :=
  ⟨⟨rfl,fun _ => rfl,fun _ => rfl,id⟩,fun _ => ha,hc⟩

theorem Handled.close (h : Handled u t view) (dcs : List Nat) : Handled u (t.close dcs) view :=
  ⟨h.kept.trans (close_kept t dcs),fun hr => (h.agrees hr).close dcs,h.calls⟩

theorem updateUser_handled (ha : Agrees u view) (hc : Welcomed u) (o : Outcome)
    (enabled : Option Bool) : Handled u (updateUser u o enabled) view := by
  have hset : Handled u { u with enabled := enabled.getD u.enabled } view :=
    ⟨⟨rfl,fun _ => rfl,fun _ => rfl,id⟩,fun _ => ha,hc⟩
  simp only [updateUser]
  split
  · split
    · exact hset.close _
    · exact hset
  · exact .same ha hc

/-- The user is enabled, or becomes so because a client authenticated. -/
def Enables (u : User) (o : Outcome) : Prop :=
  u.enabled = true ∨ u.enableUsersOnAuth = true ∧ o.stored = true

theorem connected_handled (ha : Agrees u view) (hc : Welcomed u) (he : Enables u o)
    (hw : o.welcome = true) (dc : Nat) : Handled u (handleConnected u o dc) (next view (.downstreamConnected dc)) := by
  obtain ⟨v,hv,henabled,hupdate⟩ : ∃ v, Handled u v view ∧ v.enabled = true ∧
      (if !u.enabled && u.enableUsersOnAuth then updateUser u o (some true) else u) = v := by
    cases hu : u.enabled with
    | true => exact ⟨u,.same ha hc,hu,by simp⟩
    | false =>
      obtain h | ⟨hauth,hstored⟩ := he
      · rw [hu] at h
        cases h
      · refine ⟨updateUser u o (some true),updateUser_handled ha hc o _,?_,by simp [hauth]⟩
        simp [updateUser,hstored]
  simp only [handleConnected,hupdate,henabled,Bool.not_true,Bool.false_eq_true,if_false]
  split
  · exact ⟨⟨hv.kept.events,hv.kept.phase,hv.kept.registered,nofun⟩,nofun,hv.calls⟩
  refine ⟨hv.kept.trans ⟨rfl,?_,?_,id⟩,?_,hv.calls⟩
  · intro d
    by_cases hd : d = dc <;> simp [setConn,hd]
  · intro d
    by_cases hd : d = dc <;> simp [setConn,hd]
  intro hr d hview
  by_cases hd : d = dc
  · subst d
    simp [setConn]
  · obtain ⟨hu,hm⟩ := hv.agrees hr d (by simpa [next,hd] using hview)
    simpa [setConn,hd] using ⟨hu,hm⟩

theorem message_handled (ha : Agrees u view) (hc : Welcomed u) (o : Outcome) (hd : view dc = .attached)
    (msg : Message) : Handled u (handleEvent u o (.downstreamMessage dc msg)) view := by
  obtain ⟨huser,hmem⟩ := ha dc hd
  have hcall : Handled u (handleMessageRegistered u o dc) view := by
    apply Handled.close
    refine ⟨⟨rfl,fun _ => rfl,fun _ => rfl,?_⟩,fun _ => ha,?_⟩
    · intro hr
      exact (Bool.and_eq_true_iff.mp hr).1
    · intro call hm
      rcases List.mem_append.mp hm with hm | hm
      · exact hc call hm
      · cases List.mem_singleton.mp hm
        exact ⟨huser,decide_eq_true hmem⟩
  have hmsg : Handled u (handleMessage u o dc msg).1 view := by
    simp only [handleMessage]
    cases dispatch (u.dcs dc) msg with
    | quit | isupport | unregistered => exact .same ha hc
    | registered => exact hcall
  simp only [handleEvent]
  split
  · exact .same ha hc
  · split
    · exact hmsg.close _
    · exact hmsg

theorem disconnected_handled (ha : Agrees u view) (hc : Welcomed u) (o : Outcome) (dc : Nat) :
    Handled u (handleEvent u o (.downstreamDisconnected dc))
      (next view (.downstreamDisconnected dc)) := by
  refine ⟨⟨rfl,fun _ => rfl,fun _ => rfl,id⟩,?_,hc⟩
  intro _ d hview
  have hne : d ≠ dc := by
    rintro rfl
    simp [next] at hview
  obtain ⟨hu,hm⟩ := ha d (by simpa [next,hne] using hview)
  exact ⟨hu,(List.mem_erase_of_ne hne).mpr hm⟩

/-- A handled connection is taken in: the user is enabled and `welcome` succeeds. -/
def Accepts (u : User) : Action → Prop
  | .handle o => ∀ dc, u.events.head? = some (.downstreamConnected dc) →
      Enables u o ∧ o.welcome = true
  | _ => True

theorem event_handled (ha : Agrees u view) (hc : Welcomed u) (hok : InOrder view e)
    (hacc : ∀ dc, e = .downstreamConnected dc → Enables u o ∧ o.welcome = true) :
    Handled u (handleEvent u o e) (next view e) := by
  cases e with
  | downstreamConnected dc =>
    obtain ⟨he,hw⟩ := hacc dc rfl
    exact connected_handled ha hc he hw dc
  | downstreamMessage dc msg => exact message_handled ha hc o hok msg
  | downstreamDisconnected dc => exact disconnected_handled ha hc o dc
  | userUpdate enabled password =>
    have h := updateUser_handled ha hc o enabled
    simp only [handleEvent]
    split
    · exact h.close _
    · exact h
  | disconnectSession dc =>
    simp only [handleEvent]
    split
    · exact (Handled.same ha hc).close _
    · exact .same ha hc
  | stop =>
    have h := (Handled.same ha hc).close u.downstreamConns
    exact ⟨⟨rfl,h.kept.phase,h.kept.registered,nofun⟩,nofun,hc⟩

end

section
theorem Kept.phases (h : Kept u t) : (fun dc => posted (t.dcs dc).phase) = fun dc => posted (u.dcs dc).phase := by
  funext dc
  rw [h.phase dc]

theorem handle_invariant (h : Invariant u) (hg : Accepts u (.handle o))
    (hs : step u (.handle o) = some t) : Invariant t := by
  simp only [step] at hs
  split at hs
  · rename_i events hrun hevents
    obtain ⟨view,ha,hf⟩ := h.inFlight hrun
    rw [hevents] at hf
    obtain ⟨hok,hf⟩ := hf.take
    have hh := event_handled (u := { u with events := events }) ha h.calls hok
      (fun dc he => hg dc (by rw [hevents,he]; rfl))
    cases hs
    refine ⟨hh.calls,?_,?_⟩
    · intro dc hp
      rw [hh.kept.phase] at hp
      rw [hh.kept.registered]
      exact h.registering dc hp
    · intro hr
      refine ⟨_,hh.agrees hr,?_⟩
      rw [hh.kept.events,hh.kept.phases]
      exact hf
  · cases hs

theorem post_invariant {v : User} (h : Invariant u) (hcalls : v.calls = u.calls)
    (hevents : v.events = u.events) (hconns : v.downstreamConns = u.downstreamConns)
    (hrun : v.running = u.running) (huser : ∀ dc, (v.dcs dc).hasUser = (u.dcs dc).hasUser)
    (hreg : ∀ dc, (v.dcs dc).phase = .registering → (v.dcs dc).registered = false)
    (hok : InOrder (fun dc => posted (u.dcs dc).phase) e)
    (hnext : (fun dc => posted (v.dcs dc).phase) = next (fun dc => posted (u.dcs dc).phase) e)
    (hs : v.post e = some t) : Invariant t := by
  simp only [post] at hs
  split at hs
  · cases hs
    refine ⟨?_,hreg,?_⟩
    · intro call hm
      exact h.calls call (hcalls ▸ hm)
    intro hr
    obtain ⟨view,ha,hf⟩ := h.inFlight (hrun ▸ hr)
    refine ⟨view,?_,?_⟩
    · intro dc hd
      obtain ⟨hu,hm⟩ := ha dc hd
      exact ⟨(huser dc).trans hu,hconns ▸ hm⟩
    · rw [hnext,hevents]
      exact hf.put hok
  · cases hs

/-- `serveConn` moves a connection on and posts the event about it. -/
theorem moved_invariant (h : Invariant u) (hphase : phase ≠ .registering)
    (hok : InOrder (fun dc => posted (u.dcs dc).phase) e) (hnext : next (fun dc => posted (u.dcs dc).phase) e =
      update (fun dc => posted (u.dcs dc).phase) dc (posted phase))
    (hs : (u.setConn dc fun conn => { conn with phase := phase }).post e = some t) : Invariant t := by
  refine post_invariant (v := u.setConn dc fun conn => { conn with phase := phase })
    h rfl rfl rfl rfl ?_ ?_ hok ?_ hs
  · intro d
    by_cases hd : d = dc <;> simp [setConn,hd]
  · intro d hp
    by_cases hd : d = dc
    · subst d
      simp [setConn,hphase] at hp
    · simp only [setConn,update_of_ne hd] at hp ⊢
      exact h.registering d hp
  · rw [hnext]
    funext d
    by_cases hd : d = dc <;> simp [setConn,hd]

theorem dispatch_unregistered (h : conn.registered = false) (msg : Message) : dispatch conn msg ≠ .registered := by
  simp only [dispatch,h]
  split
  · nofun
  · split <;> nofun

theorem handshake_invariant (h : Invariant u) (o : Outcome) (msg : Message) (registers : Bool)
    (hp : (u.dcs dc).phase = .registering) : Invariant (runUntilRegistered u dc o msg registers) := by
  have hreg := h.registering dc hp
  obtain ⟨failed,hmsg⟩ : ∃ failed, handleMessage u o dc msg = (u,failed) := by
    cases hd : dispatch (u.dcs dc) msg with
    | quit => exact ⟨false,by simp [handleMessage,hd]⟩
    | isupport => exact ⟨!(u.dcs dc).extendedIsupport,by simp [handleMessage,hd]⟩
    | unregistered => exact ⟨o.failed,by simp [handleMessage,hd]⟩
    | registered => exact absurd hd (dispatch_unregistered hreg msg)
  -- the connection stays unknown to its user, whatever comes of it
  obtain ⟨conn,hconn,hposted,huser,hkeep⟩ : ∃ conn, runUntilRegistered u dc o msg registers =
      { u with dcs := update u.dcs dc conn } ∧ posted conn.phase = .away ∧
      conn.hasUser = (u.dcs dc).hasUser ∧
      (conn.phase = .registering → conn.registered = false) := by
    simp only [runUntilRegistered,hmsg]
    cases failed with
    | true => exact ⟨_,rfl,rfl,rfl,nofun⟩
    | false =>
      cases registers with
      | true => exact ⟨_,rfl,rfl,rfl,nofun⟩
      | false => exact ⟨_,rfl,by simp [hp,posted],rfl,fun _ => hreg⟩
  rw [hconn]
  refine ⟨h.calls,?_,?_⟩
  · intro d hd
    by_cases he : d = dc
    · subst d
      simp only [update_self] at hd ⊢
      exact hkeep hd
    · simp only [update_of_ne he] at hd ⊢
      exact h.registering d hd
  · intro hr
    obtain ⟨view,ha,hf⟩ := h.inFlight hr
    refine ⟨view,?_,?_⟩
    · intro d hd
      obtain ⟨hu,hm⟩ := ha d hd
      refine ⟨?_,hm⟩
      by_cases he : d = dc
      · subst d
        simpa only [update_self] using huser.trans hu
      · simpa only [update_of_ne he] using hu
    · have hsame : (fun d => posted (update u.dcs dc conn d).phase) =
          fun d => posted (u.dcs d).phase := by
        funext d
        by_cases he : d = dc
        · subst d
          simpa only [update_self,hp,posted] using hposted
        · simp [update_of_ne he]
      exact hsame ▸ hf

theorem step_invariant (a : Action) (h : Invariant u) (hg : Accepts u a) (hs : step u a = some t) : Invariant t := by
  cases a with
  | handshake dc o msg registers =>
    simp only [step] at hs
    split at hs
    · rename_i hp
      cases hs
      exact handshake_invariant h o msg registers hp
    · cases hs
  | announce dc | hangUp dc =>
    simp only [step] at hs
    split at hs
    · rename_i hp
      refine moved_invariant h ?_ ?_ rfl hs
      · nofun
      · simp [InOrder,hp,posted]
    · cases hs
  | read dc msg =>
    simp only [step] at hs
    split at hs
    · rename_i hp
      exact post_invariant h rfl rfl rfl rfl (fun _ => rfl) h.registering
        (by simp [InOrder,hp,posted]) rfl hs
    · cases hs
  | userUpdate enabled password =>
    exact post_invariant (e := .userUpdate enabled password) h rfl rfl rfl rfl (fun _ => rfl)
      h.registering trivial rfl hs
  | disconnectSession dc =>
    exact post_invariant (e := .disconnectSession dc) h rfl rfl rfl rfl (fun _ => rfl)
      h.registering trivial rfl hs
  | stop => exact post_invariant (e := .stop) h rfl rfl rfl rfl (fun _ => rfl) h.registering trivial rfl hs
  | handle o => exact handle_invariant h hg hs
  | close dc =>
    cases hs
    have hk := close_kept u [dc]
    refine ⟨h.calls,?_,?_⟩
    · intro d hd
      rw [hk.phase] at hd
      rw [hk.registered]
      exact h.registering d hd
    · intro hr
      obtain ⟨view,ha,hf⟩ := h.inFlight hr
      exact ⟨view,ha.close [dc],hk.phases ▸ hf⟩
  | configure enableUsersOnAuth =>
    cases hs
    exact ⟨h.calls,h.registering,h.inFlight⟩

theorem start_invariant (enabled enableUsersOnAuth : Bool) (extendedIsupport : Nat → Bool) :
    Invariant (start enabled enableUsersOnAuth extendedIsupport) := by
  refine ⟨nofun,fun _ _ => rfl,?_⟩
  intro _
  refine ⟨fun _ => .away,?_,.empty⟩
  intro dc hd
  cases hd

end

/-- As long as every announced connection is accepted, commands are only run for
connections that were welcomed. -/
theorem calls_welcomed (enabled enableUsersOnAuth : Bool) (extendedIsupport : Nat → Bool) (as : List Action)
    (h : AllSteps step Accepts (start enabled enableUsersOnAuth extendedIsupport) as) :
    AllStates step Welcomed (start enabled enableUsersOnAuth extendedIsupport) as :=
  AllStates.of_steps Invariant (start_invariant _ _ _) (fun _ hi => hi.calls)
    (fun _ a _ hi hg hs => step_invariant a hi hg hs) h

def quiet : Outcome := ⟨true,true,false,false,[],none⟩

def joinCommand : Message := ⟨[],none,"JOIN",["#sake"]⟩

/-- A client registers, is announced and sends a command, and both events are handled. -/
def oneCommand : List Action :=
  [.handshake 0 quiet ⟨[],none,"USER",["u"]⟩ true,.announce 0,.read 0 joinCommand,.handle quiet,.handle quiet]

theorem enabled_user_welcomes : AllStates step Welcomed (start true false fun _ => false) oneCommand := by
  refine calls_welcomed true false (fun _ => false) oneCommand ?_
  refine .cons_some trivial rfl (.cons_some trivial rfl (.cons_some trivial rfl
    (.cons_some ?_ rfl (.cons_some ?_ rfl trivial))))
  · intro dc _
    exact ⟨.inl rfl,rfl⟩
  · nofun

/-- The account is disabled: the client is told so, but its next command is run, for a
connection without a user. -/
theorem disabled_user_runs_command : ¬ AllStates step Welcomed (start false false fun _ => false) oneCommand := by
  intro h
  have hlast := h.last rfl
  have hcall := hlast ⟨0,false,false⟩ (by decide)
  exact absurd hcall.1 (by decide)

end Sake.Proofs.EventLoop
