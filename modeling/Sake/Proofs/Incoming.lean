import Sake.Incoming
import Sake.Proofs.ServiceOps

namespace Sake.Proofs.Incoming
open Lib.Handler Networks Goroutine Registered Sake.Incoming UserNetworks ServiceOps

variable {inv : State → Prop}

section Errors

theorem orElse_safe (h : Lands inv m s) (msg : String → Message) : Lands inv (orElse msg m) s := by
  refine h.tryCatch fun e _ => ?_
  cases e with
  | error text => exact Keeps.throw trivial
  | _ => exact Keeps.throw trivial

theorem logged_safe (h : Lands inv m s) : Lands inv (logged m) s := by
  refine h.tryCatch fun e _ => ?_
  cases e with
  | error text => exact Keeps.pure _
  | _ => exact Keeps.throw trivial

theorem discard_safe (h : Lands inv m s) : Lands inv (discard m) s := by
  exact h.bind fun _ => Keeps.pure _

theorem refuse_checks (c : Bool) (msg : Message) : Checks (refuse c msg) s fun _ => c = false := by
  cases c with
  | false => exact Checks.pure rfl
  | true => exact Checks.throw _

theorem check_safe {β : Type} {m : Handler α} {k : α → Handler β} {post : α → Prop} (hm : Checks m s post)
    (hs : inv s) (hk : ∀ a, post a → Lands inv (k a) s) : Lands inv (m >>= k) s := by
  rcases hm with ⟨a,ha,hpost⟩ | ⟨e,he⟩
  · exact Safe.bind_ok ha (hk a hpost)
  · exact safe_of_error (bind_error he k) hs

theorem stored_safe (hrefused : ∀ t, Refused s t → inv t)
    (msg : String → Message) (hk : ∀ newID answers db id, s.db.storeNetwork newID s.user.id record = .ok (db,id) →
      Lands inv (k ()) { s with answers, db }) : Lands inv (orElse msg (discard (storeNetwork record)) >>= k) s := by
  rcases storeNetwork_cases record s with ⟨e,answers,hs⟩ | ⟨newID,answers,db,id,hdb,hs⟩
  · have herr : orElse msg (storeNetwork record >>= fun _ => pure ⟨⟩) s =
        .error (.irc (msg e)) { s with answers, dbFailed := true } := by
      change EStateM.tryCatch _ _ s = _
      simp only [EStateM.tryCatch,bind_error hs]
      rfl
    exact safe_of_error (bind_error herr k) (hrefused _ (.inr ⟨answers,rfl⟩))
  · have hok : orElse msg (storeNetwork record >>= fun _ => pure ⟨⟩) s = .ok ⟨⟩ { s with answers, db } := by
      change EStateM.tryCatch _ _ s = _
      simp only [EStateM.tryCatch,bind_ok hs]
      rfl
    exact Safe.bind_ok hok (hk newID answers db id hdb)

end Errors

section Requests

theorem handleNick_safe (nick : String) (hrefused : ∀ t, Refused s t → inv t)
    (hbound : ∀ r newID answers db id, dc.network = some r → nick ≠ "" →
      s.db.storeNetwork newID s.user.id { (s.heap r).record with nick } = .ok (db,id) →
      inv (announceNick dc r nick (({ s with answers, db } : State).setRecord r fun record => { record with nick })))
    (huser : dc.network = none → Lands inv (updateUser env fun record => .ok { record with nick }) s)
    (hclients : ∀ t, inv t → inv (t.mapClients fun c => if c.network = none then t.updateNick c else c)) :
    Lands inv (handleNick env dc nick) s := by
  have hs := hrefused s (.inl rfl)
  refine Safe.get_bind (check_safe (refuse_checks _ _) hs fun _ hnick => ?_)
  refine check_safe (refuse_checks _ _) hs fun _ _ => ?_
  cases hn : dc.network with
  | some r =>
    refine stored_safe hrefused _ fun newID answers db id hdb => ?_
    exact hbound r newID answers db id hn (by simpa using (Bool.or_eq_false_iff.mp hnick).1) hdb
  | none => exact (orElse_safe (huser hn) _).bind fun _ => Keeps.modify hclients

theorem handleSetname_safe (realname : String)
    (hsame : inv (s.mapClients fun c => if c.id = dc.id then c.send (.setname realname) else c))
    (hstored : ∀ r c t, dc.realname ≠ realname → dc.network = some r → s.canSetname r = some c →
      (∃ answers, t = { s.emit [.toServer c (Downstream.message "SETNAME" [realname])] with
        answers, dbFailed := true }) ∨
      (∃ newID answers db id,
        s.db.storeNetwork newID s.user.id (withRealname s.user realname (s.heap r).record) = .ok (db,id) ∧
        t = { s.emit [.toServer c (Downstream.message "SETNAME" [realname])] with answers, db }) → inv t)
    (hupdate : ∀ r, dc.realname ≠ realname → dc.network = some r → s.canSetname r = none →
      Lands inv (updateNetwork env (withRealname s.user realname (s.heap r).record) false) s)
    (huser : dc.realname ≠ realname → dc.network = none →
      Lands inv (updateUser env fun record => .ok { record with realname }) s)
    (hclients : ∀ t, inv t → inv (t.mapClients fun c => if c.network = none then t.updateRealname c else c)) :
    Lands inv (handleSetname env dc realname) s := by
  refine Safe.get_bind ?_
  split
  · exact hsame
  rename_i hne
  cases hn : dc.network with
  | none => exact (orElse_safe (huser hne hn) _).bind fun _ => Keeps.modify hclients
  | some r =>
    dsimp only
    cases hc : s.canSetname r with
    | none => exact orElse_safe (discard_safe (hupdate r hne hn hc)) _
    | some c =>
      refine Safe.modify_bind (orElse_safe (discard_safe ?_) _)
      rcases storeNetwork_cases (withRealname s.user realname (s.heap r).record)
          (s.emit [.toServer c (Downstream.message "SETNAME" [realname])]) with
        ⟨e,answers,hs⟩ | ⟨newID,answers,db,id,hdb,hs⟩
      · exact safe_of_error hs (hstored r c _ hne hn hc (.inl ⟨answers,rfl⟩))
      · exact safe_of_ok hs (hstored r c _ hne hn hc (.inr ⟨newID,answers,db,id,hdb,rfl⟩))

theorem upstreamForCommand_checks (cmd : String) :
    Checks (upstreamForCommand dc cmd) s fun c => ∃ r, dc.network = some r ∧ (s.heap r).conn = some c := by
  refine Checks.get_bind ?_
  cases hn : dc.network with
  | none => exact Checks.throw _
  | some r =>
    dsimp only
    cases hc : (s.heap r).conn with
    | none => exact Checks.throw _
    | some c => exact Checks.pure ⟨r,rfl,hc⟩

theorem handleAuthenticate_safe (credentials : Credentials) (hs : inv s) (hemit : ∀ t es, inv t → inv (t.emit es))
    (hupdate : ∀ c, credentials = .anonymous → s.upstream dc = some c → Lands inv
      (updateNetwork env (clearSASL (s.heap (s.conns c).network).record) false) s) :
    Lands inv (handleAuthenticate env dc credentials) s := by
  refine Safe.get_bind ?_
  cases hc : (s.upstream dc).filter fun c => (s.conns c).caps.contains "sasl" with
  | none => exact ⟨hs,trivial⟩
  | some c =>
    cases credentials with
    | plain identity username => exact check_safe (refuse_checks _ _) hs fun _ _ => hemit s _ hs
    | anonymous =>
      dsimp only
      split
      · exact logged_safe (discard_safe (hupdate c rfl (Option.filter_eq_some_iff.mp hc).1))
      · exact hs
    | incomplete | busy | other => exact hs

theorem attrsOrRefuse_checks (r : Except Message Network) :
    Checks (attrsOrRefuse r) s fun record => r = .ok record := by
  cases r with
  | ok record => exact Checks.pure rfl
  | error msg => exact Checks.throw _

theorem handleAddNetwork_safe (subcommand : String) (attrs : Tags) (hs : inv s) (hcreate : ∀ record,
      updateNetworkAttrs env subcommand attrs { newNetwork "" with nick := dc.nick } = .ok record →
      Lands inv (createNetwork env (withoutDefaults s.user record) true) s) :
    Lands inv (handleAddNetwork env dc subcommand attrs) s := by
  refine Safe.get_bind (check_safe (attrsOrRefuse_checks _) hs fun record hrec => ?_)
  exact orElse_safe (discard_safe (hcreate record hrec)) _

theorem bouncerNetwork_checks (subcommand idStr : String) :
    Checks (bouncerNetwork subcommand idStr) s fun r => r ∈ s.networks := by
  refine Checks.get_bind ?_
  cases hr : ((Strings.parseInt idStr).filter (0 < ·)).bind s.getNetworkByID with
  | none => exact Checks.throw _
  | some r =>
    obtain ⟨id,-,hid⟩ := Option.bind_eq_some_iff.mp hr
    exact Checks.pure (List.mem_of_find?_eq_some hid)

theorem handleChangeNetwork_safe (subcommand idStr : String) (attrs : Tags) (hs : inv s)
    (hupdate : ∀ r record, r ∈ s.networks → updateNetworkAttrs env subcommand attrs (s.heap r).record = .ok record →
      Lands inv
        (updateNetwork env (withoutDefaults s.user record) (!(s.heap r).record.enabled)) s) :
    Lands inv (handleChangeNetwork env subcommand idStr attrs) s := by
  refine check_safe (bouncerNetwork_checks _ _) hs fun r hr => Safe.get_bind ?_
  refine check_safe (attrsOrRefuse_checks _) hs fun record hrec => ?_
  exact orElse_safe (discard_safe (hupdate r record hr hrec)) _

theorem handleDelNetwork_safe (subcommand idStr : String) (hs : inv s)
    (hdelete : ∀ r ∈ s.networks, Lands inv (deleteNetwork (s.heap r).record.id) s) :
    Lands inv (handleDelNetwork subcommand idStr) s := by
  refine check_safe (bouncerNetwork_checks _ _) hs fun r hr => Safe.get_bind ?_
  exact hdelete r hr

theorem autoSaveSASLPlain_safe (r : Nat) (username password : String) (hs : inv s)
    (hedit : Lands inv (mutateNetwork r fun record =>
      { record with
        sasl := { record.sasl with mechanism := .plain, plainUsername := username, plainPassword := password } }) s) :
    Lands inv (autoSaveSASLPlain r username password) s := by
  refine Safe.get_bind ?_
  have hlogged := logged_safe hedit
  split
  · exact hlogged
  · exact hlogged
  · exact hs

end Requests

theorem withChannel_keeps (hf : ∀ r ch, Stays inv (f r ch))
    (c : Nat) (name : String) : Stays inv (withChannel c name f) := by
  refine Keeps.get_bind fun t _ => ?_
  split
  · exact Keeps.pure _
  · exact hf _ _

section Channels
variable (h : ChannelBlind inv)
include h

theorem changeChannel_blind (hf : ∀ {s t}, ChannelsOnly r s t → ChannelsOnly r s (f t)) :
    Stays inv (do modify f; logged (saveChannel r name ch)) := by
  refine Keeps.bind (Keeps.modify fun t ht => h.channels (hf (ChannelsOnly.refl r t)) ht) fun _ t ht => ?_
  exact logged_safe (h.only ht (saveChannel_only name ch))

theorem rememberChannel_blind (r : Nat) (ch : Channel) : Stays inv (rememberChannel r ch) :=
  changeChannel_blind h fun ht => ht.setNet fun _ => rfl

theorem joinChannel_blind (r : Nat) (name : String) (ch : Channel) : Stays inv (joinChannel env r name ch) := by
  refine Keeps.bind (Keeps.modify fun t ht => ?_) fun _ => changeChannel_blind h fun ht => attach_only env ht name ch
  exact h.channels ((ChannelsOnly.refl r t).setNet fun _ => rfl) ht

theorem joinOne_blind (c : Nat) (name key : String) : Stays inv (joinOne env c name key) := by
  refine Keeps.get_bind fun t _ => ?_
  split
  · exact Keeps.pure _
  refine Keeps.bind (Keeps.modify fun _ => h.emit _) fun _ => ?_
  split
  · exact joinChannel_blind h _ _ _
  · exact rememberChannel_blind h _ _

theorem partOne_blind (c : Nat) (reason name : String) : Stays inv (partOne env moment c reason name) := by
  refine Keeps.get_bind fun t _ => ?_
  split
  · refine Keeps.get_bind fun t _ => ?_
    split
    · exact changeChannel_blind h fun ht => detach_only env moment ht name _
    · exact rememberChannel_blind h _ _
  · refine Keeps.bind (Keeps.modify fun _ => h.emit _) fun _ t ht => ?_
    exact logged_safe (h.only ht (deleteChannel_only name))

theorem autoDetach_blind (name : String) (r : Nat) (ch : Channel) : Stays inv (autoDetach env moment name r ch) := by
  refine Keeps.get_bind fun t _ => ?_
  split
  · exact Keeps.pure _
  · exact changeChannel_blind h fun ht => detach_only env moment ht name ch

theorem autoAttach_blind (name : String) (r : Nat) (ch : Channel) : Stays inv (autoAttach env name r ch) :=
  changeChannel_blind h fun ht => attach_only env ht name ch

end Channels

section Events

theorem ifOpen_safe (hs : inv s) (hm : (s.conns c).closed = false → Lands inv m s) : Lands inv (ifOpen c m) s := by
  refine Safe.get_bind ?_
  split
  · exact hs
  · rename_i hc
    exact hm (Bool.eq_false_iff.mpr hc)

theorem handleDownstreamMessage_safe {id : Nat} (hs : inv s)
    (hclose : ∀ t, inv t → inv (closeClient id t)) (hreq : ∀ dc ∈ s.clients, dc.id = id → dc.closed = false →
      Lands inv (request.handle env moment dc) s) : Lands inv (handleDownstreamMessage env moment id request) s := by
  refine Safe.get_bind ?_
  cases hfind : s.clients.find? fun dc => dc.id = id && !dc.closed with
  | none => exact hs
  | some dc =>
    have hmem := List.mem_of_find?_eq_some hfind
    have hdc := List.find?_some hfind
    simp only [Bool.and_eq_true,decide_eq_true_eq,Bool.not_eq_true'] at hdc
    refine (hreq dc hmem hdc.1 hdc.2).tryCatch fun e _ => ?_
    cases e with
    | error text | help => exact Keeps.modify hclose
    | irc msg => exact Keeps.pure _
    | panic text | blocked => exact Keeps.throw trivial

/-- The network that a client asks for, by its id or by a name. -/
def Asks (s : State) (dc : Arrival) (r : Nat) : Prop :=
  if dc.networkID ≠ 0 then s.getNetworkByID dc.networkID = some r else s.getNetwork dc.networkName = some r

/-- The record of a network that is created for a client. -/
def Named (dc : Arrival) (record : Network) : Prop :=
  ∃ nick, record = { newNetwork dc.networkName with nick }

theorem createNamed_cases (env : Env) (dc : Arrival) (s : State) : (∃ e, createNamed env dc s = .error e s) ∨
      ∃ record, Named dc record ∧ createNamed env dc s = createNetwork env record true s := by
  rw [createNamed]
  rcases check_cases (refuse_checks _ _) with ⟨e,he⟩ | ⟨-,heq⟩
  · exact .inl ⟨e,he⟩
  rw [heq]
  rcases check_cases (refuse_checks _ _) with ⟨e,he⟩ | ⟨-,heq⟩
  · exact .inl ⟨e,he⟩
  rw [heq]
  rcases check_cases (refuse_checks _ _) with ⟨e,he⟩ | ⟨-,heq⟩
  · exact .inl ⟨e,he⟩
  rw [heq]
  exact .inr ⟨_,⟨_,rfl⟩,rfl⟩

/-- A client asks for a network that there is, for none, or for one that is created. -/
theorem loadNetwork_cases (env : Env) (dc : Arrival) (s : State) :
    (∃ e t, loadNetwork env dc s = .error e t ∧ Refused s t) ∨ (loadNetwork env dc s = .ok none s) ∨
      (∃ r, loadNetwork env dc s = .ok (some r) s ∧ Asks s dc r) ∨
      ∃ record r t, Named dc record ∧ createNetwork env record true s = .ok r t ∧
        loadNetwork env dc s = .ok (some r) t := by
  rw [loadNetwork,get_bind]
  split
  · rename_i hid
    cases hr : s.getNetworkByID dc.networkID with
    | none => exact .inl ⟨_,s,rfl,.inl rfl⟩
    | some r => exact .inr (.inr (.inl ⟨r,rfl,by rw [Asks,if_pos hid,hr]⟩))
  · rename_i hid
    split
    · exact .inl ⟨_,s,rfl,.inl rfl⟩
    split
    · exact .inr (.inl rfl)
    cases hr : s.getNetwork dc.networkName with
    | some r => exact .inr (.inr (.inl ⟨r,rfl,by rw [Asks,if_neg hid,hr]⟩))
    | none =>
      rcases createNamed_cases env dc s with ⟨e,he⟩ | ⟨record,hrec,heq⟩
      · exact .inl ⟨e,s,bind_error he _,.inl rfl⟩
      cases hc : createNetwork env record true s with
      | error e t =>
        refine .inl ⟨e,t,bind_error (heq.trans hc) _,?_⟩
        rcases createNetwork_cases env record true s with ⟨e',t',he',ht'⟩ | ⟨_,_,_,_,_,_,_,_,hok⟩
        · cases hc.symm.trans he'
          exact ht'
        · cases hc.symm.trans hok
      | ok r t => exact .inr (.inr (.inr ⟨record,r,t,hrec,hc,bind_ok (heq.trans hc) _⟩))

theorem bump_stays (impersonating : Bool) (h : Stays inv (updateUser env fun record =>
      .ok { record with downstreamInteractedAt := env.now moment })) :
    Stays inv (bumpDownstreamInteractionTime env moment impersonating) := by
  intro t ht
  unfold bumpDownstreamInteractionTime
  split
  · exact ht
  · exact logged_safe (h t ht)

/-- What holds before a client is added, whatever network it asks for, and once it is added. -/
theorem welcome_safe (pre : Option Nat → State → Prop) (hrefused : ∀ t, Refused s t → inv t)
    (hnone : pre none s) (hfound : ∀ r, Asks s dc r → pre (some r) s)
    (hcreated : ∀ record r t, Named dc record → createNetwork env record true s = .ok r t → pre (some r) t)
    (hcall : ∀ n t answers dbFailed, pre n t → pre n { t with answers, dbFailed }) (hpre : ∀ n t, pre n t → inv t)
    (hadd : ∀ n t, pre n t → inv { t with clients := t.clients ++ [welcomed env t dc n] })
    (hbump : Stays inv (bumpDownstreamInteractionTime env moment dc.impersonating)) :
    Lands inv (welcome env moment dc) s := by
  have hrest : ∀ n t, pre n t → Lands inv (do
      listMessageTargets dc n
      modify fun s => { s with clients := s.clients ++ [welcomed env s dc n] }
      bumpDownstreamInteractionTime env moment dc.impersonating) t := by
    intro n t ht
    have hlist : Lands (pre n) (listMessageTargets dc n) t := by
      unfold listMessageTargets
      split
      · refine (call_cases (fun _ db => .ok (db,())) t).elim ?_ ?_
        · rintro ⟨e,answers,he⟩
          exact safe_of_error (wrap_error he _) (hcall n t answers true ht)
        · rintro ⟨newID,answers,db,a,hdb,hok⟩
          cases hdb
          exact safe_of_ok (wrap_ok hok _) (hcall n t answers t.dbFailed ht)
      · exact ht
    rw [Lands,Safe] at hlist
    cases hl : listMessageTargets dc n t with
    | ok a u =>
      rw [hl] at hlist
      exact Safe.bind_ok hl (Safe.modify_bind (hbump _ (hadd n u hlist)))
    | error e u =>
      rw [hl] at hlist
      exact safe_of_error (bind_error hl _) (hpre n u hlist.1)
  rcases loadNetwork_cases env dc s with ⟨e,t,he,ht⟩ | hok | ⟨r,hok,hask⟩ | ⟨record,r,t,hrec,hc,hok⟩
  · exact safe_of_error (bind_error he _) (hrefused t ht)
  · exact Safe.bind_ok hok (hrest none s hnone)
  · exact Safe.bind_ok hok (hrest (some r) s (hfound r hask))
  · exact Safe.bind_ok hok (hrest (some r) t (hcreated record r t hrec hc))

/-- A client connects: the user may be enabled for it first. -/
theorem handleDownstreamConnected_safe (mid : State → Prop)
    (hstay : (s.user.enabled || !dc.enableUsersOnAuth) = true → mid s)
    (henable : s.user.enabled = false → dc.enableUsersOnAuth = true →
      Lands mid (updateUser env fun record => .ok { record with enabled := true }) s)
    (hmid : ∀ t, mid t → inv t) (hwelcome : ∀ t, mid t → Lands inv (welcome env moment dc) t) :
    Lands inv (handleDownstreamConnected env moment dc) s := by
  have hmain : Lands mid (enableUser env dc) s := by
    refine Safe.get_bind ?_
    split
    · rename_i h
      simp only [Bool.and_eq_true,Bool.not_eq_true'] at h
      exact logged_safe (henable h.1 h.2)
    · refine hstay ?_
      cases he : s.user.enabled <;> cases ha : dc.enableUsersOnAuth <;> simp_all
  rw [Lands,Safe] at hmain
  cases he : enableUser env dc s with
  | ok a t =>
    rw [he] at hmain
    refine Safe.bind_ok he (Safe.get_bind ?_)
    split
    · exact hwelcome t hmain
    · exact hmid t hmain
  | error e t =>
    rw [he] at hmain
    exact safe_of_error (bind_error he _) (hmid t hmain.1)

theorem step_safe (ht : step env s e = some t) (h : e.2.Possible s → Lands inv (e.2.handle env e.1) s) : inv t := by
  unfold step at ht
  split at ht
  · rename_i hp
    have hsafe := h hp
    rw [Lands,Safe] at hsafe
    cases hx : e.2.handle env e.1 s with
    | ok a u =>
      rw [hx] at ht hsafe
      cases ht
      exact hsafe
    | error f u =>
      rw [hx] at ht hsafe
      cases f <;> cases ht <;> exact hsafe.1
  · cases ht

end Events

end Sake.Proofs.Incoming
