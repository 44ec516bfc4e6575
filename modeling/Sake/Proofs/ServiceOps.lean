import Sake.Proofs.Service

namespace Sake.Proofs.ServiceOps
open Lib.Handler Networks Goroutine Sake.Service UserNetworks List Keeps

variable {α : Type} {inv : State → Prop} {r : Nat} {s t : State} {db : DB} {env : Env} {ctx : Ctx} {op : Op}

section

theorem call_keeps (h : ∀ s answers db dbFailed, inv s → inv { s with answers, db, dbFailed })
    (f : Int → DB → Except String (DB × α)) : Stays inv (call f) := by
  intro s hs
  rcases call_cases f s with ⟨e,answers,hc⟩ | ⟨newID,answers,db,a,-,hc⟩
  · simp only [Safe,hc]
    exact ⟨h s answers s.db true hs,trivial⟩
  · simp only [Safe,hc]
    exact h s answers db s.dbFailed hs

theorem wrap_keeps (h : Stays inv m) (text : String) : Stays inv (wrap text m) := by
  refine tryCatch h fun e _ => ?_
  cases e with
  | error text => exact throw trivial
  | _ => exact throw trivial

end

/-- What a command about channels or ignored masks makes of an object. -/
def sameNet (a b : Net) : Prop := b = { a with channels := b.channels, ignores := b.ignores }

/-- The messages and the effects of such a command. -/
def ChannelSent : Sent → Prop
  | .join _ | .part _ => True
  | _ => False

def ChannelEffect (record : Network) : Effect → Prop
  | .lastMsgID net _ | .loadLatestID net _ _ => net = record
  | _ => False

/-- Nothing is changed but the channels and the ignored masks of one network, and their rows. -/
structure ChannelsOnly (r : Nat) (s t : State) : Prop where
  user : t.user = s.user
  networks : t.networks = s.networks
  next : t.next = s.next
  conns : t.conns = s.conns
  others : t.others = s.others
  debug : t.debug = s.debug
  net : sameNet (s.heap r) (t.heap r)
  frame : ∀ x ≠ r, t.heap x = s.heap x
  clients : ∃ msgs : Client → List Sent, (∀ dc, ∀ msg ∈ msgs dc, ChannelSent msg) ∧
    t.clients = s.clients.map fun dc => { dc with sent := dc.sent ++ msgs dc }
  effects : ∃ es, (∀ e ∈ es, ChannelEffect (s.heap r).record e) ∧ t.effects = s.effects ++ es
  userRows : t.db.users = s.db.users
  networkRows : t.db.networks = s.db.networks
  certRows : t.db.certs = s.db.certs

section Channels
variable {ch : Channel} {db' : DB} {newID networkID id : Int}

theorem ChannelsOnly.refl (r : Nat) (s : State) : ChannelsOnly r s s where
  user := rfl
  networks := rfl
  next := rfl
  conns := rfl
  others := rfl
  debug := rfl
  net := rfl
  frame _ _ := rfl
  clients := ⟨fun _ => [],by simp,by simp⟩
  effects := ⟨[],by simp,by simp⟩
  userRows := rfl
  networkRows := rfl
  certRows := rfl

theorem ChannelsOnly.record (h : ChannelsOnly r s t) (x : Nat) : (t.heap x).record = (s.heap x).record := by
  by_cases hx : x = r
  · subst hx
    exact congrArg (fun net => net.record) h.net
  · rw [h.frame x hx]

theorem ChannelsOnly.setNet (h : ChannelsOnly r s t) (hf : ∀ net, sameNet net (f net)) :
    ChannelsOnly r s (t.setNet r f) where
  user := h.user
  networks := h.networks
  next := h.next
  conns := h.conns
  others := h.others
  debug := h.debug
  net := by
    rw [setNet_self]
    have hn := h.net
    have hm := hf (t.heap r)
    unfold sameNet at hm ⊢
    rw [hm,hn]
  frame x hx := by rw [setNet_of_ne t r f hx,h.frame x hx]
  clients := h.clients
  effects := h.effects
  userRows := h.userRows
  networkRows := h.networkRows
  certRows := h.certRows

theorem ChannelsOnly.forEachDownstream (h : ChannelsOnly r s t) (x : Nat) (hm : ChannelSent msg) :
    ChannelsOnly r s (t.forEachDownstream x fun dc => dc.send msg) where
  user := h.user
  networks := h.networks
  next := h.next
  conns := h.conns
  others := h.others
  debug := h.debug
  net := h.net
  frame := h.frame
  clients := by
    obtain ⟨msgs,hmsgs,hc⟩ := h.clients
    refine ⟨fun dc => msgs dc ++ if dc.network = some x then [msg] else [],?_,?_⟩
    · intro dc m hmem
      rcases mem_append.mp hmem with hmem | hmem
      · exact hmsgs dc m hmem
      · split at hmem
        · exact mem_singleton.mp hmem ▸ hm
        · exact absurd hmem not_mem_nil
    · change t.clients.map _ = _
      rw [hc,map_map]
      refine map_congr_left fun dc _ => ?_
      simp only [Function.comp_apply]
      split
      · simp [Client.send]
      · simp
  effects := h.effects
  userRows := h.userRows
  networkRows := h.networkRows
  certRows := h.certRows

theorem ChannelsOnly.emit (h : ChannelsOnly r s t)
    (hes : ∀ e ∈ es, ChannelEffect (t.heap r).record e) : ChannelsOnly r s (t.emit es) where
  user := h.user
  networks := h.networks
  next := h.next
  conns := h.conns
  others := h.others
  debug := h.debug
  net := h.net
  frame := h.frame
  clients := h.clients
  effects := by
    obtain ⟨es',hes',he⟩ := h.effects
    refine ⟨es' ++ es,fun e hmem => ?_,by simp [State.emit,he]⟩
    rcases mem_append.mp hmem with hmem | hmem
    · exact hes' e hmem
    · exact h.record r ▸ hes e hmem
  userRows := h.userRows
  networkRows := h.networkRows
  certRows := h.certRows

theorem ChannelsOnly.call {f : Int → DB → Except String (DB × α)} (hf : ∀ newID db db' a, f newID db = .ok (db',a) →
      db'.users = db.users ∧ db'.networks = db.networks ∧ db'.certs = db.certs) :
    Stays (ChannelsOnly r s) (call f) := by
  intro t h
  rcases call_cases f t with ⟨e,answers,hc⟩ | ⟨newID,answers,db,a,hdb,hc⟩
  · simp only [Safe,hc]
    exact ⟨{ h with },trivial⟩
  simp only [Safe,hc]
  obtain ⟨hu,hn,hcert⟩ := hf _ _ _ _ hdb
  exact { h with
    userRows := hu.trans h.userRows
    networkRows := hn.trans h.networkRows
    certRows := hcert.trans h.certRows }

theorem storeChannel_tables (h : db.storeChannel newID networkID ch = .ok (db',id)) :
    db'.users = db.users ∧ db'.networks = db.networks ∧ db'.certs = db.certs := by
  unfold DB.storeChannel at h
  split at h
  · split at h
    · split at h
      · cases h
        exact ⟨rfl,rfl,rfl⟩
      · cases h
    · cases h
  · split at h
    · cases h
      exact ⟨rfl,rfl,rfl⟩
    · cases h

theorem storeIgnore_tables (h : db.storeIgnore newID networkID ignore = .ok (db',id)) :
    db'.users = db.users ∧ db'.networks = db.networks ∧ db'.certs = db.certs := by
  unfold DB.storeIgnore at h
  split at h
  · split at h
    · cases h
      exact ⟨rfl,rfl,rfl⟩
    · cases h
  · cases h

theorem saveChannel_only (name : String) (ch : Channel) : Stays (ChannelsOnly r s) (saveChannel r name ch) := by
  refine get_bind fun t _ => ?_
  refine Keeps.bind (ChannelsOnly.call fun _ _ _ _ h => storeChannel_tables h) fun id => ?_
  exact modify fun t h => h.setNet fun _ => rfl

theorem addChannel_only (ch : Channel) : Stays (ChannelsOnly r s) (addChannel r ch) :=
  Keeps.bind (modify fun _ h => h.setNet fun _ => rfl) fun _ => wrap_keeps (saveChannel_only _ ch) _

theorem setChannel_record (t : State) (r : Nat) (name : String) (ch : Net → Channel) :
    ((t.setNet r fun net => net.setChannel name (ch net)).heap r).record = (t.heap r).record := by
  rw [setNet_self]
  rfl

theorem detach_only (env : Env) (moment : Nat) (h : ChannelsOnly r s t) (name : String)
    (ch : Channel) : ChannelsOnly r s (t.detach env moment r name ch) := by
  unfold State.detach
  split
  · exact h
  have hset := h.setNet (f := fun net => net.setChannel name (detachedChannel env moment net ch)) fun _ => rfl
  have hsent := hset.forEachDownstream r (show ChannelSent (.part ch.name) from trivial)
  split
  · exact hsent
  · refine hsent.emit fun e he => ?_
    rw [mem_singleton.mp he]
    exact (setChannel_record t r name fun net => detachedChannel env moment net ch).symm

theorem attach_only (env : Env) (h : ChannelsOnly r s t) (name : String) (ch : Channel) :
    ChannelsOnly r s (t.attach env r name ch) := by
  unfold State.attach
  split
  · have hset := h.setNet (f := fun net => net.setChannel name (attachedChannel ch)) fun _ => rfl
    have hsent := hset.forEachDownstream r (show ChannelSent (.join ch.name) from trivial)
    refine hsent.emit fun e he => ?_
    unfold State.backlogEffects at he
    split at he
    · exact absurd he not_mem_nil
    · obtain ⟨dc,-,rfl⟩ := mem_map.mp he
      exact (setChannel_record t r name fun _ => attachedChannel ch).symm
  · exact h

/-- The channel as it is after it was detached or attached, or neither. -/
theorem toggleDetached_getChannel (env : Env) (ctx : Ctx)
    (h : s.getChannel r name = some ch) (want : Option Bool) (x : Nat) (other : String) :
    (toggleDetached env ctx s r name want ch).getChannel x other =
      if x = r ∧ (s.heap r).mapping.apply other = (s.heap r).mapping.apply name
      then some (toggledChannel env ctx (s.heap r) want ch) else s.getChannel x other := by
  unfold toggleDetached toggledChannel
  cases want with
  | none => exact getChannel_same h x other
  | some detached =>
    cases detached with
    | true =>
      unfold State.detach
      cases hd : ch.detached with
      | true => exact getChannel_same h x other
      | false =>
        refine Eq.trans ?_ (getChannel_set s r name (fun net => detachedChannel env ctx.moment net ch) x other)
        simp only [Bool.false_eq_true,if_false]
        split <;> rfl
    | false =>
      unfold State.attach
      cases hd : ch.detached with
      | true => exact getChannel_set s r name (fun _ => attachedChannel ch) x other
      | false => exact getChannel_same h x other

theorem toggleDetached_db (env : Env) (ctx : Ctx) (s : State) (r : Nat) (name : String) (want : Option Bool)
    (ch : Channel) : (toggleDetached env ctx s r name want ch).db = s.db := by
  unfold toggleDetached
  split
  · unfold State.detach
    split
    · rfl
    · split <;> rfl
  · unfold State.attach
    split <;> rfl
  · rfl

theorem updateChannel_only (env : Env) (ctx : Ctx) (name : String) (fs : ChannelFlags) (ch : Channel) :
    Stays (ChannelsOnly r s) (updateChannel env ctx r name fs ch) := by
  refine Keeps.bind (modify fun _ h => h.setNet fun _ => rfl) fun _ => ?_
  split
  · exact throw trivial
  refine get_bind fun t _ => ?_
  refine Keeps.bind (modify fun t h => ?_) fun _ => wrap_keeps (saveChannel_only _ _) _
  unfold toggleDetached
  split
  · exact detach_only env ctx.moment h _ _
  · exact attach_only env h _ _
  · exact h

theorem deleteChannel_only (name : String) : Stays (ChannelsOnly r s) (deleteChannel r name) := by
  refine get_bind fun t _ => ?_
  split
  · exact throw trivial
  · refine Keeps.bind (ChannelsOnly.call fun _ _ _ _ h => ?_) fun _ => modify fun t h => h.setNet fun _ => rfl
    cases h
    exact ⟨rfl,rfl,rfl⟩

theorem addIgnore_only (ignore : Networks.Ignore) : Stays (ChannelsOnly r s) (addIgnore r ignore) := by
  refine get_bind fun t _ => ?_
  refine Keeps.bind (wrap_keeps (ChannelsOnly.call fun _ _ _ _ h => storeIgnore_tables h) _) fun _ => ?_
  exact modify fun t h => h.setNet fun _ => rfl

theorem deleteIgnore_only (env : Env) (mask : String) : Stays (ChannelsOnly r s) (deleteIgnore env r mask) := by
  refine get_bind fun t _ => ?_
  split
  · exact throw trivial
  refine Keeps.bind (wrap_keeps (ChannelsOnly.call fun _ _ _ _ h => ?_) _) fun _ =>
    modify fun t h => h.setNet fun _ => rfl
  cases h
  exact ⟨rfl,rfl,rfl⟩

end Channels

/-- Nothing of the user's own is changed but rows of the database. -/
structure RowsOnly (s t : State) : Prop where
  user : t.user = s.user
  heap : t.heap = s.heap
  networks : t.networks = s.networks
  next : t.next = s.next
  conns : t.conns = s.conns
  clients : t.clients = s.clients

section Rows

theorem RowsOnly.refl (s : State) : RowsOnly s s := ⟨rfl,rfl,rfl,rfl,rfl,rfl⟩

theorem call_rowsOnly (f : Int → DB → Except String (DB × α)) : Stays (RowsOnly s) (call f) :=
  call_keeps (fun _ _ _ _ h => ⟨h.user,h.heap,h.networks,h.next,h.conns,h.clients⟩) f

theorem modify_rowsOnly (hf : ∀ s, RowsOnly s (f s)) : Stays (RowsOnly s) (modify f : Handler Unit) :=
  modify fun t h =>
    ⟨(hf t).user.trans h.user,(hf t).heap.trans h.heap,(hf t).networks.trans h.networks,(hf t).next.trans h.next,
      (hf t).conns.trans h.conns,(hf t).clients.trans h.clients⟩

theorem storeDeviceCertificate_rowsOnly (env : Env) (cert : Downstream.DeviceCertificate) :
    Stays (RowsOnly s) (storeDeviceCertificate env cert) :=
  get_bind fun _ _ => call_rowsOnly _

theorem deleteMatching_rowsOnly (given : String) (h : List UInt8) : Stays (RowsOnly s) (deleteMatching given h) := by
  refine Keeps.bind (wrap_keeps (get_bind fun _ _ => call_rowsOnly _) _) fun certs => ?_
  refine Keeps.bind ?_ fun fingerprint => wrap_keeps (get_bind fun _ _ => call_rowsOnly _) _
  cases findCertificate certs given h with
  | ok a => exact Keeps.pure _
  | error e => exact throw trivial

theorem createUser_rowsOnly (record : Database.User) : Stays (RowsOnly s) (createUser record) := by
  refine get_bind fun t _ => ?_
  refine Keeps.bind (ite (fun _ => throw trivial) fun _ => Keeps.pure _) fun _ => Keeps.bind (wrap_keeps (call_rowsOnly _) _) fun id => ?_
  exact modify_rowsOnly fun s => ⟨rfl,rfl,rfl,rfl,rfl,rfl⟩

theorem post_rowsOnly (username : String) (event : Event) : Stays (RowsOnly s) (post username event) :=
  modify_rowsOnly fun s => ⟨rfl,rfl,rfl,rfl,rfl,rfl⟩

theorem deleteOtherUser_rowsOnly (username : String) : Stays (RowsOnly s) (deleteOtherUser username) := by
  refine get_bind fun t _ => ?_
  split
  · exact throw trivial
  · refine Keeps.bind (post_rowsOnly _ _) fun _ => Keeps.bind (wrap_keeps (call_rowsOnly _) _) fun _ => ?_
    exact Keeps.bind (modify_rowsOnly fun s => ⟨rfl,rfl,rfl,rfl,rfl,rfl⟩) fun _ =>
      modify_rowsOnly fun s => ⟨rfl,rfl,rfl,rfl,rfl,rfl⟩

end Rows

section Of
theorem of_updateNetwork (h : (Op.updateNetwork r record lim).Of env ctx s command params) :
    command = .networkUpdate ∧ ∃ fs, Lib.Flags.parse networkFlagSet (popArg params).2 {} = .ok (fs,[]) ∧
      Picks ctx s (popArg params).1 r ∧ record = fs.apply env (s.heap r).record := by
  cases command with
  | networkUpdate =>
    obtain ⟨fs,r',hfs,hr,hop⟩ := h
    cases hop
    exact ⟨rfl,fs,hfs,hr,rfl⟩
  | _ => simp [Op.Of,Certifies] at h

theorem of_updateUser (h : (Op.updateUser update).Of env ctx s command params) :
    (∃ cert key, cert ≠ [] ∧ update = setDefaultCert cert key) ∨
      (command = .certFPRemove ∧ update = setDefaultCert [] [] ∧
        ∃ fs, Lib.Flags.parse certFlagSet params {} = .ok (fs,[]) ∧ fs.isDefault = true) ∨
      ∃ fs : UserUpdateFlags, update = fs.apply env ctx := by
  cases command with
  | certFPGenerate =>
    obtain ⟨fs,pair,-,-,hpair,⟨-,-,hop⟩ | ⟨-,r,-,hop⟩⟩ := h
    · cases hop
      exact .inl ⟨pair.2,pair.1,env.generateCertFP_ne hpair,rfl⟩
    · cases hop
  | certFPImport =>
    obtain ⟨fs,source,pem,pair,-,-,hpair,⟨-,-,hop⟩ | ⟨-,r,-,hop⟩⟩ := h
    · cases hop
      exact .inl ⟨pair.1,pair.2,env.parseCertKeyPEM_ne hpair,rfl⟩
    · cases hop
  | certFPRemove =>
    obtain ⟨fs,hfs,⟨hd,-,hop⟩ | ⟨-,r,-,hop⟩⟩ := h
    · cases hop
      exact .inr (.inl ⟨rfl,rfl,fs,hfs,hd⟩)
    · cases hop
  | userUpdate =>
    obtain ⟨username,event,hop⟩ | ⟨fs,-,hop⟩ := h
    · cases hop
    · cases hop
      exact .inr (.inr ⟨fs,rfl⟩)
  | _ => simp [Op.Of] at h

end Of

section Safe
variable {m : Handler α}

theorem look_safe {m : Handler Unit} (hall : (Op.look m).Allowed env ctx s) (h : ∀ t, Quiet ctx.admin s t → inv t) :
    Lands inv m s := by
  have hall := hall s
  cases hm : m s with
  | ok a t =>
    rw [hm] at hall
    exact safe_of_ok hm (h t hall)
  | error e t =>
    rw [hm] at hall
    exact safe_of_error hm (h t hall)

theorem selected_listed (h : Selected ctx s r) (hctx : ctx.network.all (· ∈ s.networks) = true) : r ∈ s.networks := by
  rcases h with h | h
  · simpa [h] using hctx
  · exact h

theorem serviceStep_safe (ht : serviceStep env s i = some t)
    (h : i.ctx.network.all (· ∈ s.networks) = true → Lands inv (handleServiceCommand env i.ctx i.words) s) : inv t := by
  unfold serviceStep at ht
  split at ht
  · rename_i hctx
    have hsafe := h hctx
    rw [Lands,Safe] at hsafe
    cases hx : handleServiceCommand env i.ctx i.words s with
    | ok a u =>
      rw [hx] at ht hsafe
      cases ht
      exact hsafe
    | error e u =>
      rw [hx] at ht hsafe
      cases e <;> cases ht <;> exact hsafe.1
  · cases ht

/-- What an operation keeps from every state that a command can bring it to, the command keeps. -/
theorem Performs.safe {m : Handler Unit} (h : Performs env ctx m s op) (hemit : ∀ t es, inv t → inv (t.emit es))
    (hop : ∀ es, op.Allowed env ctx (s.emit es) → Lands inv (op.exec env ctx) (s.emit es)) : Lands inv m s := by
  obtain ⟨s',⟨es,hes,rfl⟩,hall,hends⟩ := h
  have hsafe := hop es hall
  rw [Lands,Safe] at hsafe
  cases hx : op.exec env ctx (s.emit es) with
  | ok a t =>
    rw [hx] at hends hsafe
    obtain ⟨t',ht',es',-,rfl⟩ := hends
    exact safe_of_ok ht' (hemit t es' hsafe)
  | error e t =>
    rw [hx] at hends hsafe
    obtain ⟨e',he'⟩ := hends
    exact safe_of_error he' hsafe.1

/-- An invariant that looks neither at channels and ignored masks nor at rows of the database. -/
structure Indifferent (inv : State → Prop) : Prop where
  channels : ∀ {r : Nat} {s t : State}, ChannelsOnly r s t → inv s → inv t
  rows : ∀ {s t : State}, RowsOnly s t → inv s → inv t

/-- An invariant that does not look at channels and ignored masks. -/
structure ChannelBlind (inv : State → Prop) : Prop where
  channels : ∀ {r : Nat} {s t : State}, ChannelsOnly r s t → inv s → inv t
  emit : ∀ {s : State} (es : List Effect), inv s → inv (s.emit es)

theorem emit_rowsOnly (s : State) (es : List Effect) : RowsOnly s (s.emit es) := ⟨rfl,rfl,rfl,rfl,rfl,rfl⟩

theorem Refused.rowsOnly (h : Refused s t) : RowsOnly s t := by
  rcases h with rfl | ⟨answers,rfl⟩
  · exact RowsOnly.refl _
  · exact ⟨rfl,rfl,rfl,rfl,rfl,rfl⟩

theorem ChannelBlind.only (h : ChannelBlind inv) (hs : inv s) (hm : Stays (ChannelsOnly r s) m) : Lands inv m s :=
  (hm s (ChannelsOnly.refl r s)).mono fun _ ht => h.channels ht hs

namespace Indifferent

section
variable (h : Indifferent inv)
include h

theorem blind : ChannelBlind inv := ⟨h.channels,fun es hs => h.rows (emit_rowsOnly _ es) hs⟩

theorem stored (hs : inv s) : inv { s with answers, db, dbFailed } :=
  h.rows (s := s) ⟨rfl,rfl,rfl,rfl,rfl,rfl⟩ hs

theorem and (h' : Indifferent inv') : Indifferent fun s => inv s ∧ inv' s where
  channels ht hs := ⟨h.channels ht hs.1,h'.channels ht hs.2⟩
  rows ht hs := ⟨h.rows ht hs.1,h'.rows ht hs.2⟩

theorem rowsOnly (hs : inv s) (hm : Stays (RowsOnly s) m) : Lands inv m s :=
  (hm s (RowsOnly.refl s)).mono fun _ ht => h.rows ht hs

/-- Of the operations of the service, five matter to such an invariant. -/
theorem exec (hall : op.Allowed env ctx s) (hs : inv s) (hcreate : ∀ record lim, op = .createNetwork record lim →
      Lands inv (createNetwork env record lim) s) (hupdate : ∀ r record lim, op = .updateNetwork r record lim →
      Lands inv (updateNetwork env record lim) s)
    (hdelete : ∀ id, op = .deleteNetwork id → Lands inv (deleteNetwork id) s)
    (huser : ∀ update, op = .updateUser update → Lands inv (updateUser env update) s)
    (hedit : ∀ r edit, op = .editSASL r edit → Lands inv (mutateNetwork r edit) s) : Lands inv (op.exec env ctx) s := by
  cases op with
  | look m =>
    refine look_safe hall ?_
    rintro t ⟨es,answers,dbFailed,-,-,rfl⟩
    exact h.rows (s := s) ⟨rfl,rfl,rfl,rfl,rfl,rfl⟩ hs
  | createNetwork record lim => exact (hcreate record lim rfl).bind fun _ => Keeps.pure _
  | updateNetwork r record lim => exact (hupdate r record lim rfl).bind fun _ => Keeps.pure _
  | deleteNetwork id => exact hdelete id rfl
  | updateUser update => exact huser update rfl
  | editSASL r edit => exact hedit r edit rfl
  | createChannel r ch => exact h.blind.only hs (addChannel_only ch)
  | updateChannel r name fs ch => exact h.blind.only hs (updateChannel_only env ctx name fs ch)
  | deleteChannel r name => exact h.blind.only hs (deleteChannel_only name)
  | addIgnore r ignore => exact h.blind.only hs (addIgnore_only ignore)
  | deleteIgnore r mask => exact h.blind.only hs (deleteIgnore_only env mask)
  | storeCertificate cert => exact h.rowsOnly hs (storeDeviceCertificate_rowsOnly env cert)
  | deleteCertificate given hash => exact h.rowsOnly hs (deleteMatching_rowsOnly given hash)
  | createUser record => exact h.rowsOnly hs (createUser_rowsOnly record)
  | post username event => exact h.rowsOnly hs (post_rowsOnly username event)
  | deleteUser username => exact h.rowsOnly hs (deleteOtherUser_rowsOnly username)
  | notice msg | debug enabled => exact h.rows (s := s) ⟨rfl,rfl,rfl,rfl,rfl,rfl⟩ hs

end

end Indifferent

/-- What every operation keeps that the words can stand for, the command keeps. -/
theorem handleServiceCommand_safe (hemit : ∀ t es, inv t → inv (t.emit es))
    (hop : ∀ op es, ((∃ m, op = .look m) ∨ Service.Named env ctx s words op) → op.Allowed env ctx (s.emit es) →
      Lands inv (op.exec env ctx) (s.emit es)) : Lands inv (handleServiceCommand env ctx words) s := by
  obtain ⟨op,hperf,hnamed⟩ := Service.runCommand_works _ words s
  exact Performs.safe hperf hemit fun es hall => hop op es hnamed hall

end Safe

end Sake.Proofs.ServiceOps
