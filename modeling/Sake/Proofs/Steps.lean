import Sake.Proofs.Incoming

namespace Sake.Proofs.Steps
open Lib.Handler Networks Goroutine Registered Sake.Incoming UserNetworks ServiceOps Incoming
open Sake.Service (Op Ctx)

variable {env : Env} {inv : State → Prop} {s : State} {dc : Client} {g : Guards} {ctx : Ctx}

/-- Conditions on what the goroutine does, each at the state in which it is done. -/
structure Guards where
  /-- A network is created, or updated, with a record. -/
  create : State → Network → Prop
  update : State → Network → Prop
  /-- The record of the user is replaced. -/
  user : State → Database.User → Prop
  /-- The live record of a network is changed and stored. -/
  edit : State → Nat → (Network → Network) → Prop
  /-- A client of a network takes a nick. -/
  nick : State → Client → Nat → String → Prop
  /-- A record is stored for a network, which keeps the one that it has. -/
  stored : State → Nat → Network → Prop
  welcome : State → Arrival → Prop
  /-- What comes from a connection. -/
  upstream : State → UserEvent → Prop

namespace Guards

def free : Guards where
  create _ _ := True
  update _ _ := True
  user _ _ := True
  edit _ _ _ := True
  nick _ _ _ _ := True
  stored _ _ _ := True
  welcome _ _ := True
  upstream _ _ := True

variable (g : Guards) (env : Env) (moment : Nat) (s : State)

def op : Op → Prop
  | .createNetwork record _ => g.create s record
  | .updateNetwork _ record _ => g.update s record
  | .updateUser update => ∀ user, update s.user = .ok user → g.user s user
  | .editSASL r edit => g.edit s r edit
  | _ => True

/-- The condition on the operation that the words stand for. -/
def service (ctx : Ctx) (words : List String) : Prop := ∀ op, Service.Named env ctx s words op → g.op s op

def savedPlain (username password : String) (record : Network) : Network :=
  { record with
    sasl := { record.sasl with mechanism := .plain, plainUsername := username, plainPassword := password } }

def request (dc : Client) : Request → Prop
  | .nick name =>
    match dc.network with
    | some r => g.nick s dc r name
    | none => g.user s { s.user with nick := name }
  | .setname realname =>
    dc.realname ≠ realname →
      match dc.network with
      | some r =>
        if (s.canSetname r).isSome then g.stored s r (withRealname s.user realname (s.heap r).record)
        else g.update s (withRealname s.user realname (s.heap r).record)
      | none => g.user s { s.user with realname }
  | .authenticate credentials => credentials = .anonymous → ∀ c, s.upstream dc = some c →
      g.update s (clearSASL (s.heap (s.conns c).network).record)
  | .addNetwork subcommand attrs => ∀ record,
      updateNetworkAttrs env subcommand attrs { newNetwork "" with nick := dc.nick } = .ok record →
        g.create s (withoutDefaults s.user record)
  | .changeNetwork subcommand _ attrs => ∀ r ∈ s.networks, ∀ record,
      updateNetworkAttrs env subcommand attrs (s.heap r).record = .ok record →
        g.update s (withoutDefaults s.user record)
  | .service words peerCertificate remoteIP =>
    g.service env s ⟨dc.nick,dc.network,s.user.admin,peerCertificate,remoteIP,moment⟩ words
  | .identify username password => ∀ c, s.upstream dc = some c →
      g.edit s (s.conns c).network (savedPlain username password)
  | .join _ _ | .part _ _ | .delNetwork _ _ => True

def event : UserEvent → Prop
  | .downstreamConnected dc => g.welcome s dc
  | .downstreamDisconnected _ _ | .disconnectSession _ => True
  | .downstreamMessage id request => ∀ dc ∈ s.clients, dc.id = id → dc.closed = false →
      g.request env moment s dc request
  | .userUpdate password admin enabled maxNetworks sourceIP =>
    g.user s (updatedUser password admin enabled maxNetworks sourceIP s.user)
  | .userRun params asUser => g.service env s ⟨"",none,!asUser || s.user.admin,none,"",moment⟩ params
  | .authenticated c username password => g.edit s (s.conns c).network (savedPlain username password)
  | e => g.upstream s e

end Guards

/-- A message that tells nothing of nicks and networks. -/
def Plain : Sent → Prop
  | .setname _ | .join _ | .part _ => True
  | _ => False

/-- The client is sent plain messages, or closed. -/
structure Quieter (dc dc' : Client) : Prop where
  sameID : dc'.id = dc.id
  network : dc'.network = dc.network
  caps : dc'.caps = dc.caps
  nick : dc'.nick = dc.nick
  closed : dc'.closed = false → dc.closed = false
  sent : ∃ msgs, (∀ msg ∈ msgs, Plain msg) ∧ dc'.sent = dc.sent ++ msgs

theorem Quieter.refl (dc : Client) : Quieter dc dc := ⟨rfl,rfl,rfl,rfl,id,[],by simp,by simp⟩

theorem Quieter.close (dc : Client) : Quieter dc { dc with closed := true } :=
  ⟨rfl,rfl,rfl,rfl,fun h => (nomatch h),[],by simp,by simp⟩

theorem Quieter.send (dc : Client) (h : Plain msg) : Quieter dc (dc.send msg) :=
  ⟨rfl,rfl,rfl,rfl,id,[msg],by simpa using h,rfl⟩

theorem Quieter.updateRealname (s : State) (dc : Client) : Quieter dc (s.updateRealname dc) := by
  unfold State.updateRealname
  split
  · exact ⟨rfl,rfl,rfl,rfl,id,[.setname (s.realnameOf dc)],by simp [Plain],rfl⟩
  · exact Quieter.refl dc

variable {update : UserUpdate} {user : Database.User}

theorem Quieter.ite [Decidable c] (ha : Quieter dc a) (hb : Quieter dc b) : Quieter dc (if c then a else b) := by
  split
  · exact ha
  · exact hb

/-- What is stored with the user is kept by the updates of the networks. -/
theorem updateUser_safe (h : Indifferent inv) (hclose : ∀ t, inv t → inv (closeIfDisabled t)) (hs : inv s)
    (hstored : ∀ user, update s.user = .ok user → inv { s with user })
    (hupdate : ∀ r ∈ s.networks, Stays inv (updateNetwork env (s.heap r).record false)) :
    Lands inv (updateUser env update) s := by
  rcases updateUser_cases env update s with ⟨e,t,he,ht⟩ | ⟨user,newID,answers,db,id,hu,-,hrest⟩
  · exact safe_of_error he (h.rows (Refused.rowsOnly ht) hs)
  refine hrest inv ⟨fun _ => h.blind.emit,hclose,?_⟩ ?_
  · intro record hrec
    obtain ⟨r,hr,rfl⟩ := List.mem_map.mp hrec
    exact hupdate r hr
  · exact h.rows (s := { s with user }) ⟨rfl,rfl,rfl,rfl,rfl,rfl⟩ (hstored user hu)

/-- Clients and connections belong to networks: that of a client that is not closed is in use, and a
network refers to connections of its own. -/
structure Bound (s : State) : Prop where
  clients : ∀ dc ∈ s.clients, ∀ r, dc.network = some r → r < s.next ∧ (dc.closed = false → r ∈ s.networks)
  ids : (s.clients.map Client.id).Nodup
  conns : ∀ r c, (s.heap r).conn = some c → r < s.next ∧ (s.conns c).network = r

theorem Bound.conn_listed (h : Bound s) (hdc : dc ∈ s.clients) (hopen : dc.closed = false)
    (hr : dc.network = some r) (hc : (s.heap r).conn = some c) : (s.conns c).network ∈ s.networks := by
  rw [(h.conns r c hc).2]
  exact (h.clients dc hdc r hr).2 hopen

/-- The operations of the service that do not change the records of the user and the networks. -/
def Minor : Op → Prop
  | .createNetwork _ _ | .updateNetwork _ _ _ | .deleteNetwork _ | .updateUser _ | .editSASL _ _ => False
  | _ => True

/-- A change of the credentials. -/
def CredentialsOnly (f : Network → Network) : Prop := ∀ record, ∃ sasl, f record = { record with sasl }

/-- The user stays who they are. -/
def SameUser (user : Database.User) (update : UserUpdate) : Prop :=
  ∀ user', update user = .ok user' → user'.id = user.id ∧ user'.username = user.username

theorem SameUser.of_ok {f : Database.User → Database.User} (hid : (f user).id = user.id)
    (hname : (f user).username = user.username) : SameUser user fun record => .ok (f record) := by
  intro user' h
  cases h
  exact ⟨hid,hname⟩

theorem ownUpdate_sameUser (h : Service.OwnUpdate env ctx update) (user : Database.User) : SameUser user update := by
  cases h with
  | setDefaultCert cert key _ | removeDefaultCert => exact SameUser.of_ok rfl rfl
  | flags fs _ _ =>
    intro user' h
    unfold Service.UserUpdateFlags.apply at h
    split at h
    · cases h
    · cases h
      exact ⟨rfl,rfl⟩

/-- What is asked of an invariant, where another one holds, by the events that do the same to all of them. -/
structure Bears (env : Env) (g : Guards) (base inv : State → Prop) : Prop where
  quiet : ∀ {s f}, base s → inv s → (∀ dc, Quieter dc (f dc)) → inv (s.mapClients f)
  unbound : ∀ {s}, base s → inv s → inv (s.mapClients fun c => if c.network = none then s.updateNick c else c)
  drop : ∀ {s} p, base s → inv s → inv { s with clients := s.clients.eraseP p }
  create : ∀ {s} record lim, base s → inv s → g.create s record → Lands inv (createNetwork env record lim) s
  update : ∀ {s} record lim, base s → inv s → g.update s record → Lands inv (updateNetwork env record lim) s
  delete : ∀ {s} id, base s → inv s → Lands inv (deleteNetwork id) s
  user : ∀ {s} update, base s → inv s → SameUser s.user update →
    (∀ user, update s.user = .ok user → g.user s user) → Lands inv (updateUser env update) s
  connect : ∀ {s c conn}, base s → inv s → (UserEvent.connected c conn).Possible s → g.upstream s (.connected c conn) →
    inv (connect c conn s)
  disconnected : ∀ {s} c, base s → inv s → inv (s.handleUpstreamDisconnected c)
  connectionError : ∀ {s r err}, base s → inv s → g.upstream s (.connectionError r err) → inv (setError r err s)
  upstreamError : ∀ {s c err}, base s → inv s → g.upstream s (.upstreamError c err) →
    inv (setError (s.conns c).network err s)
  connNick : ∀ {s} c nick, base s → inv s → inv (setConnNick c nick s)
  conn : ∀ {s} c {f}, base s → inv s → (∀ uc : Conn, (f uc).network = uc.network ∧ (f uc).nick = uc.nick) →
    inv (setConn c f s)
  welcome : ∀ {s dc} moment, base s → inv s → (UserEvent.downstreamConnected dc).Possible s → g.welcome s dc →
    Lands inv (handleDownstreamConnected env moment dc) s

/-- What is asked of an invariant for it to be kept by every event that meets the conditions, where
another one holds. -/
structure Upholds (env : Env) (g : Guards) (base inv : State → Prop) : Prop extends Bears env g base inv where
  refused : ∀ {s t}, base s → inv s → Refused s t → inv t
  emit : ∀ {s} es, base s → inv s → inv (s.emit es)
  edit : ∀ {s} r {f}, base s → inv s → CredentialsOnly f → g.edit s r f → Lands inv (mutateNetwork r f) s
  nick : ∀ {s dc r nick} newID answers db id, base s → inv s → dc ∈ s.clients → dc.closed = false →
    dc.network = some r → nick ≠ "" → g.nick s dc r nick →
    s.db.storeNetwork newID s.user.id { (s.heap r).record with nick } = .ok (db,id) →
    inv (announceNick dc r nick (({ s with answers, db } : State).setRecord r fun record => { record with nick }))
  stored : ∀ {s r record} newID answers db id, base s → inv s → r ∈ s.networks → g.stored s r record →
    s.db.storeNetwork newID s.user.id record = .ok (db,id) → inv { s with answers, db }
  minor : ∀ {s} ctx op, base s → inv s → ctx.network.all (· ∈ s.networks) = true → op.Allowed env ctx s → Minor op →
    Lands inv (op.exec env ctx) s
  join : ∀ {s} c name key, base s → inv s → (s.conns c).network ∈ s.networks → Lands inv (joinOne env c name key) s
  part : ∀ {s} moment c reason name, base s → inv s → (s.conns c).network ∈ s.networks →
    Lands inv (partOne env moment c reason name) s
  channelDetach : ∀ {s} moment c name, base s → inv s → g.upstream s (.channelDetach c name) →
    Lands inv (withChannel c name (autoDetach env moment name)) s
  channelAttach : ∀ {s} c name, base s → inv s → g.upstream s (.channelAttach c name) →
    Lands inv (withChannel c name (autoAttach env name)) s
  casemapping : ∀ {s r cm}, base s → inv s → g.upstream s (.casemapping r cm) →
    inv (s.setNet r fun net => net.updateCasemapping cm)

/-- Two invariants, of which the second needs the first. -/
theorem Upholds.and (h : Upholds env g base inv)
    (h' : Upholds env g (fun s => base s ∧ inv s) inv') : Upholds env g base fun s => inv s ∧ inv' s where
  refused hb hs ht := ⟨h.refused hb hs.1 ht,h'.refused ⟨hb,hs.1⟩ hs.2 ht⟩
  emit es hb hs := ⟨h.emit es hb hs.1,h'.emit es ⟨hb,hs.1⟩ hs.2⟩
  quiet hb hs hf := ⟨h.quiet hb hs.1 hf,h'.quiet ⟨hb,hs.1⟩ hs.2 hf⟩
  unbound hb hs := ⟨h.unbound hb hs.1,h'.unbound ⟨hb,hs.1⟩ hs.2⟩
  drop p hb hs := ⟨h.drop p hb hs.1,h'.drop p ⟨hb,hs.1⟩ hs.2⟩
  create record lim hb hs hg := (h.create record lim hb hs.1 hg).and (h'.create record lim ⟨hb,hs.1⟩ hs.2 hg)
  update record lim hb hs hg := (h.update record lim hb hs.1 hg).and (h'.update record lim ⟨hb,hs.1⟩ hs.2 hg)
  delete id hb hs := (h.delete id hb hs.1).and (h'.delete id ⟨hb,hs.1⟩ hs.2)
  user update hb hs hid hg := (h.user update hb hs.1 hid hg).and (h'.user update ⟨hb,hs.1⟩ hs.2 hid hg)
  edit r _ hb hs hf hg := (h.edit r hb hs.1 hf hg).and (h'.edit r ⟨hb,hs.1⟩ hs.2 hf hg)
  nick newID answers db id hb hs hdc hopen hr hne hg hdb :=
    ⟨h.nick newID answers db id hb hs.1 hdc hopen hr hne hg hdb,
      h'.nick newID answers db id ⟨hb,hs.1⟩ hs.2 hdc hopen hr hne hg hdb⟩
  stored newID answers db id hb hs hr hg hdb :=
    ⟨h.stored newID answers db id hb hs.1 hr hg hdb,h'.stored newID answers db id ⟨hb,hs.1⟩ hs.2 hr hg hdb⟩
  minor ctx op hb hs hctx hall hm := (h.minor ctx op hb hs.1 hctx hall hm).and (h'.minor ctx op ⟨hb,hs.1⟩ hs.2 hctx hall hm)
  join c name key hb hs hc := (h.join c name key hb hs.1 hc).and (h'.join c name key ⟨hb,hs.1⟩ hs.2 hc)
  part moment c reason name hb hs hc :=
    (h.part moment c reason name hb hs.1 hc).and (h'.part moment c reason name ⟨hb,hs.1⟩ hs.2 hc)
  channelDetach moment c name hb hs hg :=
    (h.channelDetach moment c name hb hs.1 hg).and (h'.channelDetach moment c name ⟨hb,hs.1⟩ hs.2 hg)
  channelAttach c name hb hs hg := (h.channelAttach c name hb hs.1 hg).and (h'.channelAttach c name ⟨hb,hs.1⟩ hs.2 hg)
  connect hb hs hp hg := ⟨h.connect hb hs.1 hp hg,h'.connect ⟨hb,hs.1⟩ hs.2 hp hg⟩
  disconnected c hb hs := ⟨h.disconnected c hb hs.1,h'.disconnected c ⟨hb,hs.1⟩ hs.2⟩
  connectionError hb hs hg := ⟨h.connectionError hb hs.1 hg,h'.connectionError ⟨hb,hs.1⟩ hs.2 hg⟩
  upstreamError hb hs hg := ⟨h.upstreamError hb hs.1 hg,h'.upstreamError ⟨hb,hs.1⟩ hs.2 hg⟩
  connNick c nick hb hs := ⟨h.connNick c nick hb hs.1,h'.connNick c nick ⟨hb,hs.1⟩ hs.2⟩
  conn c _ hb hs hf := ⟨h.conn c hb hs.1 hf,h'.conn c ⟨hb,hs.1⟩ hs.2 hf⟩
  casemapping hb hs hg := ⟨h.casemapping hb hs.1 hg,h'.casemapping ⟨hb,hs.1⟩ hs.2 hg⟩
  welcome moment hb hs hp hg := (h.welcome moment hb hs.1 hp hg).and (h'.welcome moment ⟨hb,hs.1⟩ hs.2 hp hg)

/-- What is asked of an invariant that looks neither at channels nor at rows. -/
structure Observes (env : Env) (g : Guards) (base inv : State → Prop) : Prop extends Bears env g base inv where
  indifferent : Indifferent inv
  record : ∀ {s} r {f}, base s → inv s → CredentialsOnly f → inv (s.setRecord r f)
  nick : ∀ {s dc r nick}, base s → inv s → dc ∈ s.clients → dc.network = some r → nick ≠ "" →
    g.nick s dc r nick → inv (announceNick dc r nick (s.setRecord r fun record => { record with nick }))
  casemapping : ∀ {s} r cm, base s → inv s → inv (s.setNet r fun net => net.updateCasemapping cm)

theorem announceNick_rowsOnly (s : State) (dc : Client) (r : Nat) (nick : String) (answers : List Answer) (db : DB) :
    RowsOnly (announceNick dc r nick (s.setRecord r fun record => { record with nick }))
      (announceNick dc r nick (({ s with answers, db } : State).setRecord r fun record => { record with nick })) := by
  have hconn : (({ s with answers, db }).setRecord r fun record => { record with nick }).heap =
      (s.setRecord r fun record => { record with nick }).heap := rfl
  unfold announceNick
  rw [hconn]
  cases ((s.setRecord r fun record => { record with nick }).heap r).conn with
  | none | some c => exact ⟨rfl,rfl,rfl,rfl,rfl,rfl⟩

theorem Observes.upholds (h : Observes env g base inv) : Upholds env g base inv where
  toBears := h.toBears
  refused _ hs ht := h.indifferent.rows (Refused.rowsOnly ht) hs
  emit es _ hs := h.indifferent.blind.emit es hs
  edit {s} r {f} hb hs hf _ := by
    have hset := h.record r hb hs hf
    rcases mutateNetwork_cases r f s with ⟨e,answers,he⟩ | ⟨newID,answers,db,id,-,hok⟩
    · exact safe_of_error he (h.indifferent.rows (s := s.setRecord r f) ⟨rfl,rfl,rfl,rfl,rfl,rfl⟩ hset)
    · exact safe_of_ok hok (h.indifferent.rows (s := s.setRecord r f) ⟨rfl,rfl,rfl,rfl,rfl,rfl⟩ hset)
  nick {s dc r nick} newID answers db id hb hs hdc _ hr hne hg _ :=
    h.indifferent.rows (announceNick_rowsOnly s dc r nick answers db) (h.nick hb hs hdc hr hne hg)
  stored {s r record} newID answers db id _ hs _ _ _ := h.indifferent.rows (s := s) ⟨rfl,rfl,rfl,rfl,rfl,rfl⟩ hs
  minor ctx op _ hs _ hall hm := by
    refine h.indifferent.exec hall hs ?_ ?_ ?_ ?_ ?_
    · rintro record lim rfl
      exact hm.elim
    · rintro r record lim rfl
      exact hm.elim
    · rintro id rfl
      exact hm.elim
    · rintro update rfl
      exact hm.elim
    · rintro r edit rfl
      exact hm.elim
  join {s} c name key _ hs _ := joinOne_blind h.indifferent.blind c name key s hs
  part {s} moment c reason name _ hs _ := partOne_blind h.indifferent.blind c reason name s hs
  channelDetach {s} moment c name _ hs _ := withChannel_keeps (autoDetach_blind h.indifferent.blind name) c name s hs
  channelAttach {s} c name _ hs _ := withChannel_keeps (autoAttach_blind h.indifferent.blind name) c name s hs
  casemapping {s r cm} hb hs _ := h.casemapping r cm hb hs

/-- The conditions do not depend on what has been printed, and let the time of the last interaction pass. -/
structure Guards.Stable (g : Guards) : Prop where
  emits : ∀ {s op} es, g.op s op → g.op (s.emit es) op
  bump : ∀ s time, g.user s { s.user with downstreamInteractedAt := time }

theorem Guards.free_stable : Guards.free.Stable where
  emits {s op} es h := by
    cases op with
    | updateUser update => exact fun _ _ => trivial
    | _ => trivial
  bump _ _ := trivial

theorem Guards.free_event (env : Env) (moment : Nat) (s : State) (e : UserEvent) :
    Guards.free.event env moment s e := by
  have hservice ctx words : Guards.free.service env s ctx words := by
    intro op _
    cases op with
    | updateUser update => exact fun _ _ => trivial
    | _ => trivial
  cases e with
  | downstreamMessage id request =>
    intro dc _ _ _
    cases request with
    | nick name =>
      rw [Guards.request]
      split <;> trivial
    | setname realname =>
      intro _
      split
      · split <;> trivial
      · trivial
    | authenticate credentials => exact fun _ _ _ => trivial
    | addNetwork subcommand attrs | identify username password => exact fun _ _ => trivial
    | changeNetwork subcommand id attrs => exact fun _ _ _ _ => trivial
    | service words peerCertificate remoteIP => exact hservice _ _
    | _ => trivial
  | userRun params asUser => exact hservice _ _
  | _ => trivial

theorem saslEdit_credentials (he : Service.SASLEdit user record edit) : CredentialsOnly edit := by
  intro record
  cases he with
  | removeCert =>
    unfold Service.removeCert
    dsimp only
    split <;> exact ⟨_,rfl⟩
  | _ => exact ⟨_,rfl⟩

theorem listed_indifferent (c : Nat) : Indifferent fun t => (t.conns c).network ∈ t.networks where
  channels h ht := by
    rw [h.conns,h.networks]
    exact ht
  rows h ht := by
    rw [h.conns,h.networks]
    exact ht

namespace Upholds
variable (h : Upholds env g (fun _ => True) inv) (hbound : ∀ s, inv s → Bound s) (hg : g.Stable)
include h

section
include hg

theorem service (hs : inv s) (hctx : ctx.network.all (· ∈ s.networks) = true)
    (hw : g.service env s ctx words) : Lands inv (Service.handleServiceCommand env ctx words) s := by
  refine handleServiceCommand_safe (fun t es ht => h.emit es trivial ht) fun op es hnamed hall => ?_
  have hs' := h.emit es trivial hs
  have hop : g.op (s.emit es) op := by
    rcases hnamed with ⟨m,rfl⟩ | hnamed
    · trivial
    · exact hg.emits es (hw op hnamed)
  cases op with
  | createNetwork record lim => exact discard_safe (h.create record lim trivial hs' hop)
  | updateNetwork r record lim => exact discard_safe (h.update record lim trivial hs' hop)
  | deleteNetwork id => exact h.delete id trivial hs'
  | updateUser update => exact h.user update trivial hs' (ownUpdate_sameUser hall _) hop
  | editSASL r edit => exact h.edit r trivial hs' (saslEdit_credentials hall.2) hop
  | _ => exact h.minor ctx _ trivial hs' hctx hall trivial

theorem bumped (impersonating : Bool) : Stays inv (bumpDownstreamInteractionTime env moment impersonating) :=
  bump_stays _ fun t ht => h.user _ trivial ht (SameUser.of_ok rfl rfl) fun user hu => by cases hu; exact hg.bump t _

end

section
variable (hs : inv s) (hdc : dc ∈ s.clients) (hopen : dc.closed = false)
include hs hdc hopen

theorem nickRequest (nick : String)
    (hn : g.request env moment s dc (.nick nick)) : Lands inv (handleNick env dc nick) s := by
  rw [Guards.request] at hn
  refine handleNick_safe nick (fun _ => h.refused trivial hs) ?_ ?_ fun _ => h.unbound trivial
  · intro r newID answers db id hr hne hdb
    rw [hr] at hn
    exact h.nick newID answers db id trivial hs hdc hopen hr hne hn hdb
  · intro hr
    rw [hr] at hn
    exact h.user _ trivial hs (SameUser.of_ok rfl rfl) fun user hu => by cases hu; exact hn

include hbound

theorem setnameRequest (realname : String)
    (hn : g.request env moment s dc (.setname realname)) : Lands inv (handleSetname env dc realname) s := by
  refine handleSetname_safe realname ?_ ?_ ?_ ?_ ?_
  · have hsend c : Quieter c (c.send (.setname realname)) := Quieter.send c trivial
    exact h.quiet trivial hs fun c => (hsend c).ite (Quieter.refl c)
  · intro r c t hne hr hc ht
    have hn := hn hne
    simp only [hr,hc] at hn
    rcases ht with ⟨answers,rfl⟩ | ⟨newID,answers,db,id,hdb,rfl⟩
    · exact h.refused trivial (h.emit _ trivial hs) (.inr ⟨answers,rfl⟩)
    · have hlisted := ((hbound s hs).clients dc hdc r hr).2 hopen
      exact h.emit _ trivial (h.stored newID answers db id trivial hs hlisted hn hdb)
  · intro r hne hr hc
    have hn := hn hne
    simp only [hr,hc] at hn
    exact h.update _ false trivial hs hn
  · intro hne hr
    have hn := hn hne
    simp only [hr] at hn
    exact h.user _ trivial hs (SameUser.of_ok rfl rfl) fun user hu => by cases hu; exact hn
  · exact fun t ht => h.quiet trivial ht fun c => (Quieter.updateRealname t c).ite (Quieter.refl c)

/-- A command for the connection of the client's network that goes through its targets. -/
theorem eachTarget {α : Type} {one : Nat → α → Handler Unit} (command : String) (targets : List α)
    (hone : ∀ c x t, inv t → (t.conns c).network ∈ t.networks → Lands inv (one c x) t)
    (hblind : ∀ c x, Stays (fun t => (t.conns c).network ∈ t.networks) (one c x)) :
    Lands inv (upstreamForCommand dc command >>= fun c => targets.forM (one c)) s := by
  refine check_safe (upstreamForCommand_checks _) hs fun c hc => ?_
  obtain ⟨r,hr,hc⟩ := hc
  have hlisted := (hbound s hs).conn_listed hdc hopen hr hc
  have hkeeps (x : α) : Stays (fun t => inv t ∧ (t.conns c).network ∈ t.networks) (one c x) :=
    fun t ht => (hone c x t ht.1 ht.2).and (hblind c x t ht.2)
  exact (Keeps.forM (fun x _ => hkeeps x) s ⟨hs,hlisted⟩).mono fun _ => And.left

include hg

theorem request (request : Request)
    (hr : g.request env moment s dc request) : Lands inv (request.handle env moment dc) s := by
  cases request with
  | nick nick => exact h.nickRequest hs hdc hopen nick hr
  | setname realname => exact h.setnameRequest hbound hs hdc hopen realname hr
  | join names keys =>
    exact h.eachTarget hbound hs hdc hopen _ _
      (fun c (entry : String × String) _ ht hc => h.join c entry.1 entry.2 trivial ht hc)
      fun c entry => joinOne_blind (listed_indifferent c).blind c entry.1 entry.2
  | part names reason =>
    exact h.eachTarget hbound hs hdc hopen _ _ (fun c name _ ht hc => h.part moment c reason name trivial ht hc)
      fun c name => partOne_blind (listed_indifferent c).blind c reason name
  | authenticate credentials =>
    exact handleAuthenticate_safe credentials hs (fun t es ht => h.emit es trivial ht) fun c ha hc =>
      h.update _ false trivial hs (hr ha c hc)
  | addNetwork subcommand attrs =>
    exact handleAddNetwork_safe subcommand attrs hs fun record hrec => h.create _ true trivial hs (hr record hrec)
  | changeNetwork subcommand id attrs =>
    exact handleChangeNetwork_safe subcommand id attrs hs fun r record hmem hrec =>
      h.update _ _ trivial hs (hr r hmem record hrec)
  | delNetwork subcommand id => exact handleDelNetwork_safe subcommand id hs fun r _ => h.delete _ trivial hs
  | service words peerCertificate remoteIP =>
    have hctx : dc.network.all (· ∈ s.networks) = true := by
      cases hn : dc.network with
      | none => rfl
      | some r => exact decide_eq_true (((hbound s hs).clients dc hdc r hn).2 hopen)
    refine Safe.get_bind ((h.service hg hs hctx hr).tryCatch fun e _ => ?_)
    cases e with
    | panic text | blocked => exact Keeps.throw trivial
    | _ => exact Keeps.pure _
  | identify username password =>
    refine check_safe (upstreamForCommand_checks _) hs fun c hc => Safe.get_bind ?_
    obtain ⟨r,hn,hc⟩ := hc
    have hup : s.upstream dc = some c := by rw [State.upstream,hn,Option.bind_some,hc]
    exact autoSaveSASLPlain_safe _ username password hs (h.edit _ trivial hs (fun record => ⟨_,rfl⟩) (hr c hup))

end

include hbound hg

theorem handle (hs : inv s) (e : UserEvent) (hp : e.Possible s) (he : g.event env moment s e) :
    Lands inv (e.handle env moment) s := by
  have hclose c p [Decidable p] : Quieter c (if p then { c with closed := true } else c) :=
    (Quieter.close c).ite (Quieter.refl c)
  cases e with
  | connected c conn => exact h.connect trivial hs hp he
  | disconnected c => exact h.disconnected c trivial hs
  | connectionError r err => exact h.connectionError trivial hs he
  | upstreamError c err => exact h.upstreamError trivial hs he
  | upstreamNick c nick => exact ifOpen_safe hs fun _ => h.connNick c nick trivial hs
  | upstreamSetname c realname =>
    refine ifOpen_safe hs fun _ => h.quiet trivial (h.conn c trivial hs fun _ => ⟨rfl,rfl⟩) fun dc => ?_
    exact (Quieter.updateRealname _ dc).ite (Quieter.refl dc)
  | upstreamCaps c caps => exact ifOpen_safe hs fun _ => h.conn c trivial hs fun _ => ⟨rfl,rfl⟩
  | upstreamChannels c channels => exact ifOpen_safe hs fun _ => h.conn c trivial hs fun _ => ⟨rfl,rfl⟩
  | casemapping r cm => exact h.casemapping trivial hs he
  | authenticated c username password =>
    refine ifOpen_safe hs fun _ => Safe.get_bind ?_
    exact autoSaveSASLPlain_safe _ username password hs (h.edit _ trivial hs (fun record => ⟨_,rfl⟩) he)
  | channelDetach c name => exact h.channelDetach moment c name trivial hs he
  | channelAttach c name => exact ifOpen_safe hs fun _ => h.channelAttach c name trivial hs he
  | closed c => exact h.conn c trivial hs fun _ => ⟨rfl,rfl⟩
  | downstreamConnected dc => exact h.welcome moment trivial hs hp he
  | downstreamDisconnected id impersonating =>
    exact Safe.modify_bind (h.bumped hg impersonating _ (h.drop _ trivial hs))
  | downstreamMessage id request =>
    refine handleDownstreamMessage_safe hs (fun t ht => ?_) fun dc hdc hid hopen =>
      h.request hbound hg hs hdc hopen request (he dc hdc hid hopen)
    exact h.quiet trivial ht fun c => hclose c _
  | disconnectSession id => exact h.quiet trivial hs fun c => hclose c _
  | userUpdate password admin enabled maxNetworks sourceIP =>
    have hupdate := h.user _ trivial hs (SameUser.of_ok rfl rfl) fun user hu => by cases hu; exact he
    refine (logged_safe hupdate).bind fun _ => Keeps.modify fun t ht => ?_
    exact h.quiet trivial ht fun c => hclose c _
  | userRun params asUser => exact Safe.get_bind (h.service hg hs rfl he)

theorem step (hs : inv s) (he : g.event env e.1 s e.2) (ht : Sake.Incoming.step env s e = some t) : inv t :=
  step_safe ht fun hp => h.handle hbound hg hs e.2 hp he

end Upholds

end Sake.Proofs.Steps
