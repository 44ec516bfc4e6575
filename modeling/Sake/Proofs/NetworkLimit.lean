import Sake.Proofs.Rooted

namespace Sake.Proofs.NetworkLimit
open Lib Lib.Handler Lib.Runs Networks Goroutine Registered Sake.Incoming UserNetworks ServiceOps Incoming Steps List
open Sake.Service (Op Ctx Names Selected networkFlagSet popArg NetworkFlags)

variable {env : Env} {s t : State} {r : Nat} {record : Network}

/-- How many networks the user may enable; there is no limit if it is negative. -/
def networkLimit (env : Env) (user : Database.User) : Int :=
  if user.maxNetworks < 0 then env.maxUserNetworks else user.maxNetworks

/-- The words are a command of an admin with the flag `-ignore-limit`. -/
def IgnoresLimit (admin : Bool) (username : String) (words : List String) : Prop :=
  admin = true ∧ ∃ params fs, fs.ignoreLimit = true ∧
    ((Names admin username words .networkCreate params ∧ Flags.parse networkFlagSet params {} = .ok (fs,[])) ∨
      (Names admin username words .networkUpdate params ∧
        Flags.parse networkFlagSet (popArg params).2 {} = .ok (fs,[])))

/-- The event carries such a command. -/
def Unlimited (s : State) : UserEvent → Prop
  | .downstreamMessage _ (.service words _ _) => IgnoresLimit s.user.admin s.user.username words
  | .userRun params asUser => IgnoresLimit (!asUser || s.user.admin) s.user.username params
  | _ => False

/-- The id of a network, and whether it is enabled. -/
def entry (s : State) (r : Nat) : Int × Bool := (netID s r,(s.heap r).record.enabled)

def entries (s : State) : List (Int × Bool) := s.networks.map (entry s)

section Entries

theorem enabledNetworks_eq (s : State) : s.enabledNetworks = (entries s).countP Prod.snd := by
  unfold State.enabledNetworks entries
  rw [countP_map,countP_eq_length_filter]
  rfl

theorem entries_congr (hnets : t.networks = s.networks)
    (hrec : ∀ r, entry t r = entry s r) : entries t = entries s := by
  unfold entries
  rw [hnets]
  exact map_congr_left fun r _ => hrec r

theorem entry_congr (h : (t.heap r).record = (s.heap r).record) : entry t r = entry s r := by
  unfold entry netID
  rw [h]

theorem entries_indifferent (p : List (Int × Bool) → Prop) : Indifferent fun t => p (entries t) where
  channels h hs := by
    rw [entries_congr h.networks fun x => entry_congr (h.record x)]
    exact hs
  rows h hs := by
    rw [entries_congr h.networks fun x => entry_congr (by rw [h.heap])]
    exact hs

theorem entries_erase (hr : r ∈ s.networks) : (entries s).Perm (entry s r :: (s.networks.erase r).map (entry s)) :=
  (perm_cons_erase hr).map (entry s)

theorem addNetwork_entries (s : State) (net : Net) :
    (entries (s.addNetwork net)).Perm ((net.record.id,net.record.enabled) :: entries s) := by
  have hold : s.networks.map (entry (s.addNetwork net)) = entries s :=
    map_congr_left fun x hx => entry_congr (by rw [addNetwork_of_ne s net (Nat.ne_of_lt (s.fresh x hx))])
  have hnew : entry (s.addNetwork net) s.next = (net.record.id,net.record.enabled) := by
    unfold entry netID
    rw [addNetwork_self]
  refine ((perm_insertionSort _ _).map _).trans ?_
  rw [map_append,hold,map_singleton,hnew]
  exact perm_append_singleton _ _

/-- The new object of a network has the entry of the record that it was updated with. -/
theorem replaceNetwork_entries (env : Env) (s : State) (r : Nat) (record : Network) :
    (entries (s.replaceNetwork env r record)).Perm
      ((record.id,record.enabled) :: (s.networks.erase r).map (entry s)) := by
  have hold : (s.networks.erase r).map (entry (s.replaceNetwork env r record)) =
      (s.networks.erase r).map (entry s) := by
    refine map_congr_left fun x hx => entry_congr ?_
    exact record_of_kept (replaceNetwork_kept env s r record (Nat.ne_of_lt (s.fresh x (mem_of_mem_erase hx))))
  have hnew : entry (s.replaceNetwork env r record) s.next = (record.id,record.enabled) := by
    unfold entry netID
    rw [replaceNetwork_self]
    rfl
  refine ((perm_insertionSort _ (s.networks.erase r ++ [s.next])).map _).trans ?_
  rw [map_append,hold,map_singleton,hnew]
  exact perm_append_singleton _ _

/-- At most one more network is enabled, and none if the one that is updated was enabled already. -/
theorem replaceNetwork_enabled (hr : r ∈ s.networks) :
    (s.replaceNetwork env r record).enabledNetworks + (s.heap r).record.enabled.toNat =
      s.enabledNetworks + record.enabled.toNat := by
  have hnew := (replaceNetwork_entries env s r record).countP_eq Prod.snd
  have hold := (entries_erase hr).countP_eq Prod.snd
  rw [enabledNetworks_eq,enabledNetworks_eq,hnew,hold]
  unfold entry
  cases record.enabled <;> cases (s.heap r).record.enabled <;> simp

end Entries

section Operations

/-- At most so many networks are enabled. -/
def Within (N : Nat) (s : State) : Prop := s.enabledNetworks ≤ N

theorem within_indifferent (N : Nat) : Indifferent (Within N) := by
  have h : (Within N) = fun t => (entries t).countP Prod.snd ≤ N := by
    funext t
    rw [Within,enabledNetworks_eq]
  rw [h]
  exact entries_indifferent fun l => l.countP Prod.snd ≤ N

theorem canEnableNewNetwork_lt (h : s.canEnableNewNetwork env = .ok ()) (h0 : 0 ≤ networkLimit env s.user) :
    (s.enabledNetworks : Int) < networkLimit env s.user := by
  by_contra hge
  have herr : s.canEnableNewNetwork env = .error "maximum number of enabled networks reached" :=
    (if_neg (not_lt.mpr h0)).trans (if_pos (not_lt.mp hge))
  cases h.symm.trans herr

theorem createNetwork_within (record : Network) (hs : Within N s) (h0 : 0 ≤ networkLimit env s.user)
    (hN : networkLimit env s.user ≤ N) : Lands (Within N) (createNetwork env record true) s := by
  rcases createNetwork_cases env record true s with ⟨e,t,he,ht⟩ | ⟨newID,answers,db,id,-,hlim,-,-,hok⟩
  · exact safe_of_error he ((within_indifferent N).rows (Refused.rowsOnly ht) hs)
  refine safe_of_ok hok ?_
  have hcount := (addNetwork_entries { s with answers, db } (newNet { record with id } [] [])).countP_eq Prod.snd
  rw [countP_cons] at hcount
  rw [Within,enabledNetworks_eq] at hs
  refine le_trans (le_of_eq ((enabledNetworks_eq _).trans hcount)) ?_
  change (entries s).countP Prod.snd + (if record.enabled = true then 1 else 0) ≤ N
  split
  · rename_i henabled
    have hlt := canEnableNewNetwork_lt (hlim (by simpa using henabled)) h0
    rw [enabledNetworks_eq] at hlt
    omega
  · exact hs

/-- An update that enables no network, or is checked for the limit. -/
theorem updateNetwork_within (hs : Within N s) (h : ∀ r ∈ s.networks, netID s r = record.id → record.enabled = true →
      (s.heap r).record.enabled = true ∨ (lim = true ∧ 0 ≤ networkLimit env s.user ∧ networkLimit env s.user ≤ N)) :
    Lands (Within N) (updateNetwork env record lim) s := by
  rcases updateNetwork_cases env record lim s with ⟨e,t,he,ht⟩ | ⟨r,newID,answers,db,id,-,hcan,hr,-,-,hok⟩
  · exact safe_of_error he ((within_indifferent N).rows (Refused.rowsOnly ht) hs)
  refine safe_of_ok hok ?_
  obtain ⟨hmem,hid⟩ := Rooted.getNetworkByID_netID hr
  have hcount : (({ s with answers, db }).replaceNetwork env r (wipeDefaults s.user record)).enabledNetworks +
      (s.heap r).record.enabled.toNat = s.enabledNetworks + record.enabled.toNat := replaceNetwork_enabled hmem
  unfold Within at hs ⊢
  cases hen : record.enabled with
  | false =>
    rw [hen,Bool.toNat_false] at hcount
    omega
  | true =>
    rw [hen,Bool.toNat_true] at hcount
    rcases h r hmem hid hen with hold | ⟨hlim,h0,hN⟩
    · rw [hold,Bool.toNat_true] at hcount
      omega
    · have hlt := canEnableNewNetwork_lt (hcan (by rw [hlim,hen]; rfl)) h0
      omega

theorem deleteNetwork_within (id : Int) (hs : Within N s) : Lands (Within N) (deleteNetwork id) s := by
  rcases deleteNetwork_cases id s with ⟨e,t,he,ht⟩ | ⟨r,answers,db,hr,-,hok⟩
  · exact safe_of_error he ((within_indifferent N).rows (Refused.rowsOnly ht) hs)
  refine safe_of_ok hok (le_trans ?_ hs)
  have hkept : (s.networks.erase r).map (entry (s.removeNetwork r)) = (s.networks.erase r).map (entry s) :=
    map_congr_left fun x _ => entry_congr (record_of_kept (removeNetwork_kept s r x))
  have hsub : ((s.networks.erase r).map (entry s)).Sublist (entries s) := erase_sublist.map _
  rw [enabledNetworks_eq,enabledNetworks_eq]
  refine le_trans (le_of_eq ?_) hsub.countP_le
  exact congrArg (List.countP Prod.snd) hkept

/-- A network is updated with the record that it had at first, or another one that is as much enabled. -/
theorem updateNetwork_entries (hids : (l.map Prod.fst).Nodup) (hmem : (record.id,record.enabled) ∈ l) :
    Stays (fun t => (entries t).Perm l) (updateNetwork env record false) := by
  intro s hs
  rcases updateNetwork_cases env record false s with ⟨e,t,he,ht⟩ | ⟨r,newID,answers,db,id,-,-,hr,-,-,hok⟩
  · exact safe_of_error he ((entries_indifferent fun entries => entries.Perm l).rows (Refused.rowsOnly ht) hs)
  refine safe_of_ok hok ?_
  obtain ⟨hlisted,hid⟩ := Rooted.getNetworkByID_netID hr
  have hentry : entry s r = (record.id,record.enabled) :=
    inj_on_of_nodup_map hids (hs.subset (mem_map_of_mem hlisted)) hmem hid
  refine (replaceNetwork_entries env _ r _).trans (List.Perm.trans ?_ hs)
  exact (List.Perm.of_eq (by rw [hentry]; rfl)).trans (entries_erase hlisted).symm

theorem updateUser_entries (env : Env) (update : UserUpdate) (hs : Rooted s) :
    Lands (fun t => (entries t).Perm (entries s)) (updateUser env update) s := by
  have hids : ((entries s).map Prod.fst).Nodup := by
    unfold entries
    rw [map_map]
    exact hs.ids
  refine updateUser_safe (entries_indifferent fun entries => entries.Perm _) (fun t ht => ht) (List.Perm.refl _)
    (fun user _ => List.Perm.refl _) fun r hr => ?_
  exact updateNetwork_entries hids (mem_map_of_mem hr)

theorem updateUser_within (env : Env) (update : UserUpdate) (hs : Rooted s)
    (hw : Within N s) : Lands (Within N) (updateUser env update) s := by
  refine (updateUser_entries env update hs).mono fun t ht => ?_
  unfold Within at hw ⊢
  rw [enabledNetworks_eq] at hw ⊢
  rwa [ht.countP_eq]

end Operations

section Events
theorem Within.same (hs : Within N s) (h : entries t = entries s) : Within N t := by
  rwa [Within,enabledNetworks_eq,h,← enabledNetworks_eq]

theorem setNet_entries (s : State) (r : Nat) (hid : ∀ net, (f net).record.id = net.record.id)
    (hf : ∀ net, (f net).record.enabled = net.record.enabled) : entries (s.setNet r f) = entries s := by
  refine entries_congr rfl fun x => ?_
  unfold entry netID
  by_cases hx : x = r
  · rw [hx,setNet_self,hid,hf]
  · rw [setNet_of_ne s r f hx]

theorem Within.setNet (hs : Within N s) (r : Nat) (hid : ∀ net, (f net).record.id = net.record.id)
    (hf : ∀ net, (f net).record.enabled = net.record.enabled) : Within N (s.setNet r f) :=
  hs.same (setNet_entries s r hid hf)

/-- No network is created or enabled. -/
def limited : Guards where
  create _ _ := False
  update s record := ∀ r ∈ s.networks, netID s r = record.id → record.enabled = true → (s.heap r).record.enabled = true
  user _ _ := True
  edit _ _ _ := True
  nick _ _ _ _ := True
  stored _ _ _ := True
  welcome _ _ := False
  upstream _ _ := True

theorem limited_stable : limited.Stable where
  emits {s op} es h := by
    cases op with
    | createNetwork record lim | updateNetwork r record lim | updateUser update | editSASL r edit => exact h
    | _ => trivial
  bump _ _ := trivial

theorem within_observes (env : Env) (N : Nat) (hbase : ∀ s, base s → Rooted s) :
    Observes env limited base (Within N) where
  indifferent := within_indifferent N
  quiet _ hs _ := hs
  unbound _ hs := hs
  drop _ _ hs := hs
  create _ _ _ _ hg := hg.elim
  update record lim _ hs hg := updateNetwork_within hs fun r hr hid he => .inl (hg r hr hid he)
  delete id _ hs := deleteNetwork_within id hs
  user update hb hs _ _ := updateUser_within env update (hbase _ hb) hs
  record {s} r {f} _ hs hf := by
    refine hs.setNet r (fun net => ?_) fun net => ?_
    all_goals
      obtain ⟨sasl,h⟩ := hf net.record
      rw [h]
  nick {s dc r nick} _ hs _ _ _ _ := by
    have hset := hs.setNet r (f := fun net => { net with record := { net.record with nick } }) (fun _ => rfl) fun _ => rfl
    unfold announceNick
    split <;> exact hset
  connect {s c conn} _ hs _ _ := by
    have hset := hs.setNet conn.network (f := fun net => { net with conn := some c }) (fun _ => rfl) fun _ => rfl
    exact hset.setNet conn.network (f := fun net => { net with lastError := none }) (fun _ => rfl) fun _ => rfl
  disconnected {s} c _ hs :=
    hs.setNet (s.conns c).network (f := fun net => { net with conn := none }) (fun _ => rfl) fun _ => rfl
  connectionError {s r err} _ hs _ :=
    hs.setNet r (f := fun net => { net with lastError := some err }) (fun _ => rfl) fun _ => rfl
  upstreamError {s c err} _ hs _ :=
    hs.setNet (s.conns c).network (f := fun net => { net with lastError := some err }) (fun _ => rfl) fun _ => rfl
  connNick _ _ _ hs := hs
  conn _ _ _ hs _ := hs
  casemapping r cm _ hs := hs.setNet r (fun _ => rfl) fun _ => rfl
  welcome _ _ _ _ hg := hg.elim

end Events

section Requests
theorem updateNetworkAttr_entry (record : Network) (key value : String) :
    ((updateNetworkAttr record key value).getD record).id = record.id ∧
      ((updateNetworkAttr record key value).getD record).enabled = record.enabled := by
  unfold updateNetworkAttr
  split <;> exact ⟨rfl,rfl⟩

theorem foldAttrs_entry (attrs : Tags) : ∀ record : Network,
    (attrs.foldl (fun record kv => (updateNetworkAttr record kv.1 kv.2).getD record) record).id = record.id ∧
      (attrs.foldl (fun record kv => (updateNetworkAttr record kv.1 kv.2).getD record) record).enabled =
        record.enabled := by
  induction attrs with
  | nil => exact fun _ => ⟨rfl,rfl⟩
  | cons kv attrs ih =>
    intro record
    obtain ⟨hid,hen⟩ := updateNetworkAttr_entry record kv.1 kv.2
    obtain ⟨hid',hen'⟩ := ih ((updateNetworkAttr record kv.1 kv.2).getD record)
    exact ⟨hid'.trans hid,hen'.trans hen⟩

theorem updateNetworkAttrs_entry (h : updateNetworkAttrs env subcommand attrs record = .ok record') :
    record'.id = record.id ∧ record'.enabled = record.enabled := by
  unfold updateNetworkAttrs at h
  split at h
  · cases h
  dsimp only at h
  split at h
  · split at h
    · cases h
    · cases h
      exact foldAttrs_entry attrs record
  · cases h
    exact foldAttrs_entry attrs record

theorem unchanged (hroot : Rooted s) (hr : r ∈ s.networks) (hid : record.id = netID s r)
    (hen : record.enabled = (s.heap r).record.enabled) : limited.update s record := by
  intro x hx hxid he
  rw [hroot.eq_of_netID hx hr (hxid.trans hid),← hen]
  exact he

/-- The rows, the clients and the limit together. -/
def Limited (N : Nat) (s : State) : Prop := (Bound s ∧ Rooted s) ∧ Within N s

theorem limited_upholds (env : Env) (N : Nat) : Upholds env limited (fun _ => True) (Limited N) :=
  ((bound_observes env limited).upholds.and (rooted_upholds env limited)).and
    (within_observes env N fun _ hb => hb.2.2).upholds

variable {ctx : Ctx} (h : ¬ IgnoresLimit ctx.admin s.user.username words)
include h

/-- The flag is given in the words that the operation is read from. -/
theorem create_enforced (hnamed : Service.Named env ctx s words (.createNetwork record lim))
    (hall : (Op.createNetwork record lim).Allowed env ctx s) : lim = true := by
  obtain ⟨fs,addr,-,-,rfl,hadmin⟩ := hall
  obtain ⟨command,params,hnames,hof⟩ := hnamed
  cases command with
  | networkCreate =>
    obtain ⟨fs',addr',hparse,-,hop⟩ := hof
    injection hop with _ hlim
    rw [hlim]
    by_contra hig
    have hig : fs'.ignoreLimit = true := by simpa using hig
    refine h ⟨hadmin ?_,params,fs',hig,.inl ⟨hnames,hparse⟩⟩
    rwa [hig,Bool.not_inj_iff] at hlim
  | _ => simp [Op.Of,Service.Certifies] at hof

theorem update_enforced
    (hoff : (s.heap r).record.enabled = false) (hnamed : Service.Named env ctx s words (.updateNetwork r record lim))
    (hall : (Op.updateNetwork r record lim).Allowed env ctx s) : lim = true := by
  obtain ⟨-,fs,-,-,rfl,hadmin⟩ := hall
  obtain ⟨command,params,hnames,hof⟩ := hnamed
  cases command with
  | networkUpdate =>
    obtain ⟨fs',r',hparse,-,hop⟩ := hof
    injection hop with hr _ hlim
    subst hr
    rw [hoff,Bool.not_false,Bool.and_true,Bool.and_true,Bool.not_inj_iff] at hlim
    rw [hlim,hoff,Bool.not_false,Bool.and_true]
    by_contra hig
    have hig : fs'.ignoreLimit = true := by simpa using hig
    exact h ⟨hadmin (hlim.trans hig),params,fs',hig,.inr ⟨hnames,hparse⟩⟩
  | _ => simp [Op.Of,Service.Certifies] at hof

theorem service_within (hs : Limited N s) (h0 : 0 ≤ networkLimit env s.user) (hN : networkLimit env s.user ≤ N)
    (hctx : ctx.network.all (· ∈ s.networks) = true) :
    Lands (Within N) (Service.handleServiceCommand env ctx words) s := by
  refine handleServiceCommand_safe (fun t es ht => (within_indifferent N).blind.emit es ht) fun op es hnamed hall => ?_
  have hup := limited_upholds env N
  have hs' := hup.emit es trivial hs
  cases op with
  | createNetwork record lim =>
    rcases hnamed with ⟨m,hm⟩ | hnamed
    · cases hm
    · have hlim : lim = true := create_enforced h hnamed hall
      rw [hlim]
      exact discard_safe (createNetwork_within record hs'.2 h0 hN)
  | updateNetwork r record lim =>
    rcases hnamed with ⟨m,hm⟩ | hnamed
    · cases hm
    obtain ⟨hsel,fs,-,hrec,-⟩ := id hall
    have hr : r ∈ s.networks := selected_listed hsel hctx
    refine discard_safe (updateNetwork_within hs'.2 fun x hx hid _ => ?_)
    have hxr : x = r := hs.1.2.eq_of_netID hx hr (hid.trans (by rw [hrec]; rfl))
    rw [hxr]
    cases hen : (s.heap r).record.enabled with
    | true => exact .inl hen
    | false => exact .inr ⟨update_enforced h hen hnamed hall,h0,hN⟩
  | deleteNetwork id => exact (hup.delete id trivial hs').mono fun _ ht => ht.2
  | updateUser update =>
    exact (hup.user update trivial hs' (ownUpdate_sameUser hall _) fun _ _ => trivial).mono fun _ ht => ht.2
  | editSASL r edit => exact (hup.edit r trivial hs' (saslEdit_credentials hall.2) trivial).mono fun _ ht => ht.2
  | _ => exact (hup.minor ctx _ trivial hs' hctx hall trivial).mono fun _ ht => ht.2

end Requests

section Steps

theorem updateUser_maxNetworks
    (hs : s.user.maxNetworks = m) (h : ∀ user, update s.user = .ok user → user.maxNetworks = m) :
    Lands (fun t => t.user.maxNetworks = m) (updateUser env update) s := by
  refine updateUser_safe ⟨fun ht hm => ?_,fun ht hm => ?_⟩ (fun _ => id) hs h fun r _ t ht => ?_
  · rw [ht.user]
    exact hm
  · rw [ht.user]
    exact hm
  · refine (updateNetwork_user _ false t).mono fun u hu => ?_
    rw [hu]
    exact ht

section
variable (h0 : 0 ≤ networkLimit env s.user) (hN : networkLimit env s.user ≤ (N : Nat))
include h0 hN

theorem request_within (hs : Limited N s) (hdc : dc ∈ s.clients) (hopen : dc.closed = false) {id : Nat}
    (request : Request) (h : ¬ Unlimited s (.downstreamMessage id request)) :
    Lands (Within N) (request.handle env moment dc) s := by
  have hlisted : ∀ r, dc.network = some r → r ∈ s.networks := fun r hr => (hs.1.1.clients dc hdc r hr).2 hopen
  -- what neither creates a network nor enables one
  have hrest : limited.request env moment s dc request → Lands (Within N) (request.handle env moment dc) s := fun hg =>
    ((limited_upholds env N).request (fun _ ht => ht.1.1) limited_stable hs hdc hopen request hg).mono fun _ ht => ht.2
  cases request with
  | addNetwork subcommand attrs =>
    exact handleAddNetwork_safe subcommand attrs hs.2 fun record _ => createNetwork_within _ hs.2 h0 hN
  | changeNetwork subcommand id attrs =>
    refine hrest fun r hr record hrec => ?_
    obtain ⟨hid,hen⟩ := updateNetworkAttrs_entry hrec
    exact unchanged hs.1.2 hr hid hen
  | service words peerCertificate remoteIP =>
    have hctx : dc.network.all (· ∈ s.networks) = true := by
      cases hn : dc.network with
      | none => rfl
      | some r => exact decide_eq_true (hlisted r hn)
    have hservice ctx (hadmin : ctx.admin = s.user.admin) (hnet : ctx.network = dc.network) :
        Lands (Within N) (Service.handleServiceCommand env ctx words) s :=
      service_within (by rw [hadmin]; exact h) hs h0 hN (hnet ▸ hctx)
    refine Safe.get_bind ((hservice _ rfl rfl).tryCatch fun e _ => ?_)
    cases e with
    | panic text | blocked => exact Keeps.throw trivial
    | _ => exact Keeps.pure _
  | nick name =>
    refine hrest ?_
    rw [Guards.request]
    split <;> trivial
  | setname realname =>
    refine hrest fun _ => ?_
    split
    · rename_i r hr
      split
      · trivial
      · exact unchanged hs.1.2 (hlisted r hr) rfl rfl
    · trivial
  | authenticate credentials =>
    refine hrest fun _ c hc => ?_
    obtain ⟨r,hr,hconn⟩ := Option.bind_eq_some_iff.mp hc
    exact unchanged hs.1.2 (hs.1.1.conn_listed hdc hopen hr hconn) rfl rfl
  | identify username password => exact hrest fun _ _ => trivial
  | join names keys | part names reason | delNetwork subcommand id => exact hrest trivial

theorem welcome_within (hs : Rooted s ∧ Within N s) : Lands (Within N) (handleDownstreamConnected env moment dc) s := by
  refine handleDownstreamConnected_safe
    (fun t => (Rooted t ∧ Within N t) ∧ t.user.maxNetworks = s.user.maxNetworks) (fun _ => ⟨hs,rfl⟩) ?_
    (fun _ ht => ht.1.2) ?_
  · intro _ _
    refine ((hs.1.updateUser env (SameUser.of_ok rfl rfl)).and (updateUser_within env _ hs.1 hs.2)).and ?_
    exact updateUser_maxNetworks rfl fun user hu => by cases hu; rfl
  intro t ⟨ht,hmax⟩
  have hlimit : networkLimit env t.user = networkLimit env s.user := by
    unfold networkLimit
    rw [hmax]
  have hwelcome : Lands (fun t => Rooted t ∧ Within N t) (welcome env moment dc) t := by
    refine welcome_safe (fun _ t => Rooted t ∧ Within N t) ?_ ht (fun _ _ => ht) ?_ ?_ (fun _ _ => id) ?_ ?_
    · exact fun u hu => ⟨ht.1.refused hu,(within_indifferent N).rows (Refused.rowsOnly hu) ht.2⟩
    · intro record r u _ hc
      have hroot := Rooted.createNetwork env record true t ht.1
      have hwithin := createNetwork_within record ht.2 (hlimit ▸ h0) (hlimit ▸ hN)
      simp only [Safe,hc] at hroot hwithin
      exact ⟨hroot,hwithin⟩
    · exact fun n u answers dbFailed hu => ⟨hu.1.same rfl,hu.2⟩
    · exact fun n u hu => ⟨hu.1.same rfl,hu.2⟩
    · exact bump_stays _ fun u hu => (hu.1.updateUser env (SameUser.of_ok rfl rfl)).and (updateUser_within env _ hu.1 hu.2)
  exact hwelcome.mono fun _ hu => hu.2

theorem handle_within (hs : Limited N s)
    (e : UserEvent) (hp : e.Possible s) (h : ¬ Unlimited s e) : Lands (Within N) (e.handle env moment) s := by
  have hrest : limited.event env moment s e → Lands (Within N) (e.handle env moment) s := fun hg =>
    ((limited_upholds env N).handle (fun _ ht => ht.1.1) limited_stable hs e hp hg).mono fun _ ht => ht.2
  cases e with
  | downstreamConnected dc => exact welcome_within h0 hN ⟨hs.1.2,hs.2⟩
  | downstreamMessage id request =>
    exact handleDownstreamMessage_safe hs.2 (fun _ ht => ht) fun dc hdc _ hopen =>
      request_within h0 hN hs hdc hopen request h
  | userRun params asUser =>
    have hservice ctx (hadmin : ctx.admin = (!asUser || s.user.admin)) (hnet : ctx.network = none) :
        Lands (Within N) (Service.handleServiceCommand env ctx params) s :=
      service_within (by rw [hadmin]; exact h) hs h0 hN (by rw [hnet]; rfl)
    exact Safe.get_bind (hservice _ rfl rfl)
  | _ => exact hrest trivial

end

/-- No event but a command with `-ignore-limit` brings the number of enabled networks over the limit. -/
theorem enabled_within_limit (env : Env) {user : Database.User} {db : DB} {answers : List Answer} {others : List Other}
    (huser : user ∈ db.users.rows) (hothers : ∀ o ∈ others, o.record.id ≠ user.id) {events : List (Nat × UserEvent)}
    (hrun : run (Incoming.step env) (State.load user db answers others) events = some s) {e : Nat × UserEvent}
    (h0 : 0 ≤ networkLimit env s.user) (he : ¬ Unlimited s e.2) (ht : Incoming.step env s e = some t) :
    (t.enabledNetworks : Int) ≤ max (networkLimit env s.user) s.enabledNetworks := by
  obtain ⟨hb,hr⟩ := run_sound (load_bound user db answers others) (load_rooted answers huser hothers) hrun
  have hstart : Limited (max (networkLimit env s.user).toNat s.enabledNetworks) s := ⟨⟨hb,hr⟩,Nat.le_max_right _ _⟩
  have hwithin : Within (max (networkLimit env s.user).toNat s.enabledNetworks) t :=
    step_safe ht fun hp => handle_within h0 (by omega) hstart e.2 hp he
  unfold Within at hwithin
  omega

end Steps

section Sample

/-- A user who may have one network. -/
def ann : Database.User := { Database.newUser "ann" with id := 1, maxNetworks := 1 }

def annDB : DB where
  users := .single ann (by decide)
  networks := .empty
  channels := .empty
  ignores := .empty
  certs := .empty

def creates (addr : String) : Nat × UserEvent := (0,.userRun ["network","create","-addr",addr] true)

theorem enabled_within_limit_ann :
    ∃ s t, run (Incoming.step Env.sample) (State.load ann annDB [⟨none,1⟩] []) [creates "irc.example.org"] = some s ∧
      s.enabledNetworks = 1 ∧ networkLimit Env.sample s.user = 1 ∧
      Incoming.step Env.sample s (creates "irc.example.com") = some t ∧
      (t.enabledNetworks : Int) ≤ max (networkLimit Env.sample s.user) s.enabledNetworks := by
  have hdecide : ((run (Incoming.step Env.sample) (State.load ann annDB [⟨none,1⟩] []) [creates "irc.example.org"]).any
      fun s => s.enabledNetworks = 1 && networkLimit Env.sample s.user = 1 && !s.user.admin &&
        (Incoming.step Env.sample s (creates "irc.example.com")).isSome) = true := by decide
  obtain ⟨s,hs,hall⟩ := (Option.any_eq_true _ _).mp hdecide
  simp only [Bool.and_eq_true,decide_eq_true_eq,Bool.not_eq_true'] at hall
  obtain ⟨⟨⟨hone,hlimit⟩,hadmin⟩,hsome⟩ := hall
  obtain ⟨t,ht⟩ := Option.isSome_iff_exists.mp hsome
  have hplain : ¬ Unlimited s (creates "irc.example.com").2 := fun h => absurd h.1 (by simp [hadmin])
  refine ⟨s,t,hs,hone,hlimit,ht,?_⟩
  exact enabled_within_limit Env.sample (mem_singleton.mpr rfl) (fun o ho => absurd ho not_mem_nil) hs
    (by rw [hlimit]; decide) hplain ht

end Sample

end Sake.Proofs.NetworkLimit
