import Sake.Proofs.Clients
import Sake.Proofs.NetworkRows

namespace Sake.Proofs.Steps
open Lib Lib.Handler Networks Goroutine Registered Sake.Incoming UserNetworks ServiceOps Incoming NetworkRows List
open Sake.Service (Op Ctx)

variable {s t : State} {id : Int}

/-- The id of a network object. -/
def netID (s : State) (r : Nat) : Int := (s.heap r).record.id

/-- The user and every network in use have rows in the database, and networks have ids of their own. -/
structure Rooted (s : State) : Prop where
  user : ∃ row ∈ s.db.users.rows, row.id = s.user.id
  others : ∀ o ∈ s.others, o.record.id ≠ s.user.id
  ids : (s.networks.map (netID s)).Nodup
  rows : ∀ r ∈ s.networks, ∃ row ∈ s.db.networks.rows, row.net.id = netID s r ∧ row.user = s.user.id

namespace Rooted
variable {r x : Nat}

/-- What the tables have for the user and the networks that stay is there, maybe with other contents. -/
structure Keeps (s t : State) : Prop where
  users : ∀ row ∈ s.db.users.rows, row.id = s.user.id → ∃ row' ∈ t.db.users.rows, row'.id = row.id
  rows : ∀ x ∈ t.networks, ∀ row ∈ s.db.networks.rows, row.net.id = netID s x → row.user = s.user.id →
    ∃ row' ∈ t.db.networks.rows, row'.net.id = row.net.id ∧ row'.user = row.user

theorem Keeps.of_eq (husers : t.db.users = s.db.users) (hnets : t.db.networks = s.db.networks) : Keeps s t :=
  ⟨fun row hrow _ => ⟨row,husers ▸ hrow,rfl⟩,fun _ _ row hrow _ _ => ⟨row,hnets ▸ hrow,rfl,rfl⟩⟩

theorem Keeps.of_storeNetwork (h : s.db.storeNetwork newID userID net = .ok (t.db,id)) : Keeps s t := by
  have husers : t.db.users = s.db.users := congrArg (fun db => db.users) (storeNetwork_ok h).1
  exact ⟨fun row hrow _ => ⟨row,husers ▸ hrow,rfl⟩,fun _ _ _ hrow _ _ => storeNetwork_row h hrow⟩

theorem keep (h : Rooted s) (hk : Keeps s t) (huser : t.user.id = s.user.id)
    (hothers : ∀ o ∈ t.others, o.record.id ≠ s.user.id) (hnets : t.networks.Sublist s.networks)
    (hids : ∀ r ∈ t.networks, netID t r = netID s r) : Rooted t where
  user := by
    obtain ⟨row,hrow,hid⟩ := h.user
    obtain ⟨row',hrow',hid'⟩ := hk.users row hrow hid
    exact ⟨row',hrow',hid'.trans (hid.trans huser.symm)⟩
  others o ho := huser ▸ hothers o ho
  ids := by
    rw [map_congr_left hids]
    exact (hnets.map _).nodup h.ids
  rows r hr := by
    obtain ⟨row,hrow,hid,hu⟩ := h.rows r (hnets.subset hr)
    obtain ⟨row',hrow',hid',hu'⟩ := hk.rows r hr row hrow hid hu
    exact ⟨row',hrow',hid'.trans (hid.trans (hids r hr).symm),hu'.trans (hu.trans huser.symm)⟩

/-- The user, the others and the networks in use stay, and the tables keep what they have. -/
theorem kept (h : Rooted s) (hk : Keeps s t) (huser : t.user = s.user) (hothers : t.others = s.others)
    (hnets : t.networks = s.networks) (hids : ∀ r, netID t r = netID s r) : Rooted t :=
  h.keep hk (by rw [huser]) (by rw [hothers]; exact h.others) (hnets ▸ List.Sublist.refl _) fun r _ => hids r

/-- What `Rooted` is about. -/
def view (s : State) := (s.db,s.user,s.others,s.networks,netID s)

theorem same (h : Rooted s) (heq : view t = view s) : Rooted t := by
  simp only [view,Prod.mk.injEq] at heq
  obtain ⟨hdb,huser,hothers,hnets,hids⟩ := heq
  exact h.kept (Keeps.of_eq (by rw [hdb]) (by rw [hdb])) huser hothers hnets (congrFun hids)

theorem blind : ChannelBlind Rooted where
  channels {r s t} ho h := by
    refine h.kept (Keeps.of_eq ho.userRows ho.networkRows) ho.user ho.others ho.networks fun x => ?_
    exact congrArg (fun record => record.id) (ho.record x)
  emit es h := h.same rfl

theorem refused (h : Rooted s) (ht : Refused s t) : Rooted t := by
  rcases ht with rfl | ⟨answers,rfl⟩
  · exact h
  · exact h.same rfl

theorem eq_of_netID (h : Rooted s) (hx : x ∈ s.networks) (hy : y ∈ s.networks)
    (hid : netID s x = netID s y) : x = y :=
  inj_on_of_nodup_map h.ids hx hy hid

theorem nodup (h : Rooted s) : s.networks.Nodup := h.ids.of_map

theorem addNetwork_netID (s : State) (net : Net) (hx : x ∈ s.networks) : netID (s.addNetwork net) x = netID s x := by
  unfold netID
  rw [addNetwork_of_ne s net (Nat.ne_of_lt (s.fresh x hx))]

theorem addNetwork (h : Rooted s) (hnew : ∀ r ∈ s.networks, netID s r ≠ net.record.id)
    (hrow : ∃ row ∈ s.db.networks.rows, row.net.id = net.record.id ∧ row.user = s.user.id) :
    Rooted (s.addNetwork net) where
  user := h.user
  others := h.others
  ids := by
    refine ((perm_insertionSort _ _).map _).nodup_iff.mpr ?_
    have hself : netID (s.addNetwork net) s.next = net.record.id := by
      unfold netID
      rw [addNetwork_self]
    rw [map_append,map_singleton,hself,map_congr_left fun x hx => addNetwork_netID s net hx]
    refine nodup_append.mpr ⟨h.ids,nodup_singleton _,?_⟩
    intro a ha b hb
    obtain ⟨r,hr,rfl⟩ := mem_map.mp ha
    rw [mem_singleton.mp hb]
    exact hnew r hr
  rows r hr := by
    rcases (mem_addNetwork s net).mp hr with hr | rfl
    · rw [addNetwork_netID s net hr]
      exact h.rows r hr
    · unfold netID
      rw [addNetwork_self]
      exact hrow

theorem replaceNetwork (h : Rooted s) (env : Env) (hr : r ∈ s.networks)
    (hid : record.id = netID s r) : Rooted (s.replaceNetwork env r record) := by
  set t := (s.disconnect r).removeNetwork r
  have hnetID x : netID t x = netID s x :=
    congrArg (fun record => record.id) (record_of_kept ((removeNetwork_kept _ r x).trans (disconnect_kept s r x)))
  have hrest : Rooted t := h.keep (Keeps.of_eq rfl rfl) rfl h.others erase_sublist fun x _ => hnetID x
  -- The other networks have other ids, and the row of the one that goes is that of the new one.
  have hadd : Rooted (t.addNetwork (s.copiedNet r record)) := hrest.addNetwork (fun x hx heq => ?_) ?_
  · exact hadd.same rfl
  · have hmem := h.nodup.mem_erase_iff.mp (hx : x ∈ s.networks.erase r)
    exact hmem.1 (h.eq_of_netID hmem.2 hr ((hnetID x).symm.trans (heq.trans hid)))
  · obtain ⟨row,hrow,hrid,hu⟩ := h.rows r hr
    exact ⟨row,hrow,hrid.trans hid.symm,hu⟩

theorem getNetworkByID_netID (h : s.getNetworkByID id = some r) : r ∈ s.networks ∧ netID s r = id :=
  ⟨mem_of_find?_eq_some h,by simpa [netID] using List.find?_some h⟩

theorem updateNetwork (env : Env) (record : Network) (lim : Bool) : Stays Rooted (updateNetwork env record lim) := by
  intro s h
  rcases updateNetwork_cases env record lim s with ⟨e,t,he,ht⟩ | ⟨r,newID,answers,db,id,-,-,hr,-,hdb,hok⟩
  · exact safe_of_error he (h.refused ht)
  obtain ⟨hmem,hid⟩ := getNetworkByID_netID hr
  have hstored : Rooted { s with answers, db } := h.kept (Keeps.of_storeNetwork hdb) rfl rfl rfl fun _ => rfl
  exact safe_of_ok hok (hstored.replaceNetwork env hmem hid.symm)

theorem createNetwork (env : Env) (record : Network) (lim : Bool) : Stays Rooted (createNetwork env record lim) := by
  intro s h
  rcases createNetwork_cases env record lim s with ⟨e,t,he,ht⟩ | ⟨newID,answers,db,id,hzero,-,-,hdb,hok⟩
  · exact safe_of_error he (h.refused ht)
  have hstored : Rooted { s with answers, db } := h.kept (Keeps.of_storeNetwork hdb) rfl rfl rfl fun _ => rfl
  have hadd : Rooted (({ s with answers, db } : State).addNetwork (newNet { record with id } [] [])) :=
    hstored.addNetwork ?_ ?_
  · exact safe_of_ok hok (hadd.same rfl)
  · rcases (storeNetwork_ok hdb).2 with ⟨-,rfl,hnew,-⟩ | ⟨hne,-⟩
    · intro r hr heq
      obtain ⟨row,hrow,hid,-⟩ := h.rows r hr
      exact hnew.2 row hrow (hid.trans heq)
    · exact absurd hzero hne
  · rcases (storeNetwork_ok hdb).2 with ⟨-,rfl,-,hrows⟩ | ⟨hne,-⟩
    · exact ⟨_,hrows ▸ mem_append_right _ (mem_singleton.mpr rfl),rfl,rfl⟩
    · exact absurd hzero hne

theorem deleteNetwork (id : Int) : Stays Rooted (deleteNetwork id) := by
  intro s h
  rcases deleteNetwork_cases id s with ⟨e,t,he,ht⟩ | ⟨r,answers,db,hr,hdb,hok⟩
  · exact safe_of_error he (h.refused ht)
  obtain ⟨hmem,hid⟩ := getNetworkByID_netID hr
  obtain ⟨rfl,-⟩ := deleteNetwork_ok hdb
  refine safe_of_ok hok (h.keep ⟨fun row hrow _ => ⟨row,hrow,rfl⟩,fun x hx row hrow hrid _ => ?_⟩ rfl h.others
    erase_sublist fun x _ => congrArg (fun record => record.id) (record_of_kept (removeNetwork_kept _ r x)))
  have hxr := h.nodup.mem_erase_iff.mp (hx : x ∈ s.networks.erase r)
  refine ⟨row,?_,rfl,rfl⟩
  refine Table.mem_delete.mpr ⟨hrow,decide_eq_false fun heq => hxr.1 (h.eq_of_netID hxr.2 hmem ?_)⟩
  exact hrid.symm.trans (heq.trans hid.symm)

end Rooted

/-- The rows of the user and of their networks are left as they are. -/
structure Beside (s t : State) : Prop where
  rowsOnly : RowsOnly s t
  users : ∀ row ∈ s.db.users.rows, row.id = s.user.id → row ∈ t.db.users.rows
  others : ∀ o ∈ t.others, o.record.id ≠ s.user.id
  networks : ∀ row : NetworkRow, row.user = s.user.id → (row ∈ t.db.networks.rows ↔ row ∈ s.db.networks.rows)
  channels : ∀ net ∈ s.db.networks.rows, net.user = s.user.id → ∀ row : ChannelRow, row.network = net.net.id →
    (row ∈ t.db.channels.rows ↔ row ∈ s.db.channels.rows)

namespace Beside

theorem refl (h : Rooted s) : Beside s s where
  rowsOnly := RowsOnly.refl s
  users _ hrow _ := hrow
  others := h.others
  networks _ _ := Iff.rfl
  channels _ _ _ _ _ := Iff.rfl

theorem rooted (h : Beside s t) (hs : Rooted s) : Rooted t := by
  refine hs.keep ⟨fun row hrow hid => ⟨row,h.users row hrow hid,rfl⟩,fun _ _ row hrow _ hu => ?_⟩
    (by rw [h.rowsOnly.user]) h.others (h.rowsOnly.networks ▸ List.Sublist.refl _) fun r _ => ?_
  · exact ⟨row,(h.networks row hu).mpr hrow,rfl,rfl⟩
  · unfold netID
    rw [h.rowsOnly.heap]

theorem call {f : Int → DB → Except String (DB × α)} (hf : ∀ newID db db' a, f newID db = .ok (db',a) →
      db'.users = db.users ∧ db'.networks = db.networks ∧ db'.channels = db.channels) : Stays (Beside s) (call f) := by
  intro t h
  have hrows := h.rowsOnly
  rcases call_cases f t with ⟨e,answers,he⟩ | ⟨newID,answers,db,a,hdb,hok⟩
  · exact safe_of_error he ⟨{ hrows with },h.users,h.others,h.networks,h.channels⟩
  obtain ⟨husers,hnets,hchans⟩ := hf newID t.db db a hdb
  refine safe_of_ok hok ⟨{ hrows with },?_,h.others,?_,?_⟩
  · rw [husers]
    exact h.users
  · rw [hnets]
    exact h.networks
  · rw [hchans]
    exact h.channels

theorem storeDeviceCertificate (env : Env) (cert : Downstream.DeviceCertificate) :
    Stays (Beside s) (Service.storeDeviceCertificate env cert) := by
  refine Keeps.get_bind fun t _ => call fun newID db db' a h => ?_
  split at h
  · cases h
    exact ⟨rfl,rfl,rfl⟩
  · cases h
  · cases h

theorem deleteMatching (given : String) (hash : List UInt8) : Stays (Beside s) (Service.deleteMatching given hash) := by
  refine Keeps.bind (wrap_keeps (Keeps.get_bind fun _ _ => call ?_) _) fun certs => ?_
  · intro newID db db' a h
    cases h
    exact ⟨rfl,rfl,rfl⟩
  refine Keeps.bind ?_ fun fingerprint => wrap_keeps (Keeps.get_bind fun _ _ => call ?_) _
  · cases Service.findCertificate certs given hash with
    | ok a => exact Keeps.pure _
    | error e => exact Keeps.throw trivial
  · intro newID db db' a h
    cases h
    exact ⟨rfl,rfl,rfl⟩

theorem mapOthers (h : Beside s t) (hf : ∀ o, (f o).record = o.record) :
    Beside s { t with others := t.others.map f } := by
  have hrows := h.rowsOnly
  refine ⟨{ hrows with },h.users,fun o ho => ?_,h.networks,h.channels⟩
  obtain ⟨o',ho',rfl⟩ := mem_map.mp ho
  rw [hf]
  exact h.others o' ho'

theorem post (h : Beside s t) (username : String) (event : Event) :
    Lands (Beside s) (Service.post username event) t := by
  refine h.mapOthers fun o => ?_
  split <;> rfl

theorem createUser (h : Rooted s) (hid : record.id = 0) : Lands (Beside s) (Service.createUser record) s := by
  refine Safe.get_bind ?_
  rcases check_cases (Service.failIf_checks _ _) with ⟨e,he⟩ | ⟨-,heq⟩
  · exact safe_of_error he (refl h)
  rw [Safe,heq]
  have hb := refl h
  rcases call_cases (fun newID db => db.storeUser newID record) s with
    ⟨e,answers,he⟩ | ⟨newID,answers,db,id,hdb,hok⟩
  · refine safe_of_error (bind_error (wrap_error he _) _) ⟨⟨rfl,rfl,rfl,rfl,rfl,rfl⟩,hb.users,hb.others,hb.networks,hb.channels⟩
  obtain ⟨htables,⟨-,rfl,hnew,hrows⟩ | ⟨hne,-⟩⟩ := storeUser_ok hdb
  · have hnets : db.networks = s.db.networks := congrArg (fun db => db.networks) htables
    have hchans : db.channels = s.db.channels := congrArg (fun db => db.channels) htables
    refine safe_of_ok (bind_ok (wrap_ok hok _) _) ⟨⟨rfl,rfl,rfl,rfl,rfl,rfl⟩,?_,?_,?_,?_⟩
    · exact fun row hrow _ => hrows ▸ mem_append_left _ hrow
    · intro o ho
      rcases mem_append.mp ho with ho | ho
      · exact h.others o ho
      · rw [mem_singleton.mp ho]
        obtain ⟨row,hrow,hrid⟩ := h.user
        exact fun heq => hnew.2 row hrow (hrid.trans heq.symm)
    · rw [hnets]
      exact hb.networks
    · rw [hchans]
      exact hb.channels
  · exact absurd hid hne

/-- The rows of another user are deleted: none of them is one of the user's own. -/
theorem deleteUserRows (h : Beside s t) (hdb : t.db = s.db) (hid : id ≠ s.user.id) :
    Lands (Beside s) (Service.deleteUserRows id) t := by
  have hrows := h.rowsOnly
  rcases call_cases (fun _ db =>
      if db.ignores.rows.any fun r => (db.listNetworks id |>.map fun net => net.id).contains r.network then
        .error foreignKeyFailed
      else .ok ({ db with
        users := db.users.delete fun r => r.id = id
        networks := db.networks.delete fun r => r.user = id
        channels := db.channels.delete fun r => (db.listNetworks id |>.map fun net => net.id).contains r.network
        certs := db.certs.delete fun r => r.user = id },())) t with
    ⟨e,answers,he⟩ | ⟨newID,answers,db,a,hf,hok⟩
  · exact safe_of_error he ⟨{ hrows with },h.users,h.others,h.networks,h.channels⟩
  split at hf
  · cases hf
  cases hf
  refine safe_of_ok hok ⟨{ hrows with },?_,h.others,?_,?_⟩
  · intro row hrow hown
    exact Table.mem_delete.mpr ⟨h.users row hrow hown,decide_eq_false fun heq => hid (heq.symm.trans hown)⟩
  · intro row hown
    rw [Table.mem_delete,h.networks row hown]
    exact and_iff_left (decide_eq_false fun heq => hid (heq.symm.trans hown))
  intro net hnet hown row hrow
  rw [Table.mem_delete,h.channels net hnet hown row hrow]
  refine and_iff_left (Bool.eq_false_iff.mpr fun hc => ?_)
  obtain ⟨record,hrec,hrid⟩ := mem_map.mp (contains_iff_mem.mp hc)
  obtain ⟨net',hnet',rfl⟩ := mem_map.mp hrec
  obtain ⟨hmem,huser⟩ := mem_filter.mp hnet'
  rw [hdb] at hmem
  rw [s.db.networks.eq_of_id hmem hnet (hrid.trans hrow)] at huser
  exact hid ((of_decide_eq_true huser).symm.trans hown)

theorem deleteOtherUser (h : Rooted s) (username : String) : Lands (Beside s) (Service.deleteOtherUser username) s := by
  refine Safe.get_bind ?_
  split
  · exact Keeps.throw trivial s (refl h)
  rename_i u hu
  have hid := h.others u (mem_of_find?_eq_some hu)
  have hposted : Beside s { s with others := s.others.map fun u =>
      if u.record.username = username then { u with events := u.events ++ [.stop] } else u } := by
    refine (refl h).mapOthers fun o => ?_
    split <;> rfl
  refine Safe.modify_bind (((deleteUserRows hposted rfl hid).tryCatch fun e _ => ?_).bind fun _ => ?_)
  · cases e with
    | error text => exact Keeps.throw trivial
    | _ => exact Keeps.throw trivial
  · refine Keeps.bind (Keeps.modify fun t ht => ?_) fun _ => Keeps.modify fun t ht => ?_
    · have hrows := ht.rowsOnly
      exact ⟨{ hrows with },ht.users,fun o ho => ht.others o (mem_filter.mp ho).1,ht.networks,ht.channels⟩
    · have hrows := ht.rowsOnly
      exact ⟨{ hrows with },ht.users,ht.others,ht.networks,ht.channels⟩

end Beside

/-- The operations of the service on channels and ignored masks. -/
def OnChannels : Op → Prop
  | .createChannel _ _ | .updateChannel _ _ _ _ | .deleteChannel _ _ | .addIgnore _ _ | .deleteIgnore _ _ => True
  | _ => False

theorem minor_beside (h : Rooted s) (hall : op.Allowed env ctx s)
    (hm : Minor op) (hch : ¬ OnChannels op) : Lands (Beside s) (op.exec env ctx) s := by
  have hb := Beside.refl h
  have hrows := hb.rowsOnly
  cases op with
  | look m =>
    refine look_safe hall ?_
    rintro t ⟨es,answers,dbFailed,-,-,rfl⟩
    exact ⟨{ hrows with },hb.users,hb.others,hb.networks,hb.channels⟩
  | storeCertificate cert => exact Beside.storeDeviceCertificate env cert s hb
  | deleteCertificate given hash => exact Beside.deleteMatching given hash s hb
  | createUser record => exact Beside.createUser h hall.2
  | post username event => exact hb.post username event
  | deleteUser username => exact Beside.deleteOtherUser h username
  | notice msg => exact hb.mapOthers fun _ => rfl
  | debug enabled => exact ⟨{ hrows with },hb.users,hb.others,hb.networks,hb.channels⟩
  | createNetwork | updateNetwork | deleteNetwork | updateUser | editSASL => exact hm.elim
  | createChannel | updateChannel | deleteChannel | addIgnore | deleteIgnore => exact absurd trivial hch

theorem minor_channels (h : ChannelBlind inv) (hs : inv s) (hch : OnChannels op) : Lands inv (op.exec env ctx) s := by
  cases op with
  | createChannel r ch => exact h.only hs (addChannel_only ch)
  | updateChannel r name fs ch => exact h.only hs (updateChannel_only env ctx name fs ch)
  | deleteChannel r name => exact h.only hs (deleteChannel_only name)
  | addIgnore r ignore => exact h.only hs (addIgnore_only ignore)
  | deleteIgnore r mask => exact h.only hs (deleteIgnore_only env mask)
  | _ => exact hch.elim

namespace Rooted

theorem setNet (h : Rooted s) (r : Nat) (hf : ∀ net, (f net).record.id = net.record.id) : Rooted (s.setNet r f) := by
  refine h.kept (Keeps.of_eq rfl rfl) rfl rfl rfl fun x => ?_
  unfold netID
  by_cases hx : x = r
  · rw [hx,setNet_self,hf]
  · rw [setNet_of_ne s r f hx]

theorem mapClients (h : Rooted s) (f : Client → Client) : Rooted (s.mapClients f) := h.same rfl

theorem updateUser (env : Env) {update : UserUpdate} (h : Rooted s)
    (hsame : SameUser s.user update) : Lands Rooted (updateUser env update) s := by
  rcases updateUser_cases env update s with ⟨e,t,he,ht⟩ | ⟨user,newID,answers,db,id,hu,hdb,hrest⟩
  · exact safe_of_error he (h.refused ht)
  refine hrest Rooted ⟨fun _ => blind.emit,fun t ht => ht.mapClients _,fun record _ => updateNetwork env record false⟩ ?_
  have hnets : db.networks = s.db.networks := congrArg (fun db => db.networks) (storeUser_ok hdb).1
  refine h.keep ⟨fun row hrow _ => ?_,fun _ _ row hrow _ _ => ⟨row,hnets ▸ hrow,rfl,rfl⟩⟩ (hsame user hu).1 h.others
    (List.Sublist.refl _) fun _ _ => rfl
  obtain ⟨row',hrow',hid,-⟩ := storeUser_row hdb hrow
  exact ⟨row',hrow',hid⟩

theorem mutateNetwork (h : Rooted s) (r : Nat) {f : Network → Network} (hf : ∀ record, (f record).id = record.id) :
    Lands Rooted (mutateNetwork r f) s := by
  have hset : Rooted (s.setRecord r f) := h.setNet r fun net => hf net.record
  rcases mutateNetwork_cases r f s with ⟨e,answers,he⟩ | ⟨newID,answers,db,id,hdb,hok⟩
  · exact safe_of_error he (hset.same rfl)
  · exact safe_of_ok hok (hset.kept (Keeps.of_storeNetwork hdb) rfl rfl rfl fun _ => rfl)

end Rooted

theorem rooted_upholds (env : Env) (g : Guards) : Upholds env g base Rooted where
  refused _ h ht := h.refused ht
  emit es _ h := Rooted.blind.emit es h
  quiet _ h _ := h.mapClients _
  unbound _ h := h.mapClients _
  drop p _ h := h.same rfl
  create {s} record lim _ h _ := Rooted.createNetwork env record lim s h
  update {s} record lim _ h _ := Rooted.updateNetwork env record lim s h
  delete {s} id _ h := Rooted.deleteNetwork id s h
  user update _ h hsame _ := h.updateUser env hsame
  edit r _ _ h hf _ := h.mutateNetwork r fun record => by
    obtain ⟨sasl,hsasl⟩ := hf record
    rw [hsasl]
  nick {s dc r nick} newID answers db id _ h _ _ _ _ _ hdb := by
    have hstored : Rooted { s with answers, db } := h.kept (Rooted.Keeps.of_storeNetwork hdb) rfl rfl rfl fun _ => rfl
    have hset := hstored.setNet r (f := fun net => { net with record := { net.record with nick } }) fun _ => rfl
    unfold announceNick
    split
    · exact Rooted.blind.emit _ hset
    · exact hset.mapClients _
  stored {s r record} newID answers db id _ h _ _ hdb :=
    h.kept (Rooted.Keeps.of_storeNetwork hdb) rfl rfl rfl fun _ => rfl
  minor {s} ctx op _ h _ hall hm := by
    by_cases hch : OnChannels op
    · exact minor_channels Rooted.blind h hch
    · exact (minor_beside h hall hm hch).mono fun _ ht => ht.rooted h
  join {s} c name key _ h _ := joinOne_blind Rooted.blind c name key s h
  part {s} moment c reason name _ h _ := partOne_blind Rooted.blind c reason name s h
  channelDetach {s} moment c name _ h _ := withChannel_keeps (autoDetach_blind Rooted.blind name) c name s h
  channelAttach {s} c name _ h _ := withChannel_keeps (autoAttach_blind Rooted.blind name) c name s h
  connect {s c conn} _ h _ _ := by
    have hset := h.setNet conn.network (f := fun net => { net with conn := some c }) fun _ => rfl
    have hclear := hset.setNet conn.network (f := fun net => { net with lastError := none }) fun _ => rfl
    exact hclear.same rfl
  disconnected c _ h := (h.setNet _ (f := fun net => { net with conn := none }) fun _ => rfl).mapClients _
  connectionError {s r err} _ h _ :=
    (h.setNet r (f := fun net => { net with lastError := some err }) fun _ => rfl).mapClients _
  upstreamError {s c err} _ h _ :=
    (h.setNet _ (f := fun net => { net with lastError := some err }) fun _ => rfl).mapClients _
  connNick c nick _ h := h.same rfl
  conn c f _ h _ := h.same rfl
  casemapping {s r cm} _ h _ := h.setNet r fun _ => rfl
  welcome {s dc} moment _ h hp _ := by
    refine handleDownstreamConnected_safe Rooted (fun _ => h) ?_ (fun _ => id) ?_
    · exact fun _ _ => h.updateUser env (SameUser.of_ok rfl rfl)
    intro t ht
    refine welcome_safe (fun _ => Rooted) (fun _ => ht.refused) ht (fun _ _ => ht) ?_ ?_ (fun _ _ => id) ?_ ?_
    · intro record r u _ hc
      have hcreate := Rooted.createNetwork env record true t ht
      rw [Safe,hc] at hcreate
      exact hcreate
    · exact fun n u answers dbFailed hu => hu.same rfl
    · exact fun n u hu => hu.same rfl
    · exact bump_stays _ fun u hu => hu.updateUser env (SameUser.of_ok rfl rfl)

/-- Every state of a run has clients and rows as they should be. -/
theorem run_sound (hb : Bound s) (hr : Rooted s)
    (hrun : Lib.Runs.run (Sake.Incoming.step env) s events = some t) : Bound t ∧ Rooted t := by
  have hup : Upholds env .free (fun _ => True) fun t => Bound t ∧ Rooted t :=
    (bound_observes env .free).upholds.and (rooted_upholds env .free)
  induction events generalizing s with
  | nil =>
    cases hrun
    exact ⟨hb,hr⟩
  | cons e events ih =>
    obtain ⟨u,hu,hrest⟩ := Option.bind_eq_some_iff.mp hrun
    obtain ⟨hbu,hru⟩ := hup.step (fun _ ht => ht.1) Guards.free_stable ⟨hb,hr⟩ (Guards.free_event env e.1 s e.2) hu
    exact ih hbu hru hrest

theorem map_range_getD (xs : List α) (d : α) (f : α → β) :
    ((List.range xs.length).map fun i => f (xs.getD i d)) = xs.map f := by
  refine ext_getElem (by simp) fun i hi hi' => ?_
  simp only [length_map] at hi'
  simp [List.getElem?_eq_getElem hi']

theorem loadedNets_ids (user : Database.User) (db : DB) :
    ((loadedNets user db).map fun net => net.record.id).Perm ((db.listNetworks user.id).map fun net => net.id) := by
  unfold loadedNets
  rw [map_map]
  exact (perm_insertionSort _ _).map _

theorem listNetworks_nodup (db : DB) (id : Int) : ((db.listNetworks id).map fun net => net.id).Nodup := by
  unfold DB.listNetworks
  rw [map_map]
  exact ((filter_sublist).map _).nodup db.networks.nodup

theorem load_rooted (answers : List Answer)
    (huser : user ∈ db.users.rows) (hothers : ∀ o ∈ others, o.record.id ≠ user.id) :
    Rooted (State.load user db answers others) where
  user := ⟨user,huser,rfl⟩
  others := hothers
  ids := by
    have hmap := map_range_getD (loadedNets user db) (newNet (newNetwork "") [] []) fun net => net.record.id
    refine (congrArg List.Nodup (hmap : _ = _)).mpr ?_
    exact (loadedNets_ids user db).nodup_iff.mpr (listNetworks_nodup db user.id)
  rows r hr := by
    have hlt : r < (loadedNets user db).length := mem_range.mp hr
    have hget : (State.load user db answers others).heap r = (loadedNets user db)[r] := by
      change (loadedNets user db).getD r _ = _
      rw [getD_eq_getElem?_getD,List.getElem?_eq_getElem hlt,Option.getD_some]
    have hmem : netID (State.load user db answers others) r ∈ (loadedNets user db).map fun net => net.record.id := by
      unfold netID
      rw [hget]
      exact mem_map_of_mem (getElem_mem hlt)
    obtain ⟨record,hrec,hid⟩ := mem_map.mp ((loadedNets_ids user db).mem_iff.mp hmem)
    obtain ⟨row,hrow,rfl⟩ := mem_map.mp hrec
    obtain ⟨hrow,hu⟩ := mem_filter.mp hrow
    exact ⟨row,hrow,hid,of_decide_eq_true hu⟩

end Sake.Proofs.Steps
