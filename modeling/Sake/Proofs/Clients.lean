import Sake.Proofs.Steps

namespace Sake.Proofs.Steps
open Lib.Handler Networks Goroutine Registered Sake.Incoming UserNetworks ServiceOps Incoming List Function State

variable {s : State} {r : Nat}

section Objects
variable (env : Env) (s : State) (r : Nat)

/-- Every connection that a network refers to was made for it. -/
def Matched (s : State) : Prop := ∀ x c, (s.heap x).conn = some c → (s.conns c).network = x

theorem disconnect_conn (h : Matched s) (x : Nat) :
    ((s.disconnect r).heap x).conn = if x = r then none else (s.heap x).conn := by
  unfold disconnect
  cases hc : (s.heap r).conn with
  | none =>
    dsimp only [Option.elim]
    split
    · rename_i hx
      rw [hx,hc]
    · rfl
  | some c =>
    have hnet := h r c hc
    dsimp only [Option.elim,handleUpstreamDisconnected]
    rw [hnet]
    by_cases hx : x = r
    · rw [if_pos hx,hx]
      exact congrArg Net.conn (setNet_self s r fun net => { net with conn := none })
    · rw [if_neg hx]
      exact congrArg Net.conn (setNet_of_ne s r (fun net => { net with conn := none }) hx)

/-- The clients are told that the network is disconnected, if it was connected. -/
def disconnectMessages (s : State) (r : Nat) (dc : Client) : Client :=
  if (s.heap r).conn.isSome then State.notifyClient (.network (s.heap r).record.id [("state","disconnected")]) dc
  else dc

theorem disconnect_clients (h : Matched s) (hr : r ∈ s.networks) :
    (s.disconnect r).clients = s.clients.map (disconnectMessages s r) := by
  unfold disconnect disconnectMessages
  cases hc : (s.heap r).conn with
  | none => simp
  | some c =>
    have hnet := h r c hc
    dsimp only [Option.elim,handleUpstreamDisconnected,mapClients,setNet]
    simp [hnet,hr]

theorem removeNetwork_conn (x : Nat) : ((s.removeNetwork r).heap x).conn = (s.heap x).conn := by
  by_cases hx : x = r
  · have h := congrArg Net.conn (setNet_self s r fun net => { net with stopped := true })
    rw [hx]
    exact h
  · exact congrArg Net.conn (setNet_of_ne s r (fun net => { net with stopped := true }) hx)

theorem replaceNetwork_conn (h : Matched s) (record : Network) (x : Nat) :
    ((s.replaceNetwork env r record).heap x).conn =
      if x = s.next ∨ x = r then none else (s.heap x).conn := by
  by_cases hx : x = s.next
  · rw [hx,replaceNetwork_self,if_pos (.inl rfl)]
    rfl
  · have hconn := (removeNetwork_conn (s.disconnect r) r x).trans (disconnect_conn s r h x)
    simp only [hx,false_or]
    refine Eq.trans ?_ hconn
    exact congrArg Net.conn (addNetwork_of_ne _ _ hx)

/-- What becomes of a client when a network is replaced. -/
def replacedClient (env : Env) (s : State) (r : Nat) (record : Network) (dc : Client) : Client :=
  let dc := disconnectMessages s r dc
  State.notifyClient (.network record.id (getNetworkAttrs env s.user (s.copiedNet r record)))
    (if dc.network = some r then { dc with network := some s.next } else dc)

theorem addNetwork_lists (net : Net) : (s.addNetwork net).lists net.record.id = true := by
  refine any_eq_true.mpr ⟨s.next,(mem_addNetwork s net).mpr (.inr rfl),?_⟩
  rw [addNetwork_self]
  exact decide_eq_true rfl

theorem replaceNetwork_clients (h : Matched s) (hr : r ∈ s.networks) (record : Network) :
    (s.replaceNetwork env r record).clients = s.clients.map (replacedClient env s r record) := by
  have hne : s.next ≠ r := Nat.ne_of_gt (s.fresh r hr)
  unfold replaceNetwork
  dsimp only [notifyBouncerNetworkState,mapClients]
  have hlist := addNetwork_lists (((((s.disconnect r).mapClients fun dc =>
      if dc.network = some r then { dc with network := some (s.disconnect r).next } else dc).removeNetwork r).emit
        (if env.msgStore = .fs ∧ record.getName ≠ (s.heap r).record.getName
          then [.renameNetwork (s.heap r).record record] else []))) (s.copiedNet r record)
  have hid : (s.copiedNet r record).record.id = record.id := rfl
  rw [hid] at hlist
  simp only [mapClients] at hlist
  simp only [hlist,if_true]
  change List.map _ (List.map _ (List.map _ (s.disconnect r).clients)) = _
  rw [disconnect_clients s r h hr,map_map,map_map,map_map]
  refine map_congr_left fun dc _ => ?_
  simp only [comp_apply]
  congr 1
  by_cases hn : (disconnectMessages s r dc).network = some r
  · rw [if_pos hn]
    change (if some s.next = some r then _ else _) = _
    rw [if_neg fun hc => hne (Option.some.inj hc),if_pos hn]
    rfl
  · rw [if_neg hn,if_neg hn,if_neg hn]

end Objects

theorem setNet_conn (s : State) (r : Nat) (hf : ∀ net, (f net).conn = net.conn) (x : Nat) :
    ((s.setNet r f).heap x).conn = (s.heap x).conn := by
  by_cases hx : x = r
  · rw [hx,setNet_self,hf]
  · rw [setNet_of_ne s r f hx]

theorem ChannelsOnly.conn (h : ChannelsOnly r s t) (x : Nat) : (t.heap x).conn = (s.heap x).conn := by
  by_cases hx : x = r
  · subst hx
    exact congrArg (fun net => net.conn) h.net
  · rw [h.frame x hx]

namespace Bound
theorem matched (h : Bound s) : Matched s := fun x c hc => (h.conns x c hc).2

theorem mapClients (h : Bound s) (hid : ∀ dc, (f dc).id = dc.id)
    (hnet : ∀ dc, (f dc).network = dc.network) (hclosed : ∀ dc, (f dc).closed = false → dc.closed = false) :
    Bound (s.mapClients f) where
  clients dc hdc r hr := by
    obtain ⟨dc',hdc',rfl⟩ := mem_map.mp hdc
    rw [hnet] at hr
    exact ⟨(h.clients dc' hdc' r hr).1,fun hc => (h.clients dc' hdc' r hr).2 (hclosed dc' hc)⟩
  ids := by
    have hmap : (s.mapClients f).clients.map Client.id = s.clients.map Client.id := by
      change (s.clients.map f).map Client.id = _
      rw [map_map]
      exact map_congr_left fun dc _ => hid dc
    rw [hmap]
    exact h.ids
  conns := h.conns

theorem heap (h : Bound s) (hclients : t.clients = s.clients) (hnext : t.next = s.next)
    (hnets : t.networks = s.networks) (hconns : t.conns = s.conns)
    (hheap : ∀ x, (t.heap x).conn = (s.heap x).conn) : Bound t where
  clients := by
    rw [hclients,hnext,hnets]
    exact h.clients
  ids := by
    rw [hclients]
    exact h.ids
  conns r c hc := by
    rw [hheap] at hc
    rw [hnext,hconns]
    exact h.conns r c hc

theorem indifferent : Indifferent Bound where
  channels {r s t} h hb := by
    obtain ⟨msgs,-,hc⟩ := h.clients
    have hmap := hb.mapClients (f := fun dc => { dc with sent := dc.sent ++ msgs dc }) (fun _ => rfl) (fun _ => rfl)
      fun _ hc => hc
    exact hmap.heap hc h.next h.networks h.conns fun x => ChannelsOnly.conn h x
  rows {s t} h hb := hb.heap h.clients h.next h.networks h.conns fun x => by rw [h.heap]

/-- The clients are sent a message, maybe. -/
structure Told (dc dc' : Client) : Prop where
  sameID : dc'.id = dc.id
  network : dc'.network = dc.network
  caps : dc'.caps = dc.caps
  closed : dc'.closed = dc.closed

theorem Told.refl (dc : Client) : Told dc dc := ⟨rfl,rfl,rfl,rfl⟩

theorem Told.notify (msg : Sent) (dc : Client) : Told dc (notifyClient msg dc) := by
  unfold notifyClient
  split
  · exact ⟨rfl,rfl,rfl,rfl⟩
  · exact Told.refl dc

theorem Told.updateNick (s : State) (dc : Client) : Told dc (s.updateNick dc) := by
  unfold State.updateNick
  split
  · exact Told.refl dc
  · exact ⟨rfl,rfl,rfl,rfl⟩

theorem Told.updateRealname (s : State) (dc : Client) : Told dc (s.updateRealname dc) := by
  unfold State.updateRealname
  split
  · exact ⟨rfl,rfl,rfl,rfl⟩
  · exact Told.refl dc

theorem Told.ite [Decidable c] {dc : Client} (ha : Told dc a) : Told dc (if c then a else dc) := by
  split
  · exact ha
  · exact Told.refl dc

theorem Told.trans (h : Told a b) (h' : Told b c) : Told a c :=
  ⟨h'.sameID.trans h.sameID,h'.network.trans h.network,h'.caps.trans h.caps,h'.closed.trans h.closed⟩

theorem told (h : Bound s) (hf : ∀ dc, Told dc (f dc)) : Bound (s.mapClients f) :=
  h.mapClients (fun dc => (hf dc).sameID) (fun dc => (hf dc).network) fun dc hc => (hf dc).closed ▸ hc

theorem addNetwork (h : Bound s) (hnet : net.conn = none) : Bound (s.addNetwork net) where
  clients dc hdc r hr := by
    have hb := h.clients dc hdc r hr
    exact ⟨Nat.lt_succ_of_lt hb.1,fun hc => (mem_addNetwork s net).mpr (.inl (hb.2 hc))⟩
  ids := h.ids
  conns r c hc := by
    by_cases hr : r = s.next
    · rw [hr,addNetwork_self,hnet] at hc
      cases hc
    · rw [addNetwork_of_ne s net hr] at hc
      exact ⟨Nat.lt_succ_of_lt (h.conns r c hc).1,(h.conns r c hc).2⟩

theorem replacedClient_fields (env : Env) (s : State) (r : Nat) (record : Network) (dc : Client) :
    (replacedClient env s r record dc).id = dc.id ∧ (replacedClient env s r record dc).closed = dc.closed ∧
      (replacedClient env s r record dc).network = if dc.network = some r then some s.next else dc.network := by
  have hd : Told dc (disconnectMessages s r dc) := (Told.notify _ dc).ite
  have hn := Told.notify (.network record.id (getNetworkAttrs env s.user (s.copiedNet r record)))
    (if (disconnectMessages s r dc).network = some r then
      { disconnectMessages s r dc with network := some s.next } else disconnectMessages s r dc)
  refine ⟨hn.sameID.trans ?_,hn.closed.trans ?_,hn.network.trans ?_⟩ <;> rw [hd.network] <;> split
  · exact hd.sameID
  · exact hd.sameID
  · exact hd.closed
  · exact hd.closed
  · rfl
  · exact hd.network

theorem replaceNetwork (h : Bound s) (env : Env) (hr : r ∈ s.networks) (record : Network) :
    Bound (s.replaceNetwork env r record) where
  clients dc hdc x hx := by
    rw [replaceNetwork_clients env s r h.matched hr record] at hdc
    obtain ⟨dc',hdc',rfl⟩ := mem_map.mp hdc
    rw [(replacedClient_fields ..).2.2] at hx
    rw [(replacedClient_fields ..).2.1]
    split at hx
    · cases hx
      exact ⟨Nat.lt_succ_self _,fun _ => (mem_replaceNetwork env s r record).mpr (.inr rfl)⟩
    · rename_i hne
      have hb := h.clients dc' hdc' x hx
      refine ⟨Nat.lt_succ_of_lt hb.1,fun hc => (mem_replaceNetwork env s r record).mpr (.inl ?_)⟩
      have hxr : x ≠ r := fun heq => hne (heq ▸ hx)
      exact (mem_erase_of_ne hxr).mpr (hb.2 hc)
  ids := by
    have hmap : s.clients.map (Client.id ∘ replacedClient env s r record) = s.clients.map Client.id :=
      map_congr_left fun dc _ => (replacedClient_fields env s r record dc).1
    rw [replaceNetwork_clients env s r h.matched hr record,map_map,hmap]
    exact h.ids
  conns x c hc := by
    rw [replaceNetwork_conn env s r h.matched] at hc
    split at hc
    · cases hc
    · exact ⟨Nat.lt_succ_of_lt (h.conns x c hc).1,(h.conns x c hc).2⟩

theorem removeNetwork (h : Bound s) (r : Nat) : Bound (s.removeNetwork r) where
  clients dc hdc x hx := by
    obtain ⟨dc',hdc',rfl⟩ := mem_map.mp hdc
    have hnet : dc'.network = some x := by
      split at hx <;> exact hx
    refine ⟨(h.clients dc' hdc' x hnet).1,fun hc => ?_⟩
    split at hc
    · cases hc
    · rename_i hne
      have hxr : x ≠ r := fun heq => hne (heq ▸ hnet)
      exact (mem_erase_of_ne hxr).mpr ((h.clients dc' hdc' x hnet).2 hc)
  ids := by
    have hmap : (s.removeNetwork r).clients.map Client.id = s.clients.map Client.id := by
      change (s.clients.map _).map Client.id = _
      rw [map_map]
      refine map_congr_left fun dc _ => ?_
      simp only [comp_apply]
      split <;> rfl
    rw [hmap]
    exact h.ids
  conns x c hc := by
    rw [removeNetwork_conn] at hc
    exact h.conns x c hc

theorem updateNetwork (env : Env) (record : Network) (lim : Bool) : Stays Bound (updateNetwork env record lim) := by
  intro s h
  rcases updateNetwork_cases env record lim s with ⟨e,t,he,ht⟩ | ⟨r,newID,answers,db,id,-,-,hr,-,-,hok⟩
  · exact safe_of_error he (indifferent.rows (Refused.rowsOnly ht) h)
  · have hb : Bound { s with answers, db } := indifferent.stored h
    exact safe_of_ok hok (hb.replaceNetwork env (mem_of_find?_eq_some hr) _)

theorem createNetwork (env : Env) (record : Network) (lim : Bool) : Stays Bound (createNetwork env record lim) := by
  intro s h
  rcases createNetwork_cases env record lim s with ⟨e,t,he,ht⟩ | ⟨newID,answers,db,id,-,-,-,-,hok⟩
  · exact safe_of_error he (indifferent.rows (Refused.rowsOnly ht) h)
  · have hb : Bound { s with answers, db } := indifferent.stored h
    exact safe_of_ok hok ((hb.addNetwork rfl).told fun dc => (Told.notify _ dc).ite)

theorem deleteNetwork (id : Int) : Stays Bound (deleteNetwork id) := by
  intro s h
  rcases deleteNetwork_cases id s with ⟨e,t,he,ht⟩ | ⟨r,answers,db,-,-,hok⟩
  · exact safe_of_error he (indifferent.rows (Refused.rowsOnly ht) h)
  · have hb : Bound { s with answers, db } := indifferent.stored h
    exact safe_of_ok hok ((hb.removeNetwork r).told (Told.notify _))

theorem setNet (h : Bound s) (r : Nat) {f : Net → Net} (hf : ∀ net, (f net).conn = net.conn) : Bound (s.setNet r f) :=
  h.heap rfl rfl rfl rfl (setNet_conn s r hf)

theorem quiet (h : Bound s) (hf : ∀ dc, Quieter dc (f dc)) : Bound (s.mapClients f) :=
  h.mapClients (fun dc => (hf dc).sameID) (fun dc => (hf dc).network) fun dc => (hf dc).closed

theorem setConn (h : Bound s) (c : Nat) {f : Conn → Conn} (hf : ∀ uc, (f uc).network = uc.network) :
    Bound (setConn c f s) where
  clients := h.clients
  ids := h.ids
  conns r c' hc := by
    refine ⟨(h.conns r c' hc).1,?_⟩
    change (Function.update s.conns c (f (s.conns c)) c').network = r
    by_cases hcc : c' = c
    · subst hcc
      rw [update_self,hf]
      exact (h.conns r c' hc).2
    · rw [update_of_ne hcc]
      exact (h.conns r c' hc).2

theorem handleUpstreamDisconnected (h : Bound s) (c : Nat) : Bound (s.handleUpstreamDisconnected c) := by
  refine told ?_ fun dc => (Told.notify _ dc).ite
  refine ⟨h.clients,h.ids,fun r c' hc => ?_⟩
  by_cases hr : r = (s.conns c).network
  · rw [hr,setNet_self] at hc
    cases hc
  · rw [setNet_of_ne s _ _ hr] at hc
    exact h.conns r c' hc

theorem setError (h : Bound s) (r : Nat) (err : String) : Bound (setError r err s) :=
  (h.setNet r (f := fun net => { net with lastError := some err }) fun _ => rfl).told fun dc => (Told.notify _ dc).ite

theorem connect (h : Bound s) {c : Nat} {conn : Conn} (hp : (UserEvent.connected c conn).Possible s) :
    Bound (connect c conn s) := by
  obtain ⟨hnet,hfree⟩ := hp
  have hset : Bound (({ s with conns := Function.update s.conns c conn } : State).setNet conn.network fun net =>
      { net with conn := some c }) := by
    refine ⟨h.clients,h.ids,fun r c' hc => ?_⟩
    change _ ∧ (Function.update s.conns c conn c').network = r
    by_cases hr : r = conn.network
    · rw [hr,setNet_self] at hc
      cases hc
      rw [update_self]
      exact ⟨hr ▸ hnet,hr.symm⟩
    · rw [setNet_of_ne _ _ _ hr] at hc
      have hb := h.conns r c' hc
      have hne : c' ≠ c := fun heq => hfree r hb.1 (heq ▸ hc)
      rw [update_of_ne hne]
      exact hb
  refine setNet (f := fun net => { net with lastError := none }) ?_ _ fun _ => rfl
  refine told (told hset fun dc => ?_) fun dc => (Told.notify _ dc).ite
  exact ((Told.updateNick _ dc).trans (Told.updateRealname _ _)).ite

theorem updateUser (env : Env) (update : UserUpdate) : Stays Bound (updateUser env update) := by
  intro s h
  refine updateUser_safe indifferent (fun t ht => ?_) h (fun user _ => h.heap rfl rfl rfl rfl fun _ => rfl) fun r _ =>
    updateNetwork env _ false
  exact ht.quiet fun dc => (Quieter.refl dc).ite (Quieter.close dc)

theorem welcomed_told (env : Env) (s : State) (dc : Arrival) (network : Option Nat) :
    (welcomed env s dc network).id = dc.id ∧ (welcomed env s dc network).network = network ∧
      (welcomed env s dc network).caps = dc.caps := by
  have h := Told.updateRealname s ⟨dc.id,network,dc.caps,welcomeNick s network,"",false,
    [.welcome (welcomeNick s network)]⟩
  unfold welcomed
  split <;> exact ⟨h.sameID,h.network,h.caps⟩

theorem addClient (env : Env) (h : Bound s)
    (hid : ∀ client ∈ s.clients, client.id ≠ dc.id) (hnet : ∀ r, network = some r → r ∈ s.networks) :
    Bound { s with clients := s.clients ++ [welcomed env s dc network] } where
  clients client hc r hr := by
    rcases mem_append.mp hc with hc | hc
    · exact h.clients client hc r hr
    · rw [mem_singleton.mp hc,(welcomed_told env s dc network).2.1] at hr
      exact ⟨s.fresh r (hnet r hr),fun _ => hnet r hr⟩
  ids := by
    rw [map_append,nodup_append]
    refine ⟨h.ids,nodup_singleton _,?_⟩
    intro a ha b hb
    obtain ⟨client,hc,rfl⟩ := mem_map.mp ha
    rw [map_singleton,mem_singleton,(welcomed_told env s dc network).1] at hb
    exact hb ▸ hid client hc
  conns := h.conns

end Bound

theorem load_bound (user : Database.User) (db : DB) (answers : List Answer) (others : List Other) :
    Bound (load user db answers others) where
  clients dc hdc := absurd hdc not_mem_nil
  ids := nodup_nil
  conns r c hc := by
    have hnone : ((load user db answers others).heap r).conn = none := by
      change ((loadedNets user db).getD r (newNet (newNetwork "") [] [])).conn = none
      rw [getD_eq_getElem?_getD]
      cases hn : (loadedNets user db)[r]? with
      | none => rfl
      | some net =>
        obtain ⟨record,-,rfl⟩ := mem_map.mp (mem_of_getElem? hn)
        rfl
    cases hnone.symm.trans hc

/-- No client has the id of the one that connects. -/
def NewClient (dc : Arrival) (s : State) : Prop := (UserEvent.downstreamConnected dc).Possible s

theorem asks_listed (h : Asks s dc r) : r ∈ s.networks := by
  unfold Asks at h
  split at h <;> exact mem_of_find?_eq_some h

/-- The ids and the networks of the clients meet a condition. -/
def Among (p : Nat → Option Nat → Prop) (s : State) : Prop := ∀ c ∈ s.clients, p c.id c.network

section Among
variable {p : Nat → Option Nat → Prop}

theorem Among.mapClients (h : Among p s)
    (hf : ∀ c, (f c).id = c.id ∧ (f c).network = c.network) : Among p (s.mapClients f) := by
  intro c hc
  obtain ⟨c',hc',rfl⟩ := mem_map.mp hc
  rw [(hf c').1,(hf c').2]
  exact h c' hc'

theorem among_indifferent (p : Nat → Option Nat → Prop) : Indifferent (Among p) where
  channels {r s t} h hs c hc := by
    obtain ⟨msgs,-,hcl⟩ := h.clients
    rw [hcl] at hc
    obtain ⟨c',hc',rfl⟩ := mem_map.mp hc
    exact hs c' hc'
  rows {s t} h hs c hc := hs c (h.clients ▸ hc)

variable (hp : ∀ i r x, p i (some r) → p i (some x))
include hp

theorem among_updateNetwork (env : Env) (record : Network) (lim : Bool) :
    Stays (fun t => Bound t ∧ Among p t) (updateNetwork env record lim) := by
  intro s ⟨hb,hs⟩
  refine (Bound.updateNetwork env record lim s hb).and ?_
  rcases updateNetwork_cases env record lim s with ⟨e,t,he,ht⟩ | ⟨r,newID,answers,db,id,-,-,hr,-,-,hok⟩
  · exact safe_of_error he ((among_indifferent p).rows (Refused.rowsOnly ht) hs)
  refine safe_of_ok hok fun c hc => ?_
  rw [replaceNetwork_clients env { s with answers, db } r hb.matched (mem_of_find?_eq_some hr)] at hc
  obtain ⟨c',hc',rfl⟩ := mem_map.mp hc
  rw [(Bound.replacedClient_fields ..).1,(Bound.replacedClient_fields ..).2.2]
  have hc := hs c' hc'
  split
  · rename_i hn
    exact hp _ r _ (hn ▸ hc)
  · exact hc

theorem among_updateUser (env : Env) (update : UserUpdate) :
    Stays (fun t => Bound t ∧ Among p t) (updateUser env update) := by
  intro s hs
  refine updateUser_safe (Bound.indifferent.and (among_indifferent p)) (fun t ht => ?_) hs (fun user _ => ?_)
    fun r _ => among_updateNetwork hp env _ false
  · refine ⟨ht.1.quiet fun c => (Quieter.refl c).ite (Quieter.close c),ht.2.mapClients fun c => ?_⟩
    split <;> exact ⟨rfl,rfl⟩
  · exact ⟨hs.1.heap rfl rfl rfl rfl fun _ => rfl,hs.2⟩

end Among

theorem newClient_createNetwork (h : Bound s ∧ NewClient dc s) (hc : createNetwork env record lim s = .ok r t) :
    (Bound t ∧ NewClient dc t) ∧ ∀ x, some r = some x → x ∈ t.networks := by
  have hb := Bound.createNetwork env record lim s h.1
  rw [Safe,hc] at hb
  rcases createNetwork_cases env record lim s with ⟨e,u,he,-⟩ | ⟨newID,answers,db,id,-,-,-,-,hok⟩
  · cases hc.symm.trans he
  cases hc.symm.trans hok
  refine ⟨⟨hb,Among.mapClients (p := fun i _ => i ≠ dc.id) h.2 fun c => ?_⟩,fun x hx => ?_⟩
  · exact ⟨((Bound.Told.notify _ c).ite).sameID,((Bound.Told.notify _ c).ite).network⟩
  · cases hx
    exact (mem_addNetwork _ _).mpr (.inr rfl)

theorem createNetwork_unbound (h : Bound s)
    (hc : createNetwork env record lim s = .ok r t) : ∀ dc ∈ t.clients, dc.network ≠ some r := by
  rcases createNetwork_cases env record lim s with ⟨e,u,he,-⟩ | ⟨newID,answers,db,id,-,-,-,-,hok⟩
  · cases hc.symm.trans he
  cases hc.symm.trans hok
  intro dc hdc hr
  obtain ⟨dc',hdc',rfl⟩ := mem_map.mp hdc
  rw [((Bound.Told.notify _ dc').ite).network] at hr
  exact absurd (h.clients dc' hdc' _ hr).1 (Nat.lt_irrefl _)

theorem bound_observes (env : Env) (g : Guards) : Observes env g (fun _ => True) Bound where
  indifferent := Bound.indifferent
  quiet _ h hf := h.quiet hf
  unbound {s} _ h := h.told fun dc => (Bound.Told.updateNick s dc).ite
  drop {s} p _ h := by
    have hsub : (s.clients.eraseP p).Sublist s.clients := eraseP_sublist
    exact ⟨fun dc hdc => h.clients dc (hsub.subset hdc),(hsub.map Client.id).nodup h.ids,h.conns⟩
  create {s} record lim _ h _ := Bound.createNetwork env record lim s h
  update {s} record lim _ h _ := Bound.updateNetwork env record lim s h
  delete {s} id _ h := Bound.deleteNetwork id s h
  user {s} update _ h _ _ := Bound.updateUser env update s h
  record r f _ h _ := h.setNet r fun _ => rfl
  nick {s dc r nick} _ h _ _ _ _ := by
    have hset := h.setNet r (f := fun net => { net with record := { net.record with nick } }) fun _ => rfl
    unfold announceNick
    split
    · exact hset.heap rfl rfl rfl rfl fun _ => rfl
    · exact hset.told fun c => (Bound.Told.updateNick _ c).ite
  connect _ h hp _ := h.connect hp
  disconnected c _ h := h.handleUpstreamDisconnected c
  connectionError {s r err} _ h _ := h.setError r err
  upstreamError {s c err} _ h _ := h.setError _ err
  connNick c nick _ h := (h.setConn c (f := fun uc => { uc with nick }) fun _ => rfl).told fun dc => (Bound.Told.updateNick _ dc).ite
  conn c f _ h hf := h.setConn c fun uc => (hf uc).1
  casemapping r cm _ h := h.setNet r fun _ => rfl
  welcome {s dc} moment _ h hp _ := by
    refine handleDownstreamConnected_safe (fun t => Bound t ∧ NewClient dc t) (fun _ => ⟨h,hp⟩) ?_ (fun _ => And.left) ?_
    · exact fun _ _ => among_updateUser (p := fun i _ => i ≠ dc.id) (fun _ _ _ h => h) env _ s ⟨h,hp⟩
    intro t ht
    refine welcome_safe (fun n t => (Bound t ∧ NewClient dc t) ∧ ∀ r, n = some r → r ∈ t.networks) ?_ ?_ ?_ ?_ ?_ ?_ ?_ ?_
    · exact fun u hu => Bound.indifferent.rows (Refused.rowsOnly hu) ht.1
    · exact ⟨ht,fun r hr => nomatch hr⟩
    · exact fun r hr => ⟨ht,fun r' hr' => Option.some.inj hr' ▸ asks_listed hr⟩
    · exact fun record r u _ hc => newClient_createNetwork ht hc
    · exact fun n u answers dbFailed hu => ⟨⟨Bound.indifferent.stored hu.1.1,hu.1.2⟩,hu.2⟩
    · exact fun n u hu => hu.1.1
    · exact fun n u hu => hu.1.1.addClient env hu.1.2 hu.2
    · exact bump_stays _ (Bound.updateUser env _)

end Sake.Proofs.Steps
