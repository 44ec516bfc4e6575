import Sake.Proofs.Clients

namespace Sake.Proofs.Nicks
open Function
open Lib.Handler Lib.Runs Networks Goroutine Registered Sake.Incoming UserNetworks ServiceOps Incoming Steps List

variable {s t : State}

/-- What a client takes its nick to be after a message. -/
def hears (nick : Option String) : Sent → Option String
  | .welcome new => some new
  | .nick old new => if nick = some old then some new else nick
  | _ => nick

def derivedNick (sent : List Sent) : Option String := sent.foldl hears none

/-- The clients of a network have one nick, that of the connection if there is one, and know it. -/
structure Agreed (s : State) : Prop where
  same : ∀ dc ∈ s.clients, ∀ dc' ∈ s.clients, ∀ r, dc.network = some r → dc'.network = some r → dc.nick = dc'.nick
  upstream : ∀ dc ∈ s.clients, ∀ c, s.upstream dc = some c → dc.nick = (s.conns c).nick
  derived : ∀ dc ∈ s.clients, derivedNick dc.sent = some dc.nick

/-- The message does not tell of the client's nick. -/
def NickFree : Sent → Prop
  | .welcome _ | .nick _ _ => False
  | _ => True

variable {dc dc' a : Client} {msgs : List Sent}

theorem foldl_nickFree (h : ∀ msg ∈ msgs, NickFree msg) (nick : Option String) : msgs.foldl hears nick = nick := by
  induction msgs with
  | nil => rfl
  | cons msg msgs ih =>
    have hfirst : hears nick msg = nick := by
      have hm := h msg mem_cons_self
      cases msg with
      | welcome new | nick old new => exact hm.elim
      | _ => rfl
    rw [foldl_cons,hfirst]
    exact ih fun m hm => h m (mem_cons_of_mem _ hm)

theorem derivedNick_append : derivedNick (sent ++ msgs) = msgs.foldl hears (derivedNick sent) :=
  foldl_append

/-- A client that hears nothing of its nick. -/
structure Unmoved (dc dc' : Client) : Prop where
  nick : dc'.nick = dc.nick
  derived : derivedNick dc'.sent = derivedNick dc.sent

theorem Unmoved.refl (dc : Client) : Unmoved dc dc := ⟨rfl,rfl⟩

theorem Unmoved.of_sent (hnick : dc'.nick = dc.nick)
    (hsent : dc'.sent = dc.sent ++ msgs) (h : ∀ msg ∈ msgs, NickFree msg) : Unmoved dc dc' :=
  ⟨hnick,by rw [hsent,derivedNick_append,foldl_nickFree h]⟩

theorem Unmoved.trans (h : Unmoved a b) (h' : Unmoved b c) : Unmoved a c :=
  ⟨h'.nick.trans h.nick,h'.derived.trans h.derived⟩

theorem Unmoved.quieter (h : Quieter dc dc') : Unmoved dc dc' := by
  obtain ⟨msgs,hm,hsent⟩ := h.sent
  refine Unmoved.of_sent h.nick hsent fun msg hmem => ?_
  have hp := hm msg hmem
  cases msg <;> trivial

theorem Unmoved.notify (msg : Sent) (h : NickFree msg) (dc : Client) : Unmoved dc (State.notifyClient msg dc) := by
  unfold State.notifyClient
  split
  · have hsent : (dc.send msg).sent = dc.sent ++ [msg] := rfl
    exact Unmoved.of_sent rfl hsent (by simpa using h)
  · exact Unmoved.refl dc

theorem Unmoved.ite [Decidable c] (ha : Unmoved dc a) : Unmoved dc (if c then a else dc) := by
  split
  · exact ha
  · exact Unmoved.refl dc

namespace Agreed
variable {r c : Nat} {dc : Client}

/-- The clients hear nothing of their nicks, and those that were apart stay apart. -/
theorem map (h : Agreed s) (hclients : t.clients = s.clients.map f) (hf : ∀ dc, Unmoved dc (f dc))
    (hnet : ∀ dc ∈ s.clients, ∀ dc' ∈ s.clients, ∀ r, (f dc).network = some r → (f dc').network = some r →
      ∃ x, dc.network = some x ∧ dc'.network = some x)
    (hup : ∀ dc ∈ s.clients, ∀ c, t.upstream (f dc) = some c →
      s.upstream dc = some c ∧ (t.conns c).nick = (s.conns c).nick) : Agreed t where
  same dc hdc dc' hdc' r hr hr' := by
    rw [hclients] at hdc hdc'
    obtain ⟨a,ha,rfl⟩ := mem_map.mp hdc
    obtain ⟨b,hb,rfl⟩ := mem_map.mp hdc'
    obtain ⟨x,hx,hx'⟩ := hnet a ha b hb r hr hr'
    rw [(hf a).nick,(hf b).nick]
    exact h.same a ha b hb x hx hx'
  upstream dc hdc c hc := by
    rw [hclients] at hdc
    obtain ⟨a,ha,rfl⟩ := mem_map.mp hdc
    obtain ⟨hs,hn⟩ := hup a ha c hc
    rw [(hf a).nick,hn]
    exact h.upstream a ha c hs
  derived dc hdc := by
    rw [hclients] at hdc
    obtain ⟨a,ha,rfl⟩ := mem_map.mp hdc
    rw [(hf a).derived,(hf a).nick]
    exact h.derived a ha

/-- The clients hear nothing of their nicks, and stay with their networks, whose connections stay. -/
theorem keep (h : Agreed s) (hclients : t.clients = s.clients.map f)
    (hf : ∀ dc, Unmoved dc (f dc)) (hnet : ∀ dc, (f dc).network = dc.network) (hconns : t.conns = s.conns)
    (hheap : ∀ dc ∈ s.clients, ∀ r c, dc.network = some r → (t.heap r).conn = some c → (s.heap r).conn = some c) :
    Agreed t := by
  refine h.map hclients hf (fun dc _ dc' _ r hr hr' => ⟨r,hnet dc ▸ hr,hnet dc' ▸ hr'⟩) fun dc hdc c hc => ?_
  refine ⟨?_,by rw [hconns]⟩
  unfold State.upstream at hc
  rw [hnet] at hc
  obtain ⟨r,hr,hc⟩ := Option.bind_eq_some_iff.mp hc
  exact Option.bind_eq_some_iff.mpr ⟨r,hr,hheap dc hdc r c hr hc⟩

theorem indifferent : Indifferent Agreed where
  channels {r s t} ho h := by
    obtain ⟨msgs,hm,hc⟩ := ho.clients
    refine h.keep hc (fun dc => ?_) (fun _ => rfl) ho.conns fun dc _ x c _ hx => ?_
    · refine Unmoved.of_sent rfl rfl fun msg hmem => ?_
      have hp := hm dc msg hmem
      cases msg <;> trivial
    · rw [← hx]
      exact (ChannelsOnly.conn ho x).symm
  rows {s t} ho h := by
    refine h.keep (f := id) (by rw [ho.clients,map_id]) Unmoved.refl (fun _ => rfl) ho.conns fun dc _ x c _ hx => ?_
    rw [← hx,ho.heap]

theorem quiet (h : Agreed s) (hf : ∀ dc, Quieter dc (f dc)) : Agreed (s.mapClients f) :=
  h.keep rfl (fun dc => Unmoved.quieter (hf dc)) (fun dc => (hf dc).network) rfl fun _ _ _ _ _ hx => hx

theorem setNet (h : Agreed s) (r : Nat) {f : Net → Net} (hf : ∀ net, (f net).conn = net.conn) : Agreed (s.setNet r f) :=
  h.keep (f := id) (by rw [map_id]; rfl) Unmoved.refl (fun _ => rfl) rfl fun _ _ x c _ hx =>
    (setNet_conn s r hf x).symm.trans hx

theorem notified (h : Agreed s) [Decidable p] (id : Int) (attrs : Tags) :
    Agreed (s.mapClients fun dc => if p then State.notifyClient (.network id attrs) dc else dc) :=
  h.keep rfl (fun dc => (Unmoved.notify (.network id attrs) trivial dc).ite)
    (fun dc => ((Bound.Told.notify _ dc).ite).network) rfl fun _ _ _ _ _ hx => hx

theorem addNetwork (h : Agreed s) (hb : Bound s) (net : Net) : Agreed (s.addNetwork net) := by
  refine h.keep (f := id) (by rw [map_id]; rfl) Unmoved.refl (fun _ => rfl) rfl fun dc hdc r c hr hx => ?_
  rw [addNetwork_of_ne s net (Nat.ne_of_lt (hb.clients dc hdc r hr).1)] at hx
  exact hx

theorem replacedClient_unmoved (env : Env) (s : State) (r : Nat) (record : Network) (dc : Client) :
    Unmoved dc (replacedClient env s r record dc) := by
  have h : Unmoved dc (disconnectMessages s r dc) := (Unmoved.notify (.network _ _) trivial dc).ite
  refine h.trans (Unmoved.trans ?_ (Unmoved.notify (.network _ _) trivial _))
  split
  · exact ⟨rfl,rfl⟩
  · exact Unmoved.refl _

/-- The clients of a network that is replaced go over to the new object together. -/
theorem replaceNetwork (h : Agreed s) (hb : Bound s) (env : Env) (hr : r ∈ s.networks) (record : Network) :
    Agreed (s.replaceNetwork env r record) := by
  have hlt {dc : Client} (hdc : dc ∈ s.clients) : dc.network ≠ some s.next := fun hn =>
    absurd (hb.clients dc hdc _ hn).1 (Nat.lt_irrefl _)
  refine h.map (replaceNetwork_clients env s r hb.matched hr record) (replacedClient_unmoved env s r record) ?_ ?_
  · intro dc hdc dc' hdc' x hx hx'
    rw [(Bound.replacedClient_fields ..).2.2] at hx hx'
    split at hx
    · rename_i hn
      cases hx
      split at hx'
      · rename_i hn'
        exact ⟨r,hn,hn'⟩
      · exact absurd hx' (hlt hdc')
    · split at hx'
      · cases hx'
        exact absurd hx (hlt hdc)
      · exact ⟨x,hx,hx'⟩
  · intro dc hdc c hc
    refine ⟨?_,rfl⟩
    unfold State.upstream at hc
    rw [(Bound.replacedClient_fields ..).2.2] at hc
    obtain ⟨x,hx,hc⟩ := Option.bind_eq_some_iff.mp hc
    rw [replaceNetwork_conn env s r hb.matched] at hc
    split at hc
    · cases hc
    rename_i hne
    split at hx
    · exact absurd (.inl (Option.some.inj hx).symm) hne
    · exact Option.bind_eq_some_iff.mpr ⟨x,hx,hc⟩

theorem createNetwork (h : Agreed s) (hb : Bound s) (env : Env) (record : Network) (lim : Bool) :
    Lands Agreed (createNetwork env record lim) s := by
  rcases createNetwork_cases env record lim s with ⟨e,t,he,ht⟩ | ⟨newID,answers,db,id,-,-,-,-,hok⟩
  · exact safe_of_error he (indifferent.rows (Refused.rowsOnly ht) h)
  · have hs : Agreed { s with answers, db } := indifferent.stored h
    have hb' : Bound { s with answers, db } := Bound.indifferent.stored hb
    exact safe_of_ok hok ((hs.addNetwork hb' _).notified _ _)

theorem updateNetwork (h : Agreed s) (hb : Bound s) (env : Env) (record : Network) (lim : Bool) :
    Lands Agreed (updateNetwork env record lim) s := by
  rcases updateNetwork_cases env record lim s with ⟨e,t,he,ht⟩ | ⟨r,newID,answers,db,id,-,-,hr,-,-,hok⟩
  · exact safe_of_error he (indifferent.rows (Refused.rowsOnly ht) h)
  · have hs : Agreed { s with answers, db } := indifferent.stored h
    have hb' : Bound { s with answers, db } := Bound.indifferent.stored hb
    exact safe_of_ok hok (hs.replaceNetwork hb' env (mem_of_find?_eq_some hr) _)

theorem deleteNetwork (h : Agreed s) (id : Int) : Lands Agreed (deleteNetwork id) s := by
  rcases deleteNetwork_cases id s with ⟨e,t,he,ht⟩ | ⟨r,answers,db,-,-,hok⟩
  · exact safe_of_error he (indifferent.rows (Refused.rowsOnly ht) h)
  have hs : Agreed { s with answers, db } := indifferent.stored h
  have hrem : Agreed (({ s with answers, db } : State).removeNetwork r) := by
    refine hs.keep (f := fun dc => if dc.network = some r then { dc with closed := true } else dc) rfl (fun dc => ?_)
      (fun dc => ?_) rfl fun dc _ x c _ hx => ?_
    · exact Unmoved.ite ⟨rfl,rfl⟩
    · split <;> rfl
    · exact (removeNetwork_conn _ r x).symm.trans hx
  refine safe_of_ok hok (hrem.keep rfl (Unmoved.notify (.networkDeleted id) trivial) (fun dc => ?_) rfl
    fun _ _ _ _ _ hx => hx)
  exact (Bound.Told.notify _ dc).network

theorem updateUser (h : Agreed s) (hb : Bound s) (env : Env) (update : UserUpdate) :
    Lands Agreed (updateUser env update) s := by
  have hboth : Lands (fun t => Bound t ∧ Agreed t) (Goroutine.updateUser env update) s := by
    refine updateUser_safe (Bound.indifferent.and indifferent) (fun t ht => ?_) ⟨hb,h⟩ (fun user _ => ?_) fun r _ t ht => ?_
    · have hclose (c : Client) : Quieter c (if t.user.enabled then c else { c with closed := true }) :=
        (Quieter.refl c).ite (Quieter.close c)
      exact ⟨ht.1.quiet hclose,ht.2.quiet hclose⟩
    · exact ⟨hb.heap rfl rfl rfl rfl fun _ => rfl,h.keep (f := id) (by rw [map_id]) Unmoved.refl (fun _ => rfl) rfl
        fun _ _ _ _ _ hx => hx⟩
    · exact (Bound.updateNetwork env _ false t ht.1).and (ht.2.updateNetwork ht.1 env _ false)
  exact hboth.mono fun _ => And.right

theorem updateNick_nick (t : State) (dc : Client) : (t.updateNick dc).nick = t.nickOf dc := by
  unfold State.updateNick
  split
  · rename_i h
    exact h.symm
  · rfl

theorem updateNick_derived (h : derivedNick dc.sent = some dc.nick) :
    derivedNick (t.updateNick dc).sent = some (t.updateNick dc).nick := by
  rw [updateNick_nick]
  unfold State.updateNick
  split
  · rename_i hn
    rw [h,hn]
  · change derivedNick (dc.sent ++ [.nick dc.nick (t.nickOf dc)]) = _
    rw [derivedNick_append,h]
    simp [hears]

section
variable (h : Agreed s)
include h

/-- Some clients are told the nick that they should have: whole networks, and clients of none. -/
theorem renamed (hclients : t.clients = s.clients.map f)
    (hnet : ∀ dc, (f dc).network = dc.network) (p : Client → Prop)
    (hf : ∀ dc, p dc → (f dc).nick = t.nickOf dc ∧
      (derivedNick dc.sent = some dc.nick → derivedNick (f dc).sent = some (f dc).nick))
    (hother : ∀ dc, ¬ p dc → Unmoved dc (f dc))
    (hsame : ∀ dc ∈ s.clients, ∀ dc' ∈ s.clients, ∀ r, dc.network = some r → dc'.network = some r → p dc → ¬ p dc' →
      t.nickOf dc = dc'.nick)
    (hup : ∀ dc ∈ s.clients, ¬ p dc → ∀ c, t.upstream dc = some c →
      s.upstream dc = some c ∧ (t.conns c).nick = (s.conns c).nick) : Agreed t where
  same a ha b hb r hr hr' := by
    rw [hclients] at ha hb
    obtain ⟨dc,hdc,rfl⟩ := mem_map.mp ha
    obtain ⟨dc',hdc',rfl⟩ := mem_map.mp hb
    rw [hnet] at hr hr'
    by_cases hp : p dc
    · rw [(hf dc hp).1]
      by_cases hp' : p dc'
      · rw [(hf dc' hp').1]
        simp [State.nickOf,State.upstream,hr,hr']
      · rw [(hother dc' hp').nick]
        exact hsame dc hdc dc' hdc' r hr hr' hp hp'
    · rw [(hother dc hp).nick]
      by_cases hp' : p dc'
      · rw [(hf dc' hp').1]
        exact (hsame dc' hdc' dc hdc r hr' hr hp' hp).symm
      · rw [(hother dc' hp').nick]
        exact h.same dc hdc dc' hdc' r hr hr'
  upstream a ha c hc := by
    rw [hclients] at ha
    obtain ⟨dc,hdc,rfl⟩ := mem_map.mp ha
    have hc : t.upstream dc = some c := by
      unfold State.upstream at hc
      rwa [hnet] at hc
    by_cases hp : p dc
    · rw [(hf dc hp).1]
      simp [State.nickOf,hc]
    · obtain ⟨hs,hn⟩ := hup dc hdc hp c hc
      rw [(hother dc hp).nick,hn]
      exact h.upstream dc hdc c hs
  derived a ha := by
    rw [hclients] at ha
    obtain ⟨dc,hdc,rfl⟩ := mem_map.mp ha
    by_cases hp : p dc
    · exact (hf dc hp).2 (h.derived dc hdc)
    · rw [(hother dc hp).derived,(hother dc hp).nick]
      exact h.derived dc hdc

theorem unbound : Agreed (s.mapClients fun c => if c.network = none then s.updateNick c else c) := by
  refine h.renamed rfl (fun dc => ((Bound.Told.updateNick s dc).ite).network) (fun dc => dc.network = none)
    (fun dc hp => ?_) (fun dc hp => ?_) ?_ fun dc _ _ c hc => ⟨hc,rfl⟩
  · rw [if_pos hp]
    exact ⟨updateNick_nick s dc,updateNick_derived⟩
  · rw [if_neg hp]
    exact Unmoved.refl dc
  · intro dc _ _ _ r hr _ hp
    cases hr.symm.trans hp

theorem disconnected (c : Nat) : Agreed (s.handleUpstreamDisconnected c) := by
  refine h.keep rfl
    (fun dc => (Unmoved.notify (.network _ _) trivial dc).ite) (fun dc => ((Bound.Told.notify _ dc).ite).network) rfl ?_
  intro dc _ r c' _ hx
  by_cases hr : r = (s.conns c).network
  · have hnone := congrArg Net.conn (setNet_self s (s.conns c).network fun net => { net with conn := none })
    rw [hr] at hx
    cases hx.symm.trans hnone
  · exact (congrArg Net.conn (setNet_of_ne s _ (fun net => { net with conn := none }) hr)).symm.trans hx

theorem setError (r : Nat) (err : String) : Agreed (setError r err s) :=
  (h.setNet r (f := fun net => { net with lastError := some err }) fun _ => rfl).notified _ _

/-- The server gives us another nick, which the clients of the network are told. -/
theorem setConnNick (hb : Bound s) (c : Nat) (nick : String) : Agreed (setConnNick c nick s) := by
  have hnetwork : ((setConn c (fun uc => { uc with nick }) s).conns c).network = (s.conns c).network := by
    change (Function.update s.conns c { s.conns c with nick } c).network = _
    rw [update_self]
  refine h.renamed (p := fun dc => dc.network = some (s.conns c).network) rfl
    (fun dc => ((Bound.Told.updateNick _ dc).ite).network) (fun dc hp => ?_) (fun dc hp => ?_) ?_ ?_
  · rw [hnetwork,if_pos hp]
    exact ⟨updateNick_nick _ dc,updateNick_derived⟩
  · rw [hnetwork,if_neg hp]
    exact Unmoved.refl dc
  · intro dc _ dc' _ r hr hr' hp hp'
    exact absurd (hr'.trans (hr.symm.trans hp)) hp'
  intro dc _ hp c' hc
  refine ⟨hc,?_⟩
  obtain ⟨r,hr,hc⟩ := Option.bind_eq_some_iff.mp hc
  have hr' : (s.conns c').network = r := (hb.conns r c' hc).2
  have hne : c' ≠ c := fun heq => hp (by rw [hr,← hr',heq])
  change (Function.update s.conns c { s.conns c with nick } c').nick = _
  rw [update_of_ne hne]

theorem connect (hb : Bound s) {conn : Conn}
    (hp : (UserEvent.connected c conn).Possible s) : Agreed (connect c conn s) := by
  obtain ⟨-,hfree⟩ := hp
  let s' : State := ({ s with conns := Function.update s.conns c conn } : State).setNet conn.network fun net =>
    { net with conn := some c }
  have hmain : Agreed (s'.forEachDownstream conn.network fun dc => s'.updateRealname (s'.updateNick dc)) := by
    refine h.renamed (p := fun dc => dc.network = some conn.network) rfl ?_ (fun dc hp => ?_) (fun dc hp => ?_) ?_ ?_
    · exact fun dc => (((Bound.Told.updateNick s' dc).trans (Bound.Told.updateRealname s' _)).ite).network
    · have hquiet := Unmoved.quieter (Quieter.updateRealname s' (s'.updateNick dc))
      rw [if_pos hp]
      refine ⟨hquiet.nick.trans (updateNick_nick s' dc),fun hd => ?_⟩
      rw [hquiet.derived,hquiet.nick]
      exact updateNick_derived hd
    · rw [if_neg hp]
      exact Unmoved.refl dc
    · intro dc _ dc' _ r hr hr' hp hp'
      exact absurd (hr'.trans (hr.symm.trans hp)) hp'
    · intro dc hdc hp c' hc
      obtain ⟨r,hr,hc⟩ := Option.bind_eq_some_iff.mp hc
      have hrn : r ≠ conn.network := fun heq => hp (heq ▸ hr)
      have hold : (s.heap r).conn = some c' :=
        (congrArg Net.conn (setNet_of_ne ({ s with conns := Function.update s.conns c conn } : State) conn.network
          (fun net => { net with conn := some c }) hrn)).symm.trans hc
      have hne : c' ≠ c := fun heq => hfree r (hb.clients dc hdc r hr).1 (heq ▸ hold)
      refine ⟨Option.bind_eq_some_iff.mpr ⟨r,hr,hold⟩,?_⟩
      change (Function.update s.conns c conn c').nick = _
      rw [update_of_ne hne]
  exact (hmain.notified _ _).setNet conn.network (f := fun net => { net with lastError := none }) fun _ => rfl

theorem setConn (c : Nat) {f : Conn → Conn} (hf : ∀ uc, (f uc).nick = uc.nick) : Agreed (setConn c f s) := by
  refine h.map (f := id) (by rw [map_id]; rfl) Unmoved.refl (fun _ _ _ _ r hr hr' => ⟨r,hr,hr'⟩) ?_
  intro dc _ c' hc
  refine ⟨hc,?_⟩
  change (Function.update s.conns c (f (s.conns c)) c').nick = _
  by_cases hcc : c' = c
  · rw [hcc,update_self,hf]
  · rw [update_of_ne hcc]

end

/-- All other clients of the network have the nick already. -/
def Shares (s : State) (dc : Client) (r : Nat) (nick : String) : Prop :=
  (s.heap r).conn = none → ∀ other ∈ s.clients, other.network = some r → other.id ≠ dc.id → other.nick = nick

theorem announceNick (h : Agreed s) (hb : Bound s) {nick : String} (hdc : dc ∈ s.clients)
    (hr : dc.network = some r) (hne : nick ≠ "") (hg : Shares s dc r nick) :
    Agreed (announceNick dc r nick (s.setRecord r fun record => { record with nick })) := by
  have hconn := setNet_conn s r (f := fun net => { net with record := { net.record with nick } }) fun _ => rfl
  have hset := h.setNet r (f := fun net => { net with record := { net.record with nick } }) fun _ => rfl
  unfold Registered.announceNick
  set t := s.setRecord r fun record => { record with nick }
  cases hc : (t.heap r).conn with
  | some c => exact indifferent.rows (emit_rowsOnly _ _) hset
  | none =>
    have hnone : (s.heap r).conn = none := (hconn r).symm.trans hc
    have hdc' : ∀ d ∈ s.clients, d.id = dc.id → d = dc := fun d hd => inj_on_of_nodup_map hb.ids hd hdc
    refine h.renamed (p := fun d => d.id = dc.id) rfl (fun d => ((Bound.Told.updateNick _ d).ite).network)
      (fun d hp => ?_) (fun d hp => ?_) ?_ ?_
    · rw [if_pos hp]
      exact ⟨updateNick_nick _ d,updateNick_derived⟩
    · rw [if_neg hp]
      exact Unmoved.refl d
    · intro d hd d' hd' x hx hx' hp hp'
      rw [hdc' d hd hp,hr] at hx
      cases hx
      rw [hdc' d hd hp,hg hnone d' hd' hx' hp']
      have hrec : (t.heap r).record.nick = nick := by rw [setRecord_record,if_pos rfl]
      change t.nickOf dc = nick
      simp only [State.nickOf,State.upstream,hr,Option.bind_some,hc]
      rw [Database.getNick,hrec,if_pos hne]
    · intro d _ _ c hup
      refine ⟨?_,rfl⟩
      obtain ⟨x,hx,hxc⟩ := Option.bind_eq_some_iff.mp hup
      exact Option.bind_eq_some_iff.mpr ⟨x,hx,(hconn x).symm.trans hxc⟩

/-- The clients of a network that is not connected have the nick that a new one will have. -/
def Settled (s : State) (r : Nat) : Prop :=
  (s.heap r).conn = none → ∀ client ∈ s.clients, client.network = some r →
    client.nick = Database.getNick s.user (s.heap r).record.toNetwork

theorem welcomeNick_connected (h : (s.heap r).conn = some c) : welcomeNick s (some r) = (s.conns c).nick := by
  simp [welcomeNick,h]

theorem welcomeNick_disconnected (h : (s.heap r).conn = none) :
    welcomeNick s (some r) = Database.getNick s.user (s.heap r).record.toNetwork := by
  simp [welcomeNick,h]

theorem welcomed_nick (env : Env) (s : State) (dc : Arrival) (network : Option Nat) :
    (welcomed env s dc network).nick = welcomeNick s network ∧
      derivedNick (welcomed env s dc network).sent = some (welcomeNick s network) := by
  have h := Unmoved.quieter (Quieter.updateRealname s ⟨dc.id,network,dc.caps,welcomeNick s network,"",false,
    [.welcome (welcomeNick s network)]⟩)
  unfold welcomed
  split
  · refine ⟨h.nick,?_⟩
    rw [derivedNick_append,foldl_nickFree]
    · exact h.derived
    · intro msg hmsg
      obtain ⟨r,-,rfl⟩ := mem_map.mp hmsg
      trivial
  · exact ⟨h.nick,h.derived⟩

theorem addClient (h : Agreed s) (env : Env) (dc : Arrival) (hset : ∀ r, network = some r → Settled s r) :
    Agreed { s with clients := s.clients ++ [welcomed env s dc network] } := by
  have hnick := welcomed_nick env s dc network
  have hnet := (Bound.welcomed_told env s dc network).2.1
  have hold : ∀ d ∈ s.clients, ∀ r, d.network = some r → network = some r → d.nick = welcomeNick s network := by
    intro d hd r hr hn
    rw [hn]
    cases hc : (s.heap r).conn with
    | none =>
      rw [welcomeNick_disconnected hc]
      exact hset r hn hc d hd hr
    | some c =>
      rw [welcomeNick_connected hc]
      exact h.upstream d hd c (by rw [State.upstream,hr,Option.bind_some,hc])
  refine ⟨fun a ha b hb r hr hr' => ?_,fun a ha c hc => ?_,fun a ha => ?_⟩
  · rcases mem_append.mp ha with ha | ha <;> rcases mem_append.mp hb with hb | hb
    · exact h.same a ha b hb r hr hr'
    · rw [mem_singleton.mp hb] at hr' ⊢
      rw [hnick.1]
      exact hold a ha r hr (hnet.symm.trans hr')
    · rw [mem_singleton.mp ha] at hr ⊢
      rw [hnick.1]
      exact (hold b hb r hr' (hnet.symm.trans hr)).symm
    · rw [mem_singleton.mp ha,mem_singleton.mp hb]
  · rcases mem_append.mp ha with ha | ha
    · exact h.upstream a ha c hc
    · rw [mem_singleton.mp ha] at hc ⊢
      obtain ⟨r,hr,hrc⟩ := Option.bind_eq_some_iff.mp hc
      rw [hnet] at hr
      rw [hnick.1,hr]
      exact welcomeNick_connected hrc
  · rcases mem_append.mp ha with ha | ha
    · exact h.derived a ha
    · rw [mem_singleton.mp ha,hnick.1]
      exact hnick.2

end Agreed

/-- A client may connect: the clients of the network have the nick that it will have. If the user is enabled
for it, no client has a network yet. -/
def MayJoin (s : State) (dc : Arrival) : Prop :=
  if (s.user.enabled || !dc.enableUsersOnAuth) = true then ∀ r, Asks s dc r → Agreed.Settled s r
  else ∀ client ∈ s.clients, client.network = none

/-- No client has a network. -/
def Unattached (s : State) : Prop := ∀ client ∈ s.clients, client.network = none

theorem enable_unattached {dc : Arrival} (env : Env) (update : UserUpdate)
    (hb : Bound s) (hn : NewClient dc s) (h : Agreed s) (hu : Unattached s) :
    Lands (fun t => (Bound t ∧ NewClient dc t) ∧ Agreed t ∧ Unattached t) (updateUser env update) s := by
  have hboth := among_updateUser (p := fun i n => i ≠ dc.id ∧ n = none) (fun _ _ _ h => nomatch h.2) env update s
    ⟨hb,fun c hc => ⟨hn c hc,hu c hc⟩⟩
  refine (hboth.and (h.updateUser hb env update)).mono fun t ht => ⟨⟨ht.1.1,fun c hc => ?_⟩,ht.2,fun c hc => ?_⟩
  · exact (ht.1.2 c hc).1
  · exact (ht.1.2 c hc).2

theorem Agreed.welcome {dc : Arrival} (env : Env) (moment : Nat) (hb : Bound s) (h : Agreed s) (hp : NewClient dc s)
    (hg : MayJoin s dc) : Lands Agreed (handleDownstreamConnected env moment dc) s := by
  refine handleDownstreamConnected_safe
    (fun t => (Bound t ∧ NewClient dc t) ∧ Agreed t ∧ ∀ r, Asks t dc r → Agreed.Settled t r) ?_ ?_ (fun _ ht => ht.2.1) ?_
  · intro hstay
    rw [MayJoin,if_pos hstay] at hg
    exact ⟨⟨hb,hp⟩,h,hg⟩
  · intro hdis hen
    rw [MayJoin,if_neg (by simp [hdis,hen])] at hg
    refine (enable_unattached env _ hb hp h hg).mono fun t ht => ⟨ht.1,ht.2.1,fun r _ _ c hc hr => ?_⟩
    cases (ht.2.2 c hc).symm.trans hr
  · rintro t ⟨hbn,ht,hset⟩
    refine (?_ : Lands (fun t => Bound t ∧ Agreed t) (Sake.Incoming.welcome env moment dc) t).mono
      fun _ => And.right
    refine welcome_safe (fun n t => Bound t ∧ Agreed t ∧ NewClient dc t ∧
      ∀ r, n = some r → r ∈ t.networks ∧ Agreed.Settled t r) ?_ ?_ ?_ ?_ ?_ (fun n u hu => ⟨hu.1,hu.2.1⟩) ?_ ?_
    · exact fun u hu => (Bound.indifferent.and Agreed.indifferent).rows (Refused.rowsOnly hu) ⟨hbn.1,ht⟩
    · exact ⟨hbn.1,ht,hbn.2,fun r hr => nomatch hr⟩
    · rintro r hr
      refine ⟨hbn.1,ht,hbn.2,fun x hx => ?_⟩
      cases hx
      exact ⟨asks_listed hr,hset r hr⟩
    · intro record r u _ hc
      have hnew := newClient_createNetwork hbn hc
      have hagreed := ht.createNetwork hbn.1 env record true
      rw [Lands,Safe,hc] at hagreed
      refine ⟨hnew.1.1,hagreed,hnew.1.2,fun x hx => ⟨hnew.2 x hx,fun _ c hcl hcr => ?_⟩⟩
      cases hx
      exact absurd hcr (createNetwork_unbound hbn.1 hc c hcl)
    · exact fun n u answers dbFailed hu => ⟨Bound.indifferent.stored hu.1,Agreed.indifferent.stored hu.2.1,hu.2.2⟩
    · intro n u hu
      exact ⟨hu.1.addClient env hu.2.2.1 fun r hr => (hu.2.2.2 r hr).1,hu.2.1.addClient env dc fun r hr => (hu.2.2.2 r hr).2⟩
    · exact bump_stays _ fun u hu => (Bound.updateUser env _ u hu.1).and (hu.2.updateUser hu.1 env _)

/-- The conditions under which the clients of a network keep one nick. -/
def nickGuards : Guards :=
  { Guards.free with
    nick := Agreed.Shares
    welcome := MayJoin }

theorem nickGuards_stable : nickGuards.Stable where
  emits {s op} es h := by cases op <;> exact h
  bump _ _ := trivial

theorem agreed_observes (env : Env) : Observes env nickGuards (fun s => True ∧ Bound s) Agreed where
  indifferent := Agreed.indifferent
  quiet _ h hf := h.quiet hf
  unbound _ h := h.unbound
  drop {s} p _ h := by
    have hsub : (s.clients.eraseP p) ⊆ s.clients := eraseP_sublist.subset
    exact ⟨fun dc hdc dc' hdc' => h.same dc (hsub hdc) dc' (hsub hdc'),fun dc hdc => h.upstream dc (hsub hdc),
      fun dc hdc => h.derived dc (hsub hdc)⟩
  create record lim hb h _ := h.createNetwork hb.2 env record lim
  update record lim hb h _ := h.updateNetwork hb.2 env record lim
  delete id _ h := h.deleteNetwork id
  user update hb h _ _ := h.updateUser hb.2 env update
  record r f _ h _ := h.setNet r fun _ => rfl
  nick hb h hdc hr hne hg := h.announceNick hb.2 hdc hr hne hg
  connect hb h hp _ := h.connect hb.2 hp
  disconnected c _ h := h.disconnected c
  connectionError {s r err} _ h _ := h.setError r err
  upstreamError {s c err} _ h _ := h.setError _ err
  connNick c nick hb h := h.setConnNick hb.2 c nick
  conn c f _ h hf := h.setConn c fun uc => (hf uc).2
  casemapping r cm _ h := h.setNet r fun _ => rfl
  welcome moment hb h hp hg := h.welcome env moment hb.2 hp hg

theorem load_agreed (user : Database.User) (db : DB) (answers : List Answer) (others : List Other) :
    Agreed (State.load user db answers others) :=
  ⟨fun _ hdc => absurd hdc not_mem_nil,fun _ hdc => absurd hdc not_mem_nil,fun _ hdc => absurd hdc not_mem_nil⟩

/-- Whatever the servers, the clients and the user do, the clients of a network agree on their nick, if none takes
one for itself while the network is disconnected and none joins others then that have another. -/
theorem clients_agree (env : Env) (user : Database.User) (db : DB) (answers : List Answer) (others : List Other)
    (events : List (Nat × UserEvent))
    (hg : AllSteps (step env) (fun s e => nickGuards.event env e.1 s e.2) (State.load user db answers others) events) :
    AllStates (step env) Agreed (State.load user db answers others) events :=
  AllStates.of_steps (fun s => Bound s ∧ Agreed s) ⟨load_bound user db answers others,load_agreed user db answers others⟩
    (fun _ h => h.2)
    (fun _ _ _ h hg ht => ((bound_observes env nickGuards).upholds.and (agreed_observes env).upholds).step (fun _ h => h.1) nickGuards_stable h hg ht) hg

section Sample

/-- The clients of each network have one nick. -/
def agrees (s : State) : Bool :=
  s.clients.all fun dc => s.clients.all fun dc' => dc.network ≠ dc'.network || dc.network = none || dc.nick = dc'.nick

theorem Agreed.agrees (h : Agreed s) : agrees s = true := by
  simp only [Nicks.agrees,all_eq_true,Bool.or_eq_true,decide_eq_true_eq]
  intro dc hdc dc' hdc'
  by_cases hsame : dc.network = dc'.network
  · cases hr : dc.network with
    | none => simp
    | some r => exact .inr (h.same dc hdc dc' hdc' r hr (hsame ▸ hr))
  · exact .inl (.inl hsame)

def jane : Database.User := { Database.newUser "jane" with id := 1, nick := "jane" }

def janeDB : DB where
  users := .single jane (by decide)
  networks := .single ⟨1,{ newNetwork "irc.example.org" with id := 1 }⟩ Int.one_pos
  channels := .empty
  ignores := .empty
  certs := .empty

def janeState : State := State.load jane janeDB (List.replicate 5 ⟨none,0⟩) []

/-- A client of the network. -/
def arrives (id : Nat) : Nat × UserEvent :=
  (0,.downstreamConnected ⟨id,[],1,"","jane",false,false,true⟩)

def renames (id : Nat) (nick : String) : Nat × UserEvent := (0,.downstreamMessage id (.nick nick))

def setsNick (nick : String) : Nat × UserEvent :=
  (0,.userRun ["network","update","irc.example.org","-nick",nick] true)

/-- While the network is disconnected, a nick that one client takes is not told the other, and a client that
connects after the nick was set through the service has another nick than the one that is there. -/
theorem clients_disagree : ¬ AllStates (step Env.sample) Agreed janeState [arrives 1,arrives 2,renames 1 "ada"] ∧
      ¬ AllStates (step Env.sample) Agreed janeState [arrives 1,setsNick "ada",arrives 2] :=
  ⟨not_allStates_of_run (fun _ => Agreed.agrees) (by decide),not_allStates_of_run (fun _ => Agreed.agrees) (by decide)⟩

def connects : Nat × UserEvent := (0,.connected 0 ⟨0,"jane_","","",[],"#",[],false⟩)

/-- The clients have the nick of their network's record, or their network is connected. -/
def settled (s : State) : Bool :=
  s.clients.all fun c => c.network.all fun r =>
    (s.heap r).conn.isSome || c.nick = Database.getNick s.user (s.heap r).record.toNetwork

theorem admits_arrives (h : (settled s && s.user.enabled) = true) (id : Nat) :
    nickGuards.event Env.sample 0 s (arrives id).2 := by
  simp only [Bool.and_eq_true] at h
  change MayJoin s _
  rw [MayJoin,if_pos (by rw [h.2]; rfl)]
  intro r _ hc c hcl hr
  have hall := all_eq_true.mp h.1 c hcl
  simpa [hr,hc] using hall

/-- Every client is bound to a network that is connected. -/
def allConnected (s : State) : Bool := s.clients.all fun c => c.network.all fun r => (s.heap r).conn.isSome

theorem admits_renames (h : allConnected s = true) (id : Nat) (nick : String) :
    nickGuards.event Env.sample 0 s (renames id nick).2 := by
  intro dc hdc _ _
  have hall := all_eq_true.mp h dc hdc
  rw [Guards.request]
  split
  · rename_i hr
    intro hc
    rw [hr] at hall
    simp [hc] at hall
  · trivial

/-- Two clients of one network, with a connection that gives them another nick, and one that takes a nick. -/
theorem clients_agree_jane :
    (run (step Env.sample) janeState [arrives 1,arrives 2,connects,(0,.upstreamNick 0 "ada"),renames 1 "eve"]).isSome =
        true ∧
      AllStates (step Env.sample) Agreed janeState
        [arrives 1,arrives 2,connects,(0,.upstreamNick 0 "ada"),renames 1 "eve"] := by
  have first : ((run (step Env.sample) janeState [arrives 1]).all fun s => settled s && s.user.enabled) = true := by
    decide
  have last : (run (step Env.sample) janeState [arrives 1,arrives 2,connects,(0,.upstreamNick 0 "ada")]).all
      allConnected = true := by decide
  refine ⟨by decide,clients_agree Env.sample jane janeDB _ [] _ ?_⟩
  refine ⟨admits_arrives (by decide) 1,fun t ht => ⟨?_,fun u hu => ⟨trivial,fun v hv => ⟨trivial,fun w hw =>
    ⟨?_,fun _ _ => trivial⟩⟩⟩⟩⟩
  · change step Env.sample janeState (arrives 1) = some t at ht
    simp only [run,ht] at first
    exact admits_arrives first 2
  · change step Env.sample janeState (arrives 1) = some t at ht
    simp only [run,ht,hu,hv,hw,Option.bind_some] at last
    exact admits_renames last 1 "eve"

end Sample

end Sake.Proofs.Nicks
