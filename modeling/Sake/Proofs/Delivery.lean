import Sake.Proofs.Receipts

namespace Sake.Proofs.Delivery
open Sake.Delivery MsgStore Lib.Runs List Option Network

variable {S : Type} {u : Unicode} {ops : Store S} {log : S → String → List Message} {Marks : S → MsgID → Nat → Prop}
  {cm : CaseMapping} {net net' : Network S} {dc : Conn} {id : MsgID} {ds : DeliveredStore} {f : Conn → Conn}
  {client target : String} {before : List Message} {msg : Message} {k : Nat} {as : List Action}

section Steps
variable {st : DeliveredStore × Conn}

theorem Receipts.append (c : Contract ops log Marks) (h : Receipts log Marks cm s ds)
    (e : String) (msg : Message) : Receipts log Marks cm (ops.append s e msg).1 ds :=
  fun t client id hl => (h t client id hl).append c e msg

/-- A ping names its target in the canonical form, so the answer reaches the receipt
of that target. -/
theorem Receipts.catchUp (c : Contract ops log Marks)
    (names : List String) (h : Receipts log Marks net.casemap net.store st.1) :
    Receipts log Marks net.casemap net.store (names.foldl (net.catchUp u ops) st).1 := by
  induction names generalizing st with
  | nil => exact h
  | cons name names ih =>
    apply ih
    unfold catchUp
    split
    · exact h
    · exact h.storeID (recorded_last c _) _

theorem ping_of_catchUps {names : List String}
    (h : Sent.ping id ∈ (names.foldl (net.catchUp u ops) st).2.out) : Sent.ping id ∈ st.2.out := by
  induction names generalizing st with
  | nil => exact h
  | cons name names ih => exact ping_of_catchUp (ih h)

variable (h : Sound log Marks cm net)
include h

/-- Writing to the connections is sound when every new ping names a recorded message. -/
theorem Sound.mapConns (channels : CaseMappingMap Channel) (hf : ∀ dc id, Sent.ping id ∈ (f dc).out →
      Sent.ping id ∈ dc.out ∨ ∃ t, Recorded log Marks net.store id (cm.apply t)) :
    Sound log Marks cm { net with channels, conns := net.conns.map f } := by
  refine ⟨h.casemap,h.receipts,?_⟩
  intro dc hdc id hp
  obtain ⟨dc',hdc',rfl⟩ := mem_map.mp hdc
  rcases hf dc' id hp with hold | hnew
  · exact h.pings dc' hdc' id hold
  · exact hnew

theorem Sound.ackMsgID (hdc : dc ∈ net.conns)
    (hp : Sent.ping id ∈ dc.out) : Sound log Marks cm (net.ackMsgID dc id) := by
  obtain ⟨t,ht⟩ := h.pings dc hdc id hp
  have hk : cm.apply id.target = cm.apply t := by rw [ht.1,CaseMapping.apply_apply]
  obtain ⟨rfl,hr,hpings⟩ := h
  unfold ackMsgID
  split
  · exact ⟨rfl,hr.storeID (hk ▸ ht) _,hpings⟩
  · exact ⟨rfl,hr,hpings⟩

theorem Sound.detach (ch : Channel) : Sound log Marks cm (net.detach ops ch) := by
  unfold Network.detach
  split
  · exact h
  apply h.mapConns
  intro dc id hp
  simp only [Conn.send,mem_append,mem_singleton,reduceCtorEq,or_false] at hp
  exact .inl hp

theorem Sound.attach (ch : Channel) : Sound log Marks cm (net.attach u ops ch) := by
  unfold Network.attach
  split
  · exact h
  apply h.mapConns
  intro dc id hp
  left
  have hj : Sent.ping id ∈ (dc.send [.join ch.name]).out := by
    split at hp
    · exact hp
    · exact ping_of_backlog hp
  simpa only [Conn.send,mem_append,mem_singleton,reduceCtorEq,or_false] using hj

variable (c : Contract ops log Marks)
include c

theorem Sound.firstReceipts (entity : String) : Receipts log Marks cm net.store (net.firstReceipts ops entity) := by
  obtain ⟨rfl,hr,-⟩ := h
  unfold firstReceipts
  split
  · exact hr.storeAll (recorded_last c _) _
  · exact hr

theorem Sound.appendLog (entity : String) (msg : Message) :
    Sound log Marks cm (net.appendLog ops entity msg).1 ∧ ∀ id, (net.appendLog ops entity msg).2 = some id →
        ∃ t, Recorded log Marks (net.appendLog ops entity msg).1.store id (cm.apply t) := by
  unfold Network.appendLog
  split
  · refine ⟨⟨h.casemap,(h.firstReceipts c entity).append c _ msg,?_⟩,?_⟩
    · intro dc hdc id hid
      obtain ⟨t,ht⟩ := h.pings dc hdc id hid
      exact ⟨t,ht.append c _ msg⟩
    · intro id hid
      cases hid
      exact ⟨entity,h.casemap ▸ recorded_append c _ msg⟩
  · exact ⟨h,fun id hid => by cases hid⟩

theorem Sound.produce (target : String) (msg : Message)
    (originID : Nat) (blocked : Bool) : Sound log Marks cm (net.produce u ops target msg originID blocked) := by
  unfold Network.produce
  split
  rename_i net' msgID heq
  have hs : Sound log Marks cm net' ∧ ∀ id, msgID = some id → ∃ t, Recorded log Marks net'.store id (cm.apply t) := by
    split at heq
    · cases heq
      exact ⟨h,fun id hid => by cases hid⟩
    · have ha := h.appendLog c target msg
      rw [heq] at ha
      exact ha
  apply hs.1.mapConns net'.channels
  intro dc id hp
  exact (ping_of_forward hp).imp_right (hs.2 id)

theorem Sound.connect (hdc : dc.out = []) : Sound log Marks cm { (net.welcome u ops dc).1 with
      conns := (net.welcome u ops dc).1.conns ++ [(net.welcome u ops dc).2] } := by
  obtain ⟨rfl,hr,hp⟩ := h
  unfold welcome
  split
  · refine ⟨rfl,hr,?_⟩
    intro d hd id hid
    rcases mem_append.mp hd with hold | hnew
    · exact hp d hold id hid
    · cases mem_singleton.mp hnew
      rw [hdc] at hid
      cases hid
  · refine ⟨rfl,hr.catchUp c _,?_⟩
    intro d hd id hid
    rcases mem_append.mp hd with hold | hnew
    · exact hp d hold id hid
    cases mem_singleton.mp hnew
    have hold := ping_of_catchUps hid
    rw [hdc] at hold
    cases hold

theorem step_sound (hs : step u ops net a = some net') : Sound log Marks cm net' := by
  cases a with
  | produce target msg originID blocked =>
    cases hs
    exact h.produce c target msg originID blocked
  | pong connID id =>
    obtain ⟨dc,hf,rfl⟩ := map_eq_some_iff.mp hs
    have hp := List.find?_some hf
    simp only [Bool.and_eq_true,contains_iff_mem] at hp
    exact h.ackMsgID (mem_of_find?_eq_some hf) hp.2
  | connect dc =>
    simp only [step] at hs
    split at hs
    · rename_i hout
      cases hs
      exact h.connect c (isEmpty_iff.mp hout)
    · cases hs
  | disconnect connID =>
    cases hs
    exact ⟨h.casemap,h.receipts,fun dc hdc => h.pings dc (mem_filter.mp hdc).1⟩
  | detach channel =>
    obtain ⟨ch,-,rfl⟩ := map_eq_some_iff.mp hs
    exact h.detach ch
  | attach channel =>
    obtain ⟨ch,-,rfl⟩ := map_eq_some_iff.mp hs
    exact h.attach ch
  | configure nick ignores channels =>
    cases hs
    exact ⟨h.casemap,h.receipts,h.pings⟩

end Steps

/-- A step that connects the given client. -/
def connects (client : String) : Action → Bool
  | .connect dc => dc.clientName == client
  | _ => false

/-- A step that may store a text under the given target. -/
def storesText (cm : CaseMapping) (target : String) : Action → Bool
  | .produce t msg _ _ => cm.apply t == cm.apply target && msg.isText
  | _ => false

section Away
variable {t : String}

/-- While a client is away: its receipt for the target stands for a place at or before
`msg`, and at most `k` texts came after `msg`. -/
structure Away (log : S → String → List Message) (Marks : S → MsgID → Nat → Prop)
    (cm : CaseMapping) (client target : String) (before : List Message) (msg : Message) (k : Nat)
    (net : Network S) : Prop where
  casemap : net.casemap = cm
  gone : ∀ dc ∈ net.conns, dc.clientName ≠ client
  receipt : ∃ id n, net.delivered.loadID cm target client = some id ∧ id.target = cm.apply target ∧
    Marks net.store id n ∧ n ≤ before.length
  kept : ∃ after, log net.store (cm.apply target) = before ++ msg :: after ∧ (after.filter Message.isText).length ≤ k

/-- Most steps touch neither the log nor the client's receipt. -/
theorem Away.keep (h : Away log Marks cm client target before msg k net) (hcm : net'.casemap = net.casemap)
    (hstore : net'.store = net.store)
    (hload : net'.delivered.loadID cm target client = net.delivered.loadID cm target client)
    (hconns : ∀ dc ∈ net'.conns, dc.clientName ≠ client) : Away log Marks cm client target before msg k net' := by
  refine ⟨hcm.trans h.casemap,hconns,?_,?_⟩
  · rw [hload,hstore]
    exact h.receipt
  · rw [hstore]
    exact h.kept

theorem hasTarget_congr (h : cm.apply t = cm.apply t') : ds.hasTarget cm t = ds.hasTarget cm t' := by
  unfold DeliveredStore.hasTarget CaseMappingMap.has
  rw [CaseMappingMap.get_congr h]

/-- The rule for first messages leaves a receipt that is there alone. -/
theorem loadID_firstReceipts (entity : String) (h : net.delivered.loadID net.casemap t client = some id) :
    (net.firstReceipts ops entity).loadID net.casemap t client = some id := by
  unfold firstReceipts
  split
  · rename_i hnew
    simp only [Bool.and_eq_true] at hnew
    rw [loadID_storeAll_target,h]
    intro hk
    rw [hasTarget_congr hk,hasTarget_of_loadID h] at hnew
    cases hnew.2
  · exact h

/-- A client that has a receipt gets one for a target nobody has one for. -/
theorem loadID_first (hc : client ∈ net.delivered.clients) (ht : net.delivered.hasTarget net.casemap t = false) :
    (net.firstReceipts ops t).loadID net.casemap t client = some (ops.lastMsgID net.store (net.casemap.apply t)) := by
  unfold firstReceipts
  rw [if_pos (by simp [isEmpty_of_mem_clients hc,ht])]
  exact loadID_storeAll hc

theorem gone_mapConns {conns : List Conn} (h : ∀ dc ∈ conns, dc.clientName ≠ client)
    (hf : ∀ dc, (f dc).clientName = dc.clientName) : ∀ dc ∈ conns.map f, dc.clientName ≠ client := by
  intro dc hdc
  obtain ⟨dc',hdc',rfl⟩ := mem_map.mp hdc
  rw [hf]
  exact h dc' hdc'

theorem mem_rtake_of_suffix {xs ys : List α} {x : α} (h : ys.length ≤ n) (hx : x ∈ ys) : x ∈ (xs ++ ys).rtake n := by
  rw [List.rtake,drop_append_of_le_length (by rw [length_append]; omega)]
  exact mem_append_right _ hx

section
variable (h : Away log Marks cm client target before msg k net)
include h

theorem Away.more (d : Nat) : Away log Marks cm client target before msg (k + d) net := by
  obtain ⟨after,hlog,hk⟩ := h.kept
  exact ⟨h.casemap,h.gone,h.receipt,after,hlog,by omega⟩

theorem Away.connect (hdc : dc.clientName ≠ client) :
    Away log Marks cm client target before msg k { (net.welcome u ops dc).1 with
      conns := (net.welcome u ops dc).1.conns ++ [(net.welcome u ops dc).2] } := by
  unfold welcome
  split
  · refine h.keep rfl rfl rfl ?_
    intro d hd
    rcases mem_append.mp hd with hold | hnew
    · exact h.gone d hold
    · cases mem_singleton.mp hnew
      exact hdc
  · refine h.keep rfl rfl ?_ ?_
    · rw [← h.casemap]
      exact loadID_catchUp_client _ hdc target
    · intro d hd
      rcases mem_append.mp hd with hold | hnew
      · exact h.gone d hold
      · cases mem_singleton.mp hnew
        rw [catchUps_clientName]
        exact hdc

variable (c : Contract ops log Marks)
include c

theorem Away.appendLog (entity : String) (msg' : Message) : Away log Marks cm client target before msg
      (k + (cm.apply entity == cm.apply target && msg'.isText).toNat)
      (net.appendLog ops entity msg').1 := by
  obtain ⟨rfl,hgone,⟨id,n,hl,ht,hm,hn⟩,after,hlog,hk⟩ := h
  unfold appendLog
  split
  · refine ⟨rfl,hgone,⟨id,n,loadID_firstReceipts entity hl,ht,c.marks_append _ _ _ _ _ hm,hn⟩,?_⟩
    by_cases he : net.casemap.apply target = net.casemap.apply entity
    · refine ⟨after ++ [msg'],?_,?_⟩
      · change log (ops.append net.store (net.casemap.apply entity) msg').1 _ = _
        rw [he,c.append_log,← he,hlog,append_assoc,cons_append]
      · rw [filter_append,length_append]
        cases ht : msg'.isText <;> simp [he,ht,hk]
    · refine ⟨after,?_,by omega⟩
      change log (ops.append net.store (net.casemap.apply entity) msg').1 _ = _
      rw [c.append_other _ _ _ _ he,hlog]
  · exact ⟨rfl,hgone,⟨id,n,hl,ht,hm,hn⟩,after,hlog,by omega⟩

theorem Away.produce (t : String) (msg' : Message) (originID : Nat) (blocked : Bool) :
    Away log Marks cm client target before msg
      (k + (cm.apply t == cm.apply target && msg'.isText).toNat)
      (net.produce u ops t msg' originID blocked) := by
  unfold Network.produce
  split
  rename_i net' msgID heq
  have ha : Away log Marks cm client target before msg
      (k + (cm.apply t == cm.apply target && msg'.isText).toNat) net' := by
    split at heq
    · cases heq
      exact h.more _
    · have ha := h.appendLog c t msg'
      rw [heq] at ha
      exact ha
  exact ha.keep rfl rfl rfl (gone_mapConns ha.gone (forward_clientName t msg' msgID originID blocked))

theorem step_away (ha : connects client a = false) (hs : step u ops net a = some net') :
    Away log Marks cm client target before msg (k + (storesText cm target a).toNat) net' := by
  cases a with
  | produce t msg' originID blocked =>
    cases hs
    exact h.produce c t msg' originID blocked
  | pong connID id =>
    obtain ⟨dc,hf,rfl⟩ := map_eq_some_iff.mp hs
    have hne := h.gone dc (mem_of_find?_eq_some hf)
    unfold Network.ackMsgID
    split
    · refine h.keep rfl rfl ?_ h.gone
      rw [← h.casemap]
      exact loadID_storeID_client hne
    · exact h
  | connect dc =>
    simp only [step] at hs
    split at hs
    · cases hs
      exact h.connect (by simpa [connects] using ha)
    · cases hs
  | disconnect connID =>
    cases hs
    exact h.keep rfl rfl rfl fun dc hdc => h.gone dc (mem_filter.mp hdc).1
  | detach channel =>
    obtain ⟨ch,-,rfl⟩ := map_eq_some_iff.mp hs
    unfold Network.detach
    split
    · exact h
    · exact h.keep rfl rfl rfl (gone_mapConns h.gone fun _ => rfl)
  | attach channel =>
    obtain ⟨ch,-,rfl⟩ := map_eq_some_iff.mp hs
    unfold Network.attach
    split
    · exact h
    refine h.keep rfl rfl rfl (gone_mapConns h.gone ?_)
    intro dc
    split
    · rfl
    · exact backlog_clientName _ ch.name _
  | configure nick ignores channels =>
    cases hs
    exact h.keep rfl rfl rfl h.gone

/-- Until the client connects again, only texts that came in since count. -/
theorem run_away (has : ∀ a ∈ as, connects client a = false) (hr : run (step u ops) net as = some net') :
    Away log Marks cm client target before msg (k + (as.filter (storesText cm target)).length) net' := by
  induction as generalizing net k with
  | nil =>
    cases hr
    exact h
  | cons a as ih =>
    obtain ⟨mid,hs,hrest⟩ := bind_eq_some_iff.mp hr
    have hmid := step_away h c (has a mem_cons_self) hs
    have hend := ih hmid (fun b hb => has b (mem_cons_of_mem _ hb)) hrest
    cases ht : storesText cm target a with
    | true => simpa [ht,Nat.add_assoc,Nat.add_comm 1] using hend
    | false => simpa [ht] using hend

/-- The message is among the newest texts behind the client's receipt. -/
theorem Away.loaded (htext : msg.isText = true) (hk : k < backlogLimit) :
    ∃ id, net.delivered.loadID cm target client = some id ∧
      msg ∈ ops.loadLatestID net.store id (cm.apply target) backlogLimit := by
  obtain ⟨id,n,hl,ht,hm,hn⟩ := h.receipt
  obtain ⟨after,hlog,hafter⟩ := h.kept
  refine ⟨id,hl,?_⟩
  have hload := c.load_latest net.store id n backlogLimit hm
  rw [ht,hlog,drop_append_of_le_length hn,filter_append] at hload
  rw [hload]
  apply mem_rtake_of_suffix
  · rw [filter_cons_of_pos htext,length_cons]
    omega
  · exact mem_filter.mpr ⟨mem_cons_self,htext⟩

end

section
variable (c : Contract ops log Marks) (h : Sound log Marks cm net) (hgone : ∀ dc ∈ net.conns, dc.clientName ≠ client)
  (hclient : client ∈ net.delivered.clients)
  (hrule : (net.delivered.loadID cm target client).isSome ∨ net.delivered.hasTarget cm target = false)
include c h hgone hclient hrule

/-- The message that just came in is behind the client's receipt, which was there
before or is made now. -/
theorem Sound.away (hlogged : net.logged target msg = true) :
    Away log Marks cm client target (log net.store (cm.apply target)) msg 0
      (net.appendLog ops target msg).1 := by
  have hcm := h.casemap
  subst hcm
  unfold Network.appendLog
  rw [if_pos hlogged]
  refine ⟨rfl,hgone,?_,[],c.append_log _ _ _,le_rfl⟩
  rcases hrule with hl | ht
  · obtain ⟨id,hid⟩ := isSome_iff_exists.mp hl
    obtain ⟨htarget,n,hn,hm⟩ := h.receipts target client id hid
    exact ⟨id,n,loadID_firstReceipts target hid,htarget,c.marks_append _ _ _ _ _ hm,hn⟩
  · exact ⟨_,_,loadID_first hclient ht,c.last_target _ _,
      c.marks_append _ _ _ _ _ (c.last_marks _ _),le_rfl⟩

theorem Sound.away_produce (hne : target ≠ "") (hlogged : net.logged target msg = true) (originID : Nat) (blocked : Bool) :
    Away log Marks cm client target (log net.store (cm.apply target)) msg 0
      (net.produce u ops target msg originID blocked) := by
  have ha := h.away c hgone hclient hrule hlogged
  unfold Network.produce
  rw [if_neg hne]
  exact ha.keep rfl rfl rfl (gone_mapConns ha.gone (forward_clientName _ _ _ _ _))

end

end Away

section Replay

/-- How a backlog passes a message on: as it is, or for a detached channel as a notice
if the channel's settings ask for one. -/
def Replayed (u : Unicode) (net : Network S) (target : String) (msg : Message) (out : List Sent) : Prop :=
  match net.detachedChannel target with
  | some ch => net.detachedMessageNeedsRelay u ch msg = true →
      ∀ sent ∈ net.relayDetachedMessage u msg, sent ∈ out
  | none => ∃ name, net.casemap.apply name = net.casemap.apply target ∧ .history name msg ∈ out

theorem detachedChannel_congr (h : net.casemap.apply a = net.casemap.apply b) :
    net.detachedChannel a = net.detachedChannel b := by
  unfold detachedChannel
  rw [CaseMappingMap.get_congr h]

theorem replayed_of_item (hk : net.casemap.apply name = net.casemap.apply target)
    (h : ∀ sent ∈ net.backlogItem u name msg, sent ∈ out) : Replayed u net target msg out := by
  unfold backlogItem at h
  rw [detachedChannel_congr hk] at h
  unfold Replayed
  cases hch : net.detachedChannel target with
  | none =>
    simp only [hch] at h
    exact ⟨name,hk,h _ mem_cons_self⟩
  | some ch =>
    simp only [hch] at h
    intro hn
    rw [if_pos hn] at h
    exact h

theorem Away.replayed (c : Contract ops log Marks)
    (h : Away log Marks net.casemap client target before msg k net) (htext : msg.isText = true)
    (hk : k < backlogLimit) (hdc : dc.clientName = client) (hch : dc.chathistory = false) :
    Replayed u net target msg (net.welcome u ops dc).2.out := by
  subst hdc
  obtain ⟨id,hl,hmem⟩ := h.loaded c htext hk
  have hfirst : net.attached dc.clientName = false := by simpa [attached] using h.gone
  obtain ⟨name,hname,hout⟩ := @catchUp_replays _ _ S ops u net (net.delivered,dc) _ hch hl (exists_target_of_loadID hl)
  unfold welcome
  rw [if_neg (by simp [hch,hfirst])]
  exact replayed_of_item hname (hout msg hmem)

/-- In every run, a text stored while a client is away is part of the backlog the
client is sent when it comes back, provided the client has a receipt for the target at
that time or nobody has one. -/
theorem away_text_replayed (c : Contract ops log Marks) {start net net' : Network S}
    {as bs : List Action} {client target : String} {msg : Message} {originID : Nat} {blocked : Bool}
    {dc : Conn} (hconns : start.conns = [])
    (hreceipts : Receipts log Marks start.casemap start.store start.delivered)
    (hr : run (step u ops) start as = some net)
    (hclient : client ∈ net.delivered.clients) (haway : net.attached client = false)
    (hrule : (net.delivered.loadID net.casemap target client).isSome ∨
      net.delivered.hasTarget net.casemap target = false)
    (htext : msg.isText = true) (hne : target ≠ "") (hlogged : net.logged target msg = true)
    (hr' : run (step u ops) net (.produce target msg originID blocked :: bs) = some net')
    (hbs : ∀ a ∈ bs, connects client a = false)
    (hlimit : (bs.filter (storesText net.casemap target)).length < backlogLimit)
    (hdc : dc.clientName = client) (hch : dc.chathistory = false) :
    Replayed u net' target msg (net'.welcome u ops dc).2.out := by
  have hstart : Sound log Marks start.casemap start := ⟨rfl,hreceipts,by simp [hconns]⟩
  have hsound := run_invariant (Sound log Marks start.casemap) hstart (fun _ _ _ h hs => step_sound h c hs) hr
  have hgone : ∀ dc ∈ net.conns, dc.clientName ≠ client := by simpa [Network.attached] using haway
  rw [hsound.casemap] at hrule hlimit
  have hproduced := hsound.away_produce c (u := u) hgone hclient hrule hne hlogged originID blocked
  have hend := run_away hproduced c hbs hr'
  have hcm := hend.casemap
  rw [← hcm] at hend hlimit
  exact hend.replayed c htext (by omega) hdc hch

end Replay

section Example

def entityLog (s : List (String × Message)) (e : String) : List Message :=
  (s.filter fun entry => entry.1 == e).map Prod.snd

/-- A store that keeps everything and whose IDs count the messages of an entity. -/
def plainStore : Store (List (String × Message)) where
  lastMsgID s e := ⟨1,e,.memory (entityLog s e).length⟩
  append s e msg := (s ++ [(e,msg)],⟨1,e,.memory ((entityLog s e).length + 1)⟩)
  loadLatestID s id e limit :=
    match id.body with
    | .memory n => (((entityLog s e).drop n).filter Message.isText).rtake limit
    | _ => []

theorem plainStore_contract : Contract plainStore entityLog fun _ id n => id.body = .memory n where
  last_target _ _ := rfl
  last_marks _ _ := rfl
  append_target _ _ _ := rfl
  append_marks _ _ _ := rfl
  append_log s e msg := by simp [entityLog,plainStore]
  append_other s e msg e' h := by simp [entityLog,plainStore,Ne.symm h]
  marks_append _ _ _ _ _ h := h
  load_latest s id n limit h := by simp [plainStore,h]

def hello : Message := ⟨[],some ⟨"alice","a","host"⟩,"PRIVMSG",["#go","hello"]⟩

def laptop : Conn where
  id := 1
  clientName := "laptop"
  chathistory := false
  echoMessage := false
  blockedSub := false
  out := []

theorem me_named : "me" ≠ "" := by decide

/-- A network right after the start, with the given saved channels. -/
def restarted (channels : CaseMappingMap Channel) : Network (List (String × Message)) where
  id := 1
  casemap := .rfc1459
  nick := ⟨"me",me_named⟩
  ignores := []
  delivered := .empty
  channels := channels
  conns := []
  store := []

/-- The laptop acknowledges one message and leaves. -/
def visit : List Action :=
  [.connect laptop,.produce "#go" hello 0 false,.pong 1 ⟨1,"#go",.memory 1⟩,.disconnect 1]

def visited (channels : CaseMappingMap Channel) : Option (Network (List (String × Message))) :=
  run (step .ascii plainStore) (restarted channels) visit

/-- Away from two messages of `#go`, the laptop is sent the first when it is back. -/
theorem laptop_sent_backlog : ∃ net net', visited .empty = some net ∧
      run (step .ascii plainStore) net [.produce "#Go" hello 0 false,.produce "#go" hello 0 false]
        = some net' ∧
      Replayed .ascii net' "#Go" hello (net'.welcome .ascii plainStore laptop).2.out := by
  have hr : run (step .ascii plainStore) (restarted .empty) visit = some ((visited .empty).get rfl) := rfl
  have hr' : run (step .ascii plainStore) ((visited .empty).get rfl)
      [.produce "#Go" hello 0 false,.produce "#go" hello 0 false] = some _ := rfl
  refine ⟨_,_,hr,hr',?_⟩
  exact away_text_replayed plainStore_contract rfl (fun _ _ _ h => by cases h) hr
    (by decide) (by decide) (.inl (by decide)) (by decide) (by decide) (by decide)
    hr' (by decide) (by decide) rfl rfl

/-- `#go`, saved as detached with the settings a new channel has. -/
def detachedGo : CaseMappingMap Channel := ⟨[("#go",⟨"#go",true,none,.default,.default⟩)]⟩

/-- A message of a detached channel that does not mention the user is left out of the
backlog, although the client has a receipt for the channel. -/
theorem detached_text_not_replayed : ∃ net net', visited detachedGo = some net ∧ "laptop" ∈ net.delivered.clients ∧
      net.attached "laptop" = false ∧ hello.isText = true ∧ net.logged "#go" hello = true ∧
      run (step .ascii plainStore) net [.produce "#go" hello 0 false] = some net' ∧
      entityLog net'.store "#go" = entityLog net.store "#go" ++ [hello] ∧
      (net'.welcome .ascii plainStore laptop).2.out = [] := by
  refine ⟨(visited detachedGo).get rfl,_,rfl,?_,?_,?_,?_,rfl,?_,?_⟩ <;> decide

end Example

end Sake.Proofs.Delivery
