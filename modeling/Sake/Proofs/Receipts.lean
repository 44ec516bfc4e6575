import Mathlib.Data.List.Dedup
import Mathlib.Data.List.Induction
import Sake.Delivery

namespace Sake.Proofs.Delivery
open Sake.Delivery MsgStore Lib.Runs List CaseMappingMap Network DeliveredStore

variable {cm : CaseMapping} {ds : DeliveredStore} {t : String} {id : MsgID} {names : List String} {S : Type}
  {ops : Store S}

section Receipts
variable {c t' c' : String}

theorem lookup_filter_ne {clients : DeliveredClientMap} (h : c ≠ c') :
    (clients.filter fun e => c != e.1).lookup c' = clients.lookup c' := by
  induction clients with
  | nil => rfl
  | cons e clients ih =>
    obtain ⟨name,id⟩ := e
    cases hn : c == name with
    | true =>
      cases beq_iff_eq.mp hn
      have hb : (c' == c) = false := by simpa using Ne.symm h
      simp [lookup_cons,hb,ih]
    | false =>
      have hne : c ≠ name := by simpa using hn
      simp [hne,lookup_cons,ih]

theorem loadID_storeID_self (h : cm.apply t = cm.apply t') : (ds.storeID cm t c id).loadID cm t' c = some id := by
  unfold storeID loadID
  rw [get_set_self ds _ h]
  simp

theorem loadID_storeID_client (h : c ≠ c') : (ds.storeID cm t c id).loadID cm t' c' = ds.loadID cm t' c' := by
  unfold storeID loadID
  by_cases ht : cm.apply t = cm.apply t'
  · have hb : (c' == c) = false := by simpa using Ne.symm h
    rw [get_set_self ds _ ht,← get_congr ht]
    cases ds.get cm t with
    | none => simp [lookup_cons,hb]
    | some clients => simp [lookup_cons,hb,lookup_filter_ne h]
  · rw [get_set_of_ne ds _ ht]

theorem loadID_storeID_target (h : cm.apply t ≠ cm.apply t') :
    (ds.storeID cm t c id).loadID cm t' c' = ds.loadID cm t' c' := by
  unfold storeID loadID
  rw [get_set_of_ne ds _ h]

theorem loadID_congr (h : cm.apply t = cm.apply t') : ds.loadID cm t c = ds.loadID cm t' c := by
  unfold loadID
  rw [get_congr h]

/-- A receipt is either the one just stored or one that was there before. -/
theorem loadID_storeID_cases (h : (ds.storeID cm t c id).loadID cm t' c' = some id') :
    (cm.apply t = cm.apply t' ∧ id' = id) ∨ ds.loadID cm t' c' = some id' := by
  by_cases hc : c = c'
  · subst hc
    by_cases ht : cm.apply t = cm.apply t'
    · rw [loadID_storeID_self ht] at h
      exact .inl ⟨ht,(Option.some.inj h).symm⟩
    · rw [loadID_storeID_target ht] at h
      exact .inr h
  · rw [loadID_storeID_client hc] at h
    exact .inr h

theorem hasTarget_of_loadID (h : ds.loadID cm t c = some id) : ds.hasTarget cm t = true := by
  obtain ⟨clients,hg,-⟩ := Option.bind_eq_some_iff.mp h
  simp [hasTarget,CaseMappingMap.has,hg]

theorem exists_target_of_loadID (h : ds.loadID cm t c = some id) : ∃ name ∈ ds.names, cm.apply name = cm.apply t := by
  obtain ⟨clients,hg,-⟩ := Option.bind_eq_some_iff.mp h
  exact exists_name_of_get hg

theorem isEmpty_of_mem_clients (h : c ∈ ds.clients) : ds.isEmpty = false := by
  obtain ⟨entries⟩ := ds
  cases entries with
  | nil => cases mem_dedup.mp h
  | cons e entries => rfl

theorem loadID_storeAll (hc : c ∈ names) :
    (names.foldl (fun ds name => ds.storeID cm t name id) ds).loadID cm t c = some id := by
  induction names using List.reverseRecOn with
  | nil => cases hc
  | append_singleton names name ih =>
    rw [foldl_append,foldl_cons,foldl_nil]
    by_cases hn : name = c
    · subst hn
      exact loadID_storeID_self rfl
    · rw [loadID_storeID_client hn]
      apply ih
      simpa [Ne.symm hn] using hc

theorem loadID_storeAll_target (ht : cm.apply t ≠ cm.apply t') :
    (names.foldl (fun ds name => ds.storeID cm t name id) ds).loadID cm t' c = ds.loadID cm t' c := by
  induction names generalizing ds with
  | nil => rfl
  | cons name names ih => rw [foldl_cons,ih,loadID_storeID_target ht]

end Receipts

section Records
variable {log : S → String → List Message} {Marks : S → MsgID → Nat → Prop} {s : S}

/-- An ID that stands for a place in the log of `e`. -/
def Recorded (log : S → String → List Message) (Marks : S → MsgID → Nat → Prop) (s : S)
    (id : MsgID) (e : String) : Prop :=
  id.target = e ∧ ∃ n, n ≤ (log s e).length ∧ Marks s id n

section
variable (c : Contract ops log Marks)
include c

theorem recorded_last (e : String) : Recorded log Marks s (ops.lastMsgID s e) e :=
  ⟨c.last_target s e,_,le_rfl,c.last_marks s e⟩

theorem recorded_append (e : String) (msg : Message) :
    Recorded log Marks (ops.append s e msg).1 (ops.append s e msg).2 e := by
  refine ⟨c.append_target s e msg,_,?_,c.append_marks s e msg⟩
  rw [c.append_log,length_append,length_singleton]

theorem log_append (e e' : String) (msg : Message) : ∃ added, log (ops.append s e' msg).1 e = log s e ++ added := by
  by_cases he : e = e'
  · subst he
    exact ⟨[msg],c.append_log s e msg⟩
  · exact ⟨[],by rw [c.append_other s e' msg e he,append_nil]⟩

theorem Recorded.append (h : Recorded log Marks s id e) (e' : String)
    (msg : Message) : Recorded log Marks (ops.append s e' msg).1 id e := by
  obtain ⟨ht,n,hn,hm⟩ := h
  obtain ⟨added,ha⟩ := log_append c e e' msg
  refine ⟨ht,n,?_,c.marks_append s e' msg id n hm⟩
  rw [ha,length_append]
  omega

end

/-- Every receipt stands for a place in the log of its target. -/
def Receipts (log : S → String → List Message) (Marks : S → MsgID → Nat → Prop)
    (cm : CaseMapping) (s : S) (ds : DeliveredStore) : Prop :=
  ∀ t client id, ds.loadID cm t client = some id → Recorded log Marks s id (cm.apply t)

theorem Receipts.storeID (h : Receipts log Marks cm s ds) (hid : Recorded log Marks s id (cm.apply t))
    (client : String) : Receipts log Marks cm s (ds.storeID cm t client id) := by
  intro t' client' id' hl
  rcases loadID_storeID_cases hl with ⟨ht,rfl⟩ | hold
  · exact ht ▸ hid
  · exact h t' client' id' hold

theorem Receipts.storeAll (hid : Recorded log Marks s id (cm.apply t))
    (names : List String) (h : Receipts log Marks cm s ds) :
    Receipts log Marks cm s (names.foldl (fun ds name => ds.storeID cm t name id) ds) := by
  induction names generalizing ds with
  | nil => exact h
  | cons name names ih => exact ih (h.storeID hid name)

/-- Every ping a connection was sent names a place in a log. -/
def Pinged (log : S → String → List Message) (Marks : S → MsgID → Nat → Prop)
    (cm : CaseMapping) (s : S) (dc : Conn) : Prop :=
  ∀ id, Sent.ping id ∈ dc.out → ∃ t, Recorded log Marks s id (cm.apply t)

/-- What holds between any two events of a network. -/
structure Sound (log : S → String → List Message) (Marks : S → MsgID → Nat → Prop)
    (cm : CaseMapping) (net : Network S) : Prop where
  casemap : net.casemap = cm
  receipts : Receipts log Marks cm net.store net.delivered
  pings : ∀ dc ∈ net.conns, Pinged log Marks cm net.store dc

end Records

section Conns
variable {u : Unicode} {net : Network S} {st : DeliveredStore × Conn} {target client : String} {sent : Sent}
  {dc : Conn} {msg : Message} {msgID : Option MsgID}

theorem advance_out (h : sent ∈ (dc.advanceMessageWithID msg msgID).out) :
    sent ∈ dc.out ∨ ∃ id, msgID = some id ∧ sent = .ping id := by
  cases msgID with
  | none => exact .inl h
  | some id =>
    simp only [Conn.advanceMessageWithID] at h
    split at h
    · exact .inl h
    · rcases mem_append.mp h with hold | hnew
      · exact .inl hold
      · exact .inr ⟨id,rfl,mem_singleton.mp hnew⟩

theorem advance_clientName (dc : Conn) (msg : Message) (msgID : Option MsgID) :
    (dc.advanceMessageWithID msg msgID).clientName = dc.clientName := by
  cases msgID with
  | none => rfl
  | some id =>
    simp only [Conn.advanceMessageWithID]
    split <;> rfl

theorem ping_of_forward (h : Sent.ping id ∈ (net.forward u target msg msgID originID blocked dc).out) :
    Sent.ping id ∈ dc.out ∨ msgID = some id := by
  unfold forward at h
  split at h
  · exact .inl h
  split at h
  · rcases advance_out h with hold | ⟨id',hid,hs⟩
    · simp only [Conn.send,mem_append,mem_singleton,reduceCtorEq,or_false] at hold
      exact .inl hold
    · cases hs
      exact .inr hid
  · rcases advance_out h with hold | ⟨id',hid,hs⟩
    · exact .inl hold
    · cases hs
      exact .inr hid

theorem forward_clientName (target : String) (msg : Message) (msgID : Option MsgID) (originID : Nat) (blocked : Bool)
    (dc : Conn) : (net.forward u target msg msgID originID blocked dc).clientName = dc.clientName := by
  unfold forward
  split
  · rfl
  · split
    · exact advance_clientName _ msg msgID
    · exact advance_clientName dc msg msgID

theorem notice_of_relay (h : sent ∈ net.relayDetachedMessage u msg) : ∃ text, sent = .notice text := by
  unfold relayDetachedMessage at h
  split at h
  · split_ifs at h
    · cases h
    all_goals exact ⟨_,mem_singleton.mp h⟩
  · cases h

theorem ping_not_mem_backlogItem : Sent.ping id ∉ net.backlogItem u target msg := by
  intro h
  unfold backlogItem at h
  split at h
  · split at h
    · obtain ⟨text,ht⟩ := notice_of_relay h
      cases ht
    · cases h
  · cases mem_singleton.mp h

theorem ping_of_backlog {msgID : MsgID} (h : Sent.ping id ∈ (net.sendTargetBacklog u ops dc target msgID).out) :
    Sent.ping id ∈ dc.out := by
  unfold sendTargetBacklog at h
  split at h
  · exact h
  rcases mem_append.mp h with hd | hb
  · exact hd
  · obtain ⟨msg,-,hi⟩ := mem_flatMap.mp hb
    exact absurd hi ping_not_mem_backlogItem

theorem backlog_clientName (dc : Conn) (target : String) (msgID : MsgID) :
    (net.sendTargetBacklog u ops dc target msgID).clientName = dc.clientName := by
  unfold sendTargetBacklog
  split <;> rfl

theorem backlog_chathistory (dc : Conn) (target : String) (msgID : MsgID) :
    (net.sendTargetBacklog u ops dc target msgID).chathistory = dc.chathistory := by
  unfold sendTargetBacklog
  split <;> rfl

theorem backlog_keeps_out {msgID : MsgID}
    (h : sent ∈ dc.out) : sent ∈ (net.sendTargetBacklog u ops dc target msgID).out := by
  unfold sendTargetBacklog
  split
  · exact h
  · exact mem_append_left _ h

theorem catchUp_clientName : (net.catchUp u ops st target).2.clientName = st.2.clientName := by
  unfold catchUp
  split
  · rfl
  · exact backlog_clientName st.2 target _

theorem catchUps_clientName : (names.foldl (net.catchUp u ops) st).2.clientName = st.2.clientName := by
  induction names generalizing st with
  | nil => rfl
  | cons name names ih => rw [foldl_cons,ih,catchUp_clientName]

theorem catchUp_chathistory : (net.catchUp u ops st target).2.chathistory = st.2.chathistory := by
  unfold catchUp
  split
  · rfl
  · exact backlog_chathistory st.2 target _

theorem catchUp_keeps_out (names : List String)
    (h : sent ∈ st.2.out) : sent ∈ (names.foldl (net.catchUp u ops) st).2.out := by
  induction names generalizing st with
  | nil => exact h
  | cons name names ih =>
    apply ih
    unfold catchUp
    split
    · exact h
    · exact backlog_keeps_out h

theorem ping_of_catchUp (h : Sent.ping id ∈ (net.catchUp u ops st target).2.out) : Sent.ping id ∈ st.2.out := by
  unfold catchUp at h
  split at h
  · exact h
  · exact ping_of_backlog h

theorem loadID_catchUp_client (names : List String) (h : st.2.clientName ≠ client) (t : String) :
    (names.foldl (net.catchUp u ops) st).1.loadID net.casemap t client = st.1.loadID net.casemap t client := by
  induction names generalizing st with
  | nil => rfl
  | cons name names ih =>
    have hc : (net.catchUp u ops st name).2.clientName ≠ client := by
      rw [catchUp_clientName]
      exact h
    rw [foldl_cons,ih hc]
    unfold catchUp
    split
    · rfl
    · exact loadID_storeID_client h

theorem loadID_catchUp_target (h : net.casemap.apply name ≠ net.casemap.apply t) :
    (net.catchUp u ops st name).1.loadID net.casemap t client = st.1.loadID net.casemap t client := by
  unfold catchUp
  split
  · rfl
  · exact loadID_storeID_target h

/-- Everything loaded from the client's receipt for a target is replayed, under the
spelling of the target the receipts know. -/
theorem catchUp_replays (hch : st.2.chathistory = false)
    (hl : st.1.loadID net.casemap t st.2.clientName = some lastDelivered)
    (hn : ∃ name ∈ names, net.casemap.apply name = net.casemap.apply t) :
    ∃ name, net.casemap.apply name = net.casemap.apply t ∧
      ∀ msg ∈ ops.loadLatestID net.store lastDelivered (net.casemap.apply t) backlogLimit,
        ∀ sent ∈ net.backlogItem u name msg, sent ∈ (names.foldl (net.catchUp u ops) st).2.out := by
  induction names generalizing st with
  | nil =>
    obtain ⟨name,hm,-⟩ := hn
    cases hm
  | cons name names ih =>
    rw [foldl_cons]
    by_cases hk : net.casemap.apply name = net.casemap.apply t
    · refine ⟨name,hk,?_⟩
      intro msg hmsg sent hs
      apply catchUp_keeps_out
      rw [← loadID_congr hk] at hl
      simp only [catchUp,hl,sendTargetBacklog,hch]
      apply mem_append_right
      exact mem_flatMap.mpr ⟨msg,hk ▸ hmsg,hs⟩
    · apply ih
      · rw [catchUp_chathistory]
        exact hch
      · rw [catchUp_clientName,loadID_catchUp_target hk]
        exact hl
      · obtain ⟨other,hm,ho⟩ := hn
        rcases mem_cons.mp hm with rfl | hm
        · exact absurd ho hk
        · exact ⟨other,hm,ho⟩

end Conns

end Sake.Proofs.Delivery
