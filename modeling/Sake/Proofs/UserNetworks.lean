import Sake.Lib.Handler
import Sake.UserNetworks

namespace Sake.Proofs.UserNetworks
open Lib.Handler Networks Goroutine List Function CaseMappingMap

variable {α : Type} {s : State} {env : Env}

/-- What a command makes of the record of the user. -/
abbrev UserUpdate := Database.User → Except String Database.User

section Calls
variable {a : α}

theorem call_cases (f : Int → DB → Except String (DB × α)) (s : State) :
    (∃ e answers, call f s = .error (.error e) { s with answers, dbFailed := true }) ∨
      ∃ newID answers db a, f newID s.db = .ok (db,a) ∧ call f s = .ok a { s with answers, db } := by
  unfold Goroutine.call
  split
  · exact .inl ⟨_,s.answers,rfl⟩
  split
  · exact .inl ⟨_,_,rfl⟩
  split
  · exact .inl ⟨_,_,rfl⟩
  · rename_i hf
    exact .inr ⟨_,_,_,_,hf,rfl⟩

/-- The code has failed and left everything as it was, but for a call that the database refused. -/
def Refused (s t : State) : Prop := t = s ∨ ∃ answers, t = { s with answers, dbFailed := true }

theorem ofExcept_ok (h : r = .ok a) : ofExcept r s = .ok a s := by
  rw [h]
  rfl

theorem wrap_ok (h : m s = .ok a t) (text : String) : wrap text m s = .ok a t := by
  change EStateM.tryCatch m _ s = _
  simp [EStateM.tryCatch,h]

theorem wrap_error (h : m s = .error (.error e) t) (text : String) :
    wrap text m s = .error (.error (text ++ e)) t := by
  change EStateM.tryCatch m _ s = _
  simp only [EStateM.tryCatch,h]
  rfl

theorem safe_of_error (h : m s = .error e t) (ht : inv t) : Lands inv m s := by
  rw [Lands,Safe,h]
  exact ⟨ht,trivial⟩

theorem safe_of_ok (h : m s = .ok a t) (ht : inv t) : Lands inv m s := by
  rw [Lands,Safe,h]
  exact ht

end Calls

/-- The object but for what changes when its connection goes. -/
def kept (net : Net) : Net := { net with conn := none, stopped := false }

section Kept
theorem record_of_kept (h : kept a = kept b) : a.record = b.record := congrArg (fun net => net.record) h

end Kept

section Objects
variable (env : Env) (s : State) (r : Nat)

theorem setNet_self (f : Net → Net) : (s.setNet r f).heap r = f (s.heap r) := update_self ..

theorem setNet_of_ne (f : Net → Net) (h : x ≠ r) : (s.setNet r f).heap x = s.heap x := update_of_ne h ..

theorem setNet_kept (hf : kept (f (s.heap r)) = kept (s.heap r)) (x : Nat) :
    kept ((s.setNet r f).heap x) = kept (s.heap x) := by
  by_cases hx : x = r
  · subst hx
    rw [setNet_self,hf]
  · rw [setNet_of_ne s r f hx]

theorem disconnect_kept (x : Nat) : kept ((s.disconnect r).heap x) = kept (s.heap x) := by
  unfold State.disconnect
  cases (s.heap r).conn with
  | none => rfl
  | some c => exact setNet_kept s (s.conns c).network (f := fun net => { net with conn := none }) rfl x

theorem removeNetwork_kept (x : Nat) : kept ((s.removeNetwork r).heap x) = kept (s.heap x) :=
  setNet_kept s r (f := fun net => { net with stopped := true }) rfl x

theorem addNetwork_self (net : Net) : (s.addNetwork net).heap s.next = net := update_self ..

theorem addNetwork_of_ne (net : Net) (h : x ≠ s.next) : (s.addNetwork net).heap x = s.heap x := update_of_ne h ..

theorem mem_addNetwork (net : Net) : x ∈ (s.addNetwork net).networks ↔ x ∈ s.networks ∨ x = s.next := by
  refine ((s.alloc net).mem_sorted).trans ?_
  rw [mem_append,mem_singleton]

theorem replaceNetwork_self (record : Network) :
    (s.replaceNetwork env r record).heap s.next = s.copiedNet r record := by
  exact update_self ..

theorem replaceNetwork_kept (record : Network) (h : x ≠ s.next) :
    kept ((s.replaceNetwork env r record).heap x) = kept (s.heap x) := by
  refine Eq.trans ?_ (disconnect_kept s r x)
  refine Eq.trans ?_ (removeNetwork_kept (s.disconnect r) r x)
  exact congrArg kept (addNetwork_of_ne _ _ h)

theorem mem_replaceNetwork (record : Network) :
    x ∈ (s.replaceNetwork env r record).networks ↔ x ∈ s.networks.erase r ∨ x = s.next :=
  mem_addNetwork ..

/-- The networks of a user after one was replaced: the copy, and the others with what they had. -/
theorem replaceNetwork_networks (record : Network) (hx : x ∈ (s.replaceNetwork env r record).networks) :
    x = s.next ∨ (x ∈ s.networks ∧ kept ((s.replaceNetwork env r record).heap x) = kept (s.heap x)) := by
  rcases (mem_replaceNetwork env s r record).mp hx with h | h
  · have hm := mem_of_mem_erase h
    exact .inr ⟨hm,replaceNetwork_kept env s r record (Nat.ne_of_lt (s.fresh x hm))⟩
  · exact .inl h

theorem addNetwork_networks (net : Net) (hx : x ∈ (s.addNetwork net).networks) :
    x = s.next ∨ (x ∈ s.networks ∧ (s.addNetwork net).heap x = s.heap x) := by
  rcases (mem_addNetwork s net).mp hx with h | h
  · exact .inr ⟨h,addNetwork_of_ne s net (Nat.ne_of_lt (s.fresh x h))⟩
  · exact .inl h

end Objects

section Networks

/-- The part of `createNetwork` and `updateNetwork` that looks only. -/
theorem check_cases (hm : Checks m s post) : (∃ e, (m >>= k) s = .error e s) ∨ (post () ∧ (m >>= k) s = k () s) := by
  rcases hm with ⟨a,ha,hpost⟩ | ⟨e,he⟩
  · exact .inr ⟨hpost,bind_ok ha k⟩
  · exact .inl ⟨e,bind_error he k⟩

theorem panicIf_checks (c : Bool) (text : String) : Checks (panicIf c text) s fun _ => c = false := by
  cases c with
  | false => exact Checks.pure rfl
  | true => exact Checks.throw _

theorem checkLimit_checks (enforceLimit : Bool) (record : Network) :
    Checks (checkLimit env enforceLimit record) s fun _ =>
      (enforceLimit && record.enabled) = true → s.canEnableNewNetwork env = .ok () := by
  refine Checks.get_bind ?_
  split
  · cases hc : s.canEnableNewNetwork env with
    | ok a => exact Checks.pure fun _ => rfl
    | error text => exact Checks.throw _
  · rename_i h
    exact Checks.pure fun h' => absurd h' h

theorem checkRecord_checks (record : Network) :
    Checks (checkRecord env record) s fun _ => s.checkNetwork env record = .ok () := by
  refine Checks.get_bind ?_
  cases hc : s.checkNetwork env record with
  | ok a => exact Checks.pure rfl
  | error text => exact Checks.throw _

theorem storeNetwork_cases (record : Network) (s : State) :
    (∃ e answers, storeNetwork record s = .error (.error e) { s with answers, dbFailed := true }) ∨
      ∃ newID answers db id, s.db.storeNetwork newID s.user.id record = .ok (db,id) ∧
        storeNetwork record s = .ok id { s with answers, db } :=
  call_cases (fun newID db => db.storeNetwork newID s.user.id record) s

/-- `createNetwork` leaves everything as it was, or stores the record and adds the network. -/
theorem createNetwork_cases (env : Env) (record : Network) (enforceLimit : Bool) (s : State) :
    (∃ e t, createNetwork env record enforceLimit s = .error e t ∧ Refused s t) ∨ ∃ newID answers db id, record.id = 0 ∧
        ((enforceLimit && record.enabled) = true → s.canEnableNewNetwork env = .ok ()) ∧
        s.checkNetwork env record = .ok () ∧
        s.db.storeNetwork newID s.user.id record = .ok (db,id) ∧
        createNetwork env record enforceLimit s = .ok s.next
          ((({ s with answers, db } : State).addNetwork (newNet { record with id } [] [])).notifyBouncerNetworkState id
            (getNetworkAttrs env s.user (newNet { record with id } [] []))) := by
  unfold createNetwork
  rcases check_cases (panicIf_checks _ _) with ⟨e,he⟩ | ⟨hid,heq⟩
  · exact .inl ⟨e,s,he,.inl rfl⟩
  rw [heq]
  rcases check_cases (checkLimit_checks enforceLimit record) with ⟨e,he⟩ | ⟨hlim,heq⟩
  · exact .inl ⟨e,s,he,.inl rfl⟩
  rw [heq]
  rcases check_cases (checkRecord_checks record) with ⟨e,he⟩ | ⟨hcheck,heq⟩
  · exact .inl ⟨e,s,he,.inl rfl⟩
  rw [heq]
  rcases storeNetwork_cases record s with ⟨e,answers,hs⟩ | ⟨newID,answers,db,id,hdb,hs⟩
  · refine .inl ⟨.error e,_,?_,.inr ⟨answers,rfl⟩⟩
    exact bind_error hs _
  · refine .inr ⟨newID,answers,db,id,by simpa using hid,hlim,hcheck,hdb,?_⟩
    exact bind_ok hs _

/-- `updateNetwork` leaves everything as it was, or stores the record and replaces the network. -/
theorem updateNetwork_cases (env : Env) (record : Network) (enforceLimit : Bool) (s : State) :
    (∃ e t, updateNetwork env record enforceLimit s = .error e t ∧ Refused s t) ∨
      ∃ r newID answers db id, record.id ≠ 0 ∧
        ((enforceLimit && record.enabled) = true → s.canEnableNewNetwork env = .ok ()) ∧
        s.getNetworkByID record.id = some r ∧
        s.checkNetwork env (wipeDefaults s.user record) = .ok () ∧
        s.db.storeNetwork newID s.user.id (wipeDefaults s.user record) = .ok (db,id) ∧
        updateNetwork env record enforceLimit s = .ok s.next
          (({ s with answers, db } : State).replaceNetwork env r (wipeDefaults s.user record)) := by
  unfold updateNetwork
  rcases check_cases (panicIf_checks _ _) with ⟨e,he⟩ | ⟨hid,heq⟩
  · exact .inl ⟨e,s,he,.inl rfl⟩
  rw [heq]
  rcases check_cases (checkLimit_checks enforceLimit record) with ⟨e,he⟩ | ⟨hlim,heq⟩
  · exact .inl ⟨e,s,he,.inl rfl⟩
  rw [heq]
  rw [get_bind]
  rcases check_cases (checkRecord_checks (wipeDefaults s.user record)) with ⟨e,he⟩ | ⟨hcheck,heq⟩
  · exact .inl ⟨e,s,he,.inl rfl⟩
  rw [heq]
  cases hr : s.getNetworkByID (wipeDefaults s.user record).id with
  | none => exact .inl ⟨_,s,rfl,.inl rfl⟩
  | some r =>
    rcases storeNetwork_cases (wipeDefaults s.user record) s with
      ⟨e,answers,hs⟩ | ⟨newID,answers,db,id,hdb,hs⟩
    · refine .inl ⟨.error e,_,?_,.inr ⟨answers,rfl⟩⟩
      exact bind_error hs _
    · refine .inr ⟨r,newID,answers,db,id,by simpa using hid,hlim,hr,hcheck,hdb,?_⟩
      exact bind_ok hs _

theorem updateNetwork_user (record : Network) (enforceLimit : Bool) (s : State) :
    Lands (fun t => t.user = s.user) (updateNetwork env record enforceLimit) s := by
  rcases updateNetwork_cases env record enforceLimit s with
    ⟨e,t,he,rfl | ⟨answers,rfl⟩⟩ | ⟨r,newID,answers,db,id,-,-,-,-,-,hok⟩
  · simp [Safe,he]
  · simp [Safe,he]
  · simp only [Safe,hok]
    rfl

theorem deleteNetwork_cases (id : Int) (s : State) : (∃ e t, deleteNetwork id s = .error e t ∧ Refused s t) ∨
      ∃ r answers db, s.getNetworkByID id = some r ∧ s.db.deleteNetwork id = .ok db ∧ deleteNetwork id s = .ok ()
          ((({ s with answers, db } : State).removeNetwork r).mapClients
            (State.notifyClient (.networkDeleted id))) := by
  unfold deleteNetwork
  rw [get_bind]
  cases hr : s.getNetworkByID id with
  | none => exact .inl ⟨_,s,rfl,.inl rfl⟩
  | some r =>
    rcases call_cases (fun _ db => (db.deleteNetwork id).map fun db => (db,())) s with
      ⟨e,answers,hs⟩ | ⟨newID,answers,db,a,hdb,hs⟩
    · refine .inl ⟨.error e,_,?_,.inr ⟨answers,rfl⟩⟩
      exact bind_error hs _
    refine .inr ⟨r,answers,db,rfl,?_,?_⟩
    · cases hd : s.db.deleteNetwork id with
      | error e => simp [hd,Except.map] at hdb
      | ok db' =>
        simp only [hd,Except.map,Except.ok.injEq,Prod.mk.injEq] at hdb
        rw [hdb.1]
    · exact bind_ok hs _

theorem setRecord_record :
    ((s.setRecord r f).heap x).record = if x = r then f (s.heap r).record else (s.heap x).record := by
  unfold State.setRecord
  split
  · rename_i hx
    rw [hx,setNet_self]
  · rename_i hx
    rw [setNet_of_ne s r _ hx]

theorem setRecord_getChannel (s : State) (r : Nat) (f : Network → Network) (x : Nat) (name : String) :
    (s.setRecord r f).getChannel x name = s.getChannel x name := by
  unfold State.setRecord State.getChannel
  by_cases hx : x = r
  · rw [hx,setNet_self]
  · rw [setNet_of_ne s r _ hx]

/-- The live record is changed even if the call fails. -/
theorem mutateNetwork_cases (r : Nat) (f : Network → Network) (s : State) :
    (∃ e answers, mutateNetwork r f s = .error e { s.setRecord r f with answers, dbFailed := true }) ∨
      ∃ newID answers db id, s.db.storeNetwork newID s.user.id (f (s.heap r).record) = .ok (db,id) ∧
        mutateNetwork r f s = .ok () { s.setRecord r f with answers, db } := by
  have hrec : ((s.setRecord r f).heap r).record = f (s.heap r).record := by rw [setRecord_record,if_pos rfl]
  rw [mutateNetwork,modify_bind,get_bind,hrec]
  rcases storeNetwork_cases (f (s.heap r).record) (s.setRecord r f) with
    ⟨e,answers,hs⟩ | ⟨newID,answers,db,id,hdb,hs⟩
  · exact .inl ⟨.error e,answers,bind_error hs _⟩
  · exact .inr ⟨newID,answers,db,id,hdb,bind_ok hs _⟩

end Networks

/-- The user and the record of each network of theirs meet a condition. -/
def Each (p : Database.User → Network → Prop) (s : State) : Prop := ∀ r ∈ s.networks, p s.user (s.heap r).record

section Each
variable {record : Network}

theorem Each.refused (h : Each p s) (ht : Refused s t) : Each p t := by
  rcases ht with rfl | ⟨answers,rfl⟩ <;> exact h

theorem createNetwork_each (h : Each p s) (lim : Bool)
    (hnew : ∀ id, s.checkNetwork env record = .ok () → p s.user { record with id }) :
    Lands (Each p) (createNetwork env record lim) s := by
  rcases createNetwork_cases env record lim s with ⟨e,t,he,ht⟩ | ⟨newID,answers,db,id,-,-,hcheck,-,hok⟩
  · exact safe_of_error he (h.refused ht)
  refine safe_of_ok hok fun x hx => ?_
  rcases addNetwork_networks _ _ hx with rfl | ⟨hm,hx⟩
  · have hx := addNetwork_self ({ s with answers, db }) (newNet { record with id } [] [])
    exact (congrArg (fun net => p s.user net.record) hx).mpr (hnew id hcheck)
  · exact (congrArg (fun net => p s.user net.record) hx).mpr (h x hm)

theorem updateNetwork_each (h : Each p s) (lim : Bool)
    (hnew : s.checkNetwork env (wipeDefaults s.user record) = .ok () → p s.user (wipeDefaults s.user record)) :
    Lands (Each p) (updateNetwork env record lim) s := by
  rcases updateNetwork_cases env record lim s with
    ⟨e,t,he,ht⟩ | ⟨r,newID,answers,db,id,-,-,-,hcheck,-,hok⟩
  · exact safe_of_error he (h.refused ht)
  refine safe_of_ok hok fun x hx => ?_
  rcases replaceNetwork_networks env _ r _ hx with rfl | ⟨hm,hx⟩
  · have hx := replaceNetwork_self env ({ s with answers, db }) r (wipeDefaults s.user record)
    exact (congrArg (fun net => p s.user net.record) hx).mpr (hnew hcheck)
  · exact (congrArg (p s.user) (record_of_kept hx)).mpr (h x hm)

theorem deleteNetwork_each (h : Each p s) (id : Int) : Lands (Each p) (deleteNetwork id) s := by
  rcases deleteNetwork_cases id s with ⟨e,t,he,ht⟩ | ⟨r,answers,db,-,-,hok⟩
  · exact safe_of_error he (h.refused ht)
  · refine safe_of_ok hok fun x hx => ?_
    have hk := removeNetwork_kept ({ s with answers, db }) r x
    exact (congrArg (p s.user) (record_of_kept hk)).mpr (h x (mem_of_mem_erase hx))

end Each

section User
theorem updateNetworks_keeps (h : ∀ record ∈ records, Stays inv (updateNetwork env record false))
    (err : Option String) : Stays inv (updateNetworks env records err) := by
  induction records generalizing err with
  | nil => exact Keeps.pure _
  | cons record records ih =>
    refine Keeps.bind (Keeps.tryCatch (Keeps.bind (h record mem_cons_self).discard fun _ => Keeps.pure _) ?_) ?_
    · intro e _
      cases e with
      | error text => exact Keeps.pure _
      | _ => exact Keeps.throw trivial
    · intro err
      exact ih (fun record hr => h record (mem_cons_of_mem _ hr)) err

/-- An invariant of what `updateUser` does after it has stored the user: it holds whatever is sent
to servers, after the update of any network, and when clients are closed. -/
structure AfterStore (env : Env) (networks : List Network) (inv : State → Prop) : Prop where
  emit : ∀ s effects, inv s → inv (s.emit effects)
  close : ∀ s, inv s → inv (closeIfDisabled s)
  update : ∀ record ∈ networks, Stays inv (updateNetwork env record false)

theorem reconnectNetworks_safe (h : AfterStore env records inv) (hs : inv s)
    (hrec : ∀ r ∈ s.networks, (s.heap r).record ∈ records) (realnameUpdated enabledUpdated : Bool) :
    Lands inv (reconnectNetworks env realnameUpdated enabledUpdated) s := by
  unfold reconnectNetworks
  split
  · refine Safe.get_bind (Safe.modify_bind ?_)
    refine Keeps.bind (updateNetworks_keeps ?_ none) (fun err => ?_) _ (h.emit s _ hs)
    · intro record hr
      obtain ⟨r,hmem,rfl⟩ := mem_map.mp hr
      exact h.update _ (hrec r (mem_of_mem_filter hmem))
    · cases err with
      | none => exact Keeps.pure _
      | some e => exact Keeps.throw trivial
  · exact hs

theorem storeUser_wrapped (record : Database.User) (text : String) (s : State) :
    (∃ e answers, wrap text (discard (storeUser record)) s = .error (.error e) { s with answers, dbFailed := true }) ∨
      ∃ newID answers db id, s.db.storeUser newID record = .ok (db,id) ∧
        wrap text (discard (storeUser record)) s = .ok () { s with answers, db } := by
  rcases call_cases (fun newID db => db.storeUser newID record) s with
    ⟨e,answers,hs⟩ | ⟨newID,answers,db,id,hdb,hs⟩
  · exact .inl ⟨text ++ e,answers,wrap_error (bind_error hs _) text⟩
  · exact .inr ⟨newID,answers,db,id,hdb,wrap_ok (bind_ok hs fun _ => pure PUnit.unit) text⟩

/-- Without a new real name or a new enabled flag nothing can fail once the user is stored. -/
theorem updateUser_error {update : UserUpdate} (hsame : ∀ record, update s.user = .ok record →
      record.realname = s.user.realname ∧ record.enabled = s.user.enabled) (h : updateUser env update s = .error e t) :
    Refused s t := by
  rw [updateUser,get_bind] at h
  cases hu : update s.user with
  | error text =>
    rw [hu] at h
    cases h
    exact .inl rfl
  | ok record =>
    rw [hu] at h
    rcases storeUser_wrapped record ("failed to update user " ++ s.user.username.quote ++ ": ") s with
      ⟨e',answers,hs⟩ | ⟨newID,answers,db,id,-,hs⟩
    · rw [bind_ok (ofExcept_ok rfl),bind_error hs] at h
      cases h
      exact .inr ⟨answers,rfl⟩
    · obtain ⟨hreal,hen⟩ := hsame record hu
      rw [bind_ok (ofExcept_ok rfl),bind_ok hs,hreal,hen] at h
      simp only [ne_eq] at h
      cases h

/-- `updateUser` leaves everything as it was, or stores the user, and then keeps what holds of the
networks with the new record. -/
theorem updateUser_cases (env : Env) (update : UserUpdate) (s : State) :
    (∃ e t, updateUser env update s = .error e t ∧ Refused s t) ∨
      ∃ record newID answers db id, update s.user = .ok record ∧ s.db.storeUser newID record = .ok (db,id) ∧
        ∀ inv, AfterStore env (s.networks.map fun r => (s.heap r).record) inv →
          inv { s with answers, db, user := record } → Lands inv (updateUser env update) s := by
  cases hu : update s.user with
  | error e =>
    refine .inl ⟨.error e,s,?_,.inl rfl⟩
    rw [updateUser,get_bind,hu]
    rfl
  | ok record =>
    rcases storeUser_wrapped record ("failed to update user " ++ s.user.username.quote ++ ": ") s with
      ⟨e,answers,hs⟩ | ⟨newID,answers,db,id,hdb,hs⟩
    · refine .inl ⟨.error e,_,?_,.inr ⟨answers,rfl⟩⟩
      rw [updateUser,get_bind,hu]
      exact bind_error hs _
    refine .inr ⟨record,newID,answers,db,id,rfl,hdb,?_⟩
    intro inv h hinv
    refine Safe.get_bind ?_
    rw [hu]
    refine Safe.bind_ok rfl (Safe.bind_ok hs (Safe.modify_bind (Safe.modify_bind ?_)))
    refine Safe.bind ?_ fun _ => Keeps.modify h.close
    exact reconnectNetworks_safe h (h.emit _ _ hinv) (fun r hr => mem_map.mpr ⟨r,hr,rfl⟩) _ _

end User

section Channels
theorem getChannel_set (s : State) (r : Nat) (name : String) (ch : Net → Channel) (x : Nat) (other : String) :
    (s.setNet r fun net => net.setChannel name (ch net)).getChannel x other =
      if x = r ∧ (s.heap r).mapping.apply other = (s.heap r).mapping.apply name then some (ch (s.heap r))
      else s.getChannel x other := by
  unfold State.getChannel
  by_cases hx : x = r
  · subst hx
    rw [setNet_self]
    by_cases hkey : (s.heap x).mapping.apply other = (s.heap x).mapping.apply name
    · rw [if_pos ⟨rfl,hkey⟩]
      exact get_set_self _ _ hkey.symm
    · rw [if_neg fun h => hkey h.2]
      exact get_set_of_ne _ _ (Ne.symm hkey)
  · rw [setNet_of_ne s r _ hx,if_neg fun h => hx h.1]

theorem getChannel_same (h : s.getChannel r name = some ch) (x : Nat) (other : String) : s.getChannel x other =
      if x = r ∧ (s.heap r).mapping.apply other = (s.heap r).mapping.apply name then some ch
      else s.getChannel x other := by
  split
  · rename_i hkey
    rw [hkey.1,← h]
    exact get_congr hkey.2
  · rfl

theorem saveChannel_cases (r : Nat) (name : String) (ch : Channel) (s : State) :
    (∃ e answers, saveChannel r name ch s = .error (.error e) { s with answers, dbFailed := true }) ∨
      ∃ newID answers db id, s.db.storeChannel newID (s.heap r).record.id ch = .ok (db,id) ∧
        saveChannel r name ch s = .ok ()
          (({ s with answers, db } : State).setNet r fun net => net.setChannel name { ch with id }) := by
  rcases call_cases (fun newID db => db.storeChannel newID (s.heap r).record.id ch) s with
    ⟨e,answers,hs⟩ | ⟨newID,answers,db,id,hdb,hs⟩
  · exact .inl ⟨e,answers,bind_error hs _⟩
  · exact .inr ⟨newID,answers,db,id,hdb,bind_ok hs _⟩

end Channels

end Sake.Proofs.UserNetworks
