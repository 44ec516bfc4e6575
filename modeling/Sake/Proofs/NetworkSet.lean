import Sake.NetworkSet
import Sake.Proofs.CaseMapping
import Sake.Proofs.Rooted

namespace Sake.Proofs.NetworkSet
open CaseMapping
open Lib Lib.Handler Lib.Runs Networks Goroutine Sake.NetworkSet UserNetworks ServiceOps Steps List CaseMappingMap

variable {env : Env} {s : State} {record : Network} {r x : Nat}

/-- The networks are in the order of their ids and have names of their own, and the clients that are
not closed are bound to no other ones. -/
structure Ordered (s : State) : Prop where
  sorted : (s.networks.map (netID s)).Pairwise (· < ·)
  names : (s.networks.map fun r => (s.heap r).record.getName).Nodup
  clients : ∀ dc ∈ s.clients, dc.closed = false → ∀ r, dc.network = some r → r ∈ s.networks

/-- A network object takes the place of another one. -/
structure Kept (s t : State) (r r' : Nat) : Prop where
  sameID : netID t r' = netID s r
  position : t.networks = s.networks.map fun x => if x = r then r' else x
  ignores : (t.heap r').ignores = (s.heap r).ignores
  bound : (t.clients.filter fun dc => dc.network = some r').map Client.id =
    (s.clients.filter fun dc => dc.network = some r).map Client.id

/-- The channels and the receipts of a network are those of another one. -/
def SameRecords (net net' : Net) : Prop :=
  (records net').Perm (records net) ∧ net'.delivered.entries.Perm net.delivered.entries

section Sorted
variable (s : State) (refs : List Nat)

theorem sorted_pairwise : ((s.sorted refs).map (netID s)).Pairwise (· ≤ ·) := by
  have htotal : IsTotal Nat fun a b => (s.heap a).record.id ≤ (s.heap b).record.id := ⟨fun _ _ => le_total _ _⟩
  have htrans : IsTrans Nat fun a b => (s.heap a).record.id ≤ (s.heap b).record.id := ⟨fun _ _ _ => le_trans⟩
  rw [pairwise_map]
  exact pairwise_insertionSort _ refs

theorem strict_of_nodup {ids : List Int} (h : ids.Pairwise (· ≤ ·)) (hn : ids.Nodup) : ids.Pairwise (· < ·) :=
  (h.and hn).imp fun h => lt_of_le_of_ne h.1 h.2

theorem sorted_eq (hperm : refs.Perm refs') (h : (refs'.map (netID s)).Pairwise (· < ·)) : s.sorted refs = refs' := by
  have hsorted := pairwise_map.mp (sorted_pairwise s refs)
  have hstrict := pairwise_map.mp h
  have hnodup : (refs'.map (netID s)).Nodup := h.imp ne_of_lt
  have hp : (s.sorted refs).Perm refs' := (perm_insertionSort _ refs).trans hperm
  refine List.Perm.eq_of_pairwise (fun a b ha hb hab hba => ?_) hsorted (hstrict.imp le_of_lt) hp
  exact inj_on_of_nodup_map hnodup (hp.subset ha) hb (le_antisymm hab hba)

end Sorted

section Names

/-- A record that passes the check has a URL, and a name that is a word of a command and of no other network. -/
theorem checkNetwork_ok (h : s.checkNetwork env record = .ok ()) :
    (∃ u, networkURL env record = .ok u ∧ checkURL s.user.admin u = .ok ()) ∧ record.getName ≠ "" ∧ Strings.startsWith '-' record.getName = false ∧
      ∀ r ∈ s.networks, (s.heap r).record.getName = record.getName → netID s r = record.id := by
  unfold State.checkNetwork at h
  cases hurl : networkURL env record with
  | error e => simp [hurl] at h
  | ok u =>
    cases hcheck : checkURL s.user.admin u with
    | error e => simp [hurl,hcheck] at h
    | ok _ =>
      simp only [hurl,hcheck] at h
      split at h
      · cases h
      rename_i hempty
      split at h
      · cases h
      rename_i hdash
      split at h
      · cases h
      rename_i hany
      refine ⟨⟨u,rfl,hcheck⟩,hempty,Bool.eq_false_iff.mpr hdash,fun r hr hname => ?_⟩
      by_contra hne
      refine hany (any_eq_true.mpr ⟨r,hr,?_⟩)
      simpa [hname,netID] using hne

end Names

section Replaced

theorem replaceNetwork_netID (hid : record.id = netID s r) (hx : x ∈ s.networks) :
    netID (s.replaceNetwork env r record) (if x = r then s.next else x) = netID s x := by
  unfold netID
  split
  · rename_i heq
    rw [replaceNetwork_self,heq]
    exact hid
  · rw [record_of_kept (replaceNetwork_kept env s r record (Nat.ne_of_lt (s.fresh x hx)))]

theorem replaceNetwork_name (hx : x ∈ s.networks) :
    ((s.replaceNetwork env r record).heap (if x = r then s.next else x)).record.getName =
      if x = r then record.getName else (s.heap x).record.getName := by
  split
  · rw [replaceNetwork_self]
    rfl
  · rw [record_of_kept (replaceNetwork_kept env s r record (Nat.ne_of_lt (s.fresh x hx)))]

variable (hr : r ∈ s.networks)
include hr

theorem erase_append_perm (hn : s.networks.Nodup) :
    (s.networks.erase r ++ [s.next]).Perm (s.networks.map fun x => if x = r then s.next else x) := by
  have hrest : ((s.networks.erase r).map fun x => if x = r then s.next else x) = s.networks.erase r := by
    refine (map_congr_left fun x hx => ?_).trans (map_id _)
    exact if_neg (hn.mem_erase_iff.mp hx).1
  calc (s.networks.erase r ++ [s.next]).Perm (s.next :: s.networks.erase r) := perm_append_singleton _ _
    _ = (r :: s.networks.erase r).map fun x => if x = r then s.next else x := by rw [map_cons,if_pos rfl,hrest]
    List.Perm _ (s.networks.map fun x => if x = r then s.next else x) := (perm_cons_erase hr).symm.map _

theorem replaceNetwork_bound (hb : Bound s) :
    ((s.replaceNetwork env r record).clients.filter fun dc => dc.network = some s.next).map Client.id =
      (s.clients.filter fun dc => dc.network = some r).map Client.id := by
  rw [replaceNetwork_clients env s r hb.matched hr record,filter_map,map_map]
  have hfilter : s.clients.filter ((fun dc => decide (dc.network = some s.next)) ∘ replacedClient env s r record) =
      s.clients.filter fun dc => dc.network = some r := by
    refine filter_congr fun dc hdc => ?_
    simp only [Function.comp_apply,(Bound.replacedClient_fields ..).2.2,decide_eq_decide]
    split
    · rename_i hn
      exact iff_of_true rfl hn
    · rename_i hn
      refine iff_of_false (fun hc => ?_) hn
      exact absurd (hb.clients dc hdc s.next hc).1 (Nat.lt_irrefl _)
  rw [hfilter]
  exact map_congr_left fun dc _ => (Bound.replacedClient_fields env s r record dc).1

variable (hid : record.id = netID s r)
include hid

/-- The object of an updated network stands where the old one stood. -/
theorem replaceNetwork_position (hs : (s.networks.map (netID s)).Pairwise (· < ·)) :
    (s.replaceNetwork env r record).networks = s.networks.map fun x => if x = r then s.next else x := by
  have hdistinct : (s.networks.map (netID s)).Nodup := hs.imp ne_of_lt
  have hnodup : s.networks.Nodup := hdistinct.of_map
  refine sorted_eq (s.replaceNetwork env r record) (s.networks.erase r ++ [s.next]) (erase_append_perm hr hnodup) ?_
  have hids : ((s.networks.map fun x => if x = r then s.next else x).map (netID (s.replaceNetwork env r record))) =
      s.networks.map (netID s) := by
    rw [map_map]
    exact map_congr_left fun x hx => replaceNetwork_netID hid hx
  rw [hids]
  exact hs

theorem replaceNetwork_ordered (hs : Ordered s) (hb : Bound s) (hroot : Rooted s)
    (hname : ∀ x ∈ s.networks, (s.heap x).record.getName = record.getName → netID s x = record.id) :
    Ordered (s.replaceNetwork env r record) where
  sorted := strict_of_nodup (sorted_pairwise (s.replaceNetwork env r record) _) (hroot.replaceNetwork env hr hid).ids
  names := by
    have hnames : (s.replaceNetwork env r record).networks.map
        (fun x => ((s.replaceNetwork env r record).heap x).record.getName) =
          s.networks.map fun x => if x = r then record.getName else (s.heap x).record.getName := by
      rw [replaceNetwork_position hr hid hs.sorted,map_map]
      exact map_congr_left fun x hx => replaceNetwork_name hx
    rw [hnames]
    have hsame : ∀ x ∈ s.networks, (s.heap x).record.getName = record.getName → x = r := fun x hx hn =>
      hroot.eq_of_netID hx hr ((hname x hx hn).trans hid)
    refine List.Nodup.map_on (fun x hx y hy hxy => ?_) hroot.nodup
    split at hxy
    · rename_i hxr
      split at hxy
      · rename_i hyr
        exact hxr.trans hyr.symm
      · exact hxr.trans (hsame y hy hxy.symm).symm
    · split at hxy
      · rename_i hyr
        exact (hsame x hx hxy).trans hyr.symm
      · exact inj_on_of_nodup_map hs.names hx hy hxy
  clients dc hdc hopen x hx := ((hb.replaceNetwork env hr record).clients dc hdc x hx).2 hopen

theorem replaceNetwork_keeps (hs : Ordered s) (hb : Bound s) : Kept s (s.replaceNetwork env r record) r s.next where
  sameID := by
    have h : netID (s.replaceNetwork env r record) (if r = r then s.next else r) = netID s r :=
      replaceNetwork_netID hid hr
    rwa [if_pos rfl] at h
  position := replaceNetwork_position hr hid hs.sorted
  ignores := by
    rw [replaceNetwork_self]
    rfl
  bound := replaceNetwork_bound hr hb

end Replaced

section Records

/-- The channels are set one after another. -/
def setChannels (m : CaseMappingMap Channel) (channels : List Channel) : CaseMappingMap Channel :=
  channels.foldl (fun m ch => m.set .ascii ch.name ch) m

variable {channels : List Channel} {m : CaseMappingMap Channel}

theorem setChannels_keyed (channels : List Channel) (h : ∀ e ∈ m.entries, ascii.apply e.1 = ascii.apply e.2.name) :
    ∀ e ∈ (setChannels m channels).entries, ascii.apply e.1 = ascii.apply e.2.name := by
  induction channels generalizing m with
  | nil => exact h
  | cons ch channels ih =>
    refine ih fun e he => ?_
    replace he : e ∈ (m.set .ascii ch.name ch).entries := he
    unfold CaseMappingMap.set at he
    split at he
    · obtain ⟨f,hf,rfl⟩ := mem_map.mp he
      split
      · rename_i heq
        exact beq_iff_eq.mp heq
      · exact h f hf
    · rcases mem_append.mp he with he | he
      · exact h e he
      · rw [mem_singleton.mp he]

/-- Channels that are not one are all there. -/
theorem setChannels_entries (h : (m.keys .ascii ++ channels.map fun ch => ascii.apply ch.name).Nodup) :
    (setChannels m channels).entries = m.entries ++ channels.map fun ch => (ch.name,ch) := by
  induction channels generalizing m with
  | nil => exact (append_nil _).symm
  | cons ch channels ih =>
    rw [map_cons,append_cons] at h
    have hhead := ((sublist_append_left _ _).nodup h)
    have hnew : ascii.apply ch.name ∉ m.keys .ascii := fun hmem =>
      (nodup_append.mp hhead).2.2 _ hmem _ (mem_singleton.mpr rfl) rfl
    have hset := set_of_not_mem hnew ch
    have hkeys : (m.set .ascii ch.name ch).keys .ascii = m.keys .ascii ++ [ascii.apply ch.name] := by
      unfold CaseMappingMap.keys
      rw [hset,map_append,map_singleton]
    have hrest := ih (hkeys ▸ h)
    rw [hset,append_assoc] at hrest
    exact hrest

/-- Channels that are two to the server are two to the most strict mapping. -/
theorem ascii_nodup {cm : CaseMapping} (h : (channels.map fun ch => cm.apply ch.name).Nodup) :
    (channels.map fun ch => ascii.apply ch.name).Nodup := by
  refine pairwise_map.mpr ((pairwise_map.mp h).imp fun hne heq => hne ?_)
  exact cm.apply_of_ascii heq

theorem copiedNet_keyed : ((records (s.copiedNet r record)).map fun ch => (s.heap r).casemap.apply ch.name) =
    (s.copiedNet r record).channels.keys (s.heap r).casemap := by
  unfold records CaseMappingMap.keys
  rw [map_map]
  refine map_congr_left fun e he => ?_
  have hmem := mem_setCaseMapping he
  have hkey := setChannels_keyed _ (fun _ h => absurd h not_mem_nil) e hmem
  exact ((s.heap r).casemap.apply_of_ascii hkey).symm

theorem copiedNet_sameChannels : (records (s.copiedNet r record)).Perm (records (s.heap r)) ↔
    ((records (s.heap r)).map fun ch => (s.heap r).casemap.apply ch.name).Nodup := by
  constructor
  · intro h
    refine (h.map fun ch => (s.heap r).casemap.apply ch.name).nodup_iff.mp ?_
    rw [copiedNet_keyed]
    exact setCaseMapping_nodup _ _
  · intro h
    have hascii : ((.empty : CaseMappingMap Channel).keys .ascii ++
        (records (s.heap r)).map fun ch => ascii.apply ch.name).Nodup := by
      exact ascii_nodup h
    have hentries := setChannels_entries hascii
    have hkeys : ((setChannels .empty (records (s.heap r))).keys (s.heap r).casemap).Nodup := by
      unfold CaseMappingMap.keys
      rw [hentries,empty,nil_append,map_map]
      exact h
    have hsame : (s.copiedNet r record).channels.entries = (records (s.heap r)).map fun ch => (ch.name,ch) := by
      exact (setCaseMapping_of_nodup hkeys).trans hentries
    refine List.Perm.of_eq ?_
    rw [records,hsame,map_map]
    exact map_id _

/-- An update keeps the channels and the receipts if no two of them are one to the server, and only then. -/
theorem copiedNet_records : SameRecords (s.heap r) (s.copiedNet r record) ↔ Distinct (s.heap r) :=
  and_congr copiedNet_sameChannels setCaseMapping_perm_iff

end Records

section Run
variable {t : State}

theorem addNetwork_ordered (hs : Ordered s) (hroot : Rooted (s.addNetwork net))
    (hb : Bound (s.addNetwork net)) (hname : ∀ r ∈ s.networks, (s.heap r).record.getName ≠ net.record.getName) :
    Ordered (s.addNetwork net) where
  sorted := strict_of_nodup (sorted_pairwise (s.addNetwork net) _) hroot.ids
  names := by
    have hold : s.networks.map (fun r => ((s.addNetwork net).heap r).record.getName) =
        s.networks.map fun r => (s.heap r).record.getName :=
      map_congr_left fun r hr => by rw [addNetwork_of_ne s net (Nat.ne_of_lt (s.fresh r hr))]
    have hperm : ((s.addNetwork net).networks.map fun r => ((s.addNetwork net).heap r).record.getName).Perm
        ((s.networks.map fun r => (s.heap r).record.getName) ++ [net.record.getName]) := by
      refine ((perm_insertionSort _ _).map _).trans (List.Perm.of_eq ?_)
      rw [map_append,hold,map_singleton,addNetwork_self]
    refine hperm.nodup_iff.mpr (nodup_append.mpr ⟨hs.names,nodup_singleton _,?_⟩)
    intro a ha b hb
    obtain ⟨r,hr,rfl⟩ := mem_map.mp ha
    rw [mem_singleton.mp hb]
    exact hname r hr
  clients dc hdc hopen r hr := (hb.clients dc hdc r hr).2 hopen

theorem netID_pos (h : Rooted s) (hr : r ∈ s.networks) : 0 < netID s r := by
  obtain ⟨row,hrow,hid,-⟩ := h.rows r hr
  rw [← hid]
  exact s.db.networks.positive row hrow

theorem Ordered.same (h : Ordered s) (hb : Bound t) (hheap : t.heap = s.heap) (hnets : t.networks = s.networks) :
    Ordered t where
  sorted := by
    unfold netID
    rw [hheap,hnets]
    exact h.sorted
  names := by
    rw [hheap,hnets]
    exact h.names
  clients dc hdc hopen r hr := (hb.clients dc hdc r hr).2 hopen

theorem Ordered.refused (h : Ordered s) (hb : Bound s) (ht : Refused s t) : Ordered t := by
  have hbt : Bound t := Bound.indifferent.rows (Refused.rowsOnly ht) hb
  rcases ht with rfl | ⟨answers,rfl⟩
  · exact h
  · exact h.same hbt rfl rfl

/-- What holds of the networks in every state. -/
structure Whole (s : State) : Prop where
  ordered : Ordered s
  bound : Bound s
  rooted : Rooted s

theorem createNetwork_ordered (h : Whole s) (record : Network) (lim : Bool) :
    Lands Ordered (createNetwork env record lim) s := by
  rcases createNetwork_cases env record lim s with ⟨e,t,he,ht⟩ | ⟨newID,answers,db,id,hzero,-,hcheck,-,hok⟩
  · exact safe_of_error he (h.ordered.refused h.bound ht)
  have hb := Bound.createNetwork env record lim s h.bound
  have hroot := Rooted.createNetwork env record lim s h.rooted
  rw [Safe,hok] at hb hroot
  have hbs : Bound { s with answers, db } := h.bound.heap rfl rfl rfl rfl fun _ => rfl
  have hnew : Bound (({ s with answers, db }).addNetwork (newNet { record with id } [] [])) := hbs.addNetwork rfl
  have hadd := addNetwork_ordered (h.ordered.same hbs rfl rfl) (hroot.same rfl) hnew fun r hr hname => ?_
  · exact safe_of_ok hok (hadd.same hb rfl rfl)
  · have hid : netID s r = 0 := ((checkNetwork_ok hcheck).2.2.2 r hr hname).trans hzero
    exact absurd hid (netID_pos h.rooted hr).ne'

theorem updateNetwork_ordered (h : Whole s) (record : Network) (lim : Bool) :
    Lands Ordered (updateNetwork env record lim) s := by
  rcases updateNetwork_cases env record lim s with ⟨e,t,he,ht⟩ | ⟨r,newID,answers,db,id,-,-,hr,hcheck,hdb,hok⟩
  · exact safe_of_error he (h.ordered.refused h.bound ht)
  obtain ⟨hmem,hid⟩ := Rooted.getNetworkByID_netID hr
  have hbs : Bound { s with answers, db } := h.bound.heap rfl rfl rfl rfl fun _ => rfl
  have hroot : Rooted { s with answers, db } :=
    h.rooted.kept (Rooted.Keeps.of_storeNetwork hdb) rfl rfl rfl fun _ => rfl
  refine safe_of_ok hok (replaceNetwork_ordered hmem hid.symm (h.ordered.same hbs rfl rfl) hbs hroot ?_)
  exact (checkNetwork_ok hcheck).2.2.2

theorem deleteNetwork_ordered (h : Whole s) (id : Int) : Lands Ordered (deleteNetwork id) s := by
  rcases deleteNetwork_cases id s with ⟨e,t,he,ht⟩ | ⟨r,answers,db,-,-,hok⟩
  · exact safe_of_error he (h.ordered.refused h.bound ht)
  have hb := Bound.deleteNetwork id s h.bound
  rw [Safe,hok] at hb
  have hrecord x : ((s.removeNetwork r).heap x).record = (s.heap x).record := record_of_kept (removeNetwork_kept s r x)
  refine safe_of_ok hok ⟨?_,?_,fun dc hdc hopen x hx => (hb.clients dc hdc x hx).2 hopen⟩
  · have hsub : ((s.networks.erase r).map (netID s)).Sublist (s.networks.map (netID s)) := erase_sublist.map _
    rw [show (s.networks.erase r).map (netID s) = (s.networks.erase r).map (netID (s.removeNetwork r)) from
      map_congr_left fun x _ => congrArg (fun record => record.id) (hrecord x).symm] at hsub
    exact h.ordered.sorted.sublist hsub
  · have hsub : ((s.networks.erase r).map fun x => (s.heap x).record.getName).Sublist
        (s.networks.map fun x => (s.heap x).record.getName) := erase_sublist.map _
    rw [show ((s.networks.erase r).map fun x => (s.heap x).record.getName) =
        (s.networks.erase r).map fun x => ((s.removeNetwork r).heap x).record.getName from
      map_congr_left fun x _ => by rw [hrecord x]] at hsub
    exact hsub.nodup h.ordered.names

theorem exec_whole (h : Whole s) (change : Change) : Lands Whole (change.exec env) s := by
  have hpack {α : Type} {m : Handler α} (ho : Lands Ordered m s) hb hr : Lands Whole m s :=
    ((ho.and hb).and hr).mono fun _ ht => ⟨ht.1.1,ht.1.2,ht.2⟩
  cases change with
  | create record lim =>
    exact Incoming.discard_safe (hpack (createNetwork_ordered h record lim)
      (Bound.createNetwork env record lim s h.bound) (Rooted.createNetwork env record lim s h.rooted))
  | update record lim =>
    exact Incoming.discard_safe (hpack (updateNetwork_ordered h record lim)
      (Bound.updateNetwork env record lim s h.bound) (Rooted.updateNetwork env record lim s h.rooted))
  | delete id =>
    exact hpack (deleteNetwork_ordered h id) (Bound.deleteNetwork id s h.bound) (Rooted.deleteNetwork id s h.rooted)

theorem step_safe (ht : step env s change = some t) (h : Lands inv (change.exec env) s) : inv t := by
  unfold step at ht
  rw [Lands,Safe] at h
  cases hx : change.exec env s with
  | ok a u =>
    rw [hx] at ht h
    cases ht
    exact h
  | error e u =>
    rw [hx] at ht h
    cases e <;> cases ht <;> exact h.1

theorem step_whole (h : Whole s) (ht : step env s change = some t) : Whole t := step_safe ht (exec_whole h change)

/-- What an update does to the network: it keeps everything but maybe channels and receipts. -/
theorem updateNetwork_keeps (h : Whole s) (hok : updateNetwork env record lim s = .ok r' t) :
    ∃ r, s.getNetworkByID record.id = some r ∧ Kept s t r r' ∧
      (SameRecords (s.heap r) (t.heap r') ↔ Distinct (s.heap r)) := by
  rcases updateNetwork_cases env record lim s with ⟨e,u,he,-⟩ | ⟨r,newID,answers,db,id,-,-,hr,-,-,hok'⟩
  · cases hok.symm.trans he
  cases hok.symm.trans hok'
  obtain ⟨hmem,hid⟩ := Rooted.getNetworkByID_netID hr
  have hbs : Bound { s with answers, db } := h.bound.heap rfl rfl rfl rfl fun _ => rfl
  have hkept : Kept { s with answers, db }
      (({ s with answers, db }).replaceNetwork env r (wipeDefaults s.user record)) r s.next :=
    replaceNetwork_keeps hmem hid.symm (h.ordered.same hbs rfl rfl) hbs
  refine ⟨r,hr,⟨hkept.sameID,hkept.position,hkept.ignores,hkept.bound⟩,?_⟩
  rw [replaceNetwork_self env ({ s with answers, db }) r]
  exact copiedNet_records

/-- Over every run of changes the networks stay in order, and an update keeps what belongs to a network, but
for channels and receipts that are one to its server. -/
theorem networks_stay_ordered (env : Env) {s : State} (h : Whole s) (changes : List Change) :
    AllStates (step env) (fun t => Ordered t ∧ ∀ record lim r' u, updateNetwork env record lim t = .ok r' u →
      ∃ r, t.getNetworkByID record.id = some r ∧ Kept t u r r' ∧
        (SameRecords (t.heap r) (u.heap r') ↔ Distinct (t.heap r))) s changes := by
  refine AllStates.of_steps Whole h (fun t ht => ⟨ht.ordered,?_⟩) (fun t change u ht _ hu => ?_)
    (AllSteps.of_forall fun _ _ _ => trivial)
  · intro record lim r' u hok
    exact updateNetwork_keeps ht hok
  · exact step_whole ht hu

end Run

section Sample

def jane : Database.User := { Database.newUser "jane" with id := 1, nick := "jane" }

/-- A network with two channels that are one under RFC 1459. -/
def janeDB : DB where
  users := .single jane (by decide)
  networks := .single ⟨1,{ newNetwork "irc.example.org" with id := 1 }⟩ Int.one_pos
  channels := ⟨[⟨1,{ newChannel "#a[" "" with id := 1 }⟩,⟨1,{ newChannel "#a\x7b" "" with id := 2 }⟩],
    by decide,by decide,by decide⟩
  ignores := .empty
  certs := .empty

def janeState : State := State.load jane janeDB [⟨none,0⟩,⟨none,2⟩] []

theorem janeState_whole : Whole janeState where
  ordered := ⟨by decide,by decide,fun dc hdc => absurd hdc not_mem_nil⟩
  bound := load_bound jane janeDB _ []
  rooted := load_rooted _ (mem_singleton.mpr rfl) fun o ho => absurd ho not_mem_nil

def renamed : Network := { newNetwork "irc.example.org" with id := 1, name := "example" }

theorem networks_stay_ordered_jane : Whole janeState ∧
      (run (step Env.sample) janeState [.update renamed true,.create (newNetwork "irc.example.com") true]).isSome =
        true ∧
      AllStates (step Env.sample) (fun t => Ordered t ∧ ∀ record lim r' u,
        updateNetwork Env.sample record lim t = .ok r' u → ∃ r, t.getNetworkByID record.id = some r ∧ Kept t u r r' ∧
            (SameRecords (t.heap r) (u.heap r') ↔ Distinct (t.heap r))) janeState
        [.update renamed true,.create (newNetwork "irc.example.com") true] :=
  ⟨janeState_whole,by decide,networks_stay_ordered Env.sample janeState_whole _⟩

theorem exists_ok {m : Handler α} {p : α → State → Bool}
    (h : (match m s with | .ok a t => p a t | .error _ _ => false) = true) : ∃ a t, m s = .ok a t ∧ p a t = true := by
  cases hm : m s with
  | ok a t =>
    rw [hm] at h
    exact ⟨a,t,rfl,h⟩
  | error e t =>
    rw [hm] at h
    cases h

/-- Before the server has told its case mapping, an update drops one of the channels. -/
theorem update_drops_channel : Whole janeState ∧ (records (janeState.heap 0)).map Channel.name = ["#a[","#a\x7b"] ∧
      ∃ r' u, updateNetwork Env.sample renamed true janeState = .ok r' u ∧
        (records (u.heap r')).map Channel.name = ["#a\x7b"] ∧ ¬ SameRecords (janeState.heap 0) (u.heap r') := by
  refine ⟨janeState_whole,by decide,?_⟩
  obtain ⟨r',u,hok,htest⟩ := exists_ok (m := updateNetwork Env.sample renamed true) (s := janeState)
    (p := fun r' u => (records (u.heap r')).map Channel.name = ["#a\x7b"]) (by decide)
  refine ⟨r',u,hok,of_decide_eq_true htest,fun hsame => ?_⟩
  have hlen := (hsame.1.map Channel.name).length_eq
  rw [of_decide_eq_true htest] at hlen
  exact absurd hlen (by decide)

end Sample

end Sake.Proofs.NetworkSet
