import Sake.Attachment
import Sake.Proofs.CaseMapping

/-!
An armed timer belongs to a channel the connection has, as long as no channel is dropped with
its timer armed.
-/

namespace Sake.Proofs.DetachTimers
open Sake.Attachment Lib.Runs List Option CaseMappingMap State

variable {s : State} {uch : UpstreamChannel} {name : String}
  {channels : CasedMap UpstreamChannel}

/-- Every armed timer is that of the object its channel is stored as. -/
def Owned (s : State) : Prop := ∀ x ∈ s.armed, ∃ uch, s.find x.name = some uch ∧ uch.id = x.owner

instance (s : State) : Decidable (Owned s) :=
  decidable_of_iff (∀ x ∈ s.armed, (s.find x.name).any fun uch => uch.id = x.owner)
    (forall₂_congr fun x _ => by simp [Option.any_eq_true])

/-- No timer of the channel is armed. -/
def Idle (s : State) (name : String) : Prop := ∀ uch ∈ s.find name, ∀ x ∈ s.armed, x.owner ≠ uch.id

/-- No channel is replaced, dropped by `KICK` or merged with another while its timer is armed. A
channel that is joined again is spelled as before. -/
def Careful (s : State) : Event → Prop
  | .join name => Idle s name ∧ ∀ uch ∈ s.find name, uch.name = name
  | .kick name => Idle s name
  | .casemapping cm => ∀ channels ∈ s.conn, (channels.map.keys cm).Nodup
  | _ => True

def stored (s : State) (name : String) (id : Nat) : Prop :=
  ∃ channels ∈ s.conn, ∃ uch, (name,uch) ∈ channels.map.entries ∧ uch.id = id

/-- Channels are stored once, under their names, and those with a timer are stored. -/
structure Kept (s : State) : Prop where
  keys : ∀ channels ∈ s.conn, (channels.map.keys channels.casemap).Nodup
  names : ∀ channels ∈ s.conn, ∀ e ∈ channels.map.entries, e.2.name = e.1
  owned : ∀ x ∈ s.armed, stored s x.name x.owner

theorem Kept.all_owned (h : Kept s) : Owned s := by
  intro x hx
  obtain ⟨channels,hconn,uch,hmem,hid⟩ := h.owned x hx
  refine ⟨uch,?_,hid⟩
  rw [find,mem_def.mp hconn]
  exact get_of_mem (h.keys channels hconn) hmem

theorem Kept.entry (h : Kept s) (hconn : s.conn = some channels) (hget : channels.get name = some uch) :
    (uch.name,uch) ∈ channels.map.entries ∧ channels.casemap.apply uch.name = channels.casemap.apply name := by
  obtain ⟨k,hmem,happly⟩ := mem_of_get hget
  have hname : uch.name = k := h.names channels hconn _ hmem
  rw [hname]
  exact ⟨hmem,happly⟩

theorem Kept.found (h : Kept s) (hf : s.find name = some uch) : stored s uch.name uch.id := by
  obtain ⟨channels,hconn,hget⟩ := bind_eq_some_iff.mp hf
  exact ⟨channels,hconn,uch,(h.entry hconn hget).1,rfl⟩

/-- The channels stay, and a timer that is new is that of a stored channel. -/
theorem Kept.same_conn (h : Kept s) (hconn : t.conn = s.conn)
    (harmed : ∀ x ∈ t.armed, x ∈ s.armed ∨ stored s x.name x.owner) : Kept t where
  keys channels hc := h.keys channels (hconn ▸ hc)
  names channels hc := h.names channels (hconn ▸ hc)
  owned x hx := by
    unfold stored
    rw [hconn]
    exact (harmed x hx).elim (h.owned x) id

theorem Kept.new_conn (h : Kept s) (hs : s.conn = some channels) (ht : t.conn = some channels')
    (hkeys : (channels'.map.keys channels'.casemap).Nodup)
    (hnames : ∀ e ∈ channels'.map.entries, e.2.name = e.1)
    (harmed : ∀ x ∈ t.armed, x ∈ s.armed)
    (hstay : ∀ x ∈ t.armed, ∀ uch, (x.name,uch) ∈ channels.map.entries → uch.id = x.owner →
      ∃ uch', (x.name,uch') ∈ channels'.map.entries ∧ uch'.id = x.owner) : Kept t where
  keys := by
    intro c hc
    cases ht.symm.trans hc
    exact hkeys
  names := by
    intro c hc
    cases ht.symm.trans hc
    exact hnames
  owned x hx := by
    obtain ⟨c,hc,uch,hmem,hid⟩ := h.owned x (harmed x hx)
    cases hs.symm.trans hc
    obtain ⟨uch',hmem',hid'⟩ := hstay x hx uch hmem hid
    exact ⟨channels',ht,uch',hmem',hid'⟩

section Parts
variable (h : Kept s)
include h

theorem updateAutoDetach_kept (dur : Int) (hstored : stored s uch.name uch.id) : Kept (s.updateAutoDetach uch dur) := by
  refine h.same_conn rfl ?_
  intro x hx
  unfold updateAutoDetach at hx
  split at hx
  · exact .inl (mem_of_mem_filter hx)
  rcases mem_append.mp hx with hx | hx
  · exact .inl (mem_of_mem_filter hx)
  · cases mem_singleton.mp hx
    exact .inr hstored

theorem stopTimer_kept : Kept (s.stopTimer name) := by
  unfold stopTimer
  split
  · exact h
  · next uch hf => exact updateAutoDetach_kept h 0 (h.found hf)

theorem updateChannelAutoDetach_kept : Kept (s.updateChannelAutoDetach name) := by
  unfold updateChannelAutoDetach
  split
  · next uch ch hf _ =>
    split
    · exact h
    · exact updateAutoDetach_kept h _ (h.found hf)
  · exact h

theorem save_kept : Kept (s.save ch) := h.same_conn rfl fun _ => .inl

theorem detach_kept : Kept (s.detach ch) := by
  unfold detach
  split
  · exact h
  · exact stopTimer_kept (save_kept h)

theorem forwardToClients_kept : Kept (s.forwardToClients uch) := by
  unfold forwardToClients forwardChannel
  split
  · exact h
  · exact h.same_conn rfl fun _ => .inl

theorem attach_kept : Kept (s.attach ch) := by
  unfold State.attach
  split
  · have hkept : Kept ((s.save { ch with detached := false }).updateChannelAutoDetach ch.name) :=
      updateChannelAutoDetach_kept (save_kept h)
    split
    · exact hkept
    · exact forwardToClients_kept hkept
  · exact h

theorem deleteChannel_kept : Kept (s.deleteChannel name deleted) := by
  unfold deleteChannel
  split
  · exact h
  next ch _ =>
  have hkept : Kept (s.stopTimer ch.name) := stopTimer_kept h
  split
  · exact hkept.same_conn rfl fun _ => .inl
  · exact hkept

theorem handleText_kept : Kept (handleText s name highlight) := by
  unfold handleText
  split
  · exact h
  next ch _ =>
  have hkept : Kept (if reattaches ch highlight then s.attach ch else s) := by
    split
    · exact attach_kept h
    · exact h
  dsimp only
  split
  · exact updateChannelAutoDetach_kept hkept
  · exact hkept

theorem handleChannelUpdate_kept (settings : Channel) (detached : Option Bool) :
    Kept (handleChannelUpdate s ch settings detached) := by
  apply updateChannelAutoDetach_kept
  match detached with
  | none => exact save_kept h
  | some true => exact detach_kept (save_kept h)
  | some false => exact attach_kept (save_kept h)

theorem welcome_kept : Kept (welcome s channels) := by
  unfold welcome
  induction channels.map.entries generalizing s with
  | nil => exact h
  | cons e es ih =>
    rw [foldl_cons]
    apply ih
    split
    · exact h.same_conn rfl fun _ => .inl
    · exact h

theorem getD_kept (o : Option α) {f : α → State} (hf : ∀ a, Kept (f a)) (ht : Kept t) : Kept ((o.map f).getD t) := by
  cases o with
  | none => exact ht
  | some a => exact hf a

end Parts

section
variable (h : Kept s) (hconn : s.conn = some channels)
include h hconn

theorem Kept.other_key (hget : channels.get name = some uch)
    (hmem : (k,u) ∈ channels.map.entries) (hid : u.id ≠ uch.id) :
    channels.casemap.apply k ≠ channels.casemap.apply name := by
  intro heq
  obtain ⟨hentry,happly⟩ := h.entry hconn hget
  cases entry_unique (h.keys channels hconn) hmem hentry (heq.trans happly.symm)
  exact hid rfl

/-- Dropping a channel keeps the rest, if its timer is not armed any more. -/
theorem del_kept (hget : channels.get name = some uch)
    (ht : t.conn = some (channels.del name)) (harmed : ∀ x ∈ t.armed, x ∈ s.armed ∧ x.owner ≠ uch.id) : Kept t := by
  refine h.new_conn hconn ht ?_ ?_ (fun x hx => (harmed x hx).1) ?_
  · exact (filter_sublist.map _).nodup (h.keys channels hconn)
  · exact fun e he => h.names channels hconn e (mem_of_mem_filter he)
  · intro x hx u hmem hid
    have hne := h.other_key hconn hget hmem (hid.symm ▸ (harmed x hx).2)
    exact ⟨u,mem_filter.mpr ⟨hmem,bne_iff_ne.mpr hne⟩,hid⟩

/-- Storing a channel keeps the rest, if it is the same object or the timer of the one that was
there is not armed. -/
theorem set_kept (hnone : channels.get name = none → u.name = name)
    (hsome : ∀ uch, channels.get name = some uch → u.name = uch.name ∧
      (u.id = uch.id ∨ ∀ x ∈ s.armed, x.owner ≠ uch.id))
    (ht : t.conn = some (channels.set name u)) (harmed : t.armed = s.armed) : Kept t := by
  have hkeys := h.keys channels hconn
  -- The entry that is there under the key.
  have hthere {k : String} {v : UpstreamChannel} (hmem : (k,v) ∈ channels.map.entries)
      (happly : channels.casemap.apply k = channels.casemap.apply name) : channels.get name = some v := by
    rw [CasedMap.get,← get_congr happly]
    exact get_of_mem hkeys hmem
  refine h.new_conn hconn ht (keys_set_nodup hkeys) ?_ (fun x hx => harmed ▸ hx) ?_
  · intro e he
    rcases mem_set he with he | ⟨rfl,hget⟩ | ⟨hu,v,hmem,happly⟩
    · exact h.names channels hconn e he
    · exact hnone hget
    · rw [hu,(hsome v (hthere hmem happly)).1]
      exact h.names channels hconn _ hmem
  · intro x hx v hmem hid
    by_cases happly : channels.casemap.apply x.name = channels.casemap.apply name
    · refine ⟨u,mem_set_self hmem happly,?_⟩
      rcases (hsome v (hthere hmem happly)).2 with hsame | hidle
      · exact hsame.trans hid
      · exact absurd hid.symm (hidle x (harmed ▸ hx))
    · exact ⟨v,mem_set_of_ne hmem happly,hid⟩

theorem handleJoin_kept (hcareful : Careful s (.join name)) : Kept (handleJoin s channels name) := by
  have hfind : s.find name = channels.get name := by rw [find,hconn,bind_some]
  have hset : Kept { s with conn := some (channels.set name ⟨s.next,name,false⟩), next := s.next + 1 } := by
    refine set_kept (u := ⟨s.next,name,false⟩) h hconn (fun _ => rfl) (fun uch hget => ?_) rfl rfl
    have hmem : uch ∈ s.find name := hfind.trans hget
    exact ⟨(hcareful.2 uch hmem).symm,.inr (hcareful.1 uch hmem)⟩
  exact updateChannelAutoDetach_kept hset

theorem handlePart_kept : Kept (handlePart s channels name) := by
  unfold handlePart
  split
  · exact h
  next uch hget =>
  refine del_kept h hconn hget rfl fun x hx => ?_
  have hx := mem_filter.mp hx
  exact ⟨hx.1,bne_iff_ne.mp hx.2⟩

theorem handleKick_kept (hcareful : Careful s (.kick name)) : Kept (handleKick s channels name) := by
  unfold handleKick
  split
  · exact h
  · next uch hget =>
    have hmem : uch ∈ s.find name := by rw [find,hconn]; exact hget
    exact del_kept h hconn hget rfl fun x hx => ⟨hx,hcareful uch hmem x hx⟩

theorem handleEndOfNames_kept : Kept (handleEndOfNames s channels name) := by
  unfold handleEndOfNames
  split
  · exact h
  next uch hget =>
  split
  · exact h
  have hset : Kept { s with conn := some (channels.set name { uch with complete := true }) } := by
    refine set_kept h hconn (fun hnone => ?_) (fun u hu => ?_) rfl rfl
    · cases hnone.symm.trans hget
    · cases hu.symm.trans hget
      exact ⟨rfl,.inl rfl⟩
  split
  · exact hset
  · exact forwardToClients_kept hset

end

theorem casemapping_kept (h : Kept s) (hcareful : Careful s (.casemapping cm)) :
    Kept { s with saved := s.saved.setCaseMapping cm, conn := s.conn.map fun c => c.setCaseMapping cm } := by
  cases hconn : s.conn with
  | none => exact h.same_conn hconn.symm fun _ => .inl
  | some channels =>
    have hnodup := hcareful channels hconn
    have hentries := setCaseMapping_of_nodup hnodup
    have hnew : (some channels).map (fun c => c.setCaseMapping cm) = some (channels.setCaseMapping cm) := rfl
    refine h.new_conn hconn hnew ?_ ?_ (fun _ hx => hx) ?_
    · exact setCaseMapping_nodup cm channels.map
    · intro e he
      exact h.names channels hconn e (hentries ▸ he)
    · intro x _ u hmem hid
      exact ⟨u,hentries.symm ▸ hmem,hid⟩

theorem stopAll_armed (es : List (String × UpstreamChannel))
    (hx : x ∈ (es.foldl (fun s e => s.updateAutoDetach e.2 0) s).armed) : x ∈ s.armed ∧ ∀ e ∈ es, x.owner ≠ e.2.id := by
  induction es generalizing s with
  | nil => exact ⟨hx,by simp⟩
  | cons e es ih =>
    obtain ⟨hx,hrest⟩ := ih hx
    have hx := mem_filter.mp hx
    refine ⟨hx.1,fun f hf => ?_⟩
    rcases mem_cons.mp hf with rfl | hf
    · exact bne_iff_ne.mp hx.2
    · exact hrest f hf

theorem handleDisconnected_kept (h : Kept s) (hconn : s.conn = some channels) :
    Kept (handleDisconnected s channels) := by
  refine ⟨fun _ hc => (nomatch hc),fun _ hc => (nomatch hc),fun x hx => ?_⟩
  obtain ⟨hx,hnone⟩ := stopAll_armed channels.map.entries hx
  obtain ⟨c,hc,uch,hmem,hid⟩ := h.owned x hx
  cases hconn.symm.trans hc
  exact absurd hid.symm (hnone _ hmem)

theorem step_kept (h : Kept s) (hcareful : Careful s e) (hstep : step s e = some t) : Kept t := by
  cases e with
  | upstreamConnected cm =>
    simp only [step,ite_none_left_eq_some,Option.some.injEq] at hstep
    obtain ⟨hnone,rfl⟩ := hstep
    have hconn : s.conn = none := by simpa using hnone
    refine ⟨fun c hc => ?_,fun c hc => ?_,fun x hx => ?_⟩
    · cases hc
      exact nodup_nil
    · cases hc
      exact fun e he => (nomatch he)
    · obtain ⟨c,hc,-⟩ := h.owned x hx
      cases hconn.symm.trans hc
  | upstreamDisconnected =>
    obtain ⟨channels,hconn,rfl⟩ := map_eq_some_iff.mp hstep
    exact handleDisconnected_kept h hconn
  | join name =>
    obtain ⟨channels,hconn,rfl⟩ := map_eq_some_iff.mp hstep
    exact handleJoin_kept h hconn hcareful
  | part name =>
    obtain ⟨channels,hconn,rfl⟩ := map_eq_some_iff.mp hstep
    exact handlePart_kept h hconn
  | kick name =>
    obtain ⟨channels,hconn,rfl⟩ := map_eq_some_iff.mp hstep
    exact handleKick_kept h hconn hcareful
  | namReply name =>
    obtain ⟨channels,-,rfl⟩ := map_eq_some_iff.mp hstep
    exact h
  | endOfNames name =>
    obtain ⟨channels,hconn,rfl⟩ := map_eq_some_iff.mp hstep
    exact handleEndOfNames_kept h hconn
  | text buffer highlight =>
    obtain ⟨channels,-,rfl⟩ := map_eq_some_iff.mp hstep
    exact handleText_kept h
  | casemapping cm =>
    cases hstep
    exact casemapping_kept h hcareful
  | timer timer =>
    simp only [step,ite_none_right_eq_some,Option.some.injEq] at hstep
    obtain ⟨-,rfl⟩ := hstep
    exact h.same_conn rfl fun x hx => .inl (mem_of_mem_erase hx)
  | channelDetach name =>
    cases hstep
    exact getD_kept h _ (fun _ => detach_kept h) h
  | clientConnected =>
    cases hstep
    exact (getD_kept h s.conn (fun _ => welcome_kept h) h).same_conn rfl fun _ => .inl
  | clientDisconnected =>
    cases hstep
    exact h.same_conn rfl fun _ => .inl
  | clientJoin name =>
    obtain ⟨channels,-,rfl⟩ := map_eq_some_iff.mp hstep
    exact getD_kept h _ (fun _ => attach_kept h) (save_kept h)
  | clientDetach name =>
    obtain ⟨channels,-,rfl⟩ := map_eq_some_iff.mp hstep
    exact getD_kept h _ (fun _ => detach_kept h) (save_kept h)
  | clientPart name deleted =>
    obtain ⟨channels,-,rfl⟩ := map_eq_some_iff.mp hstep
    exact deleteChannel_kept h
  | clientText name =>
    obtain ⟨channels,-,rfl⟩ := map_eq_some_iff.mp hstep
    exact updateChannelAutoDetach_kept h
  | channelCreate ch =>
    cases hstep
    split
    · exact h
    · exact save_kept h
  | channelUpdate settings detached =>
    cases hstep
    exact getD_kept h _ (fun _ => handleChannelUpdate_kept h settings detached) h
  | channelDelete name deleted =>
    cases hstep
    exact deleteChannel_kept h

instance (s : State) (name : String) : Decidable (Idle s name) :=
  inferInstanceAs (Decidable (∀ uch ∈ _, _))

instance (s : State) (e : Event) : Decidable (Careful s e) :=
  match e with
  | .join name => inferInstanceAs (Decidable (Idle s name ∧ ∀ uch ∈ s.find name, uch.name = name))
  | .kick name => inferInstanceAs (Decidable (Idle s name))
  | .casemapping cm => inferInstanceAs (Decidable (∀ channels ∈ s.conn, (channels.map.keys cm).Nodup))
  | .upstreamConnected _ | .upstreamDisconnected | .part _ | .namReply _ | .endOfNames _ | .text .. | .timer _
  | .channelDetach _ | .clientConnected | .clientDisconnected | .clientJoin _ | .clientDetach _ | .clientPart ..
  | .clientText _ | .channelCreate _ | .channelUpdate .. | .channelDelete .. => isTrue trivial

/-- A channel that is detached after an hour without messages. -/
def hourly : Channel := ⟨"#sake",false,.default,3600000000000,.default⟩

end Sake.Proofs.DetachTimers
