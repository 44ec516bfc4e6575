import Sake.Attachment

/-!
A channel is forwarded to the clients before the server has listed its members exactly when
it is reattached before that.
-/

namespace Sake.Proofs.Attachment
open Sake.Attachment Lib.Runs Option State

variable {s t : State} {ch : Channel} {name : String} {e : Event}

/-- The channel would be attached before its `NAMES` reply is complete, with a client to see it. -/
def unfinished (s : State) (ch : Channel) : Bool :=
  ch.detached && s.clients != 0 && (s.find ch.name).any fun uch => !uch.complete

/-- The saved channel that an event attaches. -/
def attached (s : State) : Event → Option Channel
  | .clientJoin name => s.conn.bind fun _ => s.saved.get name
  | .text buffer highlight => s.conn.bind fun _ => (s.saved.get buffer).filter fun ch => reattaches ch highlight
  | .channelUpdate settings (some false) => s.saved.get settings.name
  | _ => none

def Ready (s : State) (e : Event) : Prop := ∀ ch ∈ attached s e, unfinished s ch = false

@[simp]
theorem stopTimer_panicked : (s.stopTimer name).panicked = s.panicked := by
  unfold stopTimer
  split <;> rfl

@[simp]
theorem updateChannelAutoDetach_panicked : (s.updateChannelAutoDetach name).panicked = s.panicked := by
  unfold updateChannelAutoDetach
  split
  · split <;> rfl
  · rfl

@[simp]
theorem updateChannelAutoDetach_clients : (s.updateChannelAutoDetach name).clients = s.clients := by
  unfold updateChannelAutoDetach
  split
  · split <;> rfl
  · rfl

@[simp]
theorem detach_panicked : (s.detach ch).panicked = s.panicked := by
  unfold detach
  split
  · rfl
  · exact stopTimer_panicked

@[simp]
theorem deleteChannel_panicked : (s.deleteChannel name deleted).panicked = s.panicked := by
  unfold deleteChannel
  split
  · rfl
  · split <;> exact stopTimer_panicked

theorem attach_panicked : (s.attach ch).panicked = (s.panicked || unfinished s ch) := by
  unfold State.attach unfinished
  cases ch.detached with
  | false => simp
  | true =>
    cases hf : s.find ch.name with
    | none => simp [State.save]
    | some uch =>
      by_cases hc : s.clients = 0
      · simp [State.forwardToClients,State.save,hc]
      · have hclients : (s.clients != 0) = true := by simpa using hc
        simp [State.forwardToClients,State.forwardChannel,State.save,hc,hclients]

section
variable (channels : CasedMap UpstreamChannel)
include channels

theorem welcome_panicked : (welcome s channels).panicked = s.panicked := by
  unfold welcome
  induction channels.map.entries generalizing s with
  | nil => rfl
  | cons e es ih =>
    rw [List.foldl_cons,ih]
    split
    · next h => simp_all [forwardChannel]
    · rfl

theorem handleDisconnected_panicked : (handleDisconnected s channels).panicked = s.panicked := by
  change (channels.map.entries.foldl _ s).panicked = s.panicked
  induction channels.map.entries generalizing s with
  | nil => rfl
  | cons e es ih =>
    rw [List.foldl_cons,ih]
    rfl

theorem handleEndOfNames_panicked : (handleEndOfNames s channels name).panicked = s.panicked := by
  unfold handleEndOfNames
  split
  · rfl
  dsimp only
  split
  · rfl
  split
  · rfl
  · unfold forwardToClients forwardChannel
    split <;> simp

theorem handlePart_panicked : (handlePart s channels name).panicked = s.panicked := by
  unfold handlePart
  split <;> rfl

theorem handleKick_panicked : (handleKick s channels name).panicked = s.panicked := by
  unfold handleKick
  split <;> rfl

end

theorem handleText_panicked : (handleText s name highlight).panicked =
      (s.panicked || ((s.saved.get name).filter fun ch => reattaches ch highlight).any (unfinished s)) := by
  unfold handleText
  cases s.saved.get name with
  | none => simp
  | some ch =>
    dsimp only
    cases hr : reattaches ch highlight with
    | false => split <;> simp [hr]
    | true => split <;> simp [hr,attach_panicked]

theorem handleChannelUpdate_panicked (settings : Channel) (detached : Option Bool) :
    (handleChannelUpdate s ch settings detached).panicked =
      (s.panicked || (detached == some false && unfinished s ch)) := by
  unfold handleChannelUpdate
  rw [updateChannelAutoDetach_panicked]
  match detached with
  | none | some true => simp [save]
  | some false =>
    rw [attach_panicked]
    rfl

theorem getD_panicked (o : Option α) {f : α → State} {q : α → Bool}
    (hf : ∀ a, (f a).panicked = (s.panicked || q a)) (ht : t.panicked = s.panicked) :
    ((o.map f).getD t).panicked = (s.panicked || o.any q) := by
  cases o with
  | none => simpa using ht
  | some a => exact hf a

/-- An event forwards a partial channel exactly when it attaches one. -/
theorem step_panicked (h : step s e = some t) : t.panicked = (s.panicked || (attached s e).any (unfinished s)) := by
  have hdetach : ∀ ch, (s.detach ch).panicked = (s.panicked || (fun _ => false) ch) := by simp
  cases e with
  | upstreamConnected cm =>
    simp only [step,ite_none_left_eq_some,Option.some.injEq] at h
    simp [← h.2,attached]
  | upstreamDisconnected =>
    obtain ⟨channels,-,rfl⟩ := map_eq_some_iff.mp h
    simp [handleDisconnected_panicked,attached]
  | join name =>
    obtain ⟨channels,-,rfl⟩ := map_eq_some_iff.mp h
    simp [handleJoin,attached]
  | part name =>
    obtain ⟨channels,-,rfl⟩ := map_eq_some_iff.mp h
    simp [handlePart_panicked,attached]
  | kick name =>
    obtain ⟨channels,-,rfl⟩ := map_eq_some_iff.mp h
    simp [handleKick_panicked,attached]
  | namReply name | clientPart name deleted | clientText name =>
    obtain ⟨channels,-,rfl⟩ := map_eq_some_iff.mp h
    simp [attached]
  | endOfNames name =>
    obtain ⟨channels,-,rfl⟩ := map_eq_some_iff.mp h
    simp [handleEndOfNames_panicked,attached]
  | text buffer highlight =>
    obtain ⟨channels,hconn,rfl⟩ := map_eq_some_iff.mp h
    simp [handleText_panicked,attached,hconn]
  | casemapping cm | clientDisconnected | channelDelete name deleted =>
    cases h
    simp [attached]
  | timer timer =>
    simp only [step,ite_none_right_eq_some,Option.some.injEq] at h
    simp [← h.2,attached]
  | channelDetach name =>
    cases h
    simp [getD_panicked _ hdetach rfl,attached]
  | clientConnected =>
    cases h
    cases s.conn with
    | none => simp [attached]
    | some channels => simp [welcome_panicked,attached]
  | clientJoin name =>
    obtain ⟨channels,hconn,rfl⟩ := map_eq_some_iff.mp h
    have hattach : ∀ ch, (s.attach ch).panicked = (s.panicked || unfinished s ch) := fun _ => attach_panicked
    have hsave : (s.save (newChannel name false)).panicked = s.panicked := rfl
    rw [getD_panicked _ hattach hsave]
    simp [attached,hconn]
  | clientDetach name =>
    obtain ⟨channels,-,rfl⟩ := map_eq_some_iff.mp h
    have hsave : (s.save (newChannel name true)).panicked = s.panicked := rfl
    rw [getD_panicked _ hdetach hsave]
    simp [attached]
  | channelCreate ch =>
    cases h
    split <;> simp [save,attached]
  | channelUpdate settings detached =>
    cases h
    rw [getD_panicked _ (fun _ => handleChannelUpdate_panicked settings detached) rfl]
    match detached with
    | none | some true | some false => simp [attached]

theorem ready_iff : Ready s e ↔ (attached s e).any (unfinished s) = false := by
  unfold Ready
  cases attached s e <;> simp

/-- No event that attaches a partial channel is left out for want of a connection. -/
theorem enabled_of_not_ready (h : ¬ Ready s e) : ∃ t, step s e = some t := by
  unfold Ready at h
  push Not at h
  obtain ⟨ch,hch,-⟩ := h
  cases e with
  | clientJoin name | text buffer highlight =>
    obtain ⟨channels,hconn,-⟩ := bind_eq_some_iff.mp hch
    exact ⟨_,by rw [step,hconn,map_some]⟩
  | channelUpdate settings detached => exact ⟨_,rfl⟩
  | _ => cases hch

/-- A run forwards no partial channel exactly when no detached channel is attached between
our `JOIN` and the end of its `NAMES` reply while a client is connected. -/
theorem forwards_complete_iff (cm : CaseMapping) (events : List Event) :
    AllStates step Intact (init cm) events ↔ AllSteps step Ready (init cm) events := by
  have hinit : Intact (init cm) := rfl
  refine allStates_iff_allSteps hinit (fun _ h => h) ?_ ?_
  · intro s e t hs hready hstep
    rw [Intact,step_panicked hstep,hs,ready_iff.mp hready,Bool.or_false]
  · intro s e hs hready
    obtain ⟨t,ht⟩ := enabled_of_not_ready hready
    refine ⟨t,ht,?_⟩
    rw [Intact,step_panicked ht,hs,Bool.false_or,← ready_iff]
    exact hready

instance (s : State) (e : Event) : Decidable (Ready s e) :=
  decidable_of_iff ((attached s e).any (unfinished s) = false) ready_iff.symm

/-- A channel that is detached, and reattached by any message. -/
def quiet : Channel := ⟨"#sake",true,.message,0,.default⟩

/-- A message arrives on a detached channel before the list of its members is complete. -/
theorem partial_channel_forwarded : ¬ AllStates step Intact (init .rfc1459)
      [.clientConnected,.channelCreate quiet,.upstreamConnected .rfc1459,.join "#sake",
        .namReply "#sake",.text "#sake" false,.endOfNames "#sake"] := by
  have htest : ∀ t : State, Intact t → (!t.panicked) = true := by
    intro t ht
    rw [ht]
    rfl
  exact not_allStates_of_run htest rfl

end Sake.Proofs.Attachment
