import Sake.Live

namespace Sake.Proofs.Live
open Sake.Delivery Sake.Live

variable {S : Type} {u : Unicode} {ops : Store S} {net : Network S} {msg : Message} {originID : Nat}

/-- A line that carries the text of a message that is being handled. The lines of a
chathistory batch carry messages that were stored before. -/
def carriesText : Sent → Bool
  | .message _ => true
  | .notice _ => true
  | _ => false

/-- The texts a connection was sent live. -/
def heard (dc : Conn) : List Sent := dc.out.filter carriesText

section Heard
theorem heard_send : heard (dc.send sent) = heard dc ++ sent.filter carriesText := by
  simp [heard,Conn.send]

theorem heard_advance (dc : Conn) (msg : Message) (id : Option MsgStore.MsgID) :
    heard (dc.advanceMessageWithID msg id) = heard dc := by
  cases id with
  | none => rfl
  | some id =>
    simp only [Conn.advanceMessageWithID]
    split
    · rfl
    · rw [heard_send]
      simp [carriesText]

theorem map_heard_congr {conns : List Conn} (h : ∀ dc, heard (f dc) = heard dc) :
    (conns.map f).map heard = conns.map heard := by
  rw [List.map_map]
  apply List.map_congr_left
  intro dc _
  exact h dc

theorem produce_heard (h : net.isIgnored u msg = true) :
    (net.produce u ops target msg originID blocked).conns.map heard = net.conns.map heard := by
  have hforward : ∀ (net' : Network S) id dc, net'.ignores = net.ignores →
      heard (net'.forward u target msg id originID blocked dc) = heard dc := by
    intro net' id dc hi
    have hign : net'.isIgnored u msg = true := by
      unfold Network.isIgnored at ⊢
      rw [hi]
      exact h
    unfold Network.forward
    split
    · rfl
    · rw [if_neg (by simp [hign])]
      exact heard_advance dc msg id
  unfold Network.produce
  split
  rename_i net' id heq
  have hnet : net'.conns = net.conns ∧ net'.ignores = net.ignores := by
    unfold Network.appendLog at heq
    split_ifs at heq <;> cases heq <;> exact ⟨rfl,rfl⟩
  rw [map_heard_congr fun dc => hforward net' id dc hnet.2,hnet.1]

theorem detachedChannel_attached (ch : Channel) : Network.detachedChannel { net with
        channels := net.channels.set net.casemap ch.name
          { ch with detached := false, detachedInternalMsgID := none } } ch.name = none := by
  unfold Network.detachedChannel
  rw [CaseMappingMap.get_set_self _ _ rfl]
  rfl

theorem backlog_heard {id : MsgStore.MsgID} (h : net.detachedChannel target = none) :
    heard (net.sendTargetBacklog u ops dc target id) = heard dc := by
  unfold Network.sendTargetBacklog
  split
  · rfl
  · rw [heard_send]
    simp [List.filter_flatMap,Network.backlogItem,h,carriesText]

theorem attach_heard (ch : Channel) : (net.attach u ops ch).conns.map heard = net.conns.map heard := by
  unfold Network.attach
  split
  · rfl
  apply map_heard_congr
  intro dc
  have hjoin : heard (dc.send [.join ch.name]) = heard dc := by
    rw [heard_send]
    simp [carriesText]
  split
  · exact hjoin
  · rw [backlog_heard (detachedChannel_attached ch)]
    exact hjoin

theorem relay_single (htext : msg.isText = true)
    (hp : msg.msgPrefix = some p) (hparams : msg.params = target :: text :: rest) :
    ∃ notice, net.relayDetachedMessage u msg = [.notice notice] := by
  unfold Network.relayDetachedMessage
  simp only [hp,hparams,htext,Bool.not_true,Bool.false_eq_true,if_false]
  split <;> exact ⟨_,rfl⟩

theorem relay_heard_iff (h : net.relayDetachedMessage u msg = [.notice notice]) :
    (relayToAll u net msg).conns.map heard = net.conns.map heard ↔ net.conns = [] := by
  unfold relayToAll
  constructor
  · intro heq
    cases hc : net.conns with
    | nil => rfl
    | cons dc conns =>
      rw [hc] at heq
      have hdc := (List.cons.inj heq).1
      simp [h,heard_send,carriesText] at hdc
  · intro hc
    rw [hc]
    rfl

end Heard

section Saved
variable {ch : Channel}

theorem isHighlight_attach :
    (net.attach u ops ch).isHighlight u msg = net.isHighlight u msg := by
  unfold Network.attach
  split <;> rfl

theorem ignores_attach : (net.attach u ops ch).ignores = net.ignores := by
  unfold Network.attach
  split <;> rfl

/-- The network after the relay of a detached channel's message, before it is attached. -/
def relayStage (u : Unicode) (net : Network S) (ch : Channel) (msg : Message) : Network S :=
  if net.detachedMessageNeedsRelay u ch msg then relayToAll u net msg else net

theorem isHighlight_relayStage : (relayStage u net ch msg).isHighlight u msg = net.isHighlight u msg := by
  unfold relayStage
  split <;> rfl

theorem reattaches_relayStage : reattaches u (relayStage u net ch msg) ch msg = reattaches u net ch msg := by
  unfold reattaches
  rw [isHighlight_relayStage]

theorem handleDetached_eq : handleDetachedMessage u ops net ch msg =
      if reattaches u net ch msg then
        ((relayStage u net ch msg).attach u ops ch,{ ch with detached := false, detachedInternalMsgID := none })
      else (relayStage u net ch msg,ch) := by
  rw [← reattaches_relayStage]
  rfl

theorem handleDetached_heard : (handleDetachedMessage u ops net ch msg).1.conns.map heard =
      (relayStage u net ch msg).conns.map heard := by
  rw [handleDetached_eq]
  split
  · exact attach_heard ch
  · rfl

theorem handleDetached_isHighlight :
    (handleDetachedMessage u ops net ch msg).1.isHighlight u msg = net.isHighlight u msg := by
  rw [handleDetached_eq]
  split
  · rw [isHighlight_attach,isHighlight_relayStage]
  · exact isHighlight_relayStage

theorem handleDetached_ignores : (handleDetachedMessage u ops net ch msg).1.ignores = net.ignores := by
  have hs : (relayStage u net ch msg).ignores = net.ignores := by
    unfold relayStage
    split <;> rfl
  rw [handleDetached_eq]
  split
  · rw [ignores_attach,hs]
  · exact hs

theorem handleSaved_of_detached (hd : ch.detached = true) : handleSavedChannel u ops net ch msg =
      let (net',ch') := handleDetachedMessage u ops net ch msg
      (net',net'.isHighlight u msg,ch'.detached && ch'.relayDetached == .none) := by
  unfold handleSavedChannel
  rw [if_pos hd]

theorem handleSaved_of_attached (hd : ch.detached = false) :
    handleSavedChannel u ops net ch msg = (net,net.isHighlight u msg,false) := by
  unfold handleSavedChannel
  simp [hd]

theorem handleSaved_ignores : (handleSavedChannel u ops net ch msg).1.ignores = net.ignores := by
  cases hd : ch.detached with
  | true =>
    rw [handleSaved_of_detached hd]
    exact handleDetached_ignores
  | false => rw [handleSaved_of_attached hd]

theorem handleSaved_highlight : (handleSavedChannel u ops net ch msg).2.1 = net.isHighlight u msg := by
  cases hd : ch.detached with
  | true =>
    rw [handleSaved_of_detached hd]
    exact handleDetached_isHighlight
  | false => rw [handleSaved_of_attached hd]

/-- A channel stays detached and silent if the message does not attach it. -/
theorem handleSaved_detached : (handleSavedChannel u ops net ch msg).2.2 =
      (ch.detached && ch.relayDetached == .none && !reattaches u net ch msg) := by
  cases hd : ch.detached with
  | true =>
    rw [handleSaved_of_detached hd,handleDetached_eq]
    cases reattaches u net ch msg with
    | true => simp
    | false => simp [hd]
  | false =>
    rw [handleSaved_of_attached hd]
    rfl

theorem relayStage_heard_iff (h : net.relayDetachedMessage u msg = [.notice notice]) :
    (relayStage u net ch msg).conns.map heard = net.conns.map heard ↔
      (!net.conns.isEmpty && net.detachedMessageNeedsRelay u ch msg) = false := by
  unfold relayStage
  split
  · rename_i hn
    rw [relay_heard_iff h]
    simp [hn]
  · rename_i hn
    simp [hn]

theorem handleSaved_heard_iff (h : net.relayDetachedMessage u msg = [.notice notice]) :
    (handleSavedChannel u ops net ch msg).1.conns.map heard = net.conns.map heard ↔
      (!net.conns.isEmpty && ch.detached && net.detachedMessageNeedsRelay u ch msg) = false := by
  cases hd : ch.detached with
  | true =>
    rw [handleSaved_of_detached hd,Bool.and_true,← relayStage_heard_iff h]
    rw [handleDetached_heard]
  | false =>
    rw [handleSaved_of_attached hd]
    simp

end Saved

section Ignored
variable {up : Upstream S} {name : String} {directMessage : Bool}

/-- The message is for a detached channel whose settings ask for a relay, and a client
is there to get it. -/
def relayWanted (u : Unicode) (up : Upstream S) (msg : Message) : Bool :=
  match up.destination msg with
  | .buffer name _ =>
    match up.net.channels.get up.net.casemap name with
    | some ch =>
      !up.fromUs msg && (!up.net.conns.isEmpty && ch.detached && up.net.detachedMessageNeedsRelay u ch (up.sourced msg))
    | none => false
  | _ => false

/-- The message is a direct one or a highlight in a saved channel, and no setting keeps
it from being pushed. -/
def pushWanted (u : Unicode) (up : Upstream S) (msg : Message) : Bool :=
  match up.destination msg with
  | .buffer name directMessage =>
    !up.fromUs msg && !((up.senderTarget msg).muted || (up.senderTarget msg).blocked) &&
      match up.net.channels.get up.net.casemap name with
      | some ch =>
        !(ch.detached && ch.relayDetached == .none && !reattaches u up.net ch (up.sourced msg)) &&
          (up.net.isHighlight u (up.sourced msg) || directMessage)
      | none => directMessage
  | _ => false

theorem params_of_destination (htext : msg.isText = true) (h : up.destination msg ≠ .malformed) :
    ∃ target text rest, msg.params = target :: text :: rest := by
  unfold Upstream.destination Addressing.destination at h
  cases hp : msg.params with
  | nil => simp [hp] at h
  | cons target rest =>
    cases rest with
    | nil => simp [hp,htext] at h
    | cons text rest => exact ⟨target,text,rest,rfl⟩

theorem fire_eq_nil_iff (push : PendingPush) (readUpTo : Option Int) (subs : List String) :
    push.fire readUpTo subs = [] ↔ subs = [] ∨ ∃ t, readUpTo = some t ∧ push.timestamp ≤ t := by
  unfold PendingPush.fire
  cases readUpTo with
  | none => simp
  | some t =>
    by_cases ht : push.timestamp ≤ t <;> simp [ht]

theorem checkSaved_ignores : (checkSavedChannel u ops up msg name).1.ignores = up.net.ignores := by
  unfold checkSavedChannel
  split
  · split
    · exact handleSaved_ignores
    · rfl
  · rfl

theorem checkSaved_heard_iff (hd : up.destination msg = .buffer name directMessage) (htext : msg.isText = true) :
    (checkSavedChannel u ops up msg name).1.conns.map heard = up.net.conns.map heard ↔
      relayWanted u up msg = false := by
  obtain ⟨target,text,rest,hparams⟩ := params_of_destination htext (by rw [hd]; nofun)
  have hrelay : ∃ notice, up.net.relayDetachedMessage u (up.sourced msg) = [.notice notice] :=
    relay_single htext rfl hparams
  obtain ⟨notice,hn⟩ := hrelay
  unfold checkSavedChannel relayWanted
  simp only [hd,htext]
  cases up.net.channels.get up.net.casemap name with
  | none => simp
  | some ch =>
    cases up.fromUs msg with
    | true => simp
    | false => exact handleSaved_heard_iff hn

/-- The push decision of the handler, which is taken after the channel may have been
attached, in terms of the state before. -/
theorem pushWanted_eq (ops : Store S)
    (hd : up.destination msg = .buffer name directMessage) (htext : msg.isText = true) :
    pushWanted u up msg = (!up.fromUs msg && !(checkSavedChannel u ops up msg name).2.2 && msg.isText &&
        ((checkSavedChannel u ops up msg name).2.1 || directMessage) &&
        !((up.senderTarget msg).muted || (up.senderTarget msg).blocked)) := by
  unfold pushWanted checkSavedChannel
  simp only [hd,htext,Bool.and_true]
  cases up.fromUs msg with
  | true => simp
  | false =>
    cases up.net.channels.get up.net.casemap name with
    | none => simp [Bool.and_comm]
    | some ch =>
      simp only [Bool.not_false,if_true,Bool.true_and]
      rw [handleSaved_highlight,handleSaved_detached,Bool.and_comm]

/-- A text of an ignored sender reaches neither a client nor a push endpoint exactly
when no detached channel asks for its relay and no push is asked for, or sent in the end. -/
theorem ignored_unheard_iff {originID : Nat} {timestamp : Int} {net : Network S}
    {pushes : List PendingPush} (readUpTo : Option Int) (subs : List String)
    (htext : msg.isText = true) (hign : up.net.isIgnored u (up.sourced msg) = true)
    (hh : handleText u ops up msg originID timestamp = some (net,pushes)) :
    (net.conns.map heard = up.net.conns.map heard ∧ ∀ push ∈ pushes, push.fire readUpTo subs = []) ↔
      relayWanted u up msg = false ∧
        (pushWanted u up msg = true → subs = [] ∨ ∃ t, readUpTo = some t ∧ timestamp ≤ t) := by
  cases hd : up.destination msg with
  | malformed => simp [handleText,hd] at hh
  | skipped =>
    simp only [handleText,hd] at hh
    cases hh
    simp [relayWanted,pushWanted,hd]
  | server =>
    simp only [handleText,hd] at hh
    cases hh
    simp [relayWanted,pushWanted,hd,produce_heard hign]
  | buffer name directMessage =>
    simp only [handleText,hd,← pushWanted_eq ops hd htext] at hh
    cases hh
    have hsaved : (checkSavedChannel u ops up msg name).1.isIgnored u (up.sourced msg) = true := by
      unfold Network.isIgnored at ⊢
      rw [checkSaved_ignores]
      exact hign
    rw [produce_heard hsaved,checkSaved_heard_iff hd htext]
    apply and_congr_right
    intro _
    cases pushWanted u up msg with
    | true => simp [fire_eq_nil_iff]
    | false => simp

end Ignored

section Example

def phone : Conn where
  id := 1
  clientName := "phone"
  chathistory := false
  echoMessage := false
  blockedSub := false
  out := []

/-- A connection with one client, where `spammer` is ignored. The messages are not kept. -/
def guarded (channels : CaseMappingMap Channel) : Upstream Unit where
  net :=
    { id := 1
      casemap := .rfc1459
      nick := ⟨"me",by decide⟩
      ignores := ["spammer!*@*"]
      delivered := .empty
      channels := channels
      conns := [phone]
      store := () }
  registered := true
  serverPrefix := ⟨"irc.host","",""⟩
  availableStatusMsg := "@+"
  channels := .empty
  messageTargets := fun _ => none

def forgetful : Store Unit where
  lastMsgID _ e := ⟨1,e,.memory 0⟩
  append _ e _ := ((),⟨1,e,.memory 0⟩)
  loadLatestID _ _ _ _ := []

def spam (target : String) : Message :=
  ⟨[],some ⟨"spammer","s","host"⟩,"PRIVMSG",[target,"buy now"]⟩

/-- In a channel that is not saved, the ignored text goes nowhere. -/
theorem spam_unheard :
    ∃ net pushes, handleText .ascii forgetful (guarded .empty) (spam "#go") 0 0 = some (net,pushes) ∧
      net.conns.map heard = (guarded .empty).net.conns.map heard ∧
      ∀ push ∈ pushes, push.fire none ["endpoint"] = [] := by
  have hh : handleText .ascii forgetful (guarded .empty) (spam "#go") 0 0 = some (_,_) := rfl
  have hpush : pushWanted .ascii (guarded .empty) (spam "#go") = false := by decide
  refine ⟨_,_,hh,?_⟩
  refine (ignored_unheard_iff none ["endpoint"] (by decide) (by decide) hh).mpr ⟨by decide,?_⟩
  nofun

/-- `#go`, detached, with every message relayed. -/
def relayedGo : CaseMappingMap Channel := ⟨[("#go",⟨"#go",true,none,.message,.none⟩)]⟩

/-- The text of an ignored sender is relayed from a detached channel, and a direct
message of theirs is pushed. -/
theorem ignored_text_leaks : (guarded relayedGo).net.isIgnored .ascii (spam "#go") = true ∧
      (guarded relayedGo).net.isIgnored .ascii (spam "me") = true ∧
      (∃ net pushes, handleText .ascii forgetful (guarded relayedGo) (spam "#go") 0 0 = some (net,pushes) ∧
        net.conns.map heard = [[.notice "message in #go: <spammer> buy now"]]) ∧
      ∃ net pushes, handleText .ascii forgetful (guarded relayedGo) (spam "me") 0 0 = some (net,pushes) ∧
        pushes.map (fun push => push.fire none ["endpoint"]) = [[("endpoint",spam "me")]] := by
  refine ⟨by decide,by decide,⟨_,_,rfl,?_⟩,_,_,rfl,?_⟩ <;> decide

end Example

end Sake.Proofs.Live
