import Sake.Delivery

/-!
The channels of a network: the saved ones, which can be detached, those of the connection to
the server, and the timers that detach a channel after a while. The connection holds its
channels as objects, so that an object can outlive its place in the map.
-/

namespace Sake.Attachment
open Delivery (MessageFilter)

/-- The settings of a saved channel that matter here. The delay is in nanoseconds. -/
structure Channel where
  name : String
  detached : Bool
  reattachOn : MessageFilter
  detachAfter : Int
  detachOn : MessageFilter
deriving Repr, DecidableEq

structure UpstreamChannel where
  /-- Which object it is. -/
  id : Nat
  name : String
  complete : Bool
deriving Repr, DecidableEq

/-- An armed `detachTimer`: the object it belongs to, and the channel it will detach. -/
structure Timer where
  owner : Nat
  name : String
deriving Repr, DecidableEq

structure State where
  /-- `network.channels` -/
  saved : CasedMap Channel
  /-- `channels` of the live connection. -/
  conn : Option (CasedMap UpstreamChannel)
  /-- The next object. -/
  next : Nat
  armed : List Timer
  /-- How many clients the network has. -/
  clients : Nat
  panicked : Bool
deriving Repr, DecidableEq

/-- No channel was forwarded before it was complete. -/
def Intact (s : State) : Prop := s.panicked = false

def init (cm : CaseMapping) : State := ⟨.new cm,none,0,[],0,false⟩

namespace State
variable (s : State)

/-- `uc.channels.Get` -/
def find (name : String) : Option UpstreamChannel := s.conn.bind fun channels => channels.get name

def updateAutoDetach (uch : UpstreamChannel) (dur : Int) : State :=
  let armed := s.armed.filter fun t => t.owner != uch.id
  { s with armed := if dur = 0 then armed else armed ++ [⟨uch.id,uch.name⟩] }

/-- `updateAutoDetach(0)` for a channel, if the connection has it. -/
def stopTimer (name : String) : State :=
  match s.find name with
  | none => s
  | some uch => s.updateAutoDetach uch 0

def updateChannelAutoDetach (name : String) : State :=
  match s.find name, s.saved.get name with
  | some uch, some ch => if ch.detached then s else s.updateAutoDetach uch ch.detachAfter
  | _, _ => s

def save (ch : Channel) : State := { s with saved := s.saved.set ch.name ch }

def detach (ch : Channel) : State :=
  if ch.detached then s else (s.save { ch with detached := true }).stopTimer ch.name

/-- The panic of a partial channel. -/
def forwardChannel (uch : UpstreamChannel) : State := { s with panicked := s.panicked || !uch.complete }

/-- `forwardChannel` for each client of the network. -/
def forwardToClients (uch : UpstreamChannel) : State := if s.clients = 0 then s else s.forwardChannel uch

def attach (ch : Channel) : State :=
  if ch.detached then
    let t := (s.save { ch with detached := false }).updateChannelAutoDetach ch.name
    match s.find ch.name with
    | none => t
    | some uch => t.forwardToClients uch
  else s

/-- `deleteChannel`; the database may refuse. -/
def deleteChannel (name : String) (deleted : Bool) : State :=
  match s.saved.get name with
  | none => s
  | some ch =>
    let s := s.stopTimer ch.name
    if deleted then { s with saved := s.saved.del name } else s

end State

/-- Whether a text calls for what the filter guards; `Default` counts as given. -/
def wanted (filter : MessageFilter) (byDefault highlight : Bool) : Bool :=
  filter = .message || (filter = .default && byDefault) || (filter = .highlight && highlight)

/-- What happens to a network. A `JOIN` or `PART` with several channels is one such event for
each, and only our own ones touch the map. The settings of an update are what it changes. -/
inductive Event where
  | upstreamConnected (cm : CaseMapping)
  | upstreamDisconnected
  | join (name : String)
  | part (name : String)
  | kick (name : String)
  | namReply (name : String)
  | endOfNames (name : String)
  | text (buffer : String) (highlight : Bool)
  | casemapping (cm : CaseMapping)
  | timer (t : Timer)
  | channelDetach (name : String)
  | clientConnected
  | clientDisconnected
  | clientJoin (name : String)
  | clientDetach (name : String)
  | clientPart (name : String) (deleted : Bool)
  | clientText (name : String)
  | channelCreate (ch : Channel)
  | channelUpdate (settings : Channel) (detached : Option Bool)
  | channelDelete (name : String) (deleted : Bool)
deriving Repr, DecidableEq

/-- A new channel, as `JOIN` and `PART` of a client save it. -/
def newChannel (name : String) (detached : Bool) : Channel := ⟨name,detached,.default,0,.default⟩

section Handlers
variable (s : State)

/-- The channels we are in are sent to a client that registers, complete ones only. -/
def welcome (channels : CasedMap UpstreamChannel) : State :=
  channels.map.entries.foldl (fun s e =>
    if e.2.complete && !((s.saved.get e.2.name).any Channel.detached) then s.forwardChannel e.2 else s) s

/-- The handlers of messages of the server. -/
def handleJoin (channels : CasedMap UpstreamChannel) (name : String) : State :=
  State.updateChannelAutoDetach
    { s with conn := some (channels.set name ⟨s.next,name,false⟩), next := s.next + 1 } name

def handlePart (channels : CasedMap UpstreamChannel) (name : String) : State :=
  match channels.get name with
  | none => s
  | some uch => State.updateAutoDetach { s with conn := some (channels.del name) } uch 0

/-- Unlike `PART`, this leaves the timer alone. -/
def handleKick (channels : CasedMap UpstreamChannel) (name : String) : State :=
  match channels.get name with
  | none => s
  | some _ => { s with conn := some (channels.del name) }

def handleEndOfNames (channels : CasedMap UpstreamChannel) (name : String) : State :=
  match channels.get name with
  | none => s
  | some uch =>
    if uch.complete then s
    else
      let uch := { uch with complete := true }
      let t := { s with conn := some (channels.set name uch) }
      if (s.saved.get name).any Channel.detached then t else t.forwardToClients uch

/-- Whether a text reattaches a channel. -/
def reattaches (ch : Channel) (highlight : Bool) : Bool :=
  ch.detached && wanted ch.reattachOn false highlight

def handleText (buffer : String) (highlight : Bool) : State :=
  match s.saved.get buffer with
  | none => s
  | some ch =>
    let s := if reattaches ch highlight then s.attach ch else s
    if wanted ch.detachOn true highlight then s.updateChannelAutoDetach buffer else s

def handleDisconnected (channels : CasedMap UpstreamChannel) : State :=
  { channels.map.entries.foldl (fun s e => s.updateAutoDetach e.2 0) s with conn := none }

/-- The service command, for a channel that is saved. -/
def handleChannelUpdate (ch settings : Channel) (detached : Option Bool) : State :=
  let ch := { settings with name := ch.name, detached := ch.detached }
  let s := s.save ch
  let s := match detached with
    | some true => s.detach ch
    | some false => s.attach ch
    | none => s
  s.updateChannelAutoDetach settings.name

end Handlers

/-- Messages of the server need a connection, and so do the commands of a client. -/
def step (s : State) : Event → Option State
  | .upstreamConnected cm => if s.conn.isSome then none else some { s with conn := some (.new cm) }
  | .upstreamDisconnected => s.conn.map (handleDisconnected s)
  | .join name => s.conn.map fun channels => handleJoin s channels name
  | .part name => s.conn.map fun channels => handlePart s channels name
  | .kick name => s.conn.map fun channels => handleKick s channels name
  | .namReply _ => s.conn.map fun _ => s
  | .endOfNames name => s.conn.map fun channels => handleEndOfNames s channels name
  | .text buffer highlight => s.conn.map fun _ => handleText s buffer highlight
  | .casemapping cm =>
    some { s with saved := s.saved.setCaseMapping cm, conn := s.conn.map fun channels => channels.setCaseMapping cm }
  | .timer t => if t ∈ s.armed then some { s with armed := s.armed.erase t } else none
  | .channelDetach name => some (((s.saved.get name).map s.detach).getD s)
  | .clientConnected => some { (s.conn.map (welcome s)).getD s with clients := s.clients + 1 }
  | .clientDisconnected => some { s with clients := s.clients - 1 }
  | .clientJoin name =>
    s.conn.map fun _ => ((s.saved.get name).map s.attach).getD (s.save (newChannel name false))
  | .clientDetach name =>
    s.conn.map fun _ => ((s.saved.get name).map s.detach).getD (s.save (newChannel name true))
  | .clientPart name deleted => s.conn.map fun _ => s.deleteChannel name deleted
  | .clientText name => s.conn.map fun _ => s.updateChannelAutoDetach name
  | .channelCreate ch => some (if (s.saved.get ch.name).isSome then s else s.save ch)
  | .channelUpdate settings detached =>
    some (((s.saved.get settings.name).map fun ch => handleChannelUpdate s ch settings detached).getD s)
  | .channelDelete name deleted => some (s.deleteChannel name deleted)

end Sake.Attachment
