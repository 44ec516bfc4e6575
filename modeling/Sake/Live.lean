import Sake.Delivery

namespace Sake.Live
open Sake.Delivery

def serviceNick : String := "BouncerServ"

/-- What the user set for a correspondent. -/
structure MessageTarget where
  muted : Bool
  blocked : Bool
deriving Repr, DecidableEq

/-- A channel as the server shows it. -/
structure UpstreamChannel where
  name : String
  members : CaseMappingMap Unit
deriving Repr, DecidableEq

/-- What decides where a message belongs. `context` looks up a channel we are in: its
name, if the sender is in it as well. -/
structure Addressing where
  casemap : CaseMapping
  nick : String
  registered : Bool
  serverPrefix : Prefix
  availableStatusMsg : String
  context : (channel sender : String) → Option String

/-- An upstream connection, as far as it decides what happens to a message. -/
structure Upstream (S : Type) where
  net : Network S
  registered : Bool
  serverPrefix : Prefix
  availableStatusMsg : String
  channels : CaseMappingMap UpstreamChannel
  messageTargets : String → Option MessageTarget

/-- A push that is held back five seconds, for the user to read the message. -/
structure PendingPush where
  target : String
  timestamp : Int
  msg : Message
deriving Repr, DecidableEq

/-- What a message is to the bouncer. -/
inductive Destination where
  | malformed
  | skipped
  | server
  | buffer (name : String) (directMessage : Bool)
deriving Repr, DecidableEq

namespace Addressing

def equalCasemap (ad : Addressing) (a b : String) : Bool :=
  ad.casemap.apply a == ad.casemap.apply b

/-- The source of a message; the server itself when there is none. -/
def source (ad : Addressing) (msg : Message) : Prefix := msg.msgPrefix.getD ad.serverPrefix

def isServerMessage (ad : Addressing) (sender target : String) : Bool :=
  !ad.registered || ad.equalCasemap sender ad.serverPrefix.name || target == "*" ||
    target.toList.head? == some '$'

/-- The buffer a message belongs to, and whether it is a direct message. -/
def bufferOf (ad : Addressing) (msg : Message) (sender target : String) : Destination :=
  let directMessage := ad.equalCasemap ad.nick target
  match (msg.tags.get "+draft/channel-context").bind fun channel => ad.context channel sender with
  | some channel => .buffer channel false
  | none => .buffer (if directMessage then sender else target) directMessage

def destination (ad : Addressing) (msg : Message) : Destination :=
  match msg.params with
  | [] => .malformed
  | target :: rest =>
    if msg.isText && rest.isEmpty then .malformed
    else
      let sender := (ad.source msg).name
      -- a message to the operators of a channel is shown in the channel
      let target := String.ofList
        (target.toList.dropWhile fun c => ad.availableStatusMsg.toList.contains c)
      if ad.equalCasemap sender serviceNick || ad.equalCasemap target serviceNick then .skipped
      else if ad.isServerMessage sender target then .server
      else ad.bufferOf msg sender target

end Addressing

section
variable {S : Type} (u : Unicode) (ops : Store S)

namespace Upstream

def addressing (up : Upstream S) : Addressing where
  casemap := up.net.casemap
  nick := up.net.nick.1
  registered := up.registered
  serverPrefix := up.serverPrefix
  availableStatusMsg := up.availableStatusMsg
  context channel sender :=
    match up.channels.get up.net.casemap channel with
    | some ch => if ch.members.has up.net.casemap sender then some ch.name else none
    | none => none

def source (up : Upstream S) (msg : Message) : Prefix := up.addressing.source msg

/-- The message with its source filled in, as it is handled from there on. -/
def sourced (up : Upstream S) (msg : Message) : Message :=
  { msg with msgPrefix := some (up.source msg) }

def fromUs (up : Upstream S) (msg : Message) : Bool := up.net.isOurNick (up.source msg).name

/-- What the user set for the sender of a message. -/
def senderTarget (up : Upstream S) (msg : Message) : MessageTarget :=
  (up.messageTargets (up.net.casemap.apply (up.source msg).name)).getD ⟨false,false⟩

def destination (up : Upstream S) (msg : Message) : Destination := up.addressing.destination msg

end Upstream

def reattaches (net : Network S) (ch : Channel) (msg : Message) : Bool :=
  ch.reattachOn == .message || (ch.reattachOn == .highlight && net.isHighlight u msg)

def relayToAll (net : Network S) (msg : Message) : Network S :=
  { net with conns := net.conns.map fun dc => dc.send (net.relayDetachedMessage u msg) }

/-- The channel is returned as it is afterwards. -/
def handleDetachedMessage (net : Network S) (ch : Channel) (msg : Message) :
    Network S × Channel :=
  let net := if net.detachedMessageNeedsRelay u ch msg then relayToAll u net msg else net
  if reattaches u net ch msg then
    (net.attach u ops ch,{ ch with detached := false, detachedInternalMsgID := none })
  else (net,ch)

/-- The treatment of a text in a saved channel: the network afterwards, whether the text
is a highlight, and whether the channel stays detached without relay. -/
def handleSavedChannel (net : Network S) (ch : Channel) (msg : Message) :
    Network S × Bool × Bool :=
  let (net,ch) := if ch.detached then handleDetachedMessage u ops net ch msg else (net,ch)
  (net,net.isHighlight u msg,ch.detached && ch.relayDetached == .none)

/-- The checks on the saved channel of a message, if there is one and the message is a
text of somebody else. -/
def checkSavedChannel (up : Upstream S) (msg : Message) (bufferName : String) :
    Network S × Bool × Bool :=
  match up.net.channels.get up.net.casemap bufferName with
  | some ch =>
    if msg.isText && !up.fromUs msg then handleSavedChannel u ops up.net ch (up.sourced msg)
    else (up.net,false,false)
  | none => (up.net,false,false)

/-- The handler of `PRIVMSG`, `NOTICE`, `TAGMSG` and `REDACT`. `originID` is the client the
label of the message names, `timestamp` its server time. -/
def handleText (up : Upstream S) (msg : Message) (originID : Nat) (timestamp : Int) :
    Option (Network S × List PendingPush) :=
  match up.destination msg with
  | .malformed => none
  | .skipped => some (up.net,[])
  | .server => some (up.net.produce u ops "" (up.sourced msg) 0 false,[])
  | .buffer bufferName directMessage =>
    let (net,highlight,detached) := checkSavedChannel u ops up msg bufferName
    let mt := up.senderTarget msg
    let sendWebPush := !up.fromUs msg && !detached && msg.isText && (highlight || directMessage) &&
      !(mt.muted || mt.blocked)
    let pushes :=
      if sendWebPush then [⟨up.net.casemap.apply bufferName,timestamp,up.sourced msg⟩] else []
    some (net.produce u ops bufferName (up.sourced msg) originID mt.blocked,pushes)

end

/-- What is pushed when the time is over: nothing if the user has read that far, else
the message to every subscription. -/
def PendingPush.fire (push : PendingPush) (readUpTo : Option Int) (subs : List String) :
    List (String × Message) :=
  match readUpTo with
  | some t => if push.timestamp ≤ t then [] else subs.map fun sub => (sub,push.msg)
  | none => subs.map fun sub => (sub,push.msg)

end Sake.Live
