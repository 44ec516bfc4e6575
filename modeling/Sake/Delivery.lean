import Mathlib.Data.List.DropRight
import Sake.CaseMapping
import Sake.Highlight
import Sake.Ignore
import Sake.MsgStore

namespace Sake.Delivery
open MsgStore Highlight

/-- The last message each client is known to have, by client name. -/
abbrev DeliveredClientMap := List (String × MsgID)

/-- The delivery receipts of a network, by target. -/
abbrev DeliveredStore := CaseMappingMap DeliveredClientMap

namespace DeliveredStore
variable (cm : CaseMapping)

def isEmpty (ds : DeliveredStore) : Bool := ds.len == 0

def hasTarget (ds : DeliveredStore) (target : String) : Bool := ds.has cm target

def loadID (ds : DeliveredStore) (target clientName : String) : Option MsgID :=
  (ds.get cm target).bind fun clients => clients.lookup clientName

def storeID (ds : DeliveredStore) (target clientName : String) (id : MsgID) : DeliveredStore :=
  let clients := (ds.get cm target).getD []
  ds.set cm target ((clientName,id) :: clients.filter fun e => clientName != e.1)

/-- The names `ForEachClient` passes on. -/
def clients (ds : DeliveredStore) : List String :=
  (ds.entries.flatMap fun e => e.2.map Prod.fst).dedup

end DeliveredStore

inductive MessageFilter where
  | default
  | none
  | highlight
  | message
deriving Repr, DecidableEq

/-- The saved settings of a channel. -/
structure Channel where
  name : String
  detached : Bool
  detachedInternalMsgID : Option MsgID
  relayDetached : MessageFilter
  reattachOn : MessageFilter
deriving Repr, DecidableEq

/-- What the bouncer writes to a client. `history` is a message of a chathistory
batch, `notice` a text of the bouncer's own service. -/
inductive Sent where
  | message (msg : Message)
  | history (target : String) (msg : Message)
  | notice (text : String)
  | ping (id : MsgID)
  | join (channel : String)
  | part (channel : String)
deriving Repr, DecidableEq

/-- A downstream connection bound to the network, and what it was sent. -/
structure Conn where
  id : Nat
  clientName : String
  chathistory : Bool
  echoMessage : Bool
  blockedSub : Bool
  out : List Sent
deriving Repr, DecidableEq

namespace Conn

def send (dc : Conn) (sent : List Sent) : Conn := { dc with out := dc.out ++ sent }

/-- A ping whose answer acknowledges the message. -/
def advanceMessageWithID (dc : Conn) (msg : Message) : Option MsgID → Conn
  | none => dc
  | some id => if !msg.isText || dc.chathistory then dc else dc.send [.ping id]

def sendMessageWithID (dc : Conn) (msg : Message) (id : Option MsgID) : Conn :=
  (dc.send [.message msg]).advanceMessageWithID msg id

end Conn

/-- The message store as one network uses it, with operations that succeed. -/
structure Store (S : Type) where
  lastMsgID : S → String → MsgID
  append : S → String → Message → S × MsgID
  loadLatestID : S → MsgID → String → Nat → List Message

/-- What the bouncer relies on: every entity has a log that only grows, an ID stands
for a place in it, and loading from an ID gives the newest texts behind that place. -/
structure Contract {S : Type} (ops : Store S) (log : S → String → List Message)
    (Marks : S → MsgID → Nat → Prop) : Prop where
  last_target : ∀ s e, (ops.lastMsgID s e).target = e
  last_marks : ∀ s e, Marks s (ops.lastMsgID s e) (log s e).length
  append_target : ∀ s e msg, (ops.append s e msg).2.target = e
  append_marks : ∀ s e msg, Marks (ops.append s e msg).1 (ops.append s e msg).2 ((log s e).length + 1)
  append_log : ∀ s e msg, log (ops.append s e msg).1 e = log s e ++ [msg]
  append_other : ∀ s e msg e', e' ≠ e → log (ops.append s e msg).1 e' = log s e'
  marks_append : ∀ s e msg id n, Marks s id n → Marks (ops.append s e msg).1 id n
  load_latest : ∀ s id n limit, Marks s id n →
    ops.loadLatestID s id id.target limit =
      (((log s id.target).drop n).filter Message.isText).rtake limit

def backlogLimit : Nat := 4000

structure Network (S : Type) where
  id : Int
  casemap : CaseMapping
  nick : Nick
  ignores : List String
  delivered : DeliveredStore
  channels : CaseMappingMap Channel
  conns : List Conn
  store : S

namespace Network
variable {S : Type} (u : Unicode) (ops : Store S)

def isOurNick (net : Network S) (name : String) : Bool :=
  net.casemap.apply net.nick.1 == net.casemap.apply name

def isIgnored (net : Network S) (msg : Message) : Bool :=
  Ignore.isIgnored u.toLower net.ignores msg.msgPrefix

/-- Text messages have a source and a text by the time the source gets here; it would
panic on the others. -/
def isHighlight (net : Network S) (msg : Message) : Bool :=
  match msg.msgPrefix, msg.params with
  | some p, _ :: text :: _ =>
    msg.isText && p.name != net.nick.1 && Highlight.isHighlight u text net.nick
  | _, _ => false

def detachedMessageNeedsRelay (net : Network S) (ch : Channel) (msg : Message) : Bool :=
  ch.relayDetached == .message ||
    ((ch.relayDetached == .highlight || ch.relayDetached == .default) && net.isHighlight u msg)

def relayDetachedMessage (net : Network S) (msg : Message) : List Sent :=
  match msg.msgPrefix, msg.params with
  | some p, target :: text :: _ =>
    if !msg.isText then []
    else if net.isHighlight u msg then
      [.notice ("highlight in " ++ target ++ ": <" ++ p.name ++ "> " ++ text)]
    else [.notice ("message in " ++ target ++ ": <" ++ p.name ++ "> " ++ text)]
  | _, _ => []

def detachedChannel (net : Network S) (target : String) : Option Channel :=
  (net.channels.get net.casemap target).filter Channel.detached

/-- What the backlog of a target holds for one stored message. -/
def backlogItem (net : Network S) (target : String) (msg : Message) : List Sent :=
  match net.detachedChannel target with
  | some ch => if net.detachedMessageNeedsRelay u ch msg then net.relayDetachedMessage u msg else []
  | none => [.history target msg]

/-- The markers around the batch are left out. -/
def sendTargetBacklog (net : Network S) (dc : Conn) (target : String) (msgID : MsgID) : Conn :=
  if dc.chathistory then dc
  else
    let history := ops.loadLatestID net.store msgID (net.casemap.apply target) backlogLimit
    dc.send (history.flatMap (net.backlogItem u target))

def storableMessageTags : List String :=
  ["+react","+unreact","+draft/react","+draft/unreact"]

/-- Whether `appendLog` writes a message down. -/
def logged (net : Network S) (entity : String) (msg : Message) : Bool :=
  (msg.command != "TAGMSG" || msg.tags.any fun tag => storableMessageTags.contains tag.1) &&
    entity.toList.head? != some '$' && net.casemap.apply entity != "nickserv"

/-- The receipts after the first message of a target came in. -/
def firstReceipts (net : Network S) (entity : String) : DeliveredStore :=
  if !net.delivered.isEmpty && !net.delivered.hasTarget net.casemap entity then
    let lastID := ops.lastMsgID net.store (net.casemap.apply entity)
    net.delivered.clients.foldl
      (fun ds clientName => ds.storeID net.casemap entity clientName lastID) net.delivered
  else net.delivered

def appendLog (net : Network S) (entity : String) (msg : Message) : Network S × Option MsgID :=
  if net.logged entity msg then
    let delivered := net.firstReceipts ops entity
    let (store,msgID) := ops.append net.store (net.casemap.apply entity) msg
    ({ net with delivered, store },some msgID)
  else (net,none)

/-- A message of ours that comes back to the connection it was sent from. -/
def isEcho (net : Network S) (msg : Message) (originID : Nat) (dc : Conn) : Bool :=
  match msg.msgPrefix with
  | some p => dc.id == originID && net.isOurNick p.name
  | none => false

/-- What `produce` writes to one connection. -/
def forward (net : Network S) (target : String) (msg : Message) (msgID : Option MsgID)
    (originID : Nat) (blocked : Bool) (dc : Conn) : Conn :=
  if blocked && !dc.blockedSub then dc
  else if (net.detachedChannel target).isNone && !net.isIgnored u msg &&
      (!net.isEcho msg originID dc || dc.echoMessage) then
    dc.sendMessageWithID msg msgID
  else dc.advanceMessageWithID msg msgID

def produce (net : Network S) (target : String) (msg : Message) (originID : Nat)
    (blocked : Bool) : Network S :=
  let (net,msgID) := if target = "" then (net,none) else net.appendLog ops target msg
  { net with conns := net.conns.map (net.forward u target msg msgID originID blocked) }

/-- The answer to a ping acknowledges the message the ping names. -/
def ackMsgID (net : Network S) (dc : Conn) (id : MsgID) : Network S :=
  if id.network = net.id then
    { net with delivered := net.delivered.storeID net.casemap id.target dc.clientName id }
  else net

/-- Whether a connection of that client is there. -/
def attached (net : Network S) (clientName : String) : Bool :=
  net.conns.any fun c => c.clientName == clientName

/-- The backlog of one target, after which the client counts as up to date. -/
def catchUp (net : Network S) (state : DeliveredStore × Conn) (target : String) :
    DeliveredStore × Conn :=
  match state.1.loadID net.casemap target state.2.clientName with
  | none => state
  | some lastDelivered =>
    let lastID := ops.lastMsgID net.store (net.casemap.apply target)
    (state.1.storeID net.casemap target state.2.clientName lastID,
      net.sendTargetBacklog u ops state.2 target lastDelivered)

/-- The part of `welcome` that replays history. Only the first connection of a client
gets it. -/
def welcome (net : Network S) (dc : Conn) : Network S × Conn :=
  if dc.chathistory || net.attached dc.clientName then (net,dc)
  else
    let (delivered,dc) := net.delivered.names.foldl (net.catchUp u ops) (net.delivered,dc)
    ({ net with delivered },dc)

def detach (net : Network S) (ch : Channel) : Network S :=
  if ch.detached then net
  else
    let lastID := ops.lastMsgID net.store (net.casemap.apply ch.name)
    let ch := { ch with detached := true, detachedInternalMsgID := some lastID }
    { net with
      channels := net.channels.set net.casemap ch.name ch
      conns := net.conns.map fun dc => dc.send [.part ch.name] }

/-- The topic and the members that follow the join are left out. -/
def attach (net : Network S) (ch : Channel) : Network S :=
  if !ch.detached then net
  else
    let attachedCh := { ch with detached := false, detachedInternalMsgID := none }
    let net := { net with channels := net.channels.set net.casemap ch.name attachedCh }
    { net with
      conns := net.conns.map fun dc =>
        let dc := dc.send [.join ch.name]
        match ch.detachedInternalMsgID with
        | none => dc
        | some id => net.sendTargetBacklog u ops dc ch.name id }

end Network

/-- The steps of a network's life that matter for what its clients are sent. -/
inductive Action where
  | produce (target : String) (msg : Message) (originID : Nat) (blocked : Bool)
  | pong (connID : Nat) (id : MsgID)
  | connect (dc : Conn)
  | disconnect (connID : Nat)
  | detach (channel : String)
  | attach (channel : String)
  | configure (nick : Nick) (ignores : List String) (channels : CaseMappingMap Channel)

section
variable {S : Type} (u : Unicode) (ops : Store S)

/-- A client answers pings it was sent, and a new connection was sent nothing yet.
`configure` stands for the changes of settings, by the user or by the server. -/
def step (net : Network S) : Action → Option (Network S)
  | .produce target msg originID blocked => some (net.produce u ops target msg originID blocked)
  | .pong connID id =>
    (net.conns.find? fun dc => dc.id == connID && dc.out.contains (.ping id)).map fun dc =>
      net.ackMsgID dc id
  | .connect dc =>
    if dc.out.isEmpty then
      let (net,dc) := net.welcome u ops dc
      some { net with conns := net.conns ++ [dc] }
    else none
  | .disconnect connID => some { net with conns := net.conns.filter fun dc => dc.id != connID }
  | .detach channel => (net.channels.get net.casemap channel).map (net.detach ops)
  | .attach channel => (net.channels.get net.casemap channel).map (net.attach u ops)
  | .configure nick ignores channels => some { net with nick, ignores, channels }

end

end Sake.Delivery
