import Sake.Goroutine

namespace Sake.Goroutine
open Networks Strings
open Downstream (message)

variable (env : Env)

/-- `Network.URL`. -/
def networkURL (net : Network) : Except String URL :=
  let addr := if contains net.addr "://" then net.addr else "ircs://" ++ net.addr
  match env.parseURL addr with
  | .error e => .error ("failed to parse upstream server URL: " ++ e)
  | .ok u =>
    if u.scheme = "irc+unix" ∨ u.scheme = "unix" then .ok { u with path := u.host ++ u.path, host := "" }
    else .ok u

def hostAttrs (host : String) : Tags :=
  match env.splitHostPort host with
  | some (host,port) => [("host",host),("port",port)]
  | none => [("host",host)]

/-- `fillNetworkAddrAttrs`. -/
def networkAddrAttrs (net : Network) : Tags :=
  match networkURL env net with
  | .error _ => []
  | .ok u =>
    match u.scheme with
    | "ircs" => ("tls","1") :: hostAttrs env u.host
    | "irc+insecure" => ("tls","0") :: hostAttrs env u.host
    | _ => []

def getNetworkAttrs (user : Database.User) (net : Net) : Tags :=
  [("name",net.record.getName),("state",if net.conn.isSome then "connected" else "disconnected"),
    ("nickname",Database.getNick user net.record.toNetwork)] ++
  (if net.record.username ≠ "" then [("username",net.record.username)] else []) ++
  (if getRealname user net.record ≠ "" then [("realname",getRealname user net.record)] else []) ++
  net.lastError.toList.map (fun e => ("error",e)) ++ networkAddrAttrs env net.record

namespace State
variable (s : State)

def setNet (r : Nat) (f : Net → Net) : State := { s with heap := Function.update s.heap r (f (s.heap r)) }

def mapClients (f : Client → Client) : State := { s with clients := s.clients.map f }

def emit (effects : List Effect) : State := { s with effects := s.effects ++ effects }

/-- `getNetwork` -/
def getNetwork (name : String) : Option Nat :=
  s.networks.find? fun r =>
    let net := (s.heap r).record
    net.addr = name || (net.name ≠ "" && net.name = name)

def getNetworkByID (id : Int) : Option Nat := s.networks.find? fun r => (s.heap r).record.id = id

/-- The connection of the network that a client is bound to. -/
def upstream (dc : Client) : Option Nat := dc.network.bind fun r => (s.heap r).conn

/-- The nick and the real name that a client should have. -/
def nickOf (dc : Client) : String :=
  match s.upstream dc with
  | some c => (s.conns c).nick
  | none =>
    match dc.network with
    | some r => Database.getNick s.user (s.heap r).record.toNetwork
    | none => Database.getNick s.user ⟨0,"","",""⟩

def realnameOf (dc : Client) : String :=
  match s.upstream dc with
  | some c => (s.conns c).realname
  | none =>
    match dc.network with
    | some r => getRealname s.user (s.heap r).record
    | none => getRealname s.user (newNetwork "")

def updateNick (dc : Client) : Client :=
  if s.nickOf dc = dc.nick then dc
  else { dc.send (.nick dc.nick (s.nickOf dc)) with nick := s.nickOf dc }

def updateRealname (dc : Client) : Client :=
  if dc.caps.contains "setname" && s.realnameOf dc ≠ dc.realname then
    { dc.send (.setname (s.realnameOf dc)) with realname := s.realnameOf dc }
  else dc

/-- `forEachDownstream` of a network. -/
def forEachDownstream (r : Nat) (f : Client → Client) : State :=
  s.mapClients fun dc => if dc.network = some r then f dc else dc

def notifyClient (msg : Sent) (dc : Client) : Client :=
  if dc.caps.contains "soju.im/bouncer-networks-notify" then dc.send msg else dc

/-- A network of the user has the id. -/
def lists (id : Int) : Bool := s.networks.any fun r => (s.heap r).record.id = id

/-- No update is sent for a network that has been removed. -/
def notifyBouncerNetworkState (id : Int) (attrs : Tags) : State :=
  s.mapClients fun dc => if s.lists id then notifyClient (.network id attrs) dc else dc

/-- `handleUpstreamDisconnected`. The network may have been removed, and then the clients are not told. -/
def handleUpstreamDisconnected (c : Nat) : State :=
  let r := (s.conns c).network
  (s.setNet r fun net => { net with conn := none }).mapClients fun dc =>
    if r ∈ s.networks then notifyClient (.network (s.heap r).record.id [("state","disconnected")]) dc else dc

/-- The connection of a network, if there is one, is disconnected. -/
def disconnect (r : Nat) : State :=
  { s with
    heap := ((s.heap r).conn.elim s s.handleUpstreamDisconnected).heap
    clients := ((s.heap r).conn.elim s s.handleUpstreamDisconnected).clients }

/-- The networks in the order of their ids. -/
def sorted (refs : List Nat) : List Nat :=
  refs.insertionSort fun a b => (s.heap a).record.id ≤ (s.heap b).record.id

theorem mem_sorted {refs : List Nat} {r : Nat} : r ∈ s.sorted refs ↔ r ∈ refs := List.mem_insertionSort _

def alloc (net : Net) : State :=
  { s with
    heap := Function.update s.heap s.next net
    next := s.next + 1
    fresh := fun r hr => (s.fresh r hr).trans (Nat.lt_succ_self _) }

theorem mem_next_lt {r : Nat} (h : r ∈ s.networks ++ [s.next]) : r < s.next + 1 := by
  rcases List.mem_append.mp h with h | h
  · exact (s.fresh r h).trans (Nat.lt_succ_self _)
  · rw [List.mem_singleton.mp h]
    exact Nat.lt_succ_self _

/-- `addNetwork`, of a new object. -/
def addNetwork (net : Net) : State :=
  { s.alloc net with
    networks := (s.alloc net).sorted (s.networks ++ [s.next])
    fresh := fun _ hr => s.mem_next_lt ((s.alloc net).mem_sorted.mp hr)
    effects := s.effects ++ [.runNetwork s.next] }

/-- `removeNetwork`, with the clients that are bound to the network. -/
def removeNetwork (r : Nat) : State :=
  { (s.setNet r fun net => { net with stopped := true }).forEachDownstream r fun dc => { dc with closed := true } with
    networks := s.networks.erase r
    fresh := fun a ha => s.fresh a (List.mem_of_mem_erase ha) }

end State

/-- `newNetwork` -/
def newNet (record : Network) (channels : List Channel) (ignores : List Networks.Ignore) : Net where
  record
  channels := channels.foldl (fun m ch => m.set .ascii ch.name ch) .empty
  delivered := .empty
  mapping := .ascii
  casemap := .rfc1459
  ignores
  lastError := none
  conn := none
  stopped := false

/-- `updateCasemapping`, of a network without a connection. -/
def Net.updateCasemapping (net : Net) (cm : CaseMapping) : Net :=
  { net with
    casemap := cm
    mapping := cm
    channels := net.channels.setCaseMapping cm
    delivered := net.delivered.setCaseMapping cm }

namespace State
variable (s : State)

/-- The object of an updated network, with what is copied into it. -/
def copiedNet (r : Nat) (record : Network) : Net :=
  let net := s.heap r
  let copy := { newNet record (net.channels.entries.map Prod.snd) net.ignores with delivered := net.delivered }
  { copy.updateCasemapping net.casemap with
    lastError := if record.enabled then net.lastError else none }

/-- What `updateNetwork` does once the record is stored: a fresh object takes the place of the old
one, which is stopped and loses its connection, and the clients are bound to it. -/
def replaceNetwork (r : Nat) (record : Network) : State :=
  let old := s.heap r
  let copy := s.copiedNet r record
  let s := s.disconnect r
  let s := s.mapClients fun dc => if dc.network = some r then { dc with network := some s.next } else dc
  let s := s.removeNetwork r
  let s := s.emit (if env.msgStore = .fs ∧ record.getName ≠ old.record.getName
    then [.renameNetwork old.record record] else [])
  let s := s.addNetwork copy
  s.notifyBouncerNetworkState record.id (getNetworkAttrs env s.user copy)

/-- How many networks are enabled. -/
def enabledNetworks : Nat := (s.networks.filter fun r => (s.heap r).record.enabled).length

def canEnableNewNetwork : Except String Unit :=
  let max := if s.user.maxNetworks < 0 then env.maxUserNetworks else s.user.maxNetworks
  if max < 0 then .ok ()
  else if max ≤ s.enabledNetworks then .error "maximum number of enabled networks reached"
  else .ok ()

end State

/-- The part of `checkNetwork` that is about the address. -/
def checkURL (admin : Bool) (u : URL) : Except String Unit :=
  if u.hasUser then .error (u.scheme ++ ":// URL must not have username and password information")
  else if u.rawQuery ≠ "" then .error (u.scheme ++ ":// URL must not have query values")
  else if u.fragment ≠ "" then .error (u.scheme ++ ":// URL must not have a fragment")
  else if u.scheme = "ircs" ∨ u.scheme = "irc+insecure" then
    if u.host = "" then .error (u.scheme ++ ":// URL must have a host")
    else if u.path ≠ "" then .error (u.scheme ++ ":// URL must not have a path")
    else .ok ()
  else if u.scheme = "irc+unix" ∨ u.scheme = "unix" then
    if !admin then .error "non-admin users cannot add networks with a unix address"
    else if u.host ≠ "" then .error (u.scheme ++ ":// URL must not have a host")
    else if u.path = "" then .error (u.scheme ++ ":// URL must have a path")
    else .ok ()
  else .error ("unknown URL scheme " ++ u.scheme.quote)

def State.checkNetwork (s : State) (record : Network) : Except String Unit :=
  match networkURL env record with
  | .error e => .error e
  | .ok u =>
    match checkURL s.user.admin u with
    | .error e => .error e
    | .ok () =>
      if record.getName = "" then .error "network name cannot be empty"
      else if startsWith '-' record.getName then .error "network name cannot start with a dash character"
      else if s.networks.any fun r =>
          (s.heap r).record.getName = record.getName && (s.heap r).record.id ≠ record.id then
        .error ("a network with the name " ++ record.getName.quote ++ " already exists")
      else .ok ()

def storeNetwork (record : Network) : Handler Int := do
  let s ← get
  call fun newID db => db.storeNetwork newID s.user.id record

def storeChannel (networkID : Int) (ch : Channel) : Handler Int :=
  call fun newID db => db.storeChannel newID networkID ch

def storeUser (record : Database.User) : Handler Int := call fun newID db => db.storeUser newID record

/-- The check of the limit, and of the record. -/
def checkLimit (enforceLimit : Bool) (record : Network) : Handler Unit := do
  let s ← get
  if enforceLimit && record.enabled then ofExcept (s.canEnableNewNetwork env) else pure ()

def checkRecord (record : Network) : Handler Unit := do
  let s ← get
  ofExcept (s.checkNetwork env record)

/-- `createNetwork`: the address of the network. -/
def createNetwork (record : Network) (enforceLimit : Bool) : Handler Nat := do
  panicIf (record.id ≠ 0) "tried creating an already-existing network"
  checkLimit env enforceLimit record
  checkRecord env record
  let id ← storeNetwork record
  let s ← get
  let net := newNet { record with id } [] []
  modify fun s => (s.addNetwork net).notifyBouncerNetworkState id (getNetworkAttrs env s.user net)
  pure s.next

/-- A nick or a real name that is the user's own is not kept for the network. -/
def wipeDefaults (user : Database.User) (record : Network) : Network :=
  { record with
    nick := if record.nick = user.nick then "" else record.nick
    realname := if record.realname = user.realname then "" else record.realname }

/-- `updateNetwork`: the address of the network that takes the place. -/
def updateNetwork (record : Network) (enforceLimit : Bool) : Handler Nat := do
  panicIf (record.id = 0) "tried updating a new network"
  checkLimit env enforceLimit record
  let s ← get
  let record := wipeDefaults s.user record
  checkRecord env record
  match s.getNetworkByID record.id with
  | none => throw (.panic "tried updating a non-existing network")
  | some r =>
    let _ ← storeNetwork record
    modify fun s => s.replaceNetwork env r record
    pure s.next

def deleteNetwork (id : Int) : Handler Unit := do
  let s ← get
  match s.getNetworkByID id with
  | none => throw (.panic "tried deleting a non-existing network")
  | some r =>
    call fun _ db => (db.deleteNetwork id).map fun db => (db,())
    modify fun s => (s.removeNetwork r).mapClients (State.notifyClient (.networkDeleted id))

def State.setRecord (s : State) (r : Nat) (f : Network → Network) : State :=
  s.setNet r fun net => { net with record := f net.record }

/-- The live record is changed, and then stored. -/
def mutateNetwork (r : Nat) (f : Network → Network) : Handler Unit := do
  modify fun s => s.setRecord r f
  let s ← get
  discard (storeNetwork (s.heap r).record)

/-- What `updateUser` tells the servers of the networks that use the user's nick. -/
def State.nickMessages (s : State) : List Effect :=
  s.networks.filterMap fun r =>
    match (s.heap r).record.nick, (s.heap r).conn with
    | "", some c => some (.toServer c (message "NICK" [Database.getNick s.user (s.heap r).record.toNetwork]))
    | _, _ => none

/-- The upstream connection can change its real name in place. -/
def State.canSetname (s : State) (r : Nat) : Option Nat :=
  (s.heap r).conn.filter fun c => (s.conns c).caps.contains "setname"

/-- With only the real name changed, a network that has its own is left alone, and one whose
server takes `SETNAME` is not reconnected. -/
def State.needsReconnect (s : State) (enabledUpdated : Bool) (r : Nat) : Bool :=
  enabledUpdated || ((s.heap r).record.realname = "" && (s.canSetname r).isNone)

def State.realnameMessages (s : State) (enabledUpdated : Bool) : List Effect :=
  if enabledUpdated then []
  else s.networks.filterMap fun r =>
    match (s.heap r).record.realname, s.canSetname r with
    | "", some c => some (.toServer c (message "SETNAME" [getRealname s.user (s.heap r).record]))
    | _, _ => none

/-- The updates go on after an error, of which the last one is returned. -/
def updateNetworks : List Network → Option String → Handler (Option String)
  | [], err => pure err
  | record :: records, err => do
    let err ← tryCatch (do discard (updateNetwork env record false); pure err) fun
      | .error e => pure (some e)
      | e => throw e
    updateNetworks records err

/-- The networks that are reconnected for a new real name or a new enabled flag. -/
def reconnectNetworks (realnameUpdated enabledUpdated : Bool) : Handler Unit :=
  if realnameUpdated || enabledUpdated then do
    let s ← get
    modify fun s => s.emit (s.realnameMessages enabledUpdated)
    let err ← updateNetworks env
      ((s.networks.filter (s.needsReconnect enabledUpdated)).map fun r => (s.heap r).record) none
    match err with
    | some e => fail e
    | none => pure ()
  else pure ()

def closeIfDisabled (s : State) : State :=
  s.mapClients fun dc => if s.user.enabled then dc else { dc with closed := true }

/-- `updateUser` -/
def updateUser (update : Database.User → Except String Database.User) : Handler Unit := do
  let old ← get
  let record ← ofExcept (update old.user)
  wrap ("failed to update user " ++ old.user.username.quote ++ ": ") (discard (storeUser record))
  modify fun s => { s with user := record }
  modify fun s => s.emit (if old.user.nick = record.nick then [] else s.nickMessages)
  reconnectNetworks env (old.user.realname ≠ record.realname) (old.user.enabled ≠ record.enabled)
  modify closeIfDisabled

/-- The networks that `run` loads, in the order of their ids. -/
def loadedNets (user : Database.User) (db : DB) : List Net :=
  ((db.listNetworks user.id).insertionSort fun a b => a.id ≤ b.id).map fun record =>
    newNet record (db.listChannels record.id) (db.listIgnores record.id)

/-- How the goroutine of a user starts. -/
def State.load (user : Database.User) (db : DB) (answers : List Answer) (others : List Other) : State where
  user
  heap := fun r => (loadedNets user db).getD r (newNet (newNetwork "") [] [])
  next := (loadedNets user db).length
  networks := List.range (loadedNets user db).length
  fresh := fun _ hr => List.mem_range.mp hr
  conns := fun _ => ⟨0,"","","",[],"",[],true⟩
  clients := []
  others
  debug := false
  db
  answers
  dbFailed := false
  effects := (List.range (loadedNets user db).length).map Effect.runNetwork

section Channels
variable (moment : Nat)

/-- The record of a channel that is detached. -/
def detachedChannel (net : Net) (ch : Channel) : Channel :=
  { ch with
    detached := true
    detachedInternalMsgID := if env.msgStore = .none then ch.detachedInternalMsgID
      else env.lastMsgID moment net.record.id (net.casemap.apply ch.name) }

def attachedChannel (ch : Channel) : Channel := { ch with detached := false, detachedInternalMsgID := "" }

/-- The channel with the name is this one, or is changed to it in place. -/
def Net.setChannel (net : Net) (name : String) (ch : Channel) : Net :=
  { net with channels := net.channels.set net.mapping name ch }

/-- `detach`, of the channel with the name. -/
def State.detach (s : State) (r : Nat) (name : String) (ch : Channel) : State :=
  if ch.detached then s
  else
    let net := s.heap r
    let s := s.setNet r fun net => net.setChannel name (detachedChannel env moment net ch)
    let s := s.forEachDownstream r fun dc => dc.send (.part ch.name)
    if env.msgStore = .none then s else s.emit [.lastMsgID net.record (net.casemap.apply ch.name)]

/-- The backlog that a client without `draft/chathistory` is sent. -/
def State.backlogEffects (s : State) (r : Nat) (ch : Channel) : List Effect :=
  if ch.detachedInternalMsgID = "" ∨ env.msgStore = .none then []
  else (s.clients.filter fun dc => dc.network = some r && !dc.caps.contains "draft/chathistory").map fun _ =>
    .loadLatestID (s.heap r).record ((s.heap r).casemap.apply ch.name) ch.detachedInternalMsgID

/-- `attach` -/
def State.attach (s : State) (r : Nat) (name : String) (ch : Channel) : State :=
  if ch.detached then
    let effects := s.backlogEffects env r ch
    let s := s.setNet r fun net => net.setChannel name (attachedChannel ch)
    (s.forEachDownstream r fun dc => dc.send (.join ch.name)).emit effects
  else s

def State.getChannel (s : State) (r : Nat) (name : String) : Option Channel :=
  (s.heap r).channels.get (s.heap r).mapping name

/-- A channel is stored, and a new one gets its id. -/
def saveChannel (r : Nat) (name : String) (ch : Channel) : Handler Unit := do
  let s ← get
  let id ← storeChannel (s.heap r).record.id ch
  modify fun s => s.setNet r fun net => net.setChannel name { ch with id }

/-- `deleteChannel` -/
def deleteChannel (r : Nat) (name : String) : Handler Unit := do
  let s ← get
  match s.getChannel r name with
  | none => fail ("unknown channel " ++ name.quote)
  | some ch =>
    call fun _ db => .ok (db.deleteChannel ch.id,())
    modify fun s => s.setNet r fun net => { net with channels := net.channels.del net.mapping name }

end Channels

/-- `autoSaveSASLPlain`: other credentials than PLAIN ones are not replaced. -/
def autoSaveSASLPlain (r : Nat) (username password : String) : Handler Unit := do
  let s ← get
  match (s.heap r).record.sasl.mechanism with
  | .none | .plain =>
    tryCatch (mutateNetwork r fun record =>
      { record with
        sasl := { record.sasl with mechanism := .plain, plainUsername := username, plainPassword := password } }) fun
      | .error _ => pure ()
      | e => throw e
  | _ => pure ()

end Sake.Goroutine
