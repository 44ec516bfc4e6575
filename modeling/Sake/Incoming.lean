import Sake.Registered

namespace Sake.Incoming
open Networks Goroutine Registered
open Downstream (message)

/-- A message of a client, once its parameters have been read. -/
inductive Request
  | nick (nick : String)
  | setname (realname : String)
  | join (names : String) (keys : Option String)
  | part (names reason : String)
  | authenticate (credentials : Credentials)
  | addNetwork (subcommand : String) (attrs : Tags)
  | changeNetwork (subcommand id : String) (attrs : Tags)
  | delNetwork (subcommand id : String)
  /-- A message to the service. -/
  | service (words : List String) (peerCertificate : Option (List UInt8)) (remoteIP : String)
  /-- A message to NickServ that identifies the user. -/
  | identify (username password : String)
  deriving Repr, DecidableEq

/-- A client that has logged in. The setting of the server and whether a new address answers are
what they are at this moment. -/
structure Arrival where
  id : Nat
  caps : List String
  networkID : Int
  networkName : String
  nick : String
  impersonating : Bool
  enableUsersOnAuth : Bool
  answers : Bool
  deriving Repr, DecidableEq

/-- What the goroutine of a user takes from its queue. -/
inductive UserEvent
  /-- A connection has been registered with its server. -/
  | connected (c : Nat) (conn : Conn)
  | disconnected (c : Nat)
  | connectionError (r : Nat) (err : String)
  | upstreamError (c : Nat) (err : String)
  /-- The server gives us another nick or another real name. -/
  | upstreamNick (c : Nat) (nick : String)
  | upstreamSetname (c : Nat) (realname : String)
  /-- The server acknowledges other capabilities, or has us join or leave channels. -/
  | upstreamCaps (c : Nat) (caps : List String)
  | upstreamChannels (c : Nat) (channels : List String)
  | casemapping (r : Nat) (cm : CaseMapping)
  /-- The server has taken the credentials of a client. -/
  | authenticated (c : Nat) (username password : String)
  | channelDetach (c : Nat) (name : String)
  /-- A message that attaches its channel again. -/
  | channelAttach (c : Nat) (name : String)
  | closed (c : Nat)
  | downstreamConnected (dc : Arrival)
  | downstreamDisconnected (id : Nat) (impersonating : Bool)
  | downstreamMessage (id : Nat) (request : Request)
  | disconnectSession (id : Nat)
  | userUpdate (password : Option String) (admin enabled : Option Bool) (maxNetworks : Option Int)
      (sourceIP : Option String)
  | userRun (params : List String) (asUser : Bool)
  deriving Repr, DecidableEq

section
variable (env : Env) (moment : Nat)

/-- The state of a network has changed, of which the clients that asked for it are told. -/
def connect (c : Nat) (conn : Conn) (s : State) : State :=
  let s := { s with conns := Function.update s.conns c conn }
  let s := s.setNet conn.network fun net => { net with conn := some c }
  let s := s.forEachDownstream conn.network fun dc => s.updateRealname (s.updateNick dc)
  let s := s.notifyBouncerNetworkState (s.heap conn.network).record.id [("state","connected"),("error","")]
  s.setNet conn.network fun net => { net with lastError := none }

def setError (r : Nat) (err : String) (s : State) : State :=
  (s.setNet r fun net => { net with lastError := some err }).notifyBouncerNetworkState (s.heap r).record.id
    [("error",err)]

def setConn (c : Nat) (f : Conn → Conn) (s : State) : State :=
  { s with conns := Function.update s.conns c (f (s.conns c)) }

/-- A connection that is closed is not listened to. -/
def ifOpen (c : Nat) (m : Handler Unit) : Handler Unit := do
  let s ← get
  if (s.conns c).closed then pure () else m

def setConnNick (c : Nat) (nick : String) (s : State) : State :=
  let s := setConn c (fun uc => { uc with nick }) s
  s.forEachDownstream (s.conns c).network s.updateNick

def setConnRealname (c : Nat) (realname : String) (s : State) : State :=
  let s := setConn c (fun uc => { uc with realname }) s
  s.forEachDownstream (s.conns c).network s.updateRealname

/-- What is done for a channel that there is. -/
def withChannel (c : Nat) (name : String) (f : Nat → Channel → Handler Unit) : Handler Unit := do
  let s ← get
  match s.getChannel (s.conns c).network name with
  | none => pure ()
  | some ch => f (s.conns c).network ch

def autoDetach (name : String) (r : Nat) (ch : Channel) : Handler Unit := do
  let s ← get
  if ch.detached then pure ()
  else do
    modify fun s => s.detach env moment r name ch
    logged (saveChannel r name (detachedChannel env moment (s.heap r) ch))

def autoAttach (name : String) (r : Nat) (ch : Channel) : Handler Unit := do
  modify fun s => s.attach env r name ch
  logged (saveChannel r name (if ch.detached then attachedChannel ch else ch))

/-- `bumpDownstreamInteractionTime` -/
def bumpDownstreamInteractionTime (impersonating : Bool) : Handler Unit :=
  if impersonating then pure ()
  else logged (updateUser env fun record => .ok { record with downstreamInteractedAt := env.now moment })

/-- The network that a client asks for by a name that there is none of is created. -/
def createNamed (dc : Arrival) : Handler Nat := do
  let nick := (Downstream.unmarshalUsername dc.nick).1
  refuse (!dc.answers) (message "464" [dc.nick,"Failed to connect to " ++ dc.networkName.quote])
  refuse (nick = "" || Strings.containsAny nick illegalNickChars)
    (message "432" [dc.nick,dc.nick,"Nickname contains illegal characters"])
  refuse (CaseMapping.ascii.apply nick = serviceNickCM)
    (message "433" [dc.nick,dc.nick,"Nickname reserved for bouncer service"])
  createNetwork env { newNetwork dc.networkName with nick } true

def loadNetwork (dc : Arrival) : Handler (Option Nat) := do
  let s ← get
  if dc.networkID ≠ 0 then
    match s.getNetworkByID dc.networkID with
    | some r => pure (some r)
    | none => throw (.irc (message "FAIL" ["BOUNCER","INVALID_NETID",toString dc.networkID,"Unknown network ID"]))
  else if dc.networkName = "*" then
    throw (.irc (message "464" [dc.nick,"Multi-upstream mode is no longer supported"]))
  else if dc.networkName = "" then pure none
  else
    match s.getNetwork dc.networkName with
    | some r => pure (some r)
    | none => do
      let r ← createNamed env dc
      pure (some r)

/-- The nick of a client at its welcome. -/
def welcomeNick (s : State) (network : Option Nat) : String :=
  match network with
  | none => s.user.username
  | some r =>
    match (s.heap r).conn with
    | some c => (s.conns c).nick
    | none => Database.getNick s.user (s.heap r).record.toNetwork

/-- All networks, in their order. -/
def networkBatch (s : State) : List Sent :=
  s.networks.map fun r => .network (s.heap r).record.id (getNetworkAttrs env s.user (s.heap r))

/-- The client with what it is sent first. -/
def welcomed (s : State) (dc : Arrival) (network : Option Nat) : Client :=
  let nick := welcomeNick s network
  let client := s.updateRealname ⟨dc.id,network,dc.caps,nick,"",false,[.welcome nick]⟩
  if dc.caps.contains "soju.im/bouncer-networks-notify" then
    { client with sent := client.sent ++ networkBatch env s }
  else client

/-- `ListMessageTargets`, for a client that wants metadata. -/
def listMessageTargets (dc : Arrival) (network : Option Nat) : Handler Unit :=
  if network.isSome && dc.caps.contains "draft/metadata-2" then
    wrap "failed to list message targets: " (call fun _ db => .ok (db,()))
  else pure ()

/-- `welcome`, and the client is one of the user's. -/
def welcome (dc : Arrival) : Handler Unit := do
  let network ← loadNetwork env dc
  listMessageTargets dc network
  modify fun s => { s with clients := s.clients ++ [welcomed env s dc network] }
  bumpDownstreamInteractionTime env moment dc.impersonating

def enableUser (dc : Arrival) : Handler Unit := do
  let s ← get
  if !s.user.enabled && dc.enableUsersOnAuth then logged (updateUser env fun record => .ok { record with enabled := true })
  else pure ()

def handleDownstreamConnected (dc : Arrival) : Handler Unit := do
  enableUser env dc
  let s ← get
  if s.user.enabled then welcome env moment dc else pure ()

def Request.handle (dc : Client) : Request → Handler Unit
  | .nick name => handleNick env dc name
  | .setname realname => handleSetname env dc realname
  | .join names keys => handleJoin env dc names keys
  | .part names reason => handlePart env dc moment names reason
  | .authenticate credentials => handleAuthenticate env dc credentials
  | .addNetwork subcommand attrs => handleAddNetwork env dc subcommand attrs
  | .changeNetwork subcommand id attrs => handleChangeNetwork env subcommand id attrs
  | .delNetwork subcommand id => handleDelNetwork subcommand id
  | .service words peerCertificate remoteIP => do
    let s ← get
    tryCatch (Service.handleServiceCommand env ⟨dc.nick,dc.network,s.user.admin,peerCertificate,remoteIP,moment⟩ words)
      fun
      | .panic text => throw (.panic text)
      | .blocked => throw .blocked
      | _ => pure ()
  | .identify username password => do
    let c ← upstreamForCommand dc "PRIVMSG"
    let s ← get
    autoSaveSASLPlain (s.conns c).network username password

def closeClient (id : Nat) (s : State) : State :=
  s.mapClients fun dc => if dc.id = id then { dc with closed := true } else dc

/-- A client whose message fails otherwise than with a reply is closed. -/
def handleDownstreamMessage (id : Nat) (request : Request) : Handler Unit := do
  let s ← get
  match s.clients.find? fun dc => dc.id = id && !dc.closed with
  | none => pure ()
  | some dc =>
    tryCatch (request.handle env moment dc) fun
      | .error _ | .help => modify (closeClient id)
      | .irc _ => pure ()
      | e => throw e

def updatedUser (password : Option String) (admin enabled : Option Bool) (maxNetworks : Option Int)
    (sourceIP : Option String) (record : Database.User) : Database.User :=
  { record with
    password := password.getD record.password
    admin := admin.getD record.admin
    enabled := enabled.getD record.enabled
    maxNetworks := maxNetworks.getD record.maxNetworks
    sourceIP := sourceIP.getD record.sourceIP }

/-- Clients have to log in with a new password. -/
def handleUserUpdate (password : Option String) (admin enabled : Option Bool) (maxNetworks : Option Int)
    (sourceIP : Option String) : Handler Unit := do
  logged (updateUser env fun record => .ok (updatedUser password admin enabled maxNetworks sourceIP record))
  modify fun s => s.mapClients fun dc => if password.isSome then { dc with closed := true } else dc

def UserEvent.handle : UserEvent → Handler Unit
  | .connected c conn => modify (connect c conn)
  | .disconnected c => modify fun s => s.handleUpstreamDisconnected c
  | .connectionError r err => modify (setError r err)
  | .upstreamError c err => modify fun s => setError (s.conns c).network err s
  | .upstreamNick c nick => ifOpen c (modify (setConnNick c nick))
  | .upstreamSetname c realname => ifOpen c (modify (setConnRealname c realname))
  | .upstreamCaps c caps => ifOpen c (modify (setConn c fun uc => { uc with caps }))
  | .upstreamChannels c channels => ifOpen c (modify (setConn c fun uc => { uc with channels }))
  | .casemapping r cm => modify fun s => s.setNet r fun net => net.updateCasemapping cm
  | .authenticated c username password => ifOpen c do
    let s ← get
    autoSaveSASLPlain (s.conns c).network username password
  | .channelDetach c name => withChannel c name (autoDetach env moment name)
  | .channelAttach c name => ifOpen c (withChannel c name (autoAttach env name))
  | .closed c => modify (setConn c fun uc => { uc with closed := true })
  | .downstreamConnected dc => handleDownstreamConnected env moment dc
  | .downstreamDisconnected id impersonating => do
    modify fun s => { s with clients := s.clients.eraseP fun dc => dc.id = id }
    bumpDownstreamInteractionTime env moment impersonating
  | .downstreamMessage id request => handleDownstreamMessage env moment id request
  | .disconnectSession id => modify (closeClient id)
  | .userUpdate password admin enabled maxNetworks sourceIP =>
    handleUserUpdate env password admin enabled maxNetworks sourceIP
  | .userRun params asUser => do
    let s ← get
    Service.handleServiceCommand env ⟨"",none,!asUser || s.user.admin,none,"",moment⟩ params

end

/-- The connections that networks refer to are those that have been made, and ids of clients are new. -/
def UserEvent.Possible (s : State) : UserEvent → Prop
  | .connected c conn => conn.network < s.next ∧ (∀ r < s.next, (s.heap r).conn ≠ some c)
  | .connectionError r _ | .casemapping r _ => r < s.next
  | .downstreamConnected dc => ∀ client ∈ s.clients, client.id ≠ dc.id
  | _ => True

instance (s : State) (e : UserEvent) : Decidable (e.Possible s) := by
  unfold UserEvent.Possible
  split <;> infer_instance

/-- One event after another, each at its moment. The goroutine does not go on after a panic. -/
def step (env : Env) (s : State) (e : Nat × UserEvent) : Option State :=
  if e.2.Possible s then
    match e.2.handle env e.1 s with
    | .ok _ t => some t
    | .error (.panic _) _ | .error .blocked _ => none
    | .error _ t => some t
  else none

end Sake.Incoming
