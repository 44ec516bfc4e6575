import Sake.Service

namespace Sake.Registered
open Networks Goroutine Strings
open Downstream (message)

def illegalNickChars : String := " :@!*?$,."

def serviceNickCM : String := "bouncerserv"

/-- The case mapping of a client: that of its network. -/
def casemapOf (s : State) (dc : Client) : CaseMapping := dc.network.elim .ascii fun r => (s.heap r).casemap

/-- An error is told the client as a message of its own. -/
def orElse (msg : String → Message) (m : Handler Unit) : Handler Unit :=
  tryCatch m fun
    | .error e => throw (.irc (msg e))
    | e => throw e

/-- An error is logged. -/
def logged (m : Handler Unit) : Handler Unit :=
  tryCatch m fun
    | .error _ => pure ()
    | e => throw e

def refuse (c : Bool) (msg : Message) : Handler Unit := if c then throw (.irc msg) else pure ()

section
variable (env : Env) (dc : Client) (moment : Nat)

/-- The new nick is told the server, or this client alone. -/
def announceNick (r : Nat) (nick : String) (s : State) : State :=
  match (s.heap r).conn with
  | some c => s.emit [.toServer c (message "NICK" [nick])]
  | none => s.mapClients fun c => if c.id = dc.id then s.updateNick c else c

def nickFailed : Message := message "400" [dc.nick,"NICK","Failed to update nick"]

/-- `NICK`. A copy of the record is stored, and then the live record is changed. -/
def handleNick (nick : String) : Handler Unit := do
  let s ← get
  refuse (nick = "" || containsAny nick illegalNickChars)
    (message "432" [dc.nick,nick,"Nickname contains illegal characters"])
  refuse ((casemapOf s dc).apply nick = serviceNickCM)
    (message "433" [dc.nick,nick,"Nickname reserved for bouncer service"])
  match dc.network with
  | some r =>
    orElse (fun _ => nickFailed dc) (discard (storeNetwork { (s.heap r).record with nick }))
    modify fun s => announceNick dc r nick (s.setRecord r fun record => { record with nick })
  | none =>
    orElse (fun _ => nickFailed dc) (updateUser env fun record => .ok { record with nick })
    modify fun s => s.mapClients fun c => if c.network = none then s.updateNick c else c

def setnameFailed : Message := message "FAIL" ["SETNAME","CANNOT_CHANGE_REALNAME","Failed to update realname"]

/-- The real name of the user is not kept for the network. -/
def withRealname (user : Database.User) (realname : String) (record : Network) : Network :=
  { record with realname := if realname = user.realname then "" else realname }

/-- `SETNAME`. A server that can change the real name in place is asked to, and only the database gets
the new record. -/
def handleSetname (realname : String) : Handler Unit := do
  let s ← get
  if dc.realname = realname then
    modify fun s => s.mapClients fun c => if c.id = dc.id then c.send (.setname realname) else c
  else
    match dc.network with
    | some r =>
      match s.canSetname r with
      | some c => do
        modify fun s => s.emit [.toServer c (message "SETNAME" [realname])]
        orElse (fun _ => setnameFailed) (discard (storeNetwork (withRealname s.user realname (s.heap r).record)))
      | none => orElse (fun _ => setnameFailed) (discard (updateNetwork env (withRealname s.user realname (s.heap r).record) false))
    | none => do
      orElse (fun _ => setnameFailed) (updateUser env fun record => .ok { record with realname })
      modify fun s => s.mapClients fun c => if c.network = none then s.updateRealname c else c

/-- `upstreamForCommand` -/
def upstreamForCommand (cmd : String) : Handler Nat := do
  let s ← get
  match dc.network with
  | none => throw (.irc (message "400" ["*",cmd,
      "Cannot interact with channels and users on the bouncer connection. Did you mean to use a specific network?"]))
  | some r =>
    match (s.heap r).conn with
    | none => throw (.irc (message "400" ["*",cmd,"Disconnected from upstream network"]))
    | some c => pure c

/-- The channel is one that the connection has joined. -/
def hasJoined (s : State) (c : Nat) (name : String) : Bool :=
  let cm := (s.heap (s.conns c).network).casemap
  (s.conns c).channels.any fun joined => cm.apply joined = cm.apply name

/-- The record of a channel that is joined, which is attached again. -/
def joinChannel (r : Nat) (name : String) (ch : Channel) : Handler Unit := do
  modify fun s => s.setNet r fun net => net.setChannel name ch
  modify fun s => s.attach env r name ch
  logged (saveChannel r name (if ch.detached then attachedChannel ch else ch))

/-- A channel that there was no record of. -/
def rememberChannel (r : Nat) (ch : Channel) : Handler Unit := do
  modify fun s => s.setNet r fun net => net.setChannel ch.name ch
  logged (saveChannel r ch.name ch)

/-- One channel of `JOIN`. An empty key does not replace the one that is set. -/
def joinOne (c : Nat) (name key : String) : Handler Unit := do
  let s ← get
  let r := (s.conns c).network
  if name = "" || containsAny name Service.illegalChanChars || !(s.conns c).isChannel name then pure ()
  else do
    modify fun s => s.emit (if hasJoined s c name then []
      else [.toServer c (message "JOIN" (if key = "" then [name] else [name,key]))])
    match s.getChannel r name with
    | some ch => joinChannel env r name (if key = "" then ch else { ch with key })
    | none => rememberChannel r (newChannel name key)

/-- The names with their keys, as far as there are any. -/
def withKeys : List String → List String → List (String × String)
  | [], _ => []
  | name :: names, keys => (name,keys.headD "") :: withKeys names keys.tail

def handleJoin (names : String) (keys : Option String) : Handler Unit := do
  let c ← upstreamForCommand dc "JOIN"
  (withKeys (split ',' names) (keys.elim [] (split ','))).forM fun entry => joinOne env c entry.1 entry.2

/-- The channel is detached instead of parted. -/
def detachOne (r : Nat) (name : String) : Handler Unit := do
  let s ← get
  match s.getChannel r name with
  | some ch => do
    modify fun s => s.detach env moment r name ch
    logged (saveChannel r name (if ch.detached then ch else detachedChannel env moment (s.heap r) ch))
  | none => rememberChannel r { newChannel name "" with detached := true }

def partOne (c : Nat) (reason name : String) : Handler Unit := do
  let s ← get
  let r := (s.conns c).network
  if env.equalFold reason "detach" then detachOne env moment r name
  else do
    modify fun s => s.emit [.toServer c (message "PART" (if reason = "" then [name] else [name,reason]))]
    logged (deleteChannel r name)

def handlePart (names reason : String) : Handler Unit := do
  let c ← upstreamForCommand dc "PART"
  (split ',' names).forM (partOne env moment c reason)

/-- What comes of an `AUTHENTICATE` message: nothing yet, credentials while the connection is busy with
others, or credentials. -/
inductive Credentials
  | incomplete
  | busy
  | plain (identity username : String)
  | anonymous
  | other
  deriving Repr, DecidableEq

def clearSASL (record : Network) : Network :=
  { record with sasl := { record.sasl with plainUsername := "", plainPassword := "", mechanism := .none } }

/-- `AUTHENTICATE` after the registration. -/
def handleAuthenticate (credentials : Credentials) : Handler Unit := do
  let s ← get
  match (s.upstream dc).filter fun c => (s.conns c).caps.contains "sasl" with
  | none => throw (.irc (message "904" [dc.nick,"Upstream network authentication not supported"]))
  | some c =>
    match credentials with
    | .plain identity username => do
      refuse (identity ≠ "" && identity ≠ username) (message "904" [dc.nick,"SASL PLAIN identity not supported"])
      modify fun s => s.emit [.toServer c (message "AUTHENTICATE" ["PLAIN"])]
    | .anonymous =>
      let record := (s.heap (s.conns c).network).record
      if record.sasl.mechanism ≠ .none then logged (discard (updateNetwork env (clearSASL record) false)) else pure ()
    | _ => pure ()

end

section
variable (env : Env) (dc : Client)

/-- `networkAddrFromAttrs` -/
def networkAddrFromAttrs (attrs : Tags) : String :=
  let host := (attrs.get "host").getD ""
  let port := (attrs.get "port").getD ""
  let addr := if port = "" then host else host ++ ":" ++ port
  if host = "" then ""
  else if attrs.get "tls" = some "0" then "irc+insecure://" ++ addr
  else addr

/-- One attribute, if it is known. Those of the address are looked at together. -/
def updateNetworkAttr (record : Network) (key value : String) : Option Network :=
  match key with
  | "host" | "port" | "tls" => some record
  | "name" => some { record with name := value }
  | "nickname" => some { record with nick := value }
  | "username" => some { record with username := value }
  | "realname" => some { record with realname := value }
  | "pass" => some { record with pass := value }
  | _ => none

def addrKey (key : String) : Bool := key = "host" || key = "port" || key = "tls"

/-- The attributes of the address with those that are given. -/
def addrAttrs (record : Network) (attrs : Tags) : Tags :=
  attrs.foldl (fun tags kv => if addrKey kv.1 then tags.set kv.1 kv.2 else tags) (networkAddrAttrs env record)

/-- `updateNetworkAttrs` -/
def updateNetworkAttrs (subcommand : String) (attrs : Tags) (record : Network) : Except Message Network :=
  match attrs.find? fun kv => (updateNetworkAttr record kv.1 kv.2).isNone with
  | some kv => .error (message "FAIL" ["BOUNCER","UNKNOWN_ATTRIBUTE",subcommand,kv.1,"Unknown attribute"])
  | none =>
    let updated := attrs.foldl (fun record kv => (updateNetworkAttr record kv.1 kv.2).getD record) record
    if attrs.any fun kv => addrKey kv.1 then
      let addr := networkAddrFromAttrs (addrAttrs env record attrs)
      if addr = "" then
        .error (message "FAIL" ["BOUNCER","NEED_ATTRIBUTE",subcommand,"host","Missing required host attribute"])
      else .ok { updated with addr }
    else .ok updated

/-- A nick that is the username and a real name that is the user's are not kept. -/
def withoutDefaults (user : Database.User) (record : Network) : Network :=
  { record with
    nick := if record.nick = user.username then "" else record.nick
    realname := if record.realname = user.realname then "" else record.realname }

def attrsOrRefuse (r : Except Message Network) : Handler Network :=
  match r with
  | .ok record => pure record
  | .error msg => throw (.irc msg)

def unknownError (subcommand text e : String) : Message :=
  message "FAIL" ["BOUNCER","UNKNOWN_ERROR",subcommand,text ++ e]

/-- `BOUNCER ADDNETWORK`, as the client spells it. -/
def handleAddNetwork (subcommand : String) (attrs : Tags) : Handler Unit := do
  let s ← get
  let record ← attrsOrRefuse (updateNetworkAttrs env subcommand attrs { newNetwork "" with nick := dc.nick })
  orElse (unknownError subcommand "Failed to create network: ")
    (discard (createNetwork env (withoutDefaults s.user record) true))

/-- `parseBouncerNetID`, and the network with the id. -/
def bouncerNetwork (subcommand idStr : String) : Handler Nat := do
  let s ← get
  match ((parseInt idStr).filter (0 < ·)).bind s.getNetworkByID with
  | some r => pure r
  | none => throw (.irc (message "FAIL" ["BOUNCER","INVALID_NETID",subcommand,idStr,"Invalid network ID"]))

def handleChangeNetwork (subcommand idStr : String) (attrs : Tags) : Handler Unit := do
  let r ← bouncerNetwork subcommand idStr
  let s ← get
  let record ← attrsOrRefuse (updateNetworkAttrs env subcommand attrs (s.heap r).record)
  orElse (unknownError subcommand "Failed to update network: ")
    (discard (updateNetwork env (withoutDefaults s.user record) (!(s.heap r).record.enabled)))

def handleDelNetwork (subcommand idStr : String) : Handler Unit := do
  let r ← bouncerNetwork subcommand idStr
  let s ← get
  deleteNetwork (s.heap r).record.id

end

end Sake.Registered
