import Sake.Downstream
import Sake.Handlers.Registration

namespace Sake.Capabilities
open Strings Downstream

def CapRegistry.del (cr : CapRegistry) (name : String) : CapRegistry where
  available := cr.available.filter fun kv => kv.1 != name
  enabled := cr.enabled.filter (· != name)

section Negotiation
variable (lib : Library) (env : Downstream.Env)

/-- Only a connection that is not registered has a negotiation that keeps it from registering. -/
def negotiating (b : Bool) (dc : Conn) : Conn :=
  if dc.registered then dc else { dc with registration := { dc.registration with negotiatingCaps := b } }

def handleCapLS (args : List String) : Handler Unit := do
  setCapVersion args
  let dc ← get
  -- what the upstream connection has is not known before the registration
  let caps := if !dc.registered && 302 ≤ dc.capVersion then
      passthroughDownstreamCaps.foldl CapRegistry.setAvailable dc.caps
    else dc.caps
  let words := caps.available.map fun kv =>
    if 302 ≤ dc.capVersion && kv.2 != "" then kv.1 ++ "=" ++ kv.2 else kv.1
  send (env.message "CAP" [dc.nick,"LS"," ".intercalate words])
  modify fun dc =>
    negotiating true { dc with caps := if 302 ≤ dc.capVersion then caps.setEnabled "cap-notify" true else caps }

def handleCapREQ (args : List String) : Handler Unit := do
  let dc ← get
  match args with
  | [] => failWith "410" [dc.nick,"REQ","Missing argument in CAP REQ command"]
  | arg :: _ =>
    let requested := requestedCaps lib dc (fieldsFunc lib.unicode.isSpace arg)
    let caps := (requested.getD []).foldl (fun caps kv => caps.setEnabled kv.1 kv.2) dc.caps
    modify fun dc => { dc with caps := caps }
    send (env.message "CAP" [dc.nick,if requested.isSome then "ACK" else "NAK",arg])
    modify (negotiating true)

/-- `handleCap`, of a connection that is registered or not. -/
def handleCap (msg : Message) : Handler Unit := do
  needParams msg 1
  let dc ← get
  let args := msg.params.drop 1
  match lib.upper (msg.param 0) with
  | "LS" => handleCapLS env args
  | "LIST" => send (env.message "CAP" [dc.nick,"LIST"," ".intercalate dc.caps.enabled])
  | "REQ" => handleCapREQ lib env args
  | "END" => modify (negotiating false)
  | cmd => failWith "410" [dc.nick,cmd,"Unknown CAP command"]

end Negotiation

section Supported
variable (env : Downstream.Env)

def setSupportedCap (name value : String) (dc : Conn) : Conn :=
  let changed := dc.caps.available.lookup name != some value
  let sent := if !dc.caps.isEnabled "cap-notify" || !changed then []
    else
      let cap := if value != "" && 302 ≤ dc.capVersion then name ++ "=" ++ value else name
      [env.message "CAP" [dc.nick,"NEW",cap]]
  { dc with caps := dc.caps.setAvailable (name,value), sent := dc.sent ++ sent }

def unsetSupportedCap (name : String) (dc : Conn) : Conn :=
  let caps := CapRegistry.del dc.caps name
  let sent := if !caps.isEnabled "cap-notify" || !dc.caps.isAvailable name then []
    else [env.message "CAP" [dc.nick,"DEL",name]]
  { dc with caps, sent := dc.sent ++ sent }

/-- The capability is offered with a value, or not at all. -/
def offerCap (name : String) : Option String → Conn → Conn
  | some value => setSupportedCap env name value
  | none => unsetSupportedCap env name

def passthroughOffer (uc : Option Upstream.Conn) (kv : String × String) : Option String :=
  if uc.all fun uc => uc.capsEnabled.contains kv.1 then some kv.2 else none

/-- Clients have to be connected before they register an account. -/
def accountRegistration (uc : Upstream.Conn) : Option String :=
  if uc.capsEnabled.contains "draft/account-registration" then
    let value := (uc.capsAvailable.lookup "draft/account-registration").getD ""
    some (",".intercalate ((split ',' value).erase "before-connect"))
  else none

def updateSASL (upstream : Upstream.Env) (uc : Option Upstream.Conn) (bound : Bool) (dc : Conn) : Conn :=
  if uc.any fun uc => uc.supportsSASL upstream "PLAIN" then setSupportedCap env "sasl" "PLAIN,ANONYMOUS" dc
  else if bound then unsetSupportedCap env "sasl" dc
  else dc

/-- `updateSupportedCaps`, of a client that is bound to a network or not. `history` says that the store
of the user has the history of chats. -/
def updateSupportedCaps (upstream : Upstream.Env) (history : Bool) (uc : Option Upstream.Conn) (bound : Bool)
    (dc : Conn) : Conn :=
  let dc := passthroughDownstreamCaps.foldl (fun dc kv => offerCap env kv.1 (passthroughOffer uc kv) dc) dc
  let dc := updateSASL env upstream uc bound dc
  let dc := offerCap env "draft/account-registration" (uc.bind accountRegistration) dc
  offerCap env "draft/event-playback" (if history && bound then some "" else none) dc

end Supported

/-- A client that has been welcomed. -/
structure Client where
  id : Nat
  conn : Conn
  network : Option Nat

/-- An upstream connection and its network. -/
structure Server where
  conn : Upstream.Conn
  network : Nat

/-- The connections of a user's clients, before and after they are welcomed, the connection that each
network is on, and all upstream connections. -/
structure State where
  arriving : List (Nat × Conn)
  clients : List Client
  network : Nat → Option Nat
  servers : Nat → Option Server

structure Env where
  lib : Library
  downstream : Downstream.Env
  upstream : Upstream.Env
  history : Bool

namespace State
variable (env : Env) (s : State)

def start : State := ⟨[],[],fun _ => none,fun _ => none⟩

/-- `dc.upstream` -/
def upstream (network : Option Nat) : Option Upstream.Conn := do
  let r ← network
  let c ← s.network r
  let server ← s.servers c
  return server.conn

def update (dc : Client) : Client :=
  { dc with
    conn := updateSupportedCaps env.downstream env.upstream env.history (s.upstream dc.network) dc.network.isSome dc.conn }

/-- All clients of the network get to know what is supported now. -/
def updateClients (r : Nat) : State :=
  { s with clients := s.clients.map fun dc => if dc.network = some r then s.update env dc else dc }

def setNetwork (r : Nat) (c : Option Nat) : State := { s with network := Function.update s.network r c }

def setServer (c : Nat) (server : Server) : State := { s with servers := Function.update s.servers c (some server) }

end State

/-- What a handler leaves behind, whether it fails or not. -/
def after {ε σ : Type} (h : EStateM ε σ Unit) (s : σ) : σ :=
  match h s with
  | .ok _ t => t
  | .error _ t => t

inductive Event
  | accept (id : Nat)
  | clientMessage (id : Nat) (msg : Message)
  | welcome (id : Nat) (network : Option Nat)
  | clientGone (id : Nat)
  | dial (c r : Nat) (uc : Upstream.Conn)
  | serverCap (c : Nat) (msg : Message)
  | serverWelcome (c : Nat) (msg : Message)
  | connected (c : Nat)
  | disconnected (c : Nat)
  /-- Clients move on to the network that replaces another one. -/
  | replace (old new : Nat)

section Steps
variable (env : Env) (s : State)

/-- Whether the message has the clients told what is supported now. -/
def tellsClients (msg : Message) : Bool :=
  let subCmd := Upstream.upper env.upstream (msg.param 1)
  subCmd == "ACK" || subCmd == "NAK" || subCmd == "DEL"

def handleServerCap (c : Nat) (server : Server) (msg : Message) : State :=
  match Upstream.handleCap env.upstream msg server.conn with
  | .ok _ uc =>
    let t := s.setServer c { server with conn := uc }
    if tellsClients env msg && uc.registered then t.updateClients env server.network else t
  | .error _ uc => s.setServer c { server with conn := uc }

def welcome (id : Nat) (network : Option Nat) (dc : Conn) : Client :=
  s.update env ⟨id,{ dc with registered := true },network⟩

def handleUpstreamDisconnected (r : Nat) : State := (s.setNetwork r none).updateClients env r

def replaceNetwork (old new : Nat) : State :=
  let t := if (s.network old).isSome then handleUpstreamDisconnected env s old else s
  { t with clients := t.clients.map fun dc => if dc.network = some old then { dc with network := some new } else dc }

def step : Event → Option State
  | .accept id =>
    if s.arriving.any (·.1 == id) || s.clients.any (·.id == id) then none
    else some { s with arriving := s.arriving ++ [(id,newDownstreamConn env.downstream)] }
  | .clientMessage id msg =>
    let handle := after (handleCap env.lib env.downstream msg)
    some { s with
      arriving := s.arriving.map fun dc => if dc.1 = id then (id,handle dc.2) else dc
      clients := s.clients.map fun dc => if dc.id = id then { dc with conn := handle dc.conn } else dc }
  | .welcome id network =>
    (s.arriving.lookup id).map fun dc =>
      { s with
        arriving := s.arriving.filter fun dc => dc.1 != id
        clients := s.clients ++ [welcome env s id network dc] }
  | .clientGone id =>
    some { s with
      arriving := s.arriving.filter fun dc => dc.1 != id
      clients := s.clients.filter fun dc => dc.id != id }
  | .dial c r uc =>
    -- a new connection has nothing enabled, of a network with a mechanism that can be set
    if (s.servers c).isNone ∧ uc.registered = false ∧ uc.capsEnabled = [] ∧
        uc.saslMechanism ∈ ["","PLAIN","EXTERNAL"] then some (s.setServer c ⟨uc,r⟩)
    else none
  | .serverCap c msg => (s.servers c).map fun server => handleServerCap env s c server msg
  | .serverWelcome c msg =>
    (s.servers c).map fun server =>
      s.setServer c { server with conn := after (Upstream.handleWelcome msg) server.conn }
  | .connected c =>
    (s.servers c).bind fun server =>
      if server.conn.registered then some ((s.setNetwork server.network (some c)).updateClients env server.network)
      else none
  | .disconnected c => (s.servers c).map fun server => handleUpstreamDisconnected env s server.network
  | .replace old new => if (s.network new).isNone then some (replaceNetwork env s old new) else none

end Steps

end Sake.Capabilities
