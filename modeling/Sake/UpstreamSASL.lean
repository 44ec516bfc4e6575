import Sake.Authenticate
import Sake.Pending

/-!
Clients that authenticate to the server of their network after registration.
-/

namespace Sake.UpstreamSASL
open Downstream Authenticate

/-- A client, with the number of the exchange that `dc.sasl` points to. -/
structure Client where
  dc : Conn
  exchange : Nat

/-- The clients of a network and its connection. `queuedBy` gives the exchange that queued a command,
by its serial. `saslClient` holds the credentials of a client, or none where they are the
network's own. `saves` lists what was saved, with the `saslClient` the server had accepted. -/
structure State where
  clients : Nat → Option Client
  nextID : Nat
  exchanges : Nat
  uc : Pending.Conn
  saslClient : Option (Option SaslPlain)
  queuedBy : Nat → Nat
  /-- Another mechanism than PLAIN is set up. -/
  otherMechanism : Bool
  saves : List (SaslPlain × Option (Option SaslPlain))
  panicked : Bool

namespace State
variable (s : State)

def queue : List Pending.Command := s.uc.pendingCmds "AUTHENTICATE"

def put (id : Nat) (client : Client) : State :=
  { s with clients := Function.update s.clients id (some client) }

/-- A new client's SASL exchange was ended when it registered. -/
def connect (dc : Conn) : State :=
  { s.put s.nextID ⟨{ dc with sasl := none },0⟩ with nextID := s.nextID + 1 }

def disconnect (id : Nat) : State :=
  { s with
    clients := Function.update s.clients id none
    uc := Pending.cancelPendingCommandsByDownstreamID s.uc id }

end State

/-- `endSASL` of a client. -/
def ended (msg : Option Message) (dc : Conn) : Conn :=
  match endSASL msg dc with
  | .ok _ dc | .error _ dc => dc

def refusal (dc : Conn) (text : String) : Option Message := some (message "904" [dc.nick,text])

/-- The credentials become those of the connection, and wait for the server. -/
def startPlain (s : State) (id exchange : Nat) (plain : SaslPlain) : State :=
  match Pending.enqueueCommand s.uc id "" (message "AUTHENTICATE" ["PLAIN"]) with
  | none => s
  | some uc =>
    { s with uc, saslClient := some (some plain), queuedBy := Function.update s.queuedBy s.uc.nextSerial exchange }

/-- `AUTHENTICATE` of a client whose network supports SASL. -/
def handleAuthenticate (lib : Library) (s : State) (id : Nat) (client : Client) (msg : Message) : State :=
  let exchange := if client.dc.sasl.isNone then s.exchanges else client.exchange
  let s := { s with exchanges := s.exchanges + 1 }
  match Authenticate.handleAuthenticate lib msg client.dc with
  | .error _ dc => s.put id ⟨dc,exchange⟩
  | .ok none dc => s.put id ⟨dc,exchange⟩
  | .ok (some credentials) dc =>
    if s.saslClient.isSome then
      s.put id ⟨ended (refusal dc "Another authentication attempt is already in progress") dc,exchange⟩
    else
      match credentials.mechanism, credentials.plain with
      | .plain, none => { s with panicked := true }
      | .plain, some plain =>
        let s := s.put id ⟨dc,exchange⟩
        if plain.identity ≠ "" ∧ plain.identity ≠ plain.username then s else startPlain s id exchange plain
      | .anonymous, _ => { s.put id ⟨ended none dc,exchange⟩ with otherMechanism := false }
      | _, _ => s.put id ⟨ended (refusal dc "Unsupported SASL authentication mechanism") dc,exchange⟩

/-- A numeric of the server that ends the exchange, with or without success. -/
def handleSASLEnd (s : State) (success : Bool) (msg : Message) : State :=
  let t := { s with saslClient := none, uc := Pending.dequeueCommand s.uc "AUTHENTICATE" }
  match s.queue with
  | [] => t
  | cmd :: _ =>
    match s.clients cmd.downstreamID with
    | none => t
    | some client =>
      match client.dc.sasl with
      | none => t
      | some sasl =>
        let done := t.put cmd.downstreamID ⟨ended (some msg) client.dc,client.exchange⟩
        match success, sasl.plain with
        | false, _ => done
        | true, none => { t with panicked := true }
        | true, some plain => { done with saves := if s.otherMechanism then s.saves else s.saves ++ [(plain,s.saslClient)] }

/-- `unknown` is a numeric of the server that refuses `AUTHENTICATE`, `fail` its `FAIL`, and `ownSASL` the acknowledged
capability. -/
inductive Event
  | connect (dc : Conn)
  | disconnect (id : Nat)
  | authenticate (id : Nat) (supported : Bool) (msg : Message)
  | saslEnd (success : Bool) (msg : Message)
  | unknown
  | fail
  | ownSASL
  | elapse (d : Nat)

def step (lib : Library) (s : State) : Event → Option State
  | .connect dc => some (s.connect dc)
  | .disconnect id => some (s.disconnect id)
  | .authenticate id supported msg =>
    (s.clients id).map fun client => if supported then handleAuthenticate lib s id client msg else s
  | .saslEnd success msg => some (handleSASLEnd s success msg)
  | .unknown => some { s with saslClient := none, uc := Pending.dequeueCommand s.uc "AUTHENTICATE" }
  | .fail => some { s with uc := Pending.dequeueCommand s.uc "AUTHENTICATE" }
  | .ownSASL => some { s with saslClient := some none }
  | .elapse d => some { s with uc := { s.uc with now := s.uc.now + d } }

def init (labeledResponse messageTags otherMechanism : Bool) (now : Nat) : State :=
  ⟨fun _ => none,0,0,Pending.start labeledResponse messageTags now,none,fun _ => 0,otherMechanism,[],false⟩

/-- A client that still has the exchange of the first command is in that exchange, with the
credentials the server is given. Only those have been saved. -/
structure Faithful (s : State) : Prop where
  alive : s.panicked = false
  matched : ∀ cmd ∈ s.queue.head?, ∀ client ∈ s.clients cmd.downstreamID, ∀ sasl ∈ client.dc.sasl,
    client.exchange = s.queuedBy cmd.serial ∧ ∃ plain, sasl.plain = some plain ∧ s.saslClient = some (some plain)
  saved : ∀ e ∈ s.saves, e.2 = some (some e.1)

/-- What is asked of the PLAIN server: it is done only with credentials, and only once. -/
structure PlainServer (lib : Library) : Prop where
  given : ∀ before resp, (lib.next .plain before resp).result = .done → (lib.next .plain before resp).plain.isSome
  once : ∀ before resp, (lib.next .plain before resp).result = .done →
    ∀ resp', (lib.next .plain (before ++ [resp]) resp').result = .failed

/-- No client starts over while a command of its waits, nor does the connection. -/
def Careful (s : State) : Event → Prop
  | .authenticate id _ _ => (∃ cmd ∈ s.queue, cmd.downstreamID = id) → ∀ client ∈ s.clients id, client.dc.sasl ≠ none
  | .ownSASL => s.queue = []
  | _ => True

end Sake.UpstreamSASL
