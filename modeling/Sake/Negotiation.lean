import Sake.HandleMessage

namespace Sake.Negotiation
open Strings Upstream

/-- The capabilities that are always requested. -/
def permanentUpstreamCaps : List String :=
  ["account-notify","account-tag","away-notify","batch","chghost","echo-message","extended-join",
    "extended-monitor","invite-notify","labeled-response","message-tags","multi-prefix","sasl","server-time",
    "setname","draft/account-registration","draft/extended-monitor","draft/message-redaction"]

section Caps
variable (order : List String) (uc : Conn)

def isAvailable (name : String) : Bool := uc.capsAvailable.any fun kv => kv.1 == name

def isEnabled (name : String) : Bool := uc.capsEnabled.contains name

/-- What `updateCaps` asks for. The permanent capabilities are in a map, which is walked in some order. -/
def requestCaps : List String :=
  (order.filter fun c => isAvailable uc c && !isEnabled uc c) ++
    if !isEnabled uc "echo-message" && isAvailable uc "labeled-response" then ["echo-message"]
    else if isEnabled uc "echo-message" && !isAvailable uc "labeled-response" then ["-echo-message"]
    else []

end Caps

/-- A connection, and what has been sent to the server. -/
structure Line where
  conn : Conn
  sent : List Message

/-- What the handlers of the server's messages call: the answers of the SASL client besides. -/
structure Env where
  upstream : Upstream.Env
  respond : (started : Bool) → (challenge : String) → List String

abbrev Handler := EStateM Fault Line

def message (command : String) (params : List String) : Message := ⟨[],none,command,params⟩

def capEnd : Message := message "CAP" ["END"]

def authenticate (param : String) : Message := message "AUTHENTICATE" [param]

/-- A handler that sends nothing that matters for the registration. -/
def quietly {α : Type} (h : Upstream.Handler α) : Handler α := fun l =>
  match h l.conn with
  | .ok a conn => .ok a { l with conn }
  | .error e conn => .error e { l with conn }

def send (msg : Message) : Handler Unit := modify fun l => { l with sent := l.sent ++ [msg] }

section Handlers
variable (env : Env) (order : List String)

def updateCaps : Handler Unit := do
  let l ← get
  let words := requestCaps order l.conn
  if words = [] then pure () else send (message "CAP" ["REQ"," ".intercalate words])

def handleCapAck (name : String) (ok : Bool) : Handler Unit := do
  quietly (Upstream.handleCapAck env.upstream name ok)
  let l ← get
  if name = "sasl" ∧ l.conn.requestSASL env.upstream ∧ ok then send (authenticate l.conn.saslMechanism)
  else pure ()

/-- The end of the capabilities that the server supports. -/
def endOfCaps : Handler Unit := do
  updateCaps order
  let l ← get
  -- with SASL the negotiation ends after the authentication
  if l.conn.requestSASL env.upstream then pure () else send capEnd

/-- There are more lines. The code looks for the star in the message, not behind the subcommand. -/
def more (msg : Message) : Bool :=
  let subParams := msg.params.drop 2
  2 ≤ subParams.length && msg.param (subParams.length - 2) == "*"

def handleCap (msg : Message) : Handler Unit := do
  quietly (needParams msg 2)
  let subCmd := upper env.upstream (msg.param 1)
  let subParams := msg.params.drop 2
  if subCmd = "ACK" ∨ subCmd = "NAK" then
    quietly (Upstream.failIf (subParams = []) (.needMoreParams msg.command))
    (fieldsFunc env.upstream.unicode.isSpace (subParams.headD "")).forM fun name =>
      let (name,negated) := cutFirst '-' name
      handleCapAck env (lower env.upstream name) (subCmd == "ACK" && !negated)
  else
    quietly (Upstream.handleCap env.upstream msg)
    if subCmd = "LS" ∧ more msg = false then endOfCaps env order
    else if subCmd = "NEW" then updateCaps order
    else pure ()

/-- A challenge that is not understood aborts the exchange. -/
def handleAuthenticate (msg : Message) : Handler Unit := do
  let l ← get
  match Upstream.handleAuthenticate env.upstream msg l.conn with
  | .ok _ conn =>
    set ({ conn, sent := l.sent ++ (env.respond l.conn.saslStarted (msg.param 0)).map authenticate } : Line)
  | .error e conn =>
    set ({ conn, sent := l.sent ++ if l.conn.saslClient then [authenticate "*"] else [] } : Line)
    throw e

def handleSASLEnd (msg : Message) : Handler Unit := do
  quietly (Upstream.handleSASLEnd msg)
  let l ← get
  if l.conn.registered then pure () else send capEnd

def handleMessage (msg : Message) : Handler Unit := do
  let l ← get
  match l.conn.messageLabel msg with
  | .error e => throw (.error e)
  | .ok label =>
    match parseLabel label with
    | .error e => throw (.error e)
    | .ok _ =>
      match kindOf msg.command with
      | .cap => handleCap env order msg
      | .authenticate => handleAuthenticate env msg
      | .saslEnd => handleSASLEnd msg
      | kind => quietly (handleKind env.upstream msg (l.conn.source msg) label kind)

end Handlers

/-- How a server ends an exchange of SASL messages. -/
inductive SaslOutcome
  | nickLocked
  | success
  | fail
  | tooLong
  | aborted
  deriving Repr, DecidableEq

def SaslOutcome.numeric : SaslOutcome → String
  | .nickLocked => "902"
  | .success => "903"
  | .fail => "904"
  | .tooLong => "905"
  | .aborted => "906"

/-- How a server refuses a command. -/
inductive CommandError
  | unknownError
  | unknownCommand
  | needMoreParams
  | tryAgain
  deriving Repr, DecidableEq

def CommandError.numeric : CommandError → String
  | .unknownError => "400"
  | .unknownCommand => "421"
  | .needMoreParams => "461"
  | .tryAgain => "263"

/-- What a server sends while a connection registers. -/
inductive ServerMessage
  | capLS (first : String) (more : Bool) (caps : String)
  /-- The answer to the oldest request that has none. -/
  | answer (first : String) (ack : Bool)
  | challenge (text : String)
  | saslEnd (outcome : SaslOutcome) (first info : String)
  /-- The command `AUTHENTICATE` is refused. -/
  | commandError (error : CommandError) (first reason : String)
  | welcome (first : String)
  /-- What is about neither capabilities nor the authentication. -/
  | aside (msg : Message)
  deriving Repr, DecidableEq

/-- A connection with what has come from its server: the last line of capabilities, answers to
requests, and the end of an exchange of SASL messages. -/
structure Session where
  line : Line
  listed : Bool
  answered : Nat
  exchange : Bool
  failed : Bool

namespace Session
variable (s : Session)

def request (msg : Message) : Option String :=
  if msg.command = "CAP" ∧ msg.params.head? = some "REQ" then msg.params[1]? else none

/-- The requests that have not been answered. -/
def unanswered : List String := (s.line.sent.filterMap request).drop s.answered

/-- How often `CAP END` has been sent. -/
def ends : Nat := s.line.sent.count capEnd

def received : ServerMessage → Message
  | .capLS first true caps => message "CAP" [first,"LS","*",caps]
  | .capLS first false caps => message "CAP" [first,"LS",caps]
  | .answer first ack => message "CAP" [first,if ack then "ACK" else "NAK",s.unanswered.headD ""]
  | .challenge text => message "AUTHENTICATE" [text]
  | .saslEnd outcome first info => message outcome.numeric [first,info]
  | .commandError error first reason => message error.numeric [first,"AUTHENTICATE",reason]
  | .welcome first => message "001" [first]
  | .aside msg => msg

end Session

def isAside : Kind → Bool
  | .text | .loggedIn | .loggedOut | .visibleHost | .nickInUse | .fail | .error | .registrationError | .other => true
  | _ => false

/-- The server lists capabilities until the last line, answers requests, and goes on with an exchange
of SASL messages that has been started. -/
def ServerMessage.Possible (s : Session) : ServerMessage → Prop
  | .capLS _ _ _ => s.listed = false
  | .answer _ _ => s.unanswered ≠ []
  | .challenge _ | .saslEnd _ _ _ | .commandError _ _ _ => s.exchange = true
  | .welcome _ => True
  | .aside msg => isAside (kindOf msg.command) = true

instance (s : Session) (m : ServerMessage) : Decidable (m.Possible s) := by
  unfold ServerMessage.Possible
  split <;> infer_instance

/-- What the message says, where the bouncer has sent these messages in return. -/
def Session.advance (s : Session) (line : Line) (failed : Bool) : ServerMessage → Session
  | .capLS _ more _ => { s with line, failed, listed := !more }
  | .answer _ _ =>
    { s with
      line
      failed
      answered := s.answered + 1
      exchange := s.exchange || (line.sent.drop s.line.sent.length).any fun msg => msg.command == "AUTHENTICATE" }
  | .saslEnd _ _ _ | .commandError _ _ _ => { s with line, failed, exchange := false }
  | .challenge _ | .welcome _ | .aside _ => { s with line, failed }

/-- The bouncer handles messages until it is registered, or gives up. Each time it may walk the map of
permanent capabilities in another order. -/
def step (env : Env) (s : Session) (e : List String × ServerMessage) : Option Session :=
  if e.1.isPerm permanentUpstreamCaps ∧ s.failed = false ∧ s.line.conn.registered = false ∧ e.2.Possible s then
    match handleMessage env e.1 (s.received e.2) s.line with
    | .ok _ line => some (s.advance line false e.2)
    | .error _ line => some (s.advance line true e.2)
  else none

/-- `register` -/
def register (uc : Conn) (pass : String) : Session where
  line :=
    { conn := uc
      sent := [message "CAP" ["LS","302"]] ++ (if pass = "" then [] else [message "PASS" [pass]]) ++
        [message "NICK" [uc.nick],message "USER" [uc.username,"0","*",uc.realname]] }
  listed := false
  answered := 0
  exchange := false
  failed := false

/-- All lines of capabilities, the answers to all requests and the end of the exchange have come,
before the welcome. -/
def Settled (s : Session) : Prop :=
  s.listed = true ∧ s.unanswered = [] ∧ s.exchange = false ∧ s.line.conn.registered = false

instance (s : Session) : Decidable (Settled s) := inferInstanceAs (Decidable (_ ∧ _))

end Sake.Negotiation
