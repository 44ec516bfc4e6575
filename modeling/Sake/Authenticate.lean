import Sake.Downstream
import Sake.Lib.Encoding

namespace Sake.Authenticate
open Downstream Strings

/-- `xirc.MaxSASLLength`. -/
def maxSASLLength : Nat := 400

section
variable (lib : Library) (env : Env)

def saslMechanism : String → Option Mechanism
  | "PLAIN" => some .plain
  | "OAUTHBEARER" => some .oauthBearer
  | "ANONYMOUS" => some .anonymous
  | "EXTERNAL" => some .external
  | _ => none

/-- The first message of an exchange names the mechanism. -/
def beginSASL (name : String) : Handler DownstreamSASL := do
  let dc ← get
  match saslMechanism (lib.upper name) with
  | none => failWith "904" [dc.nick,"Unsupported SASL mechanism"]
  | some mechanism =>
    let sasl := ⟨[],mechanism,none,none,""⟩
    modify fun dc => { dc with sasl := some sasl }
    pure sasl

/-- The response that ends with this chunk; none if more chunks follow. -/
def receiveChunk (sasl : DownstreamSASL) (param : String) : Handler (Option (List UInt8)) := do
  let dc ← get
  let chunk := if param = "+" then "" else param
  failIf (10 * 1024 < sasl.pendingResp.utf8ByteSize + chunk.utf8ByteSize) "904" [dc.nick,"Response too long"]
  let pending := sasl.pendingResp ++ chunk
  if chunk.utf8ByteSize = maxSASLLength then
    modify fun dc => { dc with sasl := some { sasl with pendingResp := pending } }
    pure none
  else
    match Lib.Base64.decodeString pending with
    | none => failWith "904" [dc.nick,"Invalid base64-encoded response"]
    | some resp =>
      modify fun dc => { dc with sasl := some { sasl with pendingResp := "" } }
      pure (some resp)

/-- Gives a response to the SASL server; the exchange is returned when the server is done. -/
def serverNext (sasl : DownstreamSASL) (resp : Option (List UInt8)) : Handler (Option DownstreamSASL) := do
  let next := lib.next sasl.mechanism sasl.server resp
  let sasl := { sasl with
    server := sasl.server ++ [resp]
    plain := next.plain.or sasl.plain
    oauthBearer := next.oauthBearer.or sasl.oauthBearer
    pendingResp := "" }
  modify fun dc => { dc with sasl := some sasl }
  match next.result with
  | .failed => throw (.error .saslServer)
  | .done => pure (some sasl)
  | .challenge data =>
    send (message "AUTHENTICATE" [if data.isEmpty then "+" else Lib.Base64.encodeToString data])
    pure none

def authenticate (msg : Message) : Handler (Option DownstreamSASL) := do
  let dc ← get
  failIf (!dc.caps.isEnabled "sasl") "904"
    [dc.nick,"AUTHENTICATE requires the \"sasl\" capability to be enabled"]
  failIf msg.params.isEmpty "904" [dc.nick,"Missing AUTHENTICATE argument"]
  failIf (msg.param 0 == "*") "906" [dc.nick,"SASL authentication aborted"]
  match dc.sasl with
  | none =>
    let sasl ← beginSASL lib (msg.param 0)
    serverNext lib sasl none
  | some sasl =>
    match ← receiveChunk sasl (msg.param 0) with
    | none => pure none
    | some resp => serverNext lib sasl (some resp)

/-- Any error ends the exchange. -/
def handleAuthenticate (msg : Message) : Handler (Option DownstreamSASL) :=
  tryCatch (authenticate lib msg) fun e => do
    modify fun dc => { dc with sasl := none }
    throw e

def endSASL (msg : Option Message) : Handler Unit := do
  let dc ← get
  match dc.sasl with
  | none => pure ()
  | some _ =>
    modify fun dc => { dc with sasl := none }
    send (msg.getD (message "903" [dc.nick,"SASL authentication successful"]))

structure Login where
  username : String
  clientName : String
  networkName : String
  impersonating : Bool
  deriving Repr, DecidableEq

/-- What becomes of complete credentials; `panic` where the code reads what was not set. -/
inductive Verdict
  | login (l : Login)
  | refused (e : AuthError)
  | panic
  deriving Repr, DecidableEq

/-- The PLAIN branch, for the name of the account and for another identity. -/
def authPlain (plain : SaslPlain) : Verdict :=
  let (username,clientName,networkName) := unmarshalUsername plain.username
  match env.authPlain with
  | none => .refused .hidden
  | some auth =>
    match auth username plain.password with
    | .error _ => .refused .hidden
    | .ok () =>
      if plain.identity ≠ "" ∧ plain.identity ≠ plain.username then
        match env.getUser 0 username with
        | .error _ => .refused .hidden
        | .ok u =>
          if !u.admin then .refused .hidden
          else
            let (username,clientName,networkName) := unmarshalUsername plain.identity
            match env.getUser 1 username with
            | .error _ => .refused .hidden
            | .ok _ => .login ⟨username,clientName,networkName,true⟩
      else .login ⟨username,clientName,networkName,false⟩

def authOAuthBearer (options : Option OAuthBearerOptions) : Verdict :=
  match env.authOAuthBearer, options with
  | none, _ => .refused .hidden
  | some _, none => .panic
  | some auth, some options =>
    match auth options.token with
    | .error e => .refused e
    | .ok username =>
      if options.username ≠ "" ∧ options.username ≠ username then .refused .hidden
      else .login ⟨username,"","",false⟩

def DeviceCertificate.markUsed (cert : DeviceCertificate) : DeviceCertificate :=
  { cert with lastUsed := env.now, lastIP := env.remoteIP }

def authExternal : Verdict :=
  if !env.config.clientCertAuth then .refused .hidden
  else
    match env.peerCertificate with
    | none => .refused .hidden
    | some cert =>
      match env.getDeviceCertificate (lib.sha512 cert) with
      | .error e => .refused e
      | .ok none => .refused .hidden
      | .ok (some (userID,device)) =>
        match env.getUsernameByID userID with
        | .error e => .refused e
        | .ok username =>
          if username = "" then .login ⟨"","","",false⟩
          else
            match env.storeDeviceCertificate userID (DeviceCertificate.markUsed env device) with
            | .error e => .refused e
            | .ok () => .login ⟨username,"","",false⟩

def judge (shown : DownstreamSASL) : Verdict :=
  match shown.mechanism with
  | .plain =>
    match shown.plain with
    | none => .panic
    | some plain => authPlain env plain
  | .oauthBearer => authOAuthBearer env shown.oauthBearer
  | .external => authExternal lib env
  | .anonymous => .refused .hidden

def setAuthUsername (username clientName networkName : String) : Handler Unit :=
  modify fun dc => { dc with
    clientName := clientName
    registration := { dc.registration with authUsername := username, networkName := networkName } }

/-- The connection now judges these credentials. -/
def record (credentials : Credentials) : Handler Unit :=
  modify fun dc => { dc with exchanges := dc.exchanges ++ [⟨credentials,env⟩] }

def handleSASL (msg : Message) : Handler Unit := do
  match ← handleAuthenticate lib msg with
  | none => pure ()
  | some shown =>
    record env (.sasl shown)
    match judge lib env shown with
    | .panic => throw (.panic .credentialsUnset)
    | .refused e =>
      let dc ← get
      endSASL (some (message "904" [dc.nick,authErrorReason e]))
    | .login l =>
      if l.username = "" then throw (.panic .usernameUnset)
      else
        setAuthUsername l.username l.clientName l.networkName
        modify fun dc => { dc with impersonating := l.impersonating }
        endSASL none

def handleMessageUnregistered (msg : Message) : Handler Unit := do
  match msg.command with
  | "NICK" =>
    needParams msg 1
    modify fun dc => { dc with registration := { dc.registration with nick := msg.param 0 } }
  | "USER" =>
    needParams msg 4
    modify fun dc => { dc with registration := { dc.registration with username := msg.param 0 } }
  | "PASS" =>
    needParams msg 1
    modify fun dc => { dc with registration := { dc.registration with pass := msg.param 0 } }
  | "CAP" => handleCap lib env msg
  | "AUTHENTICATE" => handleSASL lib env msg
  | "BOUNCER" => handleBouncer lib msg
  | "AWAY" =>
    modify fun dc => { dc with away := msg.params.head? }
    send (generateAwayReply msg.params.head?.isSome)
  | "METADATA" => handleMetadata lib msg
  | command => throw (.irc (newUnknownCommandError command))

/-- An `ircError` of a command is sent to the client, any other error ends the connection. -/
def handleMessage (msg : Message) : Handler Unit := do
  match msg.command with
  | "QUIT" => modify fun dc => { dc with closing := true }
  | "ISUPPORT" =>
    let dc ← get
    if !dc.caps.isEnabled "draft/extended-isupport" then throw (.irc (newUnknownCommandError msg.command))
    else modify fun dc => { dc with isupport := buildIsupport env }
  | _ =>
    tryCatch (handleMessageUnregistered lib env msg) fun
      | .irc reply => send { reply with msgPrefix := some env.serverPrefix }
      | e => throw e

/-- The name and the password of PASS and USER. -/
def authPass : Handler Unit := do
  let dc ← get
  let password := dc.registration.pass
  modify fun dc => { dc with registration := { dc.registration with pass := "" } }
  if dc.registration.authUsername = "" then
    if password = "" then
      if dc.caps.isEnabled "sasl" then failWith "FAIL" ["*","ACCOUNT_REQUIRED","Authentication required"]
      else failWith "464" [dc.nick,"Authentication required"]
    else
      match env.authPlain with
      | none => failWith "464" [dc.nick,"PASS authentication disabled"]
      | some auth =>
        let names := unmarshalUsername dc.registration.username
        record env (.pass dc.registration.username password)
        match auth names.1 password with
        | .error e => failWith "464" [dc.nick,authErrorReason e]
        | .ok () => setAuthUsername names.1 names.2.1 names.2.2
  else pure ()

/-- The client name of the login stands; else it is that of USER. -/
def useClientName (fallback : String) : Handler Unit := do
  let dc ← get
  if dc.clientName = "" then modify fun dc => { dc with clientName := fallback }
  else
    failIf (fallback != "" && dc.clientName != fallback) "432"
      [dc.nick,"Client name mismatch in usernames"]

def useNetworkName (fallback : String) : Handler Unit := do
  let dc ← get
  if dc.registration.networkName = "" then
    modify fun dc => { dc with registration := { dc.registration with networkName := fallback } }
  else
    failIf (fallback != "" && dc.registration.networkName != fallback) "432"
      [dc.nick,"Network name mismatch in usernames"]

def panicIf (c : Bool) (p : Panic) : Handler Unit := if c then throw (.panic p) else pure ()

def register : Handler Unit := do
  let dc ← get
  panicIf dc.registered .registeredTwice
  endSASL (some (message "906" [dc.nick,"SASL authentication aborted"]))
  authPass env
  let names := unmarshalUsername dc.registration.username
  useClientName names.2.1
  useNetworkName names.2.2
  modify fun dc => { dc with registered := true, username := dc.registration.authUsername }

end

inductive Ending
  | readFailed
  | handleFailed (e : Fault)
  | registrationRefused
  | registrationFailed (e : Fault)
  deriving Repr, DecidableEq

/-- The loop of `runUntilRegistered`, and how it ended. -/
structure Session where
  dc : Conn
  ended : Option Ending

/-- A message, with the answers while it is handled and while the client is then registered. -/
inductive Action
  | receive (msg : Message) (env later : Env)
  | readFails

def Conn.ready (dc : Conn) : Bool :=
  dc.registration.nick != "" && dc.registration.username != "" && !dc.registration.negotiatingCaps

/-- The end of a turn of the loop. -/
def finishTurn (env : Env) (dc : Conn) : Session :=
  if Conn.ready dc then
    match register env dc with
    | .ok _ dc => ⟨dc,none⟩
    | .error (.irc reply) dc =>
      ⟨{ dc with sent := dc.sent ++ [{ reply with msgPrefix := some env.serverPrefix }] },
        some .registrationRefused⟩
    | .error e dc => ⟨dc,some (.registrationFailed e)⟩
  else ⟨dc,none⟩

def step (lib : Library) (s : Session) (a : Action) : Option Session :=
  if s.dc.registered || s.ended.isSome then none
  else
    match a with
    | .readFails => some { s with ended := some .readFailed }
    | .receive msg env later =>
      match handleMessage lib env msg s.dc with
      | .error e dc => some ⟨dc,some (.handleFailed e)⟩
      | .ok _ dc => some (finishTurn later dc)

def start (env : Env) : Session := ⟨newDownstreamConn env,none⟩

/-- The authenticator has taken the password for this name. -/
def PlainAccepts (env : Env) (username password : String) : Prop :=
  ∃ auth, env.authPlain = some auth ∧ auth username password = .ok ()

/-- The credentials are accepted, as those of this user. -/
inductive Accepted (lib : Library) : Exchange → String → Prop
  | pass (env : Env) (rawUsername password : String)
      (accepts : PlainAccepts env (unmarshalUsername rawUsername).1 password) :
      Accepted lib ⟨.pass rawUsername password,env⟩ (unmarshalUsername rawUsername).1
  | plain (env : Env) (shown : DownstreamSASL) (plain : SaslPlain) (mechanism : shown.mechanism = .plain)
      (set : shown.plain = some plain)
      (accepts : PlainAccepts env (unmarshalUsername plain.username).1 plain.password)
      (same : plain.identity = "" ∨ plain.identity = plain.username) :
      Accepted lib ⟨.sasl shown,env⟩ (unmarshalUsername plain.username).1
  /-- An administrator logs in as somebody else. -/
  | impersonation (env : Env) (shown : DownstreamSASL) (plain : SaslPlain)
      (mechanism : shown.mechanism = .plain) (set : shown.plain = some plain)
      (accepts : PlainAccepts env (unmarshalUsername plain.username).1 plain.password)
      (other : plain.identity ≠ "" ∧ plain.identity ≠ plain.username) (u : Database.User)
      (found : env.getUser 0 (unmarshalUsername plain.username).1 = .ok u) (admin : u.admin = true)
      (exists_ : ∃ target, env.getUser 1 (unmarshalUsername plain.identity).1 = .ok target) :
      Accepted lib ⟨.sasl shown,env⟩ (unmarshalUsername plain.identity).1
  | oauthBearer (env : Env) (shown : DownstreamSASL) (options : OAuthBearerOptions) (username : String)
      (mechanism : shown.mechanism = .oauthBearer) (set : shown.oauthBearer = some options)
      (accepts : ∃ auth, env.authOAuthBearer = some auth ∧ auth options.token = .ok username)
      (same : options.username = "" ∨ options.username = username) :
      Accepted lib ⟨.sasl shown,env⟩ username
  /-- The certificate of the TLS connection is that of one of the user's devices. -/
  | external (env : Env) (shown : DownstreamSASL) (cert : List UInt8) (userID : Int)
      (device : DeviceCertificate) (username : String) (mechanism : shown.mechanism = .external)
      (enabled : env.config.clientCertAuth = true) (peer : env.peerCertificate = some cert)
      (found : env.getDeviceCertificate (lib.sha512 cert) = .ok (some (userID,device)))
      (owner : env.getUsernameByID userID = .ok username)
      (stored : username = "" ∨
        env.storeDeviceCertificate userID (DeviceCertificate.markUsed env device) = .ok ()) :
      Accepted lib ⟨.sasl shown,env⟩ username

/-- The last exchange that was accepted was accepted as this user. -/
def LatestAccepted (lib : Library) (exchanges : List Exchange) (username : String) : Prop :=
  ∃ before e after, exchanges = before ++ e :: after ∧ Accepted lib e username ∧
    ∀ e' ∈ after, ∀ u, ¬ Accepted lib e' u

end Sake.Authenticate
