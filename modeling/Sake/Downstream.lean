import Sake.Database
import Sake.Highlight
import Sake.Strings

namespace Sake.Downstream
open Strings

/-- `xirc.CapRegistry`. -/
structure CapRegistry where
  available : List (String × String)
  enabled : List String
  deriving Repr, DecidableEq

namespace CapRegistry

def isAvailable (cr : CapRegistry) (name : String) : Bool := cr.available.any fun kv => kv.1 == name

def isEnabled (cr : CapRegistry) (name : String) : Bool := cr.enabled.contains name

def setAvailable (cr : CapRegistry) (kv : String × String) : CapRegistry :=
  { cr with available := kv :: cr.available.filter fun old => old.1 != kv.1 }

def setEnabled (cr : CapRegistry) (name : String) (enabled : Bool) : CapRegistry :=
  let others := cr.enabled.filter (· != name)
  { cr with enabled := if enabled then name :: others else others }

end CapRegistry

def permanentDownstreamCaps : List (String × String) :=
  [("batch",""),("cap-notify",""),("echo-message",""),("invite-notify",""),
    ("no-implicit-names",""),("server-time",""),("setname",""),
    ("draft/extended-isupport",""),
    ("draft/metadata-2","before-connect,max-keys=0,max-value-bytes=1"),
    ("draft/no-implicit-names",""),("draft/pre-away",""),("draft/read-marker",""),
    ("soju.im/account-required",""),("soju.im/bouncer-networks",""),
    ("soju.im/bouncer-networks-notify",""),("soju.im/no-implicit-names",""),
    ("soju.im/read",""),("soju.im/webpush","")]

def passthroughDownstreamCaps : List (String × String) :=
  [("account-notify",""),("account-tag",""),("away-notify",""),("chghost",""),
    ("extended-join",""),("extended-monitor",""),("labeled-response",""),
    ("message-tags",""),("multi-prefix",""),("draft/extended-monitor",""),
    ("draft/message-redaction","")]

/-- The SASL mechanisms that a client may name. -/
inductive Mechanism
  | plain
  | oauthBearer
  | anonymous
  | external
  deriving Repr, DecidableEq

structure SaslPlain where
  identity : String
  username : String
  password : String
  deriving Repr, DecidableEq

structure OAuthBearerOptions where
  username : String
  token : String
  deriving Repr, DecidableEq

/-- `downstreamSASL`. The server is what it has been given so far, nothing at first. -/
structure DownstreamSASL where
  server : List (Option (List UInt8))
  mechanism : Mechanism
  plain : Option SaslPlain
  oauthBearer : Option OAuthBearerOptions
  pendingResp : String
  deriving Repr, DecidableEq

/-- `downstreamRegistration`. -/
structure Registration where
  nick : String
  username : String
  pass : String
  networkName : String
  networkID : Int
  negotiatingCaps : Bool
  authUsername : String
  deriving Repr, DecidableEq

/-- An error of an authenticator, with a text for the client or without. -/
inductive AuthError
  | revealed (externalMsg : String)
  | hidden
  deriving Repr, DecidableEq

def authErrorReason : AuthError → String
  | .revealed externalMsg => externalMsg
  | .hidden => "Authentication failed"

structure DeviceCertificate where
  id : Int
  label : String
  fingerprint : List UInt8
  lastUsed : Int
  lastIP : String
  deriving Repr, DecidableEq

/-- The settings that are read while a client registers. -/
structure Config where
  hostname : String
  title : String
  iconURL : String
  iconPath : String
  httpIngress : String
  clientCertAuth : Bool
  /-- Messages are stored in files or in the database. -/
  chatHistory : Bool
  deriving Repr, DecidableEq

/-- What the server, its authenticators and its database answer while a message is handled. -/
structure Env where
  config : Config
  authPlain : Option ((username password : String) → Except AuthError Unit)
  authOAuthBearer : Option ((token : String) → Except AuthError String)
  /-- The rows may change from one query to the next. -/
  getUser : (query : Nat) → (username : String) → Except AuthError Database.User
  peerCertificate : Option (List UInt8)
  getDeviceCertificate : (fingerprint : List UInt8) → Except AuthError (Option (Int × DeviceCertificate))
  getUsernameByID : Int → Except AuthError String
  storeDeviceCertificate : Int → DeviceCertificate → Except AuthError Unit
  now : Int
  remoteIP : String

/-- One call of `Next` of a SASL server: what it passes to the authenticator, and its result. -/
inductive SaslResult
  | challenge (data : List UInt8)
  | done
  | failed
  deriving Repr, DecidableEq

structure SaslNext where
  plain : Option SaslPlain
  oauthBearer : Option OAuthBearerOptions
  result : SaslResult
  deriving Repr, DecidableEq

/-- The packages that the code imports. -/
structure Library where
  unicode : Unicode
  sha512 : List UInt8 → List UInt8
  /-- The SASL servers, by what they have been given before. -/
  next : Mechanism → (given : List (Option (List UInt8))) → Option (List UInt8) → SaslNext

/-- What a client shows to be let in. -/
inductive Credentials
  | pass (username password : String)
  | sasl (shown : DownstreamSASL)
  deriving Repr, DecidableEq

/-- Credentials, and the answers that they are judged by. -/
structure Exchange where
  credentials : Credentials
  env : Env

/-- `downstreamConn` before registration. -/
structure Conn where
  registered : Bool
  clientName : String
  impersonating : Bool
  nick : String
  username : String
  away : Option String
  capVersion : Int
  caps : CapRegistry
  isupport : List (String × Option String)
  sasl : Option DownstreamSASL
  registration : Registration
  metadataSubs : List String
  closing : Bool
  sent : List Message
  /-- The exchanges that the connection has judged, in order. -/
  exchanges : List Exchange

inductive HandleError
  | invalidNumber (text : String)
  | saslServer
  deriving Repr, DecidableEq

inductive Panic
  | registeredTwice
  | credentialsUnset
  | usernameUnset
  deriving Repr, DecidableEq

inductive Fault
  /-- An `ircError`: the message is sent to the client. -/
  | irc (msg : Message)
  | error (e : HandleError)
  | panic (p : Panic)
  deriving Repr, DecidableEq

abbrev Handler := EStateM Fault Conn

def message (command : String) (params : List String) : Message := ⟨[],none,command,params⟩

def Env.serverPrefix (env : Env) : Prefix := ⟨env.config.hostname,"",""⟩

def Env.message (env : Env) (command : String) (params : List String) : Message :=
  ⟨[],some env.serverPrefix,command,params⟩

def send (msg : Message) : Handler Unit := modify fun dc => { dc with sent := dc.sent ++ [msg] }

def failWith {α : Type} (command : String) (params : List String) : Handler α :=
  throw (.irc (message command params))

def failIf (c : Bool) (command : String) (params : List String) : Handler Unit :=
  if c then failWith command params else pure ()

def newUnknownCommandError (cmd : String) : Message := message "421" ["*",cmd,"Unknown command"]

/-- `parseMessageParams` for `n` parameters. -/
def needParams (msg : Message) (n : Nat) : Handler Unit :=
  failIf (msg.params.length < n) "461" ["*",msg.command,"Not enough parameters"]

def generateAwayReply (away : Bool) : Message :=
  if away then message "306" ["*","You have been marked as being away"]
  else message "305" ["*","You are no longer marked as being away"]

def isSeparator (c : Char) : Bool := c == '/' || c == '@'

/-- The user name, the client name and the network name of `user/network@client`. -/
def unmarshalUsername (rawUsername : String) : String × String × String :=
  let cs := rawUsername.toList
  match cs.findIdx? isSeparator, cs.reverse.findIdx? isSeparator with
  | some i, some k =>
    let j := cs.length - 1 - k
    let last := String.ofList (cs.drop (j + 1))
    let (client,network) := if cs.getD j '/' = '@' then (last,"") else ("",last)
    let username := String.ofList (cs.take i)
    if i < j then
      let middle := String.ofList ((cs.take j).drop (i + 1))
      if cs.getD i '/' = '@' then (username,middle,network) else (username,client,middle)
    else (username,client,network)
  | _, _ => (rawUsername,"","")

example : unmarshalUsername "alice/libera@phone" = ("alice","phone","libera") := rfl

/-- `strings.ToUpper` and `strings.ToLower`. -/
def Library.upper (lib : Library) (s : String) : String := mapChars lib.unicode.toUpper s

def Library.lower (lib : Library) (s : String) : String := mapChars lib.unicode.toLower s

def serverSASLMechanisms (env : Env) : List String :=
  (if env.authPlain.isSome then ["PLAIN"] else []) ++
    (if env.authOAuthBearer.isSome then ["OAUTHBEARER"] else [])

def saslMechanisms (env : Env) : List String :=
  serverSASLMechanisms env ++
    if env.config.clientCertAuth && env.peerCertificate.isSome then ["EXTERNAL"] else []

def newDownstreamConn (env : Env) : Conn where
  registered := false
  clientName := ""
  impersonating := false
  nick := "*"
  username := "~u"
  away := none
  capVersion := 0
  caps :=
    { available := permanentDownstreamCaps ++ [("sasl",",".intercalate (saslMechanisms env))] ++
        (if env.config.chatHistory then [("draft/chathistory",""),("soju.im/search","")] else []) ++
        (if env.config.clientCertAuth then [("soju.im/client-cert","")] else [])
      enabled := [] }
  isupport := []
  sasl := none
  registration := ⟨"","","","",0,false,""⟩
  metadataSubs := []
  closing := false
  sent := []
  exchanges := []

section
variable (lib : Library) (env : Env)

def setCapVersion : List String → Handler Unit
  | [] => pure ()
  | arg :: _ =>
    match parseInt arg with
    | none => throw (.error (.invalidNumber arg))
    | some version => modify fun dc => { dc with capVersion := version }

def handleCapLS (args : List String) : Handler Unit := do
  setCapVersion args
  let dc ← get
  let caps := if 302 ≤ dc.capVersion then passthroughDownstreamCaps.foldl CapRegistry.setAvailable dc.caps
    else dc.caps
  let words := caps.available.map fun kv =>
    if 302 ≤ dc.capVersion && kv.2 != "" then kv.1 ++ "=" ++ kv.2 else kv.1
  send (env.message "CAP" [dc.nick,"LS"," ".intercalate words])
  modify fun dc => { dc with
    caps := if 302 ≤ dc.capVersion then caps.setEnabled "cap-notify" true else caps
    registration := { dc.registration with negotiatingCaps := true } }

/-- The capabilities that a request turns on or off; none if the request is refused. -/
def requestedCaps (dc : Conn) : List String → Option (List (String × Bool))
  | [] => some []
  | word :: words =>
    let (name,disable) := cutFirst '-' (lib.lower word)
    if dc.caps.isEnabled name == !disable then requestedCaps dc words
    else if !dc.caps.isAvailable name then none
    else if name == "cap-notify" && 302 ≤ dc.capVersion && disable then none
    else if name == "soju.im/account-required" then none
    else (requestedCaps dc words).map ((name,!disable) :: ·)

def handleCapREQ (args : List String) : Handler Unit := do
  let dc ← get
  match args with
  | [] => failWith "410" [dc.nick,"REQ","Missing argument in CAP REQ command"]
  | arg :: _ =>
    let requested := requestedCaps lib dc (fieldsFunc lib.unicode.isSpace arg)
    let caps := (requested.getD []).foldl (fun caps kv => caps.setEnabled kv.1 kv.2) dc.caps
    modify fun dc => { dc with caps := caps }
    send (env.message "CAP" [dc.nick,if requested.isSome then "ACK" else "NAK",arg])
    modify fun dc => { dc with registration := { dc.registration with negotiatingCaps := true } }

def handleCap (msg : Message) : Handler Unit := do
  needParams msg 1
  let dc ← get
  let args := msg.params.drop 1
  match lib.upper (msg.param 0) with
  | "LS" => handleCapLS env args
  | "LIST" => send (env.message "CAP" [dc.nick,"LIST"," ".intercalate dc.caps.enabled])
  | "REQ" => handleCapREQ lib env args
  | "END" => modify fun dc => { dc with registration := { dc.registration with negotiatingCaps := false } }
  | cmd => failWith "410" [dc.nick,cmd,"Unknown CAP command"]

/-- The keys that a client may subscribe to. -/
def metadataKeys : List String := ["soju.im/pinned","soju.im/muted","soju.im/blocked"]

/-- One key of SUB or UNSUB, for a connection without a network. -/
def subscribe (sub : Bool) (word : String) : Handler Unit := do
  let k := lib.lower word
  if metadataKeys.contains k then
    modify fun dc =>
      let others := dc.metadataSubs.filter (· != k)
      { dc with metadataSubs := if sub then k :: others else others }
    send (message (if sub then "770" else "771") ["*",k])
  else send (message "FAIL" ["METADATA","KEY_INVALID",k,"Invalid key"])

/-- Whether the subcommand was handled. -/
def handleMetadataSub (msg : Message) : Handler Bool := do
  needParams msg 2
  match msg.param 1 with
  | "SUB" =>
    (msg.params.drop 2).forM (subscribe lib true)
    pure true
  | "UNSUB" =>
    (msg.params.drop 2).forM (subscribe lib false)
    pure true
  | "SUBS" =>
    let dc ← get
    dc.metadataSubs.forM fun k => send (message "772" ["*",k])
    pure true
  | _ => pure false

def handleMetadata (msg : Message) : Handler Unit := do
  needParams msg 2
  if ← handleMetadataSub lib msg then pure ()
  else failWith "FAIL" ["METADATA","INVALID_PARAMS",msg.param 1,"Unknown command"]

def parseBouncerNetID (subcommand s : String) : Handler Int :=
  match (parseInt s).filter (0 < ·) with
  | none => failWith "FAIL" ["BOUNCER","INVALID_NETID",subcommand,s,"Invalid network ID"]
  | some id => pure id

def handleBouncer (msg : Message) : Handler Unit := do
  needParams msg 1
  let subcommand := msg.param 0
  if lib.upper subcommand = "BIND" then
    needParams msg 2
    let dc ← get
    failIf (dc.registration.authUsername == "") "FAIL"
      ["BOUNCER","ACCOUNT_REQUIRED","BIND","Authentication needed to bind to bouncer network"]
    let id ← parseBouncerNetID subcommand (msg.param 1)
    modify fun dc => { dc with registration := { dc.registration with networkID := id } }
  else failWith "FAIL" ["BOUNCER","UNKNOWN_COMMAND",subcommand,"Unknown subcommand"]

/-- The tokens for a connection without a user. -/
def buildIsupport : List (String × Option String) :=
  let config := env.config
  [("soju.im/SAFERATE",none),("draft/ACCOUNTREQUIRED",none)] ++
    (if config.title ≠ "" then [("NETWORK",some config.title)] else []) ++
    (if config.iconURL ≠ "" then [("draft/ICON",some config.iconURL)]
      else if config.iconPath ≠ "" then [("draft/ICON",some (config.httpIngress ++ "/icon"))] else [])

end

end Sake.Downstream
