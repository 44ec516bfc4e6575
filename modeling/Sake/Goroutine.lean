import Mathlib.Data.List.Sort
import Sake.Networks

namespace Sake.Goroutine
open Networks
open Downstream (message)

/-- A URL, as far as the program looks at it. -/
structure URL where
  scheme : String
  host : String
  path : String
  rawQuery : String
  fragment : String
  hasUser : Bool
  deriving Repr, DecidableEq

inductive MsgStore
  | none
  | memory
  | db
  | fs
  deriving Repr, DecidableEq

/-- The settings of the server and the packages that the code imports. What comes from outside the
program may be different at each moment. -/
structure Env where
  hostname : String
  maxUserNetworks : Int
  clientCertAuth : Bool
  backend : DeviceCerts.Backend
  msgStore : MsgStore
  unicode : Unicode
  equalFold : String → String → Bool
  sha1 : List UInt8 → List UInt8
  sha256 : List UInt8 → List UInt8
  sha512 : List UInt8 → List UInt8
  parseURL : String → Except String URL
  splitHostPort : String → Option (String × String)
  parseMessage : String → Except String Message
  parseIP : String → Bool
  parseDuration : String → Option Int
  formatTime : Int → String
  hashPassword : (moment : Nat) → String → Except String String
  /-- The private key and the certificate. -/
  generateCertFP : (moment : Nat) → (keyType : String) → (bits : Int) → Except String (List UInt8 × List UInt8)
  generateCertFP_ne : ∀ {moment keyType bits key cert}, generateCertFP moment keyType bits = .ok (key,cert) → cert ≠ []
  /-- The certificate and the private key. -/
  parseCertKeyPEM : List UInt8 → Except String (List UInt8 × List UInt8)
  parseCertKeyPEM_ne : ∀ {pem cert key}, parseCertKeyPEM pem = .ok (cert,key) → cert ≠ []
  readFile : (moment : Nat) → (path : String) → Except String (List UInt8)
  fetch : (moment : Nat) → (url : String) → Except String (List UInt8)
  lastMsgID : (moment : Nat) → (network : Int) → (entity : String) → String
  now : (moment : Nat) → Int

/-- The packages cut down to what they say of plain texts, to run the model with. -/
def Env.sample : Env where
  hostname := "localhost"
  maxUserNetworks := -1
  clientCertAuth := true
  backend := .sqlite
  msgStore := .memory
  unicode := .ascii
  equalFold a b := a = b
  sha1 _ := []
  sha256 _ := []
  sha512 _ := []
  parseURL addr := .ok ⟨"ircs",addr,"","","",false⟩
  splitHostPort _ := none
  parseMessage _ := .ok (message "PING" [])
  parseIP _ := true
  parseDuration _ := none
  formatTime _ := ""
  hashPassword _ password := .ok password
  generateCertFP _ _ _ := .ok ([1],[1])
  generateCertFP_ne h := by
    cases h
    exact List.cons_ne_nil _ _
  parseCertKeyPEM _ := .ok ([1],[1])
  parseCertKeyPEM_ne h := by
    cases h
    exact List.cons_ne_nil _ _
  readFile _ _ := .error "no such file or directory"
  fetch _ _ := .error "unexpected HTTP status"
  lastMsgID _ _ _ := ""
  now _ := 0

/-- An upstream connection. `network` is the network object that it was made for. -/
structure Conn where
  network : Nat
  nick : String
  realname : String
  account : String
  caps : List String
  channelTypes : String
  channels : List String
  closed : Bool
  deriving Repr, DecidableEq

def Conn.isChannel (uc : Conn) (name : String) : Bool :=
  match name.toList with
  | [] => false
  | c :: _ => uc.channelTypes.toList.contains c

/-- A network object. `mapping` is the case mapping of its maps of channels and of receipts. -/
structure Net where
  record : Network
  channels : CaseMappingMap Channel
  delivered : Delivery.DeliveredStore
  mapping : CaseMapping
  casemap : CaseMapping
  ignores : List Networks.Ignore
  lastError : Option String
  conn : Option Nat
  stopped : Bool
  deriving Repr, DecidableEq

/-- What is written to a client, as far as it tells of networks, nicks and real names. -/
inductive Sent
  /-- `001` -/
  | welcome (nick : String)
  /-- `NICK`, with the old nick as its source. -/
  | nick (old new : String)
  | setname (realname : String)
  | join (channel : String)
  | part (channel : String)
  /-- `BOUNCER NETWORK` with attributes. -/
  | network (id : Int) (attrs : Tags)
  /-- `BOUNCER NETWORK` with `*`. -/
  | networkDeleted (id : Int)
  deriving Repr, DecidableEq

/-- A client that the user is attached with. -/
structure Client where
  id : Nat
  network : Option Nat
  caps : List String
  nick : String
  realname : String
  closed : Bool
  sent : List Sent
  deriving Repr, DecidableEq

def Client.send (dc : Client) (msg : Sent) : Client := { dc with sent := dc.sent ++ [msg] }

/-- The events that one user's goroutine posts to another's. -/
inductive Event
  | broadcast (msg : Message)
  | userUpdate (password : Option String) (admin enabled : Option Bool) (maxNetworks : Option Int)
      (sourceIP : Option String)
  | userRun (params : List String)
  | stop
  deriving Repr, DecidableEq

/-- Another user of the server, with the events that wait for it. -/
structure Other where
  record : Database.User
  events : List Event
  deriving Repr, DecidableEq

/-- What is done besides changing the state and writing to clients. -/
inductive Effect
  | print (text : String)
  | readFile (path : String)
  | fetch (url : String)
  /-- A message is written to the server of an upstream connection. -/
  | toServer (conn : Nat) (msg : Message)
  /-- The message store is asked for the last message of a buffer. -/
  | lastMsgID (network : Network) (entity : String)
  /-- The message store is asked for the messages after one. -/
  | loadLatestID (network : Network) (entity id : String)
  /-- The message store is told of a new name. -/
  | renameNetwork (old new : Network)
  /-- A goroutine starts to connect. -/
  | runNetwork (ref : Nat)
  | stopSelf
  deriving Repr, DecidableEq

/-- How the database answers a call. -/
structure Answer where
  error : Option String
  /-- The id of a new row. -/
  newID : Int
  deriving Repr, DecidableEq

/-- What the goroutine of a user works on. The network objects and the connections stand at their
addresses, also those that are out of use. -/
structure State where
  user : Database.User
  heap : Nat → Net
  /-- The next free address of a network. -/
  next : Nat
  networks : List Nat
  fresh : ∀ r ∈ networks, r < next
  conns : Nat → Conn
  clients : List Client
  others : List Other
  debug : Bool
  db : DB
  /-- What the database will answer. -/
  answers : List Answer
  /-- A call of the database has failed. -/
  dbFailed : Bool
  effects : List Effect

inductive Fault
  | error (text : String)
  | irc (msg : Message)
  /-- `flag.ErrHelp` -/
  | help
  | panic (text : String)
  /-- The goroutine waits for its own end. -/
  | blocked
  deriving Repr, DecidableEq

/-- What was changed before an error stays changed. -/
abbrev Handler := EStateM Fault State

def fail {α : Type} (text : String) : Handler α := throw (.error text)

def failIf (c : Bool) (text : String) : Handler Unit := if c then fail text else pure ()

def panicIf (c : Bool) (text : String) : Handler Unit := if c then throw (.panic text) else pure ()

def ofExcept {α : Type} : Except String α → Handler α
  | .ok a => pure a
  | .error text => fail text

/-- `fmt.Errorf` with the text before the error. -/
def wrap {α : Type} (text : String) (m : Handler α) : Handler α :=
  tryCatch m fun
    | .error e => fail (text ++ e)
    | e => throw e

def emit (effect : Effect) : Handler Unit := modify fun s => { s with effects := s.effects ++ [effect] }

def print (text : String) : Handler Unit := emit (.print text)

/-- A call of the database: its answer makes it fail, or it does what the statements do. -/
def call {α : Type} (f : (newID : Int) → DB → Except String (DB × α)) : Handler α := fun s =>
  match s.answers with
  | [] => .error (.error "driver: bad connection") { s with dbFailed := true }
  | answer :: answers =>
    match answer.error with
    | some e => .error (.error e) { s with answers, dbFailed := true }
    | none =>
      match f answer.newID s.db with
      | .error e => .error (.error e) { s with answers, dbFailed := true }
      | .ok (db,a) => .ok a { s with answers, db }

end Sake.Goroutine
