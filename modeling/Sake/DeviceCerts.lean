import Sake.Authenticate
import Sake.Lib.Table

namespace Sake.DeviceCerts
open Lib Downstream Authenticate

inductive Backend
  | sqlite
  | postgres
  deriving Repr, DecidableEq

/-- A row of DeviceCertificate. -/
structure Row where
  user : Int
  cert : DeviceCertificate
  deriving Repr, DecidableEq

abbrev DeviceCertificates := Table (fun r : Row => r.cert.id) fun r => r.cert.fingerprint

inductive StoreError
  /-- `ErrDuplicateDeviceCertificate`. -/
  | duplicate
  | other
  deriving Repr, DecidableEq

/-- The users with their names, and the certificates. -/
structure Database where
  users : Int → Option String
  certs : DeviceCertificates

def setCert (cert : DeviceCertificate) (r : Row) : Row :=
  { r with cert := { cert with id := r.cert.id } }

theorem setCert_id (cert : DeviceCertificate) (r : Row) : (setCert cert r).cert.id = r.cert.id := rfl

/-- A statement that breaks the uniqueness of the fingerprints. SQLite's error is returned before it
is looked at when the statement is an INSERT. -/
def uniqueViolation (backend : Backend) (insert : Bool) : StoreError :=
  match backend, insert with
  | .sqlite, true => .other
  | .sqlite, false => .duplicate
  | .postgres, _ => .duplicate

/-- `StoreDeviceCertificate`, with the id that a new row gets. -/
def storeDeviceCertificate (backend : Backend) (db : Database) (userID : Int) (cert : DeviceCertificate)
    (newID : Int) : Except StoreError Database :=
  if cert.id = 0 then
    if (db.users userID).isNone then .error .other
    else if hname : db.certs.find? cert.fingerprint = none then
      if hid : db.certs.NewID newID then
        .ok { db with certs := db.certs.insert ⟨userID,{ cert with id := newID }⟩ hid.1 hid.2 hname }
      else .error .other
    else .error (uniqueViolation backend true)
  else if hfree : ∀ r ∈ db.certs.rows, r.cert.id ≠ cert.id → r.cert.fingerprint ≠ cert.fingerprint then
    .ok { db with certs := db.certs.modify cert.id (setCert cert) (setCert_id cert) fun _ _ _ => hfree }
  else .error (uniqueViolation backend false)

def getDeviceCertificate (db : Database) (fingerprint : List UInt8) : Option (Int × DeviceCertificate) :=
  (db.certs.find? fingerprint).map fun r => (r.user,r.cert)

def deleteDeviceCertificate (db : Database) (userID : Int) (fingerprint : List UInt8) : Database :=
  { db with certs := db.certs.delete fun r => r.user = userID && r.cert.fingerprint = fingerprint }

/-- The rows of the user go with the user. -/
def deleteUser (db : Database) (userID : Int) : Database where
  users := fun id => if id = userID then none else db.users id
  certs := db.certs.delete fun r => r.user = userID

def createUser (db : Database) (userID : Int) (username : String) : Database :=
  { db with users := fun id => if id = userID then some username else db.users id }

/-- Of a connection: the certificate of the TLS session, and where and when it is used. -/
structure Client where
  cert : Option (List UInt8)
  ip : String
  now : Int
  deriving Repr, DecidableEq

section
variable (lib : Library) (base : Env) (backend : Backend)

def fail (params : List String) : Message := message "FAIL" ("CLIENTCERT" :: params)

/-- `CLIENTCERT CREATE`. -/
def createCert (db : Database) (userID : Int) (client : Client) (name : String) (newID : Int) :
    Message × Database :=
  match client.cert with
  | none => (fail ["NOCERT","CREATE","No TLS client certificate is used"],db)
  | some raw =>
    match storeDeviceCertificate backend db userID ⟨0,name,lib.sha512 raw,client.now,client.ip⟩ newID with
    | .ok db => (message "CLIENTCERT" ["CREATE"],db)
    | .error .duplicate => (message "CLIENTCERT" ["CREATE"],db)
    | .error .other => (fail ["INTERNAL_ERROR","CREATE","Could not create device certificate"],db)

/-- The certificate that `CLIENTCERT DELETE` is about. -/
def deletedCert (client : Client) (params : List String) : Except Message (String × List UInt8) :=
  match params[1]? with
  | some fingerprint =>
    match Hex.decodeString fingerprint with
    | some h => if h.length = 64 then .ok (fingerprint,h)
      else .error (fail ["INTERNAL_ERROR","DELETE","Invalid device certificate fingerprint"])
    | none => .error (fail ["INTERNAL_ERROR","DELETE","Invalid device certificate fingerprint"])
  | none =>
    match client.cert with
    | none => .error (fail ["NOCERT","DELETE","No TLS client certificate is used"])
    | some raw => .ok (lib.upper (Hex.encodeToString (lib.sha512 raw)),lib.sha512 raw)

/-- `CLIENTCERT` for the subcommands that change the table. -/
def handleClientCert (db : Database) (userID : Int) (client : Client) (msg : Message) (newID : Int) :
    Message × Database :=
  if msg.params.isEmpty then (message "461" ["*",msg.command,"Not enough parameters"],db)
  else if !base.config.clientCertAuth then (newUnknownCommandError msg.command,db)
  else
    match lib.upper (msg.param 0) with
    | "CREATE" =>
      if msg.params.length < 2 then (message "461" ["*",msg.command,"Not enough parameters"],db)
      else createCert lib backend db userID client (msg.param 1) newID
    | "DELETE" =>
      match deletedCert lib client msg.params with
      | .error reply => (reply,db)
      | .ok (fingerprint,h) =>
        (message "CLIENTCERT" ["DELETE",fingerprint],deleteDeviceCertificate db userID h)
    | _ => (fail ["UNKNOWN_COMMAND",msg.param 0,"Unknown subcommand"],db)

/-- The database's answers to a login with a client certificate. -/
def loginEnv (db : Database) (client : Client) : Env :=
  { base with
    peerCertificate := client.cert
    getDeviceCertificate := fun fingerprint => .ok (getDeviceCertificate db fingerprint)
    getUsernameByID := fun id =>
      match db.users id with
      | some username => .ok username
      | none => .error .hidden
    storeDeviceCertificate := fun userID cert =>
      match storeDeviceCertificate backend db userID cert 0 with
      | .ok _ => .ok ()
      | .error _ => .error .hidden
    now := client.now
    remoteIP := client.ip }

/-- SASL EXTERNAL: the verdict, and the certificate marked as used. -/
def login (db : Database) (client : Client) : Verdict × Database :=
  let env := loginEnv base backend db client
  let verdict := authExternal lib env
  match verdict, client.cert.bind fun raw => getDeviceCertificate db (lib.sha512 raw) with
  | .login l, some (userID,cert) =>
    if l.username = "" then (verdict,db)
    else
      match storeDeviceCertificate backend db userID (DeviceCertificate.markUsed env cert) 0 with
      | .ok db => (verdict,db)
      | .error _ => (verdict,db)
  | _, _ => (verdict,db)

end

/-- What happens to the two tables, whoever does it. -/
inductive Action
  | store (userID : Int) (client : Client) (label : String) (fingerprint : List UInt8) (newID : Int)
  | delete (userID : Int) (fingerprint : List UInt8)
  | login (client : Client)
  | createUser (userID : Int) (username : String)
  | deleteUser (userID : Int)

def step (lib : Library) (base : Env) (backend : Backend) (db : Database) : Action → Option Database
  | .store userID client label fingerprint newID =>
    match storeDeviceCertificate backend db userID ⟨0,label,fingerprint,client.now,client.ip⟩ newID with
    | .ok db => some db
    | .error _ => some db
  | .delete userID fingerprint => some (deleteDeviceCertificate db userID fingerprint)
  | .login client => some (login lib base backend db client).2
  | .createUser userID username => if (db.users userID).isSome then none else some (createUser db userID username)
  | .deleteUser userID => some (deleteUser db userID)

/-- The action leaves the certificate with the user. -/
def Action.spares (userID : Int) (fingerprint : List UInt8) : Action → Bool
  | .delete id h => !(id = userID && h = fingerprint)
  | .deleteUser id => id ≠ userID
  | _ => true

end Sake.DeviceCerts
