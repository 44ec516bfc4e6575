import Sake.ServiceCommands
import Sake.ServiceFlags

namespace Sake.Service
open Lib Networks Strings Goroutine
open Downstream (message)

/-- `serviceContext`, of a command that a user runs. Without a client there is no network. -/
structure Ctx where
  nick : String
  network : Option Nat
  admin : Bool
  /-- The certificate and the address of the client, if there is one. -/
  peerCertificate : Option (List UInt8)
  remoteIP : String
  /-- When the command is run. -/
  moment : Nat
  deriving Repr, DecidableEq

section
variable (env : Env) (ctx : Ctx)

/-- `popArg` -/
def popArg : List String → String × List String
  | [] => ("",[])
  | word :: params => if startsWith '-' word then ("",word :: params) else (word,params)

/-- The network that the user is connected to, or the one with the name. -/
def selectNetwork (missing name : String) : Handler Nat := do
  let s ← get
  if name = "" then
    match ctx.network with
    | none => fail ("no network selected, " ++ missing)
    | some r => pure r
  else
    match s.getNetwork name with
    | none => fail ("unknown network " ++ name.quote)
    | some r => pure r

/-- `getNetworkFromArg` -/
def getNetworkFromArg (params : List String) : Handler (Nat × List String) := do
  let r ← selectNetwork ctx "a name argument is required" (popArg params).1
  pure (r,(popArg params).2)

/-- `getNetworkFromFlag` -/
def getNetworkFromFlag (name : String) : Handler Nat := selectNetwork ctx "-network is required" name

def checkIgnoreLimit (fs : NetworkFlags) : Handler Unit :=
  failIf (fs.ignoreLimit && !ctx.admin) "you must be an admin to use the flag -ignore-limit"

def handleServiceNetworkCreate (params : List String) : Handler Unit := do
  let fs ← parseOnlyFlags networkFlagSet {} params
  failIf fs.addr.isNone "flag -addr is required"
  checkIgnoreLimit ctx fs
  let record ← ofExcept (fs.update env ctx.admin (newNetwork (fs.addr.getD "")))
  let r ← wrap "could not create network: " (createNetwork env record (!fs.ignoreLimit))
  let s ← get
  print ("created network " ++ (s.heap r).record.getName.quote)

/-- One line of `handleServiceNetworkStatus`. -/
def networkStatusLine (s : State) (r : Nat) : String :=
  let net := s.heap r
  let status := match net.conn with
    | some c =>
      if ctx.nick ≠ "" ∧ ctx.nick ≠ (s.conns c).nick then ["connected as " ++ (s.conns c).nick] else ["connected"]
    | none => if net.record.enabled then ["disconnected"] else ["disabled"]
  let details := match net.conn with
    | some c => toString (s.conns c).channels.length ++ " channels"
    | none => if net.record.enabled then net.lastError.getD "" else ""
  let current := if ctx.network = some r then ["current"] else []
  let name := if net.record.getName = net.record.addr then net.record.getName
    else net.record.getName ++ " (" ++ net.record.addr ++ ")"
  name ++ " [" ++ ", ".intercalate (status ++ current) ++ "]" ++ (if details = "" then "" else ": " ++ details)

def handleServiceNetworkStatus (params : List String) : Handler Unit := do
  failIf (!params.isEmpty) "expected no argument"
  let s ← get
  s.networks.forM fun r => print (networkStatusLine ctx s r)
  if s.networks.isEmpty then print "No network configured, add one with \"network create\"." else pure ()

def handleServiceNetworkUpdate (params : List String) : Handler Unit := do
  let selected ← getNetworkFromArg ctx params
  let fs ← parseOnlyFlags networkFlagSet {} selected.2
  checkIgnoreLimit ctx fs
  let s ← get
  let old := (s.heap selected.1).record
  let record ← ofExcept (fs.update env ctx.admin old)
  let r ← wrap "could not update network: " (updateNetwork env record (!fs.ignoreLimit && !old.enabled))
  let s ← get
  print ("updated network " ++ (s.heap r).record.getName.quote)

def handleServiceNetworkDelete (params : List String) : Handler Unit := do
  failIf (params.length ≠ 1) "expected exactly one argument"
  let selected ← getNetworkFromArg ctx params
  let s ← get
  let record := (s.heap selected.1).record
  deleteNetwork record.id
  print ("deleted network " ++ record.getName.quote)

def handleServiceNetworkQuote (params : List String) : Handler Unit := do
  failIf (params.length ≠ 1 && params.length ≠ 2) "expected one or two arguments"
  let raw := params.getLastD ""
  let selected ← getNetworkFromArg ctx params.dropLast
  let s ← get
  let net := s.heap selected.1
  match net.conn with
  | none => fail ("network " ++ net.record.getName.quote ++ " is not currently connected")
  | some c =>
    let msg ← wrap ("failed to parse command " ++ raw.quote ++ ": ") (ofExcept (env.parseMessage raw))
    emit (.toServer c msg)
    print ("sent command to " ++ net.record.getName.quote)

def sendCertfpFingerprints (cert : List UInt8) : Handler Unit := do
  print ("SHA-1 fingerprint: " ++ Hex.encodeToString (env.sha1 cert))
  print ("SHA-256 fingerprint: " ++ Hex.encodeToString (env.sha256 cert))
  print ("SHA-512 fingerprint: " ++ Hex.encodeToString (env.sha512 cert))

def setDefaultCert (cert key : List UInt8) (record : Database.User) : Except String Database.User :=
  .ok { record with saslExternalCert := cert, saslExternalKey := key }

/-- The certificate becomes the network's. It is sent whatever the mechanism, so PLAIN credentials
are not overridden. -/
def setCert (cert key : List UInt8) (record : Network) : Network :=
  { record with
    sasl := { record.sasl with
      externalCert := cert
      externalKey := key
      mechanism := if record.sasl.mechanism = .none then .external else record.sasl.mechanism } }

def exclusive (name : String) : Handler Unit :=
  failIf (name ≠ "") "flags -network and -default are mutually exclusive"

def storeCertKey (name : String) (isDefault : Bool) (cert key : List UInt8) : Handler Unit :=
  if isDefault then do
    exclusive name
    updateUser env (setDefaultCert cert key)
  else do
    let r ← getNetworkFromFlag ctx name
    mutateNetwork r (setCert cert key)

/-- The flags of the commands about certificates. -/
structure CertFlags where
  network : String := ""
  isDefault : Bool := false
  keyType : String := "rsa"
  bits : Int := 3072
  deriving Repr, DecidableEq

def certFlagSet : List (Flags.Flag CertFlags) :=
  [stringFlag "network" fun v fs => { fs with network := v },boolFlag "default" fun v fs => { fs with isDefault := v }]

def generateFlagSet : List (Flags.Flag CertFlags) :=
  certFlagSet ++
    [stringFlag "key-type" fun v fs => { fs with keyType := v },intFlag "bits" fun v fs => { fs with bits := v }]

def maxRSABits : Int := 8192

def handleServiceCertFPGenerate (params : List String) : Handler Unit := do
  let fs ← parseOnlyFlags generateFlagSet {} params
  failIf (fs.bits ≤ 0 || maxRSABits < fs.bits) "invalid value for -bits"
  let pair ← ofExcept (env.generateCertFP ctx.moment fs.keyType fs.bits)
  storeCertKey env ctx fs.network fs.isDefault pair.2 pair.1
  print "certificate generated"
  sendCertfpFingerprints env pair.2

/-- `readCertKeyPEM` -/
def readCertKeyPEM (source : String) : Handler (List UInt8) :=
  if contains source "://" then do
    failIf (!hasPrefix source "https://") "only https:// URLs are supported"
    emit (.fetch source)
    ofExcept (env.fetch ctx.moment source)
  else do
    emit (.readFile source)
    ofExcept (env.readFile ctx.moment source)

/-- The text that is imported: the argument itself, or what it points to. Local files are for
admins only. -/
def importedPEM (source : String) : Handler (List UInt8) :=
  if contains source "-----BEGIN " then pure source.toUTF8.data.toList
  else do
    failIf (!contains source "://" && !ctx.admin)
      "importing from a local file is restricted to admins, use an https:// URL"
    readCertKeyPEM env ctx source

def handleServiceCertFPImport (params : List String) : Handler Unit := do
  let parsed ← parseFlags certFlagSet {} params
  failIf (parsed.2.length ≠ 1) "expected exactly one argument"
  let pem ← importedPEM env ctx (parsed.2.headD "")
  let pair ← ofExcept (env.parseCertKeyPEM pem)
  storeCertKey env ctx parsed.1.network parsed.1.isDefault pair.1 pair.2
  print "certificate imported"
  sendCertfpFingerprints env pair.1

/-- `clientCert`, which certificate is presented to the server; none is empty. -/
def clientCert (user : Database.User) (record : Network) : List UInt8 :=
  if record.sasl.externalCert ≠ [] then record.sasl.externalCert
  else if !record.noDefaultCert && user.saslExternalCert ≠ [] then user.saslExternalCert
  else []

/-- The certificate is removed, and SASL EXTERNAL with the last one. -/
def removeCert (user : Database.User) (record : Network) : Network :=
  let record := { record with sasl := { record.sasl with externalCert := [], externalKey := [] } }
  if record.sasl.mechanism = .external ∧ clientCert user record = [] then
    { record with sasl := { record.sasl with mechanism := .none } }
  else record

def handleServiceCertFPRemove (params : List String) : Handler Unit := do
  let fs ← parseOnlyFlags certFlagSet {} params
  if fs.isDefault then do
    exclusive fs.network
    updateUser env (setDefaultCert [] [])
    print "default certificate removed"
  else do
    let r ← getNetworkFromFlag ctx fs.network
    let s ← get
    mutateNetwork r (removeCert s.user)
    print "certificate removed"

def handleServiceCertFPFingerprints (params : List String) : Handler Unit := do
  let fs ← parseOnlyFlags certFlagSet {} params
  if fs.isDefault then do
    exclusive fs.network
    let s ← get
    failIf s.user.saslExternalCert.isEmpty "no default certificate set for your user"
    sendCertfpFingerprints env s.user.saslExternalCert
  else do
    let r ← getNetworkFromFlag ctx fs.network
    let s ← get
    let sasl := (s.heap r).record.sasl
    let cert := if sasl.externalCert.isEmpty then s.user.saslExternalCert else sasl.externalCert
    failIf (sasl.mechanism ≠ .external || cert.isEmpty) "CertFP not set up"
    sendCertfpFingerprints env cert

def networkFlag : List (Flags.Flag String) := [stringFlag "network" fun v _ => v]

def saslStatusLine (sasl : SASL) : List String :=
  match sasl.mechanism with
  | .plain => ["SASL PLAIN enabled with username " ++ sasl.plainUsername.quote]
  | .external =>
    if sasl.externalCert.isEmpty then ["SASL EXTERNAL (CertFP) enabled, using your default certificate"]
    else ["SASL EXTERNAL (CertFP) enabled, using a per-network certificate"]
  | .none => ["SASL is disabled"]
  | .other _ => []

def accountLine (s : State) (r : Nat) : String :=
  match (s.heap r).conn with
  | none => "Disconnected from upstream network"
  | some c =>
    if (s.conns c).account = "" then "Unauthenticated on upstream network"
    else "Authenticated on upstream network with account " ++ (s.conns c).account.quote

def handleServiceSASLStatus (params : List String) : Handler Unit := do
  let name ← parseOnlyFlags networkFlag "" params
  let r ← getNetworkFromFlag ctx name
  let s ← get
  (saslStatusLine (s.heap r).record.sasl).forM print
  print (accountLine s r)

def setPlain (username password : String) (record : Network) : Network :=
  { record with
    sasl := { record.sasl with plainUsername := username, plainPassword := password, mechanism := .plain } }

def handleServiceSASLSetPlain (params : List String) : Handler Unit := do
  let parsed ← parseFlags networkFlag "" params
  failIf (parsed.2.length ≠ 2) "expected exactly 2 arguments"
  let r ← getNetworkFromFlag ctx parsed.1
  mutateNetwork r (setPlain (parsed.2.headD "") (parsed.2.getLastD ""))
  print "credentials saved"

def noClientCert : String :=
  "this network has no certificate of its own and doesn't use your default one (see \"certfp generate\", " ++
    "\"certfp import\" and \"network update -default-cert\")"

def setExternal (record : Network) : Network :=
  { record with sasl := { record.sasl with mechanism := .external } }

def handleServiceSASLSetExternal (params : List String) : Handler Unit := do
  let name ← parseOnlyFlags networkFlag "" params
  let r ← getNetworkFromFlag ctx name
  let s ← get
  failIf (clientCert s.user (s.heap r).record).isEmpty noClientCert
  mutateNetwork r setExternal
  print "SASL EXTERNAL enabled"

/-- The client certificate is kept, it is also used without SASL. -/
def resetSASL (record : Network) : Network :=
  { record with sasl := { record.sasl with plainUsername := "", plainPassword := "", mechanism := .none } }

def handleServiceSASLReset (params : List String) : Handler Unit := do
  let name ← parseOnlyFlags networkFlag "" params
  let r ← getNetworkFromFlag ctx name
  mutateNetwork r resetSASL
  print "credentials reset"

/-- The users on the server's map, the one that runs the command first. -/
def serverUsers (s : State) : List Database.User := s.user :: s.others.map Other.record

def userStatusLine (user : Database.User) (networks : Nat) : String :=
  let attrs := (if user.admin then ["admin"] else []) ++ (if user.enabled then [] else ["disabled"])
  user.username ++ (if attrs.isEmpty then "" else " (" ++ ", ".intercalate attrs ++ ")") ++ ": " ++
    toString networks ++ " networks" ++
    (if 0 ≤ user.maxNetworks then " (" ++ toString user.maxNetworks ++ " max)" else "")

def printUserStatus (user : Database.User) : Handler Unit := do
  let networks ← wrap ("could not get networks of user " ++ user.username.quote ++ ": ")
    (call fun _ db => .ok (db,(db.listNetworks user.id).length))
  print (userStatusLine user networks)

def handleUserStatus (params : List String) : Handler Unit := do
  failIf (1 < params.length) "expected 0 or 1 argument"
  let s ← get
  match params with
  | [] =>
    let users := serverUsers s
    (users.take 50).forM printUserStatus
    if 50 < users.length then print ("(" ++ toString (users.length - 50) ++ " more users omitted)") else pure ()
  | username :: _ =>
    match (serverUsers s).find? fun user => user.username = username with
    | none => fail ("unknown username " ++ username.quote)
    | some user => printUserStatus user

/-- The flags of `user create`. -/
structure UserCreateFlags where
  username : String := ""
  password : String := ""
  disablePassword : Bool := false
  nick : String := ""
  realname : String := ""
  admin : Bool := false
  enabled : Bool := true
  maxNetworks : Int := -1
  sourceIP : String := ""
  deriving Repr, DecidableEq

def userCreateFlagSet : List (Flags.Flag UserCreateFlags) :=
  [stringFlag "username" fun v fs => { fs with username := v },
    stringFlag "password" fun v fs => { fs with password := v },
    boolFlag "disable-password" fun v fs => { fs with disablePassword := v },
    stringFlag "nick" fun v fs => { fs with nick := v },
    stringFlag "realname" fun v fs => { fs with realname := v },
    boolFlag "admin" fun v fs => { fs with admin := v },
    boolFlag "enabled" fun v fs => { fs with enabled := v },
    intFlag "max-networks" fun v fs => { fs with maxNetworks := v },
    stringFlag "source-ip" fun v fs => { fs with sourceIP := v }]

def UserCreateFlags.record (fs : UserCreateFlags) (password : String) : Database.User :=
  { Database.newUser fs.username with
    nick := fs.nick
    realname := fs.realname
    admin := fs.admin
    enabled := fs.enabled
    maxNetworks := fs.maxNetworks
    sourceIP := fs.sourceIP
    password }

/-- `createUser`: the new user's goroutine is started. -/
def createUser (record : Database.User) : Handler Unit := do
  let s ← get
  failIf ((serverUsers s).any fun user => user.username = record.username)
    ("user " ++ record.username.quote ++ " already exists")
  let id ← wrap "could not create user in db: " (storeUser record)
  modify fun s => { s with others := s.others ++ [⟨{ record with id },[]⟩] }

/-- The password of a new user, as it is stored. -/
def UserCreateFlags.hashed (fs : UserCreateFlags) : Except String String :=
  if fs.disablePassword then .ok "" else env.hashPassword ctx.moment fs.password

def handleUserCreate (params : List String) : Handler Unit := do
  let fs ← parseOnlyFlags userCreateFlagSet {} params
  failIf (fs.username = "") "flag -username is required"
  failIf (fs.password ≠ "" && fs.disablePassword) "flags -password and -disable-password are mutually exclusive"
  failIf (fs.password = "" && !fs.disablePassword) "flag -password is required"
  failIf (fs.sourceIP ≠ "" && !env.parseIP fs.sourceIP) "flag -source-ip must be a valid IP address"
  let password ← ofExcept (fs.hashed env ctx)
  wrap "could not create user: " (createUser (fs.record password))
  print ("created user " ++ fs.username.quote)

/-- The flags of `user update`. -/
structure UserUpdateFlags where
  password : Option String := none
  disablePassword : Bool := false
  nick : Option String := none
  realname : Option String := none
  admin : Option Bool := none
  enabled : Option Bool := none
  maxNetworks : Option Int := none
  sourceIP : Option String := none
  deriving Repr, DecidableEq

def userUpdateFlagSet : List (Flags.Flag UserUpdateFlags) :=
  [stringFlag "password" fun v fs => { fs with password := some v },
    boolFlag "disable-password" fun v fs => { fs with disablePassword := v },
    stringFlag "nick" fun v fs => { fs with nick := some v },
    stringFlag "realname" fun v fs => { fs with realname := some v },
    boolPtrFlag "admin" fun v fs => { fs with admin := some v },
    boolPtrFlag "enabled" fun v fs => { fs with enabled := some v },
    intPtrFlag "max-networks" fun v fs => { fs with maxNetworks := some v },
    stringFlag "source-ip" fun v fs => { fs with sourceIP := some v }]

/-- The password that is stored, if one is. -/
def hashedPassword (fs : UserUpdateFlags) : Except String (Option String) :=
  match fs.password with
  | some password => (env.hashPassword ctx.moment password).map some
  | none => .ok none

/-- An event is posted to a user of the server. -/
def post (username : String) (event : Event) : Handler Unit :=
  modify fun s => { s with
    others := s.others.map fun u => if u.record.username = username then { u with events := u.events ++ [event] } else u }

/-- The own record with the flags that were given. -/
def UserUpdateFlags.apply (fs : UserUpdateFlags) (record : Database.User) : Except String Database.User :=
  match hashedPassword env ctx fs with
  | .error e => .error e
  | .ok password => .ok { record with
      password := if fs.disablePassword then "" else password.getD record.password
      nick := fs.nick.getD record.nick
      realname := fs.realname.getD record.realname
      maxNetworks := fs.maxNetworks.getD record.maxNetworks
      sourceIP := fs.sourceIP.getD record.sourceIP }

/-- `user update` of another user: the event is posted to it, and its answer is waited for. -/
def updateOtherUser (username : String) (fs : UserUpdateFlags) : Handler Unit := do
  failIf (!ctx.admin) "you must be an admin to update other users"
  failIf fs.nick.isSome "cannot update -nick of other user"
  failIf fs.realname.isSome "cannot update -realname of other user"
  let hashed ← ofExcept (hashedPassword env ctx fs)
  let s ← get
  failIf (!(s.others.any fun u => u.record.username = username)) ("unknown username " ++ username.quote)
  post username (.userUpdate (if fs.disablePassword then some "" else hashed) fs.admin fs.enabled fs.maxNetworks fs.sourceIP)
  print ("updated user " ++ username.quote)

/-- `user update` of the own user. -/
def updateOwnUser (fs : UserUpdateFlags) : Handler Unit := do
  failIf fs.admin.isSome "cannot update -admin of own user"
  failIf fs.enabled.isSome "cannot update -enabled of own user"
  failIf (fs.maxNetworks.isSome && !ctx.admin) "cannot update -max-networks of own user"
  updateUser env (fs.apply env ctx)
  let s ← get
  print ("updated user " ++ s.user.username.quote)

def handleUserUpdate (params : List String) : Handler Unit := do
  let fs ← parseOnlyFlags userUpdateFlagSet {} (popArg params).2
  failIf (fs.password.isSome && fs.disablePassword) "flags -password and -disable-password are mutually exclusive"
  failIf (fs.sourceIP.getD "" ≠ "" && !env.parseIP (fs.sourceIP.getD "")) "flag -source-ip must be a valid IP address"
  failIf (fs.sourceIP.isSome && !ctx.admin) "you must be an admin to set -source-ip"
  let s ← get
  if (popArg params).1 ≠ "" && (popArg params).1 ≠ s.user.username then
    updateOtherUser env ctx (popArg params).1 fs
  else updateOwnUser env ctx fs

/-- The confirmation token of a deletion. -/
def deleteToken (username : String) : String :=
  Hex.encodeToString ((env.sha1 username.toUTF8.data.toList).take 3)

/-- The rows of a user that is deleted. -/
def deleteUserRows (id : Int) : Handler Unit :=
  call fun _ db =>
    let owned := db.listNetworks id |>.map fun net => net.id
    if db.ignores.rows.any fun r => owned.contains r.network then .error foreignKeyFailed
    else .ok ({ db with
      users := db.users.delete fun r => r.id = id
      networks := db.networks.delete fun r => r.user = id
      channels := db.channels.delete fun r => owned.contains r.network
      certs := db.certs.delete fun r => r.user = id },())

/-- The goroutine of another user is stopped, and its rows are deleted. -/
def deleteOtherUser (username : String) : Handler Unit := do
  let s ← get
  match s.others.find? fun u => u.record.username = username with
  | none => fail ("unknown username " ++ username.quote)
  | some u =>
    post username .stop
    wrap "failed to delete user: " (deleteUserRows u.record.id)
    modify fun s => { s with others := s.others.filter fun u => u.record.username ≠ username }
    print ("deleted user " ++ username.quote)

/-- A user that deletes itself waits for the end of the goroutine that waits. -/
def deleteSelf (username : String) : Handler Unit := do
  print ("Goodbye " ++ username ++ ", deleting your account. There will be no further confirmation.")
  emit .stopSelf
  throw .blocked

def checkToken (username : String) (params : List String) : Handler Unit :=
  failIf (params.getD 1 "" ≠ deleteToken env username) "provided confirmation token doesn't match user"

def handleUserDelete (params : List String) : Handler Unit := do
  failIf (params.length ≠ 1 && params.length ≠ 2) "expected one or two arguments"
  let username := params.headD ""
  let s ← get
  failIf (!ctx.admin && s.user.username ≠ username) "only admins may delete other users"
  failIf (!((serverUsers s).any fun user => user.username = username)) ("unknown username " ++ username.quote)
  if params.length < 2 then
    print ("To confirm user deletion, send \"user delete " ++ username ++ " " ++ deleteToken env username ++ "\"")
  else do
    checkToken env username params
    if s.user.username = username then deleteSelf username else deleteOtherUser username

/-- `user run` for another user: the event is posted to it, and its lines are waited for. -/
def runAsOther (username : String) (params : List String) : Handler Unit := do
  let s ← get
  failIf (!(s.others.any fun u => u.record.username = username)) ("unknown username " ++ username.quote)
  post username (.userRun params)

/-- `stripNetworkSuffix`: the name of the channel, and its network. -/
def stripNetworkSuffix (name : String) : Handler (String × Nat) := do
  let s ← get
  match ctx.network with
  | some r => pure (name,r)
  | none =>
    match cut '/' name with
    | none => fail "missing network name"
    | some (name,netName) =>
      match s.networks.find? fun r => (s.heap r).record.getName = netName with
      | some r => pure (name,r)
      | none => fail ("unknown network " ++ netName.quote)

/-- One line of `handleServiceChannelStatus`. -/
def channelStatusLine (s : State) (networkName : String) (r : Nat) (ch : Channel) : String :=
  let net := s.heap r
  let name := if networkName = "" then ch.name ++ "/" ++ net.record.getName else ch.name
  let status := match net.conn with
    | none => "disconnected"
    | some c =>
      if (s.conns c).channels.any fun joined => net.casemap.apply joined = net.casemap.apply ch.name then "joined"
      else "parted"
  name ++ " [" ++ status ++ (if ch.detached then ", detached" else "") ++ "]"

/-- The channels of a network, in the order of their names without the hash signs. -/
def channelStatusLines (s : State) (networkName : String) (r : Nat) : List String :=
  let key (ch : Channel) := String.ofList (ch.name.toList.filter (· != '#'))
  (((s.heap r).channels.entries.map Prod.snd).insertionSort fun a b => key a ≤ key b).map
    (channelStatusLine s networkName r)

def printChannels (lines : List String) : Handler Unit := do
  lines.forM print
  if lines.isEmpty then print "No channel configured." else pure ()

def handleServiceChannelStatus (params : List String) : Handler Unit := do
  let s ← get
  let default := (ctx.network.map fun r => (s.heap r).record.getName).getD ""
  let name ← parseOnlyFlags networkFlag default params
  if name = "" then printChannels (s.networks.flatMap (channelStatusLines s name))
  else
    match s.getNetwork name with
    | none => fail ("unknown network " ++ name.quote)
    | some r => printChannels (channelStatusLines s name r)

def illegalChanChars : String := " ,\x07"

/-- The name can be that of a new channel of the network. -/
def checkNewChannel (name : String) (r : Nat) : Handler Unit := do
  failIf (name = "" || containsAny name illegalChanChars) ("invalid channel name: " ++ name)
  let s ← get
  failIf ((s.heap r).conn.any fun c => !(s.conns c).isChannel name) ("not a channel name: " ++ name)
  failIf (s.getChannel r name).isSome ("channel " ++ name.quote ++ " already exists")

def joinMessage (ch : Channel) : Message :=
  message "JOIN" (if ch.key = "" then [ch.name] else [ch.name,ch.key])

/-- The message goes to the server, if the network is connected. -/
def toServer (r : Nat) (msg : Message) : Handler Unit :=
  modify fun s => s.emit ((s.heap r).conn.toList.map fun c => .toServer c msg)

/-- The new channel is in the map before it is stored. -/
def addChannel (r : Nat) (ch : Channel) : Handler Unit := do
  modify fun s => s.setNet r fun net => net.setChannel ch.name ch
  wrap "failed to create channel: " (saveChannel r ch.name ch)

def createChannel (r : Nat) (ch : Channel) : Handler Unit := do
  addChannel r ch
  toServer r (joinMessage ch)
  print ("created channel " ++ ch.name.quote)

def handleServiceChannelCreate (params : List String) : Handler Unit := do
  failIf params.isEmpty "expected at least one argument"
  let fs ← parseOnlyFlags channelFlagSet {} params.tail
  let target ← stripNetworkSuffix ctx (params.headD "")
  checkNewChannel target.1 target.2
  let updated := fs.update env (newChannel target.1 "")
  match updated.2 with
  | some e => fail e
  | none => createChannel target.2 updated.1

def toggledChannel (net : Net) (want : Option Bool) (ch : Channel) : Channel :=
  match want with
  | some true => if ch.detached then ch else detachedChannel env ctx.moment net ch
  | some false => if ch.detached then attachedChannel ch else ch
  | none => ch

def toggleDetached (s : State) (r : Nat) (name : String) (want : Option Bool) (ch : Channel) : State :=
  match want with
  | some true => s.detach env ctx.moment r name ch
  | some false => s.attach env r name ch
  | none => s

/-- The live record is changed flag by flag, up to one that cannot be applied. -/
def updateChannel (r : Nat) (name : String) (fs : ChannelFlags) (ch : Channel) : Handler Unit := do
  let updated := fs.update env ch
  modify fun s => s.setNet r fun net => net.setChannel name updated.1
  match updated.2 with
  | some e => fail e
  | none =>
    let s ← get
    modify fun s => toggleDetached env ctx s r name fs.detached updated.1
    wrap "failed to update channel: " (saveChannel r name (toggledChannel env ctx (s.heap r) fs.detached updated.1))

def handleServiceChannelUpdate (params : List String) : Handler Unit := do
  failIf params.isEmpty "expected at least one argument"
  let fs ← parseOnlyFlags channelFlagSet {} params.tail
  let target ← stripNetworkSuffix ctx (params.headD "")
  let s ← get
  match s.getChannel target.2 target.1 with
  | none => fail ("unknown channel " ++ target.1.quote)
  | some ch =>
    updateChannel env ctx target.2 target.1 fs ch
    print ("updated channel " ++ target.1.quote)

/-- The channel is parted, if it is joined. -/
def partChannel (r : Nat) (name : String) : Handler Unit := do
  let s ← get
  let net := s.heap r
  if net.conn.any fun c =>
      (s.conns c).channels.any fun joined => net.casemap.apply joined = net.casemap.apply name
  then toServer r (message "PART" [name]) else pure ()

def handleServiceChannelDelete (params : List String) : Handler Unit := do
  failIf (params.length ≠ 1) "expected exactly one argument"
  let target ← stripNetworkSuffix ctx (params.headD "")
  wrap "failed to delete channel: " (deleteChannel target.2 target.1)
  partChannel target.2 target.1
  print ("deleted channel " ++ target.1.quote)

def handleServiceIgnoreList (params : List String) : Handler Unit := do
  let name ← parseOnlyFlags networkFlag "" params
  let r ← getNetworkFromFlag ctx name
  let s ← get
  (s.heap r).ignores.forM fun ig => print (ig.mask ++ " (added " ++ env.formatTime ig.createdAt ++ ")")
  if (s.heap r).ignores.isEmpty then print "No ignored hostmasks." else pure ()

/-- A bare nick stands for all its masks. -/
def fullMask (mask : String) : String := if containsAny mask "!@" then mask else mask ++ "!*@*"

/-- The mask is stored, and then added to the list. -/
def addIgnore (r : Nat) (ignore : Networks.Ignore) : Handler Unit := do
  let s ← get
  let id ← wrap "could not add ignore: "
    (call fun newID db => db.storeIgnore newID (s.heap r).record.id ignore)
  modify fun s => s.setNet r fun net => { net with ignores := net.ignores ++ [{ ignore with id }] }

def handleServiceIgnoreAdd (params : List String) : Handler Unit := do
  let parsed ← parseFlags networkFlag "" params
  failIf (parsed.2.length ≠ 1) "expected exactly one argument"
  let mask := fullMask (parsed.2.headD "")
  let r ← getNetworkFromFlag ctx parsed.1
  let s ← get
  failIf ((s.heap r).ignores.any fun ig => env.equalFold ig.mask mask) (mask.quote ++ " is already ignored")
  addIgnore r ⟨0,mask,env.now ctx.moment⟩
  print ("now ignoring " ++ mask.quote)

/-- The first ignore with the mask is deleted, and then taken off the list. -/
def deleteIgnore (r : Nat) (mask : String) : Handler Unit := do
  let s ← get
  match (s.heap r).ignores.find? fun ig => env.equalFold ig.mask mask with
  | none => fail ("no ignore entry found for " ++ mask.quote)
  | some found =>
    wrap "could not delete ignore: " (call fun _ db => .ok (db.deleteIgnore found.id,()))
    modify fun s => s.setNet r fun net =>
      { net with ignores := net.ignores.eraseP fun ig => env.equalFold ig.mask mask }

def handleServiceIgnoreDelete (params : List String) : Handler Unit := do
  let parsed ← parseFlags networkFlag "" params
  failIf (parsed.2.length ≠ 1) "expected exactly one argument"
  let mask := parsed.2.headD ""
  let r ← getNetworkFromFlag ctx parsed.1
  deleteIgnore env r mask
  print ("no longer ignoring " ++ mask.quote)

/-- The bytes in hexadecimal, with a colon between them. -/
def colonHex (bytes : List UInt8) : String :=
  ":".intercalate (bytes.map fun b => mapChars env.unicode.toUpper (Hex.encodeToString [b]))

def listDeviceCertificates : Handler (List Downstream.DeviceCertificate) := do
  let s ← get
  call fun _ db => .ok (db,(db.certs.rows.filter fun r => r.user = s.user.id).map DeviceCerts.Row.cert)

def deviceCertificateLine (cert : Downstream.DeviceCertificate) : String :=
  colonHex env (cert.fingerprint.take 6) ++ " [" ++ cert.lastIP ++ "] [" ++ cert.label ++ "] [" ++
    env.formatTime cert.lastUsed ++ "]"

def handleServiceDeviceCertificateStatus (params : List String) : Handler Unit := do
  failIf (!params.isEmpty) "expected no argument"
  let certs ← wrap "could not get device certificates: " listDeviceCertificates
  certs.forM fun cert => print (deviceCertificateLine env cert)
  if certs.isEmpty then print "No device certificate configured." else pure ()

def certificateFlagSet : List (Flags.Flag (String × String)) :=
  [stringFlag "fingerprint" fun v fs => (v,fs.2),stringFlag "label" fun v fs => (fs.1,v)]

/-- The fingerprint that was given, or that of the client's own certificate. -/
def chosenFingerprint (given : String) : String :=
  if given ≠ "" then given else (ctx.peerCertificate.map fun raw => colonHex env (env.sha512 raw)).getD ""

def decodeFingerprint (given : String) : Option (List UInt8) :=
  Hex.decodeString (String.ofList (given.toList.filter (· != ':')))

/-- The tables as the code for device certificates sees them. -/
def deviceCerts (db : DB) : DeviceCerts.Database where
  users := fun id => (db.users.rows.find? fun user => user.id = id).map Database.User.username
  certs := db.certs

/-- `StoreDeviceCertificate`, for a new certificate. -/
def storeDeviceCertificate (cert : Downstream.DeviceCertificate) : Handler Unit := do
  let s ← get
  call fun newID db =>
    match DeviceCerts.storeDeviceCertificate env.backend (deviceCerts db) s.user.id cert newID with
    | .ok stored => .ok ({ db with certs := stored.certs },())
    | .error .duplicate => .error "this device certificate fingerprint already exists"
    | .error .other => .error "could not create device certificate"

def handleServiceDeviceCertificateCreate (params : List String) : Handler Unit := do
  failIf (!env.clientCertAuth) "client certification authentication is disabled"
  let fs ← parseOnlyFlags certificateFlagSet ("","") params
  let fingerprint := chosenFingerprint env ctx fs.1
  failIf (fingerprint = "") "flag -fingerprint is required when no TLS client certificate is used"
  failIf (fs.2 = "") "flag -label is required"
  failIf ((decodeFingerprint fingerprint).all fun h => h.length ≠ 64)
    "the certificate fingerprint must be hex-encoded SHA-512"
  storeDeviceCertificate env
    ⟨0,fs.2,(decodeFingerprint fingerprint).getD [],env.now ctx.moment,ctx.remoteIP⟩
  print ("created device certificate " ++ fingerprint.quote)

/-- The one certificate whose fingerprint starts so. -/
def findCertificate (certs : List Downstream.DeviceCertificate) (given : String) (h : List UInt8) :
    Except String (List UInt8) :=
  match certs.filter fun cert => h.isPrefixOf cert.fingerprint with
  | [] => .error ("no device certificate found for fingerprint " ++ given.quote)
  | [cert] => .ok cert.fingerprint
  | _ => .error "multiple device certificates match this fingerprint prefix; pass the full fingerprint"

/-- `DeleteDeviceCertificate` -/
def deleteDeviceCertificate (fingerprint : List UInt8) : Handler Unit := do
  let s ← get
  call fun _ db =>
    .ok ({ db with certs := (DeviceCerts.deleteDeviceCertificate (deviceCerts db) s.user.id fingerprint).certs },())

/-- The certificate that the fingerprint tells of is deleted. -/
def deleteMatching (given : String) (h : List UInt8) : Handler Unit := do
  let certs ← wrap "could not get device certificate: " listDeviceCertificates
  let fingerprint ← ofExcept (findCertificate certs given h)
  wrap "could not delete device certificate: " (deleteDeviceCertificate fingerprint)

def handleServiceDeviceCertificateDelete (params : List String) : Handler Unit := do
  failIf (params.length ≠ 1) "expected exactly one argument"
  let given := params.headD ""
  let h := (decodeFingerprint given).getD []
  failIf (64 < h.length || h.length < 6) "the certificate fingerprint must be hex-encoded SHA-256"
  deleteMatching given h
  print ("deleted device certificate " ++ given.quote)

def serverStatusLine (s : State) : String :=
  toString (serverUsers s).length ++ "/" ++ toString s.db.users.rows.length ++ " users, " ++
    toString s.db.networks.rows.length ++ " networks, " ++ toString s.db.channels.rows.length ++ " channels"

def handleServiceServerStatus (params : List String) : Handler Unit := do
  failIf (!params.isEmpty) "expected no argument"
  call fun _ db => .ok (db,())
  let s ← get
  print (serverStatusLine s)

/-- Every user gets the event, also the one that runs the command. -/
def handleServiceServerNotice (params : List String) : Handler Unit := do
  failIf (params.length ≠ 1) "expected exactly one argument"
  let msg := message "NOTICE" ["$" ++ env.hostname,params.headD ""]
  modify fun s => { s with others := s.others.map fun u => { u with events := u.events ++ [.broadcast msg] } }
  let s ← get
  let total := toString (serverUsers s).length
  print ("sent to " ++ total ++ "/" ++ total ++ " downstream connections")

def handleServiceServerDebug (params : List String) : Handler Unit := do
  failIf (params.length ≠ 1) "expected exactly one argument"
  match parseBool (params.headD "") with
  | none => fail ("strconv.ParseBool: parsing " ++ (params.headD "").quote ++ ": invalid syntax")
  | some enabled => modify fun s => { s with debug := enabled }

def handleServiceHelp (params : List String) : Handler Unit :=
  if params.isEmpty then print (commandSetHelp serviceCommands [] ctx.admin false)
  else do
    let found ← ofExcept (getCommand serviceCommands params)
    let words := params.take (params.length - found.2.length)
    if found.1.children.isEmpty then
      print (" ".intercalate words ++ (if found.1.usage = "" then "" else " " ++ found.1.usage) ++ ": " ++ found.1.desc)
    else print (commandSetHelp found.1.children words ctx.admin false)

/-- The handlers, `user run` for another user among them. -/
def handle : Command → List String → Handler Unit
  | .help => handleServiceHelp ctx
  | .networkCreate => handleServiceNetworkCreate env ctx
  | .networkStatus => handleServiceNetworkStatus ctx
  | .networkUpdate => handleServiceNetworkUpdate env ctx
  | .networkDelete => handleServiceNetworkDelete ctx
  | .networkQuote => handleServiceNetworkQuote env ctx
  | .certFPGenerate => handleServiceCertFPGenerate env ctx
  | .certFPFingerprints => handleServiceCertFPFingerprints env ctx
  | .certFPImport => handleServiceCertFPImport env ctx
  | .certFPRemove => handleServiceCertFPRemove env ctx
  | .saslStatus => handleServiceSASLStatus ctx
  | .saslSetPlain => handleServiceSASLSetPlain ctx
  | .saslSetExternal => handleServiceSASLSetExternal ctx
  | .saslReset => handleServiceSASLReset ctx
  | .userStatus => handleUserStatus
  | .userCreate => handleUserCreate env ctx
  | .userUpdate => handleUserUpdate env ctx
  | .userDelete => handleUserDelete env ctx
  | .userRun => fun params => runAsOther (params.headD "") params.tail
  | .channelStatus => handleServiceChannelStatus ctx
  | .channelCreate => handleServiceChannelCreate env ctx
  | .channelUpdate => handleServiceChannelUpdate env ctx
  | .channelDelete => handleServiceChannelDelete ctx
  | .ignoreList => handleServiceIgnoreList env ctx
  | .ignoreAdd => handleServiceIgnoreAdd env ctx
  | .ignoreDelete => handleServiceIgnoreDelete env ctx
  | .deviceCertificateStatus => handleServiceDeviceCertificateStatus env
  | .deviceCertificateCreate => handleServiceDeviceCertificateCreate env ctx
  | .deviceCertificateDelete => handleServiceDeviceCertificateDelete
  | .serverStatus => handleServiceServerStatus
  | .serverNotice => handleServiceServerNotice env
  | .serverDebug => handleServiceServerDebug

/-- A request for help by a flag is answered with an error. -/
def withHelp (words params : List String) (m : Handler Unit) : Handler Unit :=
  tryCatch m fun
    | .help => fail ("unsupported flag (type \"help " ++
        " ".intercalate (words.take (words.length - params.length)) ++ "\" for a help message)")
    | e => throw e

/-- `handleUserRun`, given how the rest is run as a command of the own user. -/
def handleUserRun (self : List String → Handler Unit) (params : List String) : Handler Unit := do
  failIf (params.length < 2) "expected at least two arguments"
  let s ← get
  if s.user.username = params.headD "" then self params.tail else runAsOther (params.headD "") params.tail

/-- What is done with the command that the words name. -/
def runHandler (self : List String → Handler Unit) (words params : List String) (cmd : ServiceCommand) :
    Handler Unit :=
  match cmd.handle with
  | some .userRun => handleUserRun self params
  | some command => withHelp words params (handle env ctx command params)
  | none =>
    if cmd.children.isEmpty then fail ("command " ++ (words.headD "").quote ++ " not found")
    else print (commandSetHelp cmd.children words ctx.admin false)

/-- `handleServiceCommand`, for at most as many commands within commands as `depth` says. -/
def runCommand : (depth : Nat) → List String → Handler Unit
  | 0, _ => fail ""
  | depth + 1, words =>
    match getCommand serviceCommands words with
    | .error e => fail (e ++ " (type \"help\" for a list of commands)")
    | .ok (cmd,params) =>
      if cmd.admin && !ctx.admin then fail "you must be an admin to use this command"
      else runHandler env ctx (runCommand depth) words params cmd

/-- A command within a command has fewer words, see `Proofs.Service.runCommand_depth`. -/
def handleServiceCommand (words : List String) : Handler Unit := runCommand env ctx (words.length + 1) words

end

end Sake.Service
