import Sake.Service

namespace Sake.Service
open Networks Goroutine

/-- What a service command comes down to, once its words have been looked at: one operation of the
user, or no more than looking at the state. -/
inductive Op
  | look (m : Handler Unit)
  | createNetwork (record : Network) (enforceLimit : Bool)
  | updateNetwork (r : Nat) (record : Network) (enforceLimit : Bool)
  | deleteNetwork (id : Int)
  | updateUser (update : Database.User → Except String Database.User)
  | editSASL (r : Nat) (edit : Network → Network)
  | createChannel (r : Nat) (ch : Channel)
  | updateChannel (r : Nat) (name : String) (fs : ChannelFlags) (ch : Channel)
  | deleteChannel (r : Nat) (name : String)
  | addIgnore (r : Nat) (ignore : Networks.Ignore)
  | deleteIgnore (r : Nat) (mask : String)
  | storeCertificate (cert : Downstream.DeviceCertificate)
  | deleteCertificate (given : String) (h : List UInt8)
  | createUser (record : Database.User)
  | post (username : String) (event : Event)
  | deleteUser (username : String)
  | notice (msg : Message)
  | debug (enabled : Bool)

section
variable (env : Env) (ctx : Ctx)

def Op.exec : Op → Handler Unit
  | .look m => m
  | .createNetwork record enforceLimit => discard (Goroutine.createNetwork env record enforceLimit)
  | .updateNetwork _ record enforceLimit => discard (Goroutine.updateNetwork env record enforceLimit)
  | .deleteNetwork id => Goroutine.deleteNetwork id
  | .updateUser update => Goroutine.updateUser env update
  | .editSASL r edit => mutateNetwork r edit
  | .createChannel r ch => addChannel r ch
  | .updateChannel r name fs ch => Service.updateChannel env ctx r name fs ch
  | .deleteChannel r name => Goroutine.deleteChannel r name
  | .addIgnore r ignore => Service.addIgnore r ignore
  | .deleteIgnore r mask => Service.deleteIgnore env r mask
  | .storeCertificate cert => storeDeviceCertificate env cert
  | .deleteCertificate given h => deleteMatching given h
  | .createUser record => Service.createUser record
  | .post username event => Service.post username event
  | .deleteUser username => deleteOtherUser username
  | .notice msg => modify fun s =>
    { s with others := s.others.map fun u => { u with events := u.events ++ [.broadcast msg] } }
  | .debug enabled => modify fun s => { s with debug := enabled }

/-- The effects of a command besides its operation. Only admins have files read. -/
def Plain (admin : Bool) : Effect → Prop
  | .print _ | .fetch _ | .toServer _ _ | .stopSelf => True
  | .readFile _ => admin = true
  | _ => False

/-- Between the states there is nothing but plain effects. -/
def Emits (admin : Bool) (s t : State) : Prop :=
  ∃ es, (∀ e ∈ es, Plain admin e) ∧ t = s.emit es

/-- Between the states there is nothing but plain effects and calls that leave the database as it is. -/
def Quiet (admin : Bool) (s t : State) : Prop :=
  ∃ es answers dbFailed, (∀ e ∈ es, Plain admin e) ∧ (s.dbFailed = true → dbFailed = true) ∧
    t = { s.emit es with answers, dbFailed }

/-- The network that a command is about: the client's own, or one of the user's. -/
def Selected (s : State) (r : Nat) : Prop := ctx.network = some r ∨ r ∈ s.networks

/-- The network that a name stands for. -/
def Picks (s : State) (name : String) (r : Nat) : Prop :=
  if name = "" then ctx.network = some r else s.getNetwork name = some r

/-- The channel and the network that a word stands for. -/
def Targets (s : State) (word name : String) (r : Nat) : Prop :=
  match ctx.network with
  | some own => word = name ∧ own = r
  | none => ∃ netName, Strings.cut '/' word = some (name,netName) ∧
      (s.networks.find? fun r => (s.heap r).record.getName = netName) = some r

/-- The name can be that of a new channel. -/
def FreeName (s : State) (name : String) (r : Nat) : Prop :=
  (name = "" || Strings.containsAny name illegalChanChars) = false ∧
    ((s.heap r).conn.any fun c => !(s.conns c).isChannel name) = false ∧ s.getChannel r name = none

/-- What is imported from a source. -/
def Imports (source : String) (pem : List UInt8) : Prop :=
  if Strings.contains source "-----BEGIN " then pem = source.toUTF8.data.toList
  else if Strings.contains source "://" then
    Strings.hasPrefix source "https://" = true ∧ env.fetch ctx.moment source = .ok pem
  else ctx.admin = true ∧ env.readFile ctx.moment source = .ok pem

/-- The flags pass their checks. -/
def Passes (fs : NetworkFlags) : Prop := fs.check env ctx.admin = .ok ()

/-- How a command changes the SASL settings of a network. -/
inductive SASLEdit (user : Database.User) (record : Network) : (Network → Network) → Prop
  | setCert (cert key : List UInt8) (h : cert ≠ []) : SASLEdit user record (setCert cert key)
  | removeCert : SASLEdit user record (removeCert user)
  | setPlain (username password : String) : SASLEdit user record (setPlain username password)
  | setExternal (h : clientCert user record ≠ []) : SASLEdit user record setExternal
  | resetSASL : SASLEdit user record resetSASL

/-- How a command changes the record of its own user. -/
inductive OwnUpdate : (Database.User → Except String Database.User) → Prop
  | setDefaultCert (cert key : List UInt8) (h : cert ≠ []) : OwnUpdate (setDefaultCert cert key)
  | removeDefaultCert : OwnUpdate (setDefaultCert [] [])
  | flags (fs : UserUpdateFlags) (hmax : fs.maxNetworks.isSome → ctx.admin = true)
      (hip : fs.sourceIP.isSome → ctx.admin = true) : OwnUpdate (fs.apply env ctx)

/-- What is known of an operation where it is carried out. -/
def Op.Allowed (s : State) : Op → Prop
  | .look m => ∀ s, match m s with
    | .ok _ t => Quiet ctx.admin s t
    | .error _ t => Quiet ctx.admin s t
  | .createNetwork record lim => ∃ fs addr, Passes env ctx fs ∧ record = fs.apply env (newNetwork addr) ∧
      lim = !fs.ignoreLimit ∧ (fs.ignoreLimit = true → ctx.admin = true)
  | .updateNetwork r record lim =>
    Selected ctx s r ∧ ∃ fs, Passes env ctx fs ∧ record = fs.apply env (s.heap r).record ∧
      lim = (!fs.ignoreLimit && !(s.heap r).record.enabled) ∧ (fs.ignoreLimit = true → ctx.admin = true)
  | .deleteNetwork id => ∃ r, Selected ctx s r ∧ (s.heap r).record.id = id
  | .updateUser update => OwnUpdate env ctx update
  | .editSASL r edit => Selected ctx s r ∧ SASLEdit s.user (s.heap r).record edit
  | .createChannel r ch => Selected ctx s r ∧ s.getChannel r ch.name = none ∧ ch.id = 0
  | .updateChannel r name _ ch => Selected ctx s r ∧ s.getChannel r name = some ch
  | .deleteChannel r _ => Selected ctx s r
  | .addIgnore r _ => Selected ctx s r
  | .deleteIgnore r _ => Selected ctx s r
  | .storeCertificate cert => cert.id = 0
  | .deleteCertificate _ _ => True
  | .createUser record => ctx.admin = true ∧ record.id = 0
  | .post _ _ | .deleteUser _ | .notice _ | .debug _ => ctx.admin = true

/-- A certificate is set for the user or for a network. -/
def Certifies (s : State) (fs : CertFlags) (cert key : List UInt8) (op : Op) : Prop :=
  (fs.isDefault = true ∧ fs.network = "" ∧ op = .updateUser (setDefaultCert cert key)) ∨
    (fs.isDefault = false ∧ ∃ r, Picks ctx s fs.network r ∧ op = .editSASL r (setCert cert key))

/-- The operation is what the command is for, with the flags that it was given. -/
def Op.Of (s : State) : Command → List String → Op → Prop
  | .networkCreate, params, op => ∃ fs addr, Lib.Flags.parse networkFlagSet params {} = .ok (fs,[]) ∧
      fs.addr = some addr ∧ op = .createNetwork (fs.apply env (newNetwork addr)) (!fs.ignoreLimit)
  | .networkUpdate, params, op => ∃ fs r, Lib.Flags.parse networkFlagSet (popArg params).2 {} = .ok (fs,[]) ∧
      Picks ctx s (popArg params).1 r ∧
      op = .updateNetwork r (fs.apply env (s.heap r).record) (!fs.ignoreLimit && !(s.heap r).record.enabled)
  | .networkDelete, params, op => ∃ r, Picks ctx s (popArg params).1 r ∧ op = .deleteNetwork (s.heap r).record.id
  | .certFPGenerate, params, op => ∃ fs pair, Lib.Flags.parse generateFlagSet params {} = .ok (fs,[]) ∧
      (fs.bits ≤ 0 || maxRSABits < fs.bits) = false ∧
      env.generateCertFP ctx.moment fs.keyType fs.bits = .ok pair ∧ Certifies ctx s fs pair.2 pair.1 op
  | .certFPImport, params, op => ∃ fs source pem pair, Lib.Flags.parse certFlagSet params {} = .ok (fs,[source]) ∧
      Imports env ctx source pem ∧ env.parseCertKeyPEM pem = .ok pair ∧ Certifies ctx s fs pair.1 pair.2 op
  | .certFPRemove, params, op => ∃ fs, Lib.Flags.parse certFlagSet params {} = .ok (fs,[]) ∧
      ((fs.isDefault = true ∧ fs.network = "" ∧ op = .updateUser (setDefaultCert [] [])) ∨
        (fs.isDefault = false ∧ ∃ r, Picks ctx s fs.network r ∧ op = .editSASL r (removeCert s.user)))
  | .saslSetPlain, params, op => ∃ name username password r,
      Lib.Flags.parse networkFlag params "" = .ok (name,[username,password]) ∧
      Picks ctx s name r ∧ op = .editSASL r (setPlain username password)
  | .saslSetExternal, params, op => ∃ name r, Lib.Flags.parse networkFlag params "" = .ok (name,[]) ∧
      Picks ctx s name r ∧ clientCert s.user (s.heap r).record ≠ [] ∧ op = .editSASL r setExternal
  | .saslReset, params, op => ∃ name r, Lib.Flags.parse networkFlag params "" = .ok (name,[]) ∧
      Picks ctx s name r ∧ op = .editSASL r resetSASL
  | .userCreate, _, op => ∃ record, op = .createUser record
  | .userUpdate, params, op => (∃ username event, op = .post username event) ∨
      ∃ fs, Lib.Flags.parse userUpdateFlagSet (popArg params).2 {} = .ok (fs,[]) ∧ op = .updateUser (fs.apply env ctx)
  | .userDelete, params, op => op = .deleteUser (params.headD "")
  | .userRun, _, op => ∃ username event, op = .post username event
  | .channelCreate, params, op => ∃ word flags fs name r, params = word :: flags ∧
      Lib.Flags.parse channelFlagSet flags {} = .ok (fs,[]) ∧ Targets ctx s word name r ∧ FreeName s name r ∧
      (fs.update env (newChannel name "")).2 = none ∧ op = .createChannel r (fs.update env (newChannel name "")).1
  | .channelUpdate, params, op => ∃ word flags fs name r ch, params = word :: flags ∧
      Lib.Flags.parse channelFlagSet flags {} = .ok (fs,[]) ∧ Targets ctx s word name r ∧
      s.getChannel r name = some ch ∧ op = .updateChannel r name fs ch
  | .channelDelete, _, op => ∃ r name, op = .deleteChannel r name
  | .ignoreAdd, _, op => ∃ r ignore, op = .addIgnore r ignore
  | .ignoreDelete, _, op => ∃ r mask, op = .deleteIgnore r mask
  | .deviceCertificateCreate, _, op => ∃ cert, op = .storeCertificate cert
  | .deviceCertificateDelete, _, op => ∃ given h, op = .deleteCertificate given h
  | .serverNotice, _, op => ∃ msg, op = .notice msg
  | .serverDebug, _, op => ∃ enabled, op = .debug enabled
  | _, _, _ => False

/-- The words are those of a command, maybe by way of `user run` for the own user. -/
inductive Names (admin : Bool) (self : String) : List String → Command → List String → Prop
  | command {words params : List String} {cmd : ServiceCommand} {command : Command}
      (h : getCommand serviceCommands words = .ok (cmd,params)) (hc : cmd.handle = some command) :
      Names admin self words command params
  | userRun {words rest params : List String} {cmd : ServiceCommand} {command : Command}
      (h : getCommand serviceCommands words = .ok (cmd,self :: rest)) (hc : cmd.handle = some .userRun)
      (hadmin : admin = true) (hr : Names admin self rest command params) : Names admin self words command params

/-- The run ends as the operation does, but for plain effects after it and the text of an error. -/
def EndsAs (admin : Bool) (r r' : EStateM.Result Fault State Unit) : Prop :=
  match r' with
  | .ok _ t => ∃ t', r = .ok () t' ∧ Emits admin t t'
  | .error _ t => ∃ e', r = .error e' t

/-- Run from `s`, the code does nothing but carry out the operation. -/
def Performs (m : Handler Unit) (s : State) (op : Op) : Prop :=
  ∃ s', Emits ctx.admin s s' ∧ op.Allowed env ctx s' ∧ EndsAs ctx.admin (m s) (op.exec env ctx s')

/-- A command that is run for the user. -/
structure Invocation where
  ctx : Ctx
  words : List String

/-- One command after another. A client whose network is gone is not listened to, and the goroutine
does not go on after a panic. -/
def serviceStep (s : State) (i : Invocation) : Option State :=
  if i.ctx.network.all (· ∈ s.networks) then
    match handleServiceCommand env i.ctx i.words s with
    | .ok _ t => some t
    | .error (.panic _) _ | .error .blocked _ => none
    | .error _ t => some t
  else none

end

end Sake.Service
