import Sake.Lib.Flags
import Sake.UserNetworks

namespace Sake.Service
open Lib Networks Strings Goroutine
open Delivery (MessageFilter)
open Flags (Flag)

/-- `strconv.ParseBool` -/
def parseBool (s : String) : Option Bool :=
  if s ∈ ["1","t","T","TRUE","true","True"] then some true
  else if s ∈ ["0","f","F","FALSE","false","False"] then some false
  else none

section
variable {α : Type}

/-- `stringPtrFlag`, `stringSliceFlag` and the flags of `fs.String`. -/
def stringFlag (name : String) (set : String → α → α) : Flag α :=
  ⟨name,false,fun value values => .ok (set value values)⟩

/-- `boolPtrFlag`, which needs a value. -/
def boolPtrFlag (name : String) (set : Bool → α → α) : Flag α :=
  ⟨name,false,fun value values =>
    match parseBool value with
    | some b => .ok (set b values)
    | none => .error ("strconv.ParseBool: parsing " ++ value.quote ++ ": invalid syntax")⟩

/-- The flags of `fs.Bool` and `fs.BoolVar`. -/
def boolFlag (name : String) (set : Bool → α → α) : Flag α :=
  ⟨name,true,fun value values =>
    match parseBool value with
    | some b => .ok (set b values)
    | none => .error "parse error"⟩

/-- `intPtrFlag` -/
def intPtrFlag (name : String) (set : Int → α → α) : Flag α :=
  ⟨name,false,fun value values =>
    match parseInt value with
    | some n => .ok (set n values)
    | none => .error ("strconv.Atoi: parsing " ++ value.quote ++ ": invalid syntax")⟩

/-- The flags of `fs.Int`. -/
def intFlag (name : String) (set : Int → α → α) : Flag α :=
  ⟨name,false,fun value values =>
    match parseInt value with
    | some n => .ok (set n values)
    | none => .error "parse error"⟩

/-- `fs.Parse`: the values of the flags, and the arguments. -/
def parseFlags (flags : List (Flag α)) (init : α) (params : List String) : Handler (α × List String) :=
  match Flags.parse flags params init with
  | .ok parsed => pure parsed
  | .error .help => throw .help
  | .error (.failed text) => fail text

def noArgument (args : List String) : Handler Unit :=
  failIf (!args.isEmpty) ("unexpected argument: " ++ args.headD "")

/-- A command that takes flags only. -/
def parseOnlyFlags (flags : List (Flag α)) (init : α) (params : List String) : Handler α := do
  let parsed ← parseFlags flags init params
  noArgument parsed.2
  pure parsed.1

end

/-- `networkFlagSet`, with what was given for the flags. -/
structure NetworkFlags where
  addr : Option String := none
  name : Option String := none
  nick : Option String := none
  username : Option String := none
  pass : Option String := none
  realname : Option String := none
  certFP : Option String := none
  autoAway : Option Bool := none
  enabled : Option Bool := none
  ignoreLimit : Bool := false
  connectCommands : List String := []
  sourceIP : Option String := none
  tlsInsecure : Option Bool := none
  defaultCert : Option Bool := none
  deriving Repr, DecidableEq

def networkFlagSet : List (Flag NetworkFlags) :=
  [stringFlag "addr" fun v fs => { fs with addr := some v },
    stringFlag "name" fun v fs => { fs with name := some v },
    stringFlag "nick" fun v fs => { fs with nick := some v },
    stringFlag "username" fun v fs => { fs with username := some v },
    stringFlag "pass" fun v fs => { fs with pass := some v },
    stringFlag "realname" fun v fs => { fs with realname := some v },
    stringFlag "certfp" fun v fs => { fs with certFP := some v },
    boolPtrFlag "auto-away" fun v fs => { fs with autoAway := some v },
    boolPtrFlag "enabled" fun v fs => { fs with enabled := some v },
    boolFlag "ignore-limit" fun v fs => { fs with ignoreLimit := v },
    stringFlag "connect-command" fun v fs => { fs with connectCommands := fs.connectCommands ++ [v] },
    stringFlag "source-ip" fun v fs => { fs with sourceIP := some v },
    boolPtrFlag "tls-insecure" fun v fs => { fs with tlsInsecure := some v },
    boolPtrFlag "default-cert" fun v fs => { fs with defaultCert := some v }]

section
variable (env : Env)

/-- The scheme of an address that has one is known. -/
def checkScheme (addr : String) : Except String Unit :=
  match cutAt "://".toList addr.toList with
  | none => .ok ()
  | some (scheme,_) =>
    if String.ofList scheme ∈ ["ircs","irc+insecure","irc+unix"] then .ok ()
    else .error ("unknown scheme " ++ (String.ofList scheme).quote ++
      " (supported schemes: ircs, irc+insecure, irc+unix)")

def checkName (name : String) : Except String Unit :=
  if name = "*" then .error ("the network name " ++ name.quote ++ " is reserved") else .ok ()

/-- The fingerprint as it is kept, with the name of the hash before it. -/
def fingerprint (certFP : String) : Except String String :=
  let hex := mapChars env.unicode.toLower (String.ofList (certFP.toList.filter (· != ':')))
  if (Hex.decodeString hex).isNone then .error "the certificate fingerprint must be hex-encoded"
  else if hex.length = 0 then .ok ""
  else if hex.length = 64 then .ok ("sha-256:" ++ hex)
  else if hex.length = 128 then .ok ("sha-512:" ++ hex)
  else .error "the certificate fingerprint must be a SHA256 or SHA512 hash"

def checkCommands (commands : List String) : Except String (List String) :=
  if commands = [""] then .ok []
  else if 20 < commands.length then .error "too many -connect-command flags supplied"
  else
    match commands.find? fun command => !(env.parseMessage command).isOk with
    | none => .ok commands
    | some command =>
      .error ("flag -connect-command must be a valid raw irc command string: " ++ command.quote ++ ": " ++
        match env.parseMessage command with
        | .error e => e
        | .ok _ => "")

def checkSourceIP (isAdmin : Bool) : Except String Unit :=
  if isAdmin then .ok () else .error "you must be an admin to set -source-ip"

/-- The first of the flags that cannot be applied. -/
def NetworkFlags.check (fs : NetworkFlags) (isAdmin : Bool) : Except String Unit := do
  match fs.addr with
  | some addr => checkScheme addr
  | none => pure ()
  match fs.name with
  | some name => checkName name
  | none => pure ()
  match fs.certFP with
  | some certFP => discard (fingerprint env certFP)
  | none => pure ()
  discard (checkCommands env fs.connectCommands)
  match fs.sourceIP with
  | some _ => checkSourceIP isAdmin
  | none => pure ()

/-- The record with the flags that were given. -/
def NetworkFlags.apply (fs : NetworkFlags) (net : Network) : Network :=
  { net with
    addr := fs.addr.getD net.addr
    noDefaultCert := (fs.defaultCert.map (!·)).getD net.noDefaultCert
    name := fs.name.getD net.name
    nick := fs.nick.getD net.nick
    username := fs.username.getD net.username
    pass := fs.pass.getD net.pass
    realname := fs.realname.getD net.realname
    certFP := match fs.certFP with
      | some certFP => ((fingerprint env certFP).toOption).getD net.certFP
      | none => net.certFP
    autoAway := fs.autoAway.getD net.autoAway
    enabled := fs.enabled.getD net.enabled
    connectCommands := match fs.connectCommands with
      | [] => net.connectCommands
      | commands => ((checkCommands env commands).toOption).getD net.connectCommands
    sourceIP := fs.sourceIP.getD net.sourceIP
    tlsInsecure := fs.tlsInsecure.getD net.tlsInsecure }

/-- `networkFlagSet.update`. The record is a copy, so nothing is kept of it after an error. -/
def NetworkFlags.update (fs : NetworkFlags) (isAdmin : Bool) (net : Network) : Except String Network :=
  match fs.check env isAdmin with
  | .error e => .error e
  | .ok () => .ok (fs.apply env net)

end

/-- `parseFilter` -/
def parseFilter (filter : String) : Except String MessageFilter :=
  match filter with
  | "default" => .ok .default
  | "none" => .ok .none
  | "highlight" => .ok .highlight
  | "message" => .ok .message
  | _ => .error ("unknown filter: " ++ filter.quote)

/-- `channelFlagSet`, with what was given for the flags. -/
structure ChannelFlags where
  key : Option String := none
  detached : Option Bool := none
  relayDetached : Option String := none
  reattachOn : Option String := none
  detachAfter : Option String := none
  detachOn : Option String := none
  deriving Repr, DecidableEq

def channelFlagSet : List (Flag ChannelFlags) :=
  [stringFlag "key" fun v fs => { fs with key := some v },
    boolPtrFlag "detached" fun v fs => { fs with detached := some v },
    stringFlag "relay-detached" fun v fs => { fs with relayDetached := some v },
    stringFlag "reattach-on" fun v fs => { fs with reattachOn := some v },
    stringFlag "detach-after" fun v fs => { fs with detachAfter := some v },
    stringFlag "detach-on" fun v fs => { fs with detachOn := some v }]

def checkDuration (env : Env) (text : String) : Except String Int :=
  match env.parseDuration text with
  | some d =>
    if d < 0 then .error ("unknown duration for -detach-after " ++ text.quote ++
      " (duration format: 0, 300s, 22h30m, ...)")
    else .ok d
  | none => .error ("unknown duration for -detach-after " ++ text.quote ++
      " (duration format: 0, 300s, 22h30m, ...)")

/-- One assignment of `channelFlagSet.update`, or why the value cannot be used. Without a value nothing
is assigned. -/
def setting {α : Type} (value : Option String) (parse : String → Except String α) (set : α → Channel → Channel) :
    Except String (Channel → Channel) :=
  match value with
  | none => .ok id
  | some text =>
    match parse text with
    | .ok a => .ok (set a)
    | .error e => .error e

/-- The assignments of `channelFlagSet.update`, in their order. -/
def ChannelFlags.settings (env : Env) (fs : ChannelFlags) : List (Except String (Channel → Channel)) :=
  [setting fs.key Except.ok fun key ch => { ch with key },
    setting fs.relayDetached parseFilter fun relayDetached ch => { ch with relayDetached },
    setting fs.reattachOn parseFilter fun reattachOn ch => { ch with reattachOn },
    setting fs.detachAfter (checkDuration env) fun detachAfter ch => { ch with detachAfter },
    setting fs.detachOn parseFilter fun detachOn ch => { ch with detachOn }]

/-- The assignments are made up to the first that cannot be. -/
def applySettings : List (Except String (Channel → Channel)) → Channel → Channel × Option String
  | [], ch => (ch,none)
  | .ok set :: settings, ch => applySettings settings (set ch)
  | .error e :: _, ch => (ch,some e)

/-- `channelFlagSet.update`: the record as it is left, and the error. -/
def ChannelFlags.update (env : Env) (fs : ChannelFlags) (ch : Channel) : Channel × Option String :=
  applySettings (fs.settings env) ch

end Sake.Service
