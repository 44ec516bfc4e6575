import Sake.Upstream

namespace Sake.Upstream
open Strings Highlight

/-- A user we know is updated, and moved if the nick changed; another one is added. -/
def updateUsers (users : CasedMap User) (nick : String) (info : User) : CasedMap User :=
  match users.get nick with
  | none =>
    let info := if info.nickname ≠ "" then info else { info with nickname := nick }
    users.set info.nickname info
  | some uu =>
    let uu := uu.updateFrom info
    if info.nickname ≠ "" ∧ nick ≠ info.nickname then (users.del nick).set uu.nickname uu
    else users.set nick uu

def cacheUserInfo (nick : String) (info : User) : Handler Unit := do
  panicIf (nick = "") .cacheUserInfo
  modify fun uc => { uc with users := updateUsers uc.users nick info }

def getChannel (name : String) : Handler Channel := do
  match (← get).channels.get name with
  | none => fail (.unknownChannel name)
  | some ch => pure ch

/-- The command that waits for a reply, with its client if that is still there. -/
def Conn.currentPendingCommand (uc : Conn) (cmd : String) : Option Nat × Option Message :=
  match uc.pendingCmds cmd with
  | [] => (none,none)
  | c :: _ => (uc.downstreams.find? (· == c.downstreamID),some c.msg)

def dequeueCommand (cmd : String) : Handler (Option Nat × Option Message) := do
  let current := (← get).currentPendingCommand cmd
  modify fun uc => { uc with
    pendingCmds := fun c => if c = cmd then (uc.pendingCmds c).tail else uc.pendingCmds c }
  pure current

/-- The label of a message names the client its answer is for. -/
def parseLabel (label : String) : Except HandleError (Nat × String) :=
  if label = "" then .ok (0,"")
  else match splitN '-' 4 label with
    | [sd,id,_,downstreamLabel] =>
      if sd ≠ "sd" then .error (.invalidLabel label)
      else match parseUint id with
        | some n => .ok (n,downstreamLabel)
        | none => .error (.invalidLabel label)
    | _ => .error (.invalidLabel label)

section Text
variable (env : Env)

/-- `network.isHighlight`. -/
def isHighlight (msg : Message) (sender : String) : Handler Bool := do
  let uc ← get
  let nick := if uc.connected then uc.nick else uc.wantNick.1
  if msg.isText ∧ sender ≠ nick then
    if h : nick ≠ "" then pure (Highlight.isHighlight env.unicode (msg.param 1) ⟨nick,h⟩)
    else throw (.panic .isHighlight)
  else pure false

/-- The relay to the clients asks for the highlight as well, with the same answer. -/
def handleDetachedMessage (ch : Delivery.Channel) (msg : Message) (sender : String) :
    Handler Unit := do
  let highlight ← isHighlight env msg sender
  if ch.reattachOn = .message ∨ (ch.reattachOn = .highlight ∧ highlight) then
    modify fun uc => { uc with
      savedChannels := uc.savedChannels.set uc.casemap ch.name
        { ch with detached := false, detachedInternalMsgID := none } }
  else pure ()

/-- `PRIVMSG`, `NOTICE`, `TAGMSG` and `REDACT`. -/
def handleText (msg : Message) : Handler Unit := do
  let uc ← get
  let sender := (uc.source msg).name
  match uc.addressing.destination msg with
  | .malformed => fail (.needMoreParams msg.command)
  | .skipped => pure ()
  | .server => pure ()
  | .buffer bufferName _ =>
    match uc.savedChannels.get uc.casemap bufferName with
    | none => pure ()
    | some ch =>
      if msg.isText ∧ uc.isOurNick sender = false then
        (if ch.detached then handleDetachedMessage env ch msg sender else pure ())
        discard (isHighlight env msg sender)
      else pure ()

end Text

section Registration
variable (env : Env)

def upper (s : String) : String := mapChars env.unicode.toUpper s

def lower (s : String) : String := mapChars env.unicode.toLower s

def addSupportedCap (uc : Conn) (s : String) : Conn :=
  let (k,v) := (cut '=' s).getD (s,"")
  let k := lower env k
  { uc with capsAvailable := (k,v) :: uc.capsAvailable.filter fun kv => kv.1 != k }

def handleSupportedCaps (uc : Conn) (caps : String) : Conn :=
  (fieldsFunc env.unicode.isSpace caps).foldl (addSupportedCap env) uc

def Conn.supportsSASL (uc : Conn) (mech : String) : Bool :=
  match uc.capsAvailable.lookup "sasl" with
  | none => false
  | some v => v == "" || (split ',' v).any fun m => lower env m == lower env mech

def Conn.requestSASL (uc : Conn) : Bool :=
  uc.saslMechanism != "" && uc.supportsSASL env uc.saslMechanism

def handleCapAck (name : String) (ok : Bool) : Handler Unit := do
  modify fun uc => { uc with
    capsEnabled := if ok then name :: uc.capsEnabled.erase name else uc.capsEnabled.erase name }
  let uc ← get
  if name = "sasl" ∧ uc.requestSASL env ∧ ok then
    failIf (uc.saslMechanism ≠ "PLAIN" ∧ uc.saslMechanism ≠ "EXTERNAL") (.unsupportedMechanism name)
    modify fun uc => { uc with saslClient := true }
  else pure ()

def handleCap (msg : Message) : Handler Unit := do
  needParams msg 2
  let subCmd := upper env (msg.param 1)
  let subParams := msg.params.drop 2
  if subCmd = "LS" ∨ subCmd = "NEW" then
    failIf (subParams = []) (.needMoreParams msg.command)
    let caps := if subCmd = "LS" then subParams.getLastD "" else subParams.headD ""
    modify fun uc => handleSupportedCaps env uc caps
  else if subCmd = "ACK" ∨ subCmd = "NAK" then
    failIf (subParams = []) (.needMoreParams msg.command)
    (fieldsFunc env.unicode.isSpace (subParams.headD "")).forM fun name =>
      let (name,negated) := cutFirst '-' name
      handleCapAck env (lower env name) (subCmd == "ACK" && !negated)
  else if subCmd = "DEL" then
    failIf (subParams = []) (.needMoreParams msg.command)
    let caps := fieldsFunc env.unicode.isSpace (subParams.headD "")
    modify fun uc => { uc with
      capsAvailable := uc.capsAvailable.filter fun kv => !caps.contains kv.1
      capsEnabled := uc.capsEnabled.filter fun name => !caps.contains name }
  else pure ()

def handleAuthenticate (msg : Message) : Handler Unit := do
  let uc ← get
  failIf (uc.saslClient = false) .unexpectedAuthenticate
  needParams msg 1
  failIf (msg.param 0 ≠ "+" ∧ env.validBase64 (msg.param 0) = false) .invalidChallenge
  modify fun uc => { uc with saslStarted := true }
  failIf (env.saslAccepts uc.saslStarted (msg.param 0) = false) .invalidChallenge

def handleLoggedIn (msg : Message) : Handler Unit := do
  needParams msg 3
  let p := env.parsePrefix (msg.param 1)
  modify fun uc => { uc with account := msg.param 2, username := p.user, hostname := p.host }

def handleLoggedOut (msg : Message) : Handler Unit := do
  needParams msg 2
  let p := env.parsePrefix (msg.param 1)
  modify fun uc => { uc with account := "", username := p.user, hostname := p.host }

def handleVisibleHost (msg : Message) : Handler Unit := do
  needParams msg 2
  modify fun uc => match cut '@' (msg.param 1) with
    | some (username,hostname) => { uc with username, hostname }
    | none => { uc with hostname := msg.param 1 }

/-- The end of a SASL exchange, with or without success. The credentials a success saves
are left out. -/
def handleSASLEnd (msg : Message) : Handler Unit := do
  needParams msg 2
  modify fun uc => { uc with saslClient := false, saslStarted := false }
  discard (dequeueCommand "AUTHENTICATE")

/-- `REGISTER` and `VERIFY`. -/
def handleRegister (msg : Message) : Handler Unit := do
  let (dc,cmd) ← dequeueCommand msg.command
  if dc.isSome ∧ msg.command = "REGISTER" then
    needParams msg 2
    match cmd with
    | some cmd => needParams cmd 3
    | none => pure ()
  else pure ()

def handleWelcome (msg : Message) : Handler Unit := do
  needParams msg 1
  modify fun uc => { uc with
    nick := msg.param 0, registered := true, serverPrefix := uc.source msg }

def handleMyInfo (msg : Message) : Handler Unit := do
  needParams msg 5
  modify fun uc => { uc with serverName := msg.param 1, availableUserModes := msg.param 3 }

/-- `DecodeIsupportValue`. -/
def decodeIsupportValue : List Char → List Char
  | '\\' :: 'x' :: '2' :: '0' :: rest => ' ' :: decodeIsupportValue rest
  | '\\' :: 'x' :: '5' :: 'C' :: rest => '\\' :: decodeIsupportValue rest
  | c :: rest => c :: decodeIsupportValue rest
  | [] => []

def stdChannelModes : List (Char × ModeType) :=
  [('b',.a),('e',.a),('I',.a),('k',.b),('l',.c),('i',.d),('m',.d),('n',.d),
    ('s',.d),('t',.d)]

def stdChannelTypes : String := "#&+!"

def stdMemberships : List Membership :=
  [⟨'q','~'⟩,⟨'a','&'⟩,⟨'o','@'⟩,⟨'h','%'⟩,⟨'v','+'⟩]

/-- Later kinds win when a letter is announced twice. -/
def handleChanModes (s : String) : Handler Unit := do
  match splitN ',' 5 s with
  | a :: b :: c :: d :: _ =>
    let kind (mt : ModeType) (letters : String) := letters.toList.map fun mode => (mode,mt)
    modify fun uc => { uc with
      availableChannelModes := kind .d d ++ kind .c c ++ kind .b b ++ kind .a a }
  | _ => fail (.malformedIsupport "CHANMODES" s)

def handleMemberships (s : String) : Handler Unit := do
  match s.toList with
  | [] => modify fun uc => { uc with availableMemberships := [] }
  | '(' :: rest =>
    let modes := rest.takeWhile (· != ')')
    let sigils := (rest.dropWhile (· != ')')).tail
    failIf (rest.contains ')' = false ∨ modes.length ≠ sigils.length) (.malformedIsupport "PREFIX" s)
    modify fun uc => { uc with availableMemberships := List.zipWith Membership.mk modes sigils }
  | _ => fail (.malformedIsupport "PREFIX" s)

def parseCaseMapping : String → Option CaseMapping
  | "ascii" => some .ascii
  | "rfc1459" => some .rfc1459
  | "rfc1459-strict" => some .rfc1459Strict
  | _ => none

/-- A name with a vendor part keeps that part in lower case. -/
def isupportName (parameter : String) : String :=
  match cut '/' parameter with
  | some (vendor,key) => lower env vendor ++ "/" ++ upper env key
  | none => upper env parameter

/-- A token `NAME`, `NAME=value` or `-NAME`. -/
structure IsupportToken where
  parameter : String
  value : Option String
  negate : Bool
deriving Repr, DecidableEq

def parseIsupportToken (token : String) : IsupportToken :=
  match cutFirst '-' token with
  | (name,true) => ⟨isupportName env name,none,true⟩
  | (_,false) =>
    match cut '=' token with
    | some (name,value) =>
      ⟨isupportName env name,some (String.ofList (decodeIsupportValue value.toList)),false⟩
    | none => ⟨isupportName env token,none,false⟩

def Conn.setIsupport (uc : Conn) (tok : IsupportToken) : Conn :=
  let rest := uc.isupport.filter fun kv => kv.1 != tok.parameter
  { uc with isupport := if tok.negate then rest else (tok.parameter,tok.value) :: rest }

def handleIsupportToken (token : String) : Handler Unit := do
  let tok := parseIsupportToken env token
  let value := tok.value.getD ""
  modify fun uc => uc.setIsupport tok
  match tok.parameter with
  | "CASEMAPPING" => modify fun uc => uc.updateCasemapping ((parseCaseMapping value).getD .rfc1459)
  | "CHANMODES" =>
    if tok.negate then modify fun uc => { uc with availableChannelModes := stdChannelModes }
    else handleChanModes value
  | "CHANTYPES" => modify fun uc => { uc with
      availableChannelTypes := if tok.negate then stdChannelTypes else value }
  | "STATUSMSG" => modify fun uc => { uc with
      availableStatusMsg := if tok.negate then "" else value }
  | "PREFIX" =>
    if tok.negate then modify fun uc => { uc with availableMemberships := stdMemberships }
    else handleMemberships value
  | _ => pure ()

/-- The last parameter is the text for humans. -/
def handleIsupport (msg : Message) : Handler Unit := do
  needParams msg 2
  (msg.params.drop 1).dropLast.forM (handleIsupportToken env)
  modify Conn.updateMonitor

def startRegainNickTimer : Handler Unit := do
  let uc ← get
  panicIf (uc.regainNickBackoff ∨ uc.regainNickTimer) .startRegainNickTimer
  modify fun uc =>
    if uc.isOurNick uc.wantNick.1 then uc
    else { uc with regainNickBackoff := true, regainNickTimer := true }

/-- Without a `CASEMAPPING` token the server is taken to use the old one. -/
def Conn.afterMotd (uc : Conn) : Conn :=
  let cased :=
    match uc.isupport.lookup "CASEMAPPING" with
    | some (some _) => uc
    | _ => uc.updateCasemapping .rfc1459
  { cased with gotMotd := true }

/-- The end of the first message of the day ends the burst a connection starts with. -/
def handleEndOfMotd : Handler Unit := do
  let uc ← get
  if uc.gotMotd then pure ()
  else
    modify Conn.afterMotd
    if uc.isupport.any fun kv => kv.1 == "MONITOR" then pure () else startRegainNickTimer

end Registration

end Sake.Upstream
