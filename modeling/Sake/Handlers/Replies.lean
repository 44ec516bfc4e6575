import Sake.Handlers.Channels

namespace Sake.Upstream
open Strings Highlight

section Replies
variable (env : Env)

/-- A reply to a command that must be waiting; the client may be gone. -/
def expectPending (cmd command : String) : Handler Unit := do
  let uc ← get
  failIf (uc.currentPendingCommand cmd).2.isNone (.unexpectedReply command)

/-- The last reply to a command that must be waiting. -/
def expectDequeued (cmd command : String) : Handler Unit := do
  let (_,msg) ← dequeueCommand cmd
  failIf msg.isNone (.unexpectedReply command)

def Conn.stripMemberPrefixes (uc : Conn) (flags : String) : String :=
  String.ofList (flags.toList.filter fun c => !uc.availableMemberships.any fun m => m.sigil == c)

def cacheReply (info : User) : Handler Unit := do
  let uc ← get
  if uc.shouldCacheUserInfo info.nickname then
    cacheUserInfo info.nickname { info with flags := uc.stripMemberPrefixes info.flags }
  else pure ()

def handleWhoReply (msg : Message) : Handler Unit := do
  needParams msg 8
  match (← get).currentPendingCommand "WHO" with
  | (_,none) => fail (.unexpectedReply msg.command)
  | (none,some _) => pure ()
  | (some _,some _) =>
    match cut ' ' (msg.param 7) with
    | none => fail .malformedWhoReply
    | some (_,realname) =>
      cacheReply
        { nickname := msg.param 5
          username := msg.param 2
          hostname := msg.param 3
          server := msg.param 4
          flags := msg.param 6
          realname }

/-- The letters of the WHOX fields, in the order a reply has them. -/
def whoxFields : List Char := "tcuihsnfdlaor".toList

/-- The fields a `WHO` command asked for. -/
def parseWHOXOptions (options : String) : String :=
  match cut '%' options with
  | none => ""
  | some (_,rest) => lower env ((cut ',' rest).getD (rest,"")).1

def User.setWhox (uu : User) (field : Char) (value : String) : User :=
  match field with
  | 'u' => { uu with username := value }
  | 'h' => { uu with hostname := value }
  | 's' => { uu with server := value }
  | 'n' => { uu with nickname := value }
  | 'f' => { uu with flags := value }
  | 'a' => { uu with account := value }
  | 'r' => { uu with realname := value }
  | _ => uu

/-- Assigns the values of a reply to the fields that were asked for. -/
def parseWHOXValues : List Char → List String → User → Option User
  | [], _, uu => some uu
  | _ :: _, [], _ => none
  | field :: fields, value :: values, uu => parseWHOXValues fields values (uu.setWhox field value)

def parseWHOXReply (msg : Message) (fields : String) : Option User :=
  match msg.params with
  | [] => none
  | _ :: values => parseWHOXValues (whoxFields.filter fields.toList.contains) values {}

def handleWhoxReply (msg : Message) : Handler Unit := do
  match (← get).currentPendingCommand "WHO" with
  | (_,none) => fail (.unexpectedReply msg.command)
  | (none,some _) => pure ()
  | (some _,some cmd) =>
    if 1 < cmd.params.length then
      let fields := parseWHOXOptions env (cmd.param 1)
      if fields.toList.contains 'n' then
        match parseWHOXReply msg fields with
        | none => fail .malformedWhoxReply
        | some info => cacheReply info
      else pure ()
    else pure ()

/-- `RPL_MONONLINE` and `RPL_MONOFFLINE`. -/
def handleMonitor (msg : Message) : Handler Unit := do
  needParams msg 2
  modify fun uc => { uc with
    monitored := (split ',' (msg.param 1)).foldl
      (fun m target => m.set (env.parsePrefix target).name (msg.command == "730")) uc.monitored }

def handleAway (msg : Message) (p : Prefix) : Handler Unit := do
  match (← get).users.get p.name with
  | none => pure ()
  | some uu =>
    if uu.flags ≠ "" then
      let mark (c : Char) :=
        if msg.params.isEmpty then (if c = 'G' then 'H' else c) else (if c = 'H' then 'G' else c)
      cacheUserInfo p.name { flags := mapChars mark uu.flags }
    else pure ()

def handleAccount (msg : Message) (p : Prefix) : Handler Unit := do
  needParams msg 1
  cacheUserInfo p.name { account := msg.param 0 }

/-- `ERR_NOSUCHNICK` and `ERR_NOSUCHSERVER`, which may be the answer to a `WHOIS`. -/
def handleNoSuchNick (msg : Message) : Handler Unit := do
  needParams msg 3
  let uc ← get
  match (uc.currentPendingCommand "WHOIS").2 with
  | none => pure ()
  | some cmd =>
    if uc.equalCasemap (cmd.params.getLastD "") (msg.param 1) then discard (dequeueCommand "WHOIS")
    else pure ()

/-- Errors that name the command they are about. -/
def handleCommandError (msg : Message) : Handler Unit := do
  needParams msg 3
  discard (dequeueCommand (msg.param 1))
  modify fun uc =>
    if msg.param 1 = "AUTHENTICATE" then { uc with saslClient := false, saslStarted := false } else uc

def handleFail (msg : Message) : Handler Unit := do
  needParams msg 2
  let uc ← get
  failIf (uc.registered = false ∧ msg.param 0 = "*" ∧ msg.param 1 = "ACCOUNT_REQUIRED")
    (.registration msg)
  discard (dequeueCommand (msg.param 0))

def handleRegistrationError (msg : Message) : Handler Unit := do
  let uc ← get
  failIf (uc.registered = false) (.registration msg)

def handleNickInUse (msg : Message) : Handler Unit := do
  let uc ← get
  if uc.registered = false ∧ uc.nick.utf8ByteSize + 1 < 30 then
    modify fun uc => { uc with nick := uc.nick ++ "_", hasDesiredNick := false }
  else
    needParams msg 2
    if uc.equalCasemap uc.pendingRegainNick (msg.param 1) then
      modify fun uc => { uc with pendingRegainNick := "" }
    else handleRegistrationError msg

def handleError (msg : Message) : Handler Unit := do
  needParams msg 1
  fail (.fatal (msg.param 0))

end Replies

end Sake.Upstream
