import Sake.Handlers.Replies

namespace Sake.Upstream
open Strings Highlight

/-- What a command or numeric is to the handler. -/
inductive Kind where
  | text | cap | authenticate | loggedIn | loggedOut | visibleHost | saslEnd | register
  | welcome | myInfo | isupport | endOfMotd | batch | nick | setname | chghost | join | part
  | kick | quit | topicReply | topic | mode | umodeIs | channelModeIs | creationTime
  | topicWhoTime | list | listEnd | namReply | endOfNames | whoReply | whoxReply | endOfWho
  | whois | endOfWhois | invite | inviting | monitor | monListFull | away | account
  | noSuchNick | commandError | fail | error | nickInUse | registrationError
  | other
deriving Repr, DecidableEq

/-- Of the commands that are `other`, some are answered and some are passed on to the
clients. -/
def kindOf : String → Kind
  | "NOTICE" | "PRIVMSG" | "TAGMSG" | "REDACT" => .text
  | "CAP" => .cap
  | "AUTHENTICATE" => .authenticate
  | "900" => .loggedIn
  | "901" => .loggedOut
  | "396" => .visibleHost
  | "902" | "903" | "904" | "905" | "906" => .saslEnd
  | "REGISTER" | "VERIFY" => .register
  | "001" => .welcome
  | "004" => .myInfo
  | "005" => .isupport
  | "376" | "422" => .endOfMotd
  | "BATCH" => .batch
  | "NICK" => .nick
  | "SETNAME" => .setname
  | "CHGHOST" => .chghost
  | "JOIN" => .join
  | "PART" => .part
  | "KICK" => .kick
  | "QUIT" => .quit
  | "331" | "332" => .topicReply
  | "TOPIC" => .topic
  | "MODE" => .mode
  | "221" => .umodeIs
  | "324" => .channelModeIs
  | "329" => .creationTime
  | "333" => .topicWhoTime
  | "321" | "322" => .list
  | "323" => .listEnd
  | "353" => .namReply
  | "366" => .endOfNames
  | "352" => .whoReply
  | "354" => .whoxReply
  | "315" => .endOfWho
  | "276" | "307" | "311" | "312" | "319" | "313" | "317" | "320" | "330" | "338" | "378" | "379"
  | "671" => .whois
  | "318" => .endOfWhois
  | "INVITE" => .invite
  | "341" => .inviting
  | "730" | "731" => .monitor
  | "734" => .monListFull
  | "AWAY" => .away
  | "ACCOUNT" => .account
  | "401" | "402" => .noSuchNick
  | "400" | "421" | "461" | "263" => .commandError
  | "FAIL" => .fail
  | "ERROR" => .error
  | "433" => .nickInUse
  | "464" | "432" | "436" | "437" | "463" | "465" => .registrationError
  | _ => .other

section Dispatch
variable (env : Env)

def handleKind (msg : Message) (p : Prefix) (label : String) : Kind → Handler Unit
  | .text => handleText env msg
  | .cap => handleCap env msg
  | .authenticate => handleAuthenticate env msg
  | .loggedIn => handleLoggedIn env msg
  | .loggedOut => handleLoggedOut env msg
  | .visibleHost => handleVisibleHost msg
  | .saslEnd => handleSASLEnd msg
  | .register => handleRegister msg
  | .welcome => handleWelcome msg
  | .myInfo => handleMyInfo msg
  | .isupport => handleIsupport env msg
  | .endOfMotd => handleEndOfMotd
  | .batch => handleBatch msg label
  | .nick => handleNick msg p
  | .setname => handleSetname msg p
  | .chghost => handleChghost msg p
  | .join => handleJoin msg p
  | .part => handlePart msg p
  | .kick => handleKick msg
  | .quit => handleQuit p
  | .topicReply => handleTopicReply msg
  | .topic => handleTopic msg p
  | .mode => handleMode msg
  | .umodeIs => handleUmodeIs msg
  | .channelModeIs => handleChannelModeIs msg
  | .creationTime => handleCreationTime msg
  | .topicWhoTime => handleTopicWhoTime env msg
  | .list => expectPending "LIST" msg.command
  | .listEnd => expectDequeued "LIST" msg.command
  | .namReply => handleNamReply msg
  | .endOfNames => handleEndOfNames msg
  | .whoReply => handleWhoReply msg
  | .whoxReply => handleWhoxReply env msg
  | .endOfWho => discard (dequeueCommand "WHO")
  | .whois => expectPending "WHOIS" msg.command
  | .endOfWhois => expectDequeued "WHOIS" msg.command
  | .invite => needParams msg 2
  | .inviting => needParams msg 3
  | .monitor => handleMonitor env msg
  | .monListFull => needParams msg 3
  | .away => handleAway msg p
  | .account => handleAccount msg p
  | .noSuchNick => handleNoSuchNick msg
  | .commandError => handleCommandError msg
  | .fail => handleFail msg
  | .error => handleError msg
  | .nickInUse => handleNickInUse msg
  | .registrationError => handleRegistrationError msg
  | .other => pure ()

/-- The label of a message in a batch is that of the batch, unless it has its own. -/
def Conn.messageLabel (uc : Conn) (msg : Message) : Except HandleError String :=
  let label := (msg.tags.get "label").getD ""
  match msg.tags.get "batch" with
  | none => .ok label
  | some name =>
    match uc.batches.lookup name with
    | none => .error (.undefinedBatch name)
    | some batchLabel => .ok (if label = "" then batchLabel else label)

def handleMessage (msg : Message) : Handler Unit := do
  let uc ← get
  match uc.messageLabel msg with
  | .error e => fail e
  | .ok label =>
    match parseLabel label with
    | .error e => fail e
    | .ok _ => handleKind env msg (uc.source msg) label (kindOf msg.command)

end Dispatch

/-- A connection right after `connectToUpstream` and `register`. Its maps start with the
standard mapping, whatever the network has from an earlier connection. -/
def Conn.start (casemap : CaseMapping) (wantNick : Nick)
    (savedChannels : CaseMappingMap Delivery.Channel) (saslMechanism : String)
    (username realname : String) : Conn where
  casemap := casemap
  connected := false
  wantNick := wantNick
  savedChannels := savedChannels
  saslMechanism := saslMechanism
  downstreams := []
  dcMonitored := []
  serverPrefix := ⟨"*","",""⟩
  serverName := ""
  availableUserModes := ""
  availableChannelModes := stdChannelModes
  availableChannelTypes := stdChannelTypes
  availableStatusMsg := ""
  availableMemberships := stdMemberships
  isupport := []
  registered := false
  nick := wantNick.1
  username := username
  realname := realname
  hostname := ""
  modes := []
  channels := .new .rfc1459
  users := .new .rfc1459
  capsAvailable := []
  capsEnabled := []
  batches := []
  account := ""
  monitored := .new .rfc1459
  saslClient := false
  saslStarted := false
  pendingCmds := fun _ => []
  pendingRegainNick := ""
  regainNickTimer := false
  regainNickBackoff := false
  gotMotd := false
  hasDesiredNick := true

/-- A timer event that may come late. -/
def Conn.tryRegainNick (uc : Conn) (nick : String) : Conn :=
  if uc.regainNickTimer = false then uc
  else if uc.wantNick.1 ≠ nick ∨ uc.isOurNick uc.wantNick.1 then uc.stopRegainNickTimer
  else if uc.pendingRegainNick ≠ "" then uc
  else { uc with pendingRegainNick := uc.wantNick.1 }

/-- A connection and how it ended: by a panic, or closed after an error. -/
structure Served where
  conn : Conn
  panicked : Option Panic
  closed : Bool

inductive Action where
  | receive (msg : Message)
  | connected
  | tryRegainNick (nick : String)
  | monitor (targets : List String)
  | settings (wantNick : Nick) (savedChannels : CaseMappingMap Delivery.Channel)
      (saslMechanism : String)
  | clients (downstreams : List Nat) (pendingCmds : String → List PendingCommand)

/-- An error before registration ends the connection; later ones are only logged. -/
def receive (env : Env) (s : Served) (msg : Message) : Served :=
  match handleMessage env msg s.conn with
  | .ok _ conn => { s with conn }
  | .error (.error _) conn => { s with conn, closed := !s.conn.registered }
  | .error (.panic what) conn => { s with conn, panicked := some what }

/-- Messages of the server, and what else happens to the connection in between: timers,
clients that come, go and send commands, and changes of the user's settings. -/
def step (env : Env) (s : Served) (a : Action) : Option Served :=
  if s.panicked.isSome ∨ s.closed then none
  else match a with
    | .receive msg => some (receive env s msg)
    | .connected => some { s with conn := { s.conn with connected := true }.updateMonitor }
    | .tryRegainNick nick => some { s with conn := s.conn.tryRegainNick nick }
    | .monitor targets => some { s with conn := { s.conn with dcMonitored := targets }.updateMonitor }
    | .settings wantNick savedChannels saslMechanism =>
      some { s with conn := { s.conn with wantNick, savedChannels, saslMechanism } }
    | .clients downstreams pendingCmds => some { s with conn := { s.conn with downstreams, pendingCmds } }

end Sake.Upstream
