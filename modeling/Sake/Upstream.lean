import Sake.Live
import Sake.Strings

namespace Sake.Upstream
open Strings Highlight

/-- The panics the handler of server messages raises itself. -/
inductive Panic where
  | cacheUserInfo
  | isHighlight
  | startRegainNickTimer
deriving Repr, DecidableEq

/-- The errors the handler returns. -/
inductive HandleError where
  | needMoreParams (command : String)
  | undefinedBatch (name : String)
  | invalidLabel (label : String)
  | batchDefined (tag : String)
  | unknownBatch (tag : String)
  | batchSign (tag : String)
  | unexpectedAuthenticate
  | invalidChallenge
  | unsupportedMechanism (name : String)
  | malformedIsupport (parameter value : String)
  | unknownChannel (name : String)
  | unknownModeNick (name : String)
  | malformedModes (modes : String)
  | channelStatus (status : String)
  | topicTime
  | unexpectedReply (command : String)
  | unexpectedEndOfNames
  | malformedWhoReply
  | malformedWhoxReply
  | registration (msg : Message)
  | fatal (text : String)
deriving Repr, DecidableEq

inductive Fault where
  | panic (what : Panic)
  | error (what : HandleError)
deriving Repr, DecidableEq

structure User where
  nickname : String := ""
  username : String := ""
  hostname : String := ""
  server : String := ""
  flags : String := ""
  account : String := ""
  realname : String := ""
deriving Repr, DecidableEq

/-- Fields the update leaves empty stay as they are. -/
def User.updateFrom (uu update : User) : User :=
  let pick (new old : String) := if new ≠ "" then new else old
  { nickname := pick update.nickname uu.nickname
    username := pick update.username uu.username
    hostname := pick update.hostname uu.hostname
    server := pick update.server uu.server
    flags := pick update.flags uu.flags
    account := pick update.account uu.account
    realname := pick update.realname uu.realname }

/-- A rank in a channel: its mode letter and the character shown before the nick. -/
structure Membership where
  mode : Char
  sigil : Char
deriving Repr, DecidableEq

/-- Sorted by descending rank. -/
abbrev MembershipSet := List Membership

/-- The place of a new rank, or `none` if the set has it. -/
def MembershipSet.position (new : Membership) : List Membership → MembershipSet → Option Nat
  | [], _ => some 0
  | _, [] => some 0
  | avail :: availables, m :: ms =>
    if m = avail then
      if avail = new then none
      else (position new availables ms).map (· + 1)
    else if avail = new then some 0
    else position new availables (m :: ms)

def MembershipSet.add (available : List Membership) (ms : MembershipSet) (new : Membership) :
    MembershipSet :=
  match position new available ms with
  | none => ms
  | some i => ms.take i ++ new :: ms.drop i

def MembershipSet.remove (ms : MembershipSet) (m : Membership) : MembershipSet := ms.erase m

/-- The four kinds of channel modes a server announces. -/
inductive ModeType where
  | a
  | b
  | c
  | d
deriving Repr, DecidableEq

structure Channel where
  name : String
  topic : String := ""
  topicWho : Option Prefix := none
  status : Option Char := none
  modes : Option (List (Char × String)) := none
  creationTime : String := ""
  members : CasedMap MembershipSet
  complete : Bool := false
deriving Repr, DecidableEq

/-- A command that waits for its reply. -/
structure PendingCommand where
  downstreamID : Nat
  msg : Message
deriving Repr, DecidableEq

/-- An upstream connection. The first fields belong to the network and its user:
`connected` says whether this is the connection of the network, `downstreams` and
`dcMonitored` are the clients and what they monitor. -/
structure Conn where
  casemap : CaseMapping
  connected : Bool
  wantNick : Nick
  savedChannels : CaseMappingMap Delivery.Channel
  saslMechanism : String
  downstreams : List Nat
  dcMonitored : List String
  serverPrefix : Prefix
  serverName : String
  availableUserModes : String
  availableChannelModes : List (Char × ModeType)
  availableChannelTypes : String
  availableStatusMsg : String
  availableMemberships : List Membership
  isupport : List (String × Option String)
  registered : Bool
  nick : String
  username : String
  realname : String
  hostname : String
  modes : List Char
  channels : CasedMap Channel
  users : CasedMap User
  capsAvailable : List (String × String)
  capsEnabled : List String
  batches : List (String × String)
  account : String
  monitored : CasedMap Bool
  saslClient : Bool
  saslStarted : Bool
  pendingCmds : String → List PendingCommand
  pendingRegainNick : String
  regainNickTimer : Bool
  regainNickBackoff : Bool
  gotMotd : Bool
  hasDesiredNick : Bool

/-- Code the handler calls that is not part of the program: the `unicode` tables, the
parser of message sources, base64 and the SASL mechanisms. -/
structure Env where
  unicode : Unicode
  parsePrefix : String → Prefix
  validBase64 : String → Bool
  saslAccepts : (started : Bool) → (challenge : String) → Bool

/-- What is written to the server, to clients, to the log and to the database is left
out; what was changed before an error stays changed. -/
abbrev Handler := EStateM Fault Conn

def fail {α : Type} (e : HandleError) : Handler α := throw (.error e)

def failIf (c : Prop) [Decidable c] (e : HandleError) : Handler Unit :=
  if c then fail e else pure ()

def panicIf (c : Prop) [Decidable c] (what : Panic) : Handler Unit :=
  if c then throw (.panic what) else pure ()

namespace Conn

def equalCasemap (uc : Conn) (a b : String) : Bool := uc.casemap.apply a == uc.casemap.apply b

def isOurNick (uc : Conn) (nick : String) : Bool := uc.equalCasemap uc.nick nick

def isChannel (uc : Conn) (entity : String) : Bool :=
  match entity.toList with
  | [] => false
  | c :: _ => uc.availableChannelTypes.toList.contains c

/-- Keep what is known about a user only while we monitor them or share a channel. -/
def shouldCacheUserInfo (uc : Conn) (nick : String) : Bool :=
  uc.isOurNick nick || uc.monitored.has nick ||
    uc.channels.map.entries.any fun e => e.2.members.has nick

def forgetUser (uc : Conn) (nick : String) : Conn :=
  if uc.shouldCacheUserInfo nick then uc else { uc with users := uc.users.del nick }

def setChannel (uc : Conn) (ch : Channel) (name : String) : Conn :=
  { uc with channels := uc.channels.set name ch }

def mapChannels (uc : Conn) (f : Channel → Channel) : Conn :=
  { uc with channels := uc.channels.mapValues f }

def addressing (uc : Conn) : Live.Addressing where
  casemap := uc.casemap
  nick := uc.nick
  registered := uc.registered
  serverPrefix := uc.serverPrefix
  availableStatusMsg := uc.availableStatusMsg
  context channel sender :=
    match uc.channels.get channel with
    | some ch => if ch.members.has sender then some ch.name else none
    | none => none

def source (uc : Conn) (msg : Message) : Prefix := uc.addressing.source msg

/-- Only the maps of the connection the network is on follow the network's mapping. -/
def updateCasemapping (uc : Conn) (cm : CaseMapping) : Conn :=
  let savedChannels := uc.savedChannels.setCaseMapping cm
  if uc.connected then
    { uc with
      casemap := cm
      savedChannels
      channels := (uc.channels.setCaseMapping cm).mapValues fun ch =>
        { ch with members := ch.members.setCaseMapping cm }
      users := uc.users.setCaseMapping cm
      monitored := uc.monitored.setCaseMapping cm }
  else { uc with casemap := cm, savedChannels }

def unmonitor (uc : Conn) (target : String) : Conn :=
  { uc with monitored := uc.monitored.del target }.forgetUser target

/-- The monitored nicks no client asks for any more are dropped. The ones clients newly ask
for are added when the server answers. -/
def updateMonitor (uc : Conn) : Conn :=
  let seen (nick : String) := uc.dcMonitored.any fun target =>
    uc.equalCasemap target nick && !uc.equalCasemap target Live.serviceNick &&
      uc.monitored.has (uc.casemap.apply target)
  if uc.isupport.any fun kv => kv.1 == "MONITOR" then
    (uc.monitored.names.filter fun nick => !seen nick).foldl unmonitor uc
  else uc

def stopRegainNickTimer (uc : Conn) : Conn :=
  { uc with regainNickTimer := false, regainNickBackoff := false }

end Conn

/-- `parseMessageParams` with that many outputs. -/
def needParams (msg : Message) (n : Nat) : Handler Unit :=
  failIf (msg.params.length < n) (.needMoreParams msg.command)

end Sake.Upstream
