import Sake.Handlers.Registration

namespace Sake.Upstream
open Strings Highlight

section Users

def handleBatch (msg : Message) (label : String) : Handler Unit := do
  needParams msg 1
  let uc ← get
  let tag := String.ofList (msg.param 0).toList.tail
  if startsWith '+' (msg.param 0) then
    failIf (uc.batches.lookup tag).isSome (.batchDefined tag)
    needParams msg 2
    modify fun uc => { uc with batches := (tag,label) :: uc.batches }
  else if startsWith '-' (msg.param 0) then
    failIf (uc.batches.lookup tag).isNone (.unknownBatch tag)
    modify fun uc => { uc with batches := uc.batches.filter fun b => b.1 != tag }
  else fail (.batchSign (msg.param 0))

/-- Our own nick changes. If it is the one we tried to get back, we stop trying. -/
def Conn.renamed (uc : Conn) (newNick : String) : Conn :=
  let regained := uc.equalCasemap uc.pendingRegainNick newNick
  { uc with
    nick := newNick
    pendingRegainNick := if regained then "" else uc.pendingRegainNick
    regainNickTimer := !regained && uc.regainNickTimer
    regainNickBackoff := !regained && uc.regainNickBackoff
    hasDesiredNick := uc.hasDesiredNick || uc.equalCasemap uc.wantNick.1 newNick }

def Channel.renameMember (ch : Channel) (nick newNick : String) : Channel :=
  match ch.members.get nick with
  | some ms => { ch with members := (ch.members.del nick).set newNick ms }
  | none => ch

def handleNick (msg : Message) (p : Prefix) : Handler Unit := do
  needParams msg 1
  let newNick := msg.param 0
  let me := (← get).isOurNick p.name
  modify fun uc => if me then uc.renamed newNick else uc
  modify fun uc => uc.mapChannels fun ch => ch.renameMember p.name newNick
  cacheUserInfo p.name { nickname := newNick }
  modify fun uc => if me then uc.updateMonitor else uc

def handleSetname (msg : Message) (p : Prefix) : Handler Unit := do
  needParams msg 1
  cacheUserInfo p.name { realname := msg.param 0 }
  modify fun uc => if uc.isOurNick p.name then { uc with realname := msg.param 0 } else uc

def handleChghost (msg : Message) (p : Prefix) : Handler Unit := do
  needParams msg 2
  modify fun uc =>
    if uc.isOurNick p.name then { uc with username := msg.param 0, hostname := msg.param 1 } else uc

/-- What a `JOIN` tells about its user. -/
def Conn.joinInfo (uc : Conn) (msg : Message) (p : Prefix) : User :=
  let flags :=
    if uc.capsEnabled.contains "away-notify" then
      "H" ++ (if (msg.tags.get "bot").isSome then ((uc.isupport.lookup "BOT").join).getD "" else "")
    else ""
  let extended := 2 < msg.params.length
  { username := p.user
    hostname := p.host
    flags
    account := if extended then msg.param 1 else ""
    realname := if extended then msg.param 2 else "" }

def handleJoin (msg : Message) (p : Prefix) : Handler Unit := do
  needParams msg 1
  let info := (← get).joinInfo msg p
  cacheUserInfo p.name info
  (split ',' (msg.param 0)).forM fun name => do
    if (← get).isOurNick p.name then
      modify fun uc => uc.setChannel { name, members := .new uc.casemap } name
    else
      let ch ← getChannel name
      modify fun uc => uc.setChannel { ch with members := ch.members.set p.name [] } name

/-- We are no longer in a channel. -/
def Conn.leftChannel (uc : Conn) (name : String) : Conn :=
  match uc.channels.get name with
  | none => uc
  | some ch =>
    ch.members.names.foldl Conn.forgetUser { uc with channels := uc.channels.del name }

/-- Somebody else is no longer in a channel. -/
def removeMember (name nick : String) : Handler Unit := do
  let ch ← getChannel name
  modify fun uc => (uc.setChannel { ch with members := ch.members.del nick } name).forgetUser nick

def handlePart (msg : Message) (p : Prefix) : Handler Unit := do
  needParams msg 1
  (split ',' (msg.param 0)).forM fun name => do
    if (← get).isOurNick p.name then modify fun uc => uc.leftChannel name
    else removeMember name p.name

def handleKick (msg : Message) : Handler Unit := do
  needParams msg 2
  if (← get).isOurNick (msg.param 1) then modify fun uc => uc.leftChannel (msg.param 0)
  else removeMember (msg.param 0) (msg.param 1)

def handleQuit (p : Prefix) : Handler Unit :=
  modify fun uc =>
    { uc.mapChannels fun ch => { ch with members := ch.members.del p.name } with
      users := uc.users.del p.name }

end Users

section Channels
variable (env : Env)

/-- A change to a channel we are in; replies about other channels are for the clients. -/
def changeChannel (name : String) (f : Channel → Channel) : Handler Unit :=
  modify fun uc =>
    match uc.channels.get name with
    | some ch => uc.setChannel (f ch) name
    | none => uc

/-- `RPL_TOPIC` and `RPL_NOTOPIC`. -/
def handleTopicReply (msg : Message) : Handler Unit := do
  needParams msg 3
  changeChannel (msg.param 1) fun ch =>
    { ch with topic := if msg.command = "332" then msg.param 2 else "" }

def handleTopic (msg : Message) (p : Prefix) : Handler Unit := do
  needParams msg 1
  let ch ← getChannel (msg.param 0)
  let ch :=
    if 1 < msg.params.length then { ch with topic := msg.param 1, topicWho := some p }
    else { ch with topic := "" }
  modify fun uc => uc.setChannel ch (msg.param 0)

def Channel.setMode (ch : Channel) (mode : Char) (arg : String) : Channel :=
  { ch with modes := ch.modes.map fun ms => (mode,arg) :: ms.filter fun m => m.1 != mode }

def Channel.deleteMode (ch : Channel) (mode : Char) : Channel :=
  { ch with modes := ch.modes.map fun ms => ms.filter fun m => m.1 != mode }

def Channel.changeMember (ch : Channel) (member : String) (f : MembershipSet → MembershipSet) :
    Channel :=
  match ch.members.get member with
  | some ms => { ch with members := ch.members.set member (f ms) }
  | none => ch

/-- Reads a mode string letter by letter. `sign` is the last plus or minus. The changes
before a malformed place stay; the result says whether there is one. -/
def Conn.applyChannelModes (uc : Conn) :
    (sign : Option Bool) → List Char → List String → Channel → Channel × Bool
  | _, [], _, ch => (ch,true)
  | sign, mode :: rest, args, ch =>
    if mode = '+' then uc.applyChannelModes (some true) rest args ch
    else if mode = '-' then uc.applyChannelModes (some false) rest args ch
    else match sign with
      | none => (ch,false)
      | some plus =>
        match uc.availableMemberships.find? fun m => m.mode == mode with
        | some m =>
          match args with
          | [] => (ch,false)
          | member :: args =>
            uc.applyChannelModes sign rest args (ch.changeMember member fun ms =>
              if plus then ms.add uc.availableMemberships m else ms.remove m)
        | none =>
          match uc.availableChannelModes.lookup mode, plus with
          | none, _ => uc.applyChannelModes sign rest args ch
          | some .a, _ => uc.applyChannelModes sign rest args.tail ch
          | some .b, true => uc.applyChannelModes sign rest args.tail (ch.setMode mode (args.headD ""))
          | some .b, false => uc.applyChannelModes sign rest args.tail (ch.deleteMode mode)
          | some .c, true => uc.applyChannelModes sign rest args.tail (ch.setMode mode (args.headD ""))
          | some .d, true => uc.applyChannelModes sign rest args (ch.setMode mode "")
          | _, false => uc.applyChannelModes sign rest args (ch.deleteMode mode)

/-- The same for the modes of a user, which take no arguments. -/
def applyUserModes : (sign : Option Bool) → List Char → List Char → List Char × Bool
  | _, [], modes => (modes,true)
  | sign, c :: rest, modes =>
    if c = '+' then applyUserModes (some true) rest modes
    else if c = '-' then applyUserModes (some false) rest modes
    else match sign with
      | none => (modes,false)
      | some true =>
        applyUserModes sign rest (if modes.contains c then modes else modes ++ [c])
      | some false => applyUserModes sign rest (modes.erase c)

def changeUserModes (modes : List Char) (modeStr : String) : Handler Unit := do
  let (modes,wellFormed) := applyUserModes none modeStr.toList modes
  modify fun uc => { uc with modes }
  failIf (wellFormed = false) (.malformedModes modeStr)

def changeChannelModes (ch : Channel) (name modeStr : String) (args : List String) :
    Handler Unit := do
  let uc ← get
  let (ch,wellFormed) := uc.applyChannelModes none modeStr.toList args ch
  modify fun uc => uc.setChannel ch name
  failIf (wellFormed = false) (.malformedModes modeStr)

def handleMode (msg : Message) : Handler Unit := do
  needParams msg 2
  let uc ← get
  if uc.isChannel (msg.param 0) = false then
    failIf (msg.param 0 ≠ uc.nick) (.unknownModeNick (msg.param 0))
    changeUserModes uc.modes (msg.param 1)
  else
    let ch ← getChannel (msg.param 0)
    changeChannelModes ch (msg.param 0) (msg.param 1) (msg.params.drop 2)

def handleUmodeIs (msg : Message) : Handler Unit := do
  needParams msg 1
  changeUserModes [] (msg.param 1)

def handleChannelModeIs (msg : Message) : Handler Unit := do
  needParams msg 2
  match (← get).channels.get (msg.param 1) with
  | none => pure ()
  | some ch =>
    changeChannelModes { ch with modes := some [] } (msg.param 1) (msg.param 2) (msg.params.drop 3)

def handleCreationTime (msg : Message) : Handler Unit := do
  needParams msg 3
  changeChannel (msg.param 1) fun ch => { ch with creationTime := msg.param 2 }

def handleTopicWhoTime (msg : Message) : Handler Unit := do
  needParams msg 4
  match (← get).channels.get (msg.param 1) with
  | none => pure ()
  | some ch =>
    modify fun uc =>
      uc.setChannel { ch with topicWho := some (env.parsePrefix (msg.param 2)) } (msg.param 1)
    failIf (parseInt (msg.param 3)).isNone .topicTime

def Conn.parseMembershipPrefix (uc : Conn) (s : String) : MembershipSet × String :=
  let rec go : List Membership → List Char → MembershipSet × List Char
    | [], cs => ([],cs)
    | _, [] => ([],[])
    | m :: ms, c :: cs =>
      if c = m.sigil then
        let (set,rest) := go ms cs
        (m :: set,rest)
      else go ms (c :: cs)
  let (set,rest) := go uc.availableMemberships s.toList
  (set,String.ofList rest)

def parseChannelStatus (s : String) : Option Char :=
  match s.toList with
  | [c] => if c = '=' ∨ c = '@' ∨ c = '*' then some c else none
  | _ => none

def Channel.addMember (uc : Conn) (ch : Channel) (s : String) : Channel :=
  let (ms,nick) := uc.parseMembershipPrefix s
  { ch with members := ch.members.set nick ms }

def handleNamReply (msg : Message) : Handler Unit := do
  needParams msg 4
  let uc ← get
  match uc.channels.get (msg.param 2) with
  | none => pure ()
  | some ch =>
    match parseChannelStatus (msg.param 1) with
    | none => fail (.channelStatus (msg.param 1))
    | some status =>
      let ch := (fieldsFunc (· == ' ') (msg.param 3)).foldl (Channel.addMember uc)
        { ch with status := some status }
      modify fun uc => uc.setChannel ch (msg.param 2)

def handleEndOfNames (msg : Message) : Handler Unit := do
  needParams msg 2
  let uc ← get
  match uc.channels.get (msg.param 1) with
  | none => pure ()
  | some ch =>
    failIf ch.complete .unexpectedEndOfNames
    modify fun uc => uc.setChannel { ch with complete := true } (msg.param 1)

end Channels

end Sake.Upstream
