import Sake.CaseMapping
import Sake.Database
import Sake.Highlight
import Sake.MsgStore
import Sake.Time

namespace Sake
namespace ZncLog
open MsgStore Strings

section
variable (u : Unicode)

/-- `strings.Trim` with a single character. -/
def trim (c : Char) (s : List Char) : List Char :=
  (((s.dropWhile (· == c)).reverse).dropWhile (· == c)).reverse

/-- The command and the parameters of a CTCP message. -/
def parseCTCPMessage (msg : Message) : Option (String × String) :=
  match msg.params with
  | _ :: text :: _ =>
    if msg.isText && text.toList.head? == some '\x01' then
      let text := trim '\x01' text.toList
      match Highlight.cut [' '] text with
      | none => some (mapChars u.toUpper (String.ofList text),"")
      | some (cmd,params) => some (mapChars u.toUpper (String.ofList cmd),String.ofList params)
    else none
  | _ => none

/-- What a CTCP `ACTION` says. -/
def actionText (msg : Message) : Option String :=
  match parseCTCPMessage u msg with
  | some (cmd,params) => if cmd = "ACTION" then some params else none
  | none => none

def nilPrefix : Failure := .panic "invalid memory address or nil pointer dereference"
def outOfRange : Failure := .panic "index out of range"

/-- A parameter that has to be there. -/
def mustParam (msg : Message) (i : Nat) : Except Failure String :=
  match msg.params[i]? with
  | some p => .ok p
  | none => .error outOfRange

def mustPrefix (msg : Message) : Except Failure Prefix :=
  match msg.msgPrefix with
  | some p => .ok p
  | none => .error nilPrefix

/-- The log line of a message without its time, empty for what is not logged. -/
def formatMessage (msg : Message) : Except Failure String :=
  match mapChars u.toUpper msg.command with
  | "NICK" => do
    let p ← mustPrefix msg
    return "*** " ++ p.name ++ " is now known as " ++ (← mustParam msg 0)
  | "JOIN" => do
    let p ← mustPrefix msg
    return "*** Joins: " ++ p.name ++ " (" ++ p.user ++ "@" ++ p.host ++ ")"
  | "PART" => do
    let p ← mustPrefix msg
    return "*** Parts: " ++ p.name ++ " (" ++ p.user ++ "@" ++ p.host ++ ") (" ++ msg.param 1 ++ ")"
  | "KICK" => do
    let nick ← mustParam msg 1
    let p ← mustPrefix msg
    return "*** " ++ nick ++ " was kicked by " ++ p.name ++ " (" ++ msg.param 2 ++ ")"
  | "QUIT" => do
    let p ← mustPrefix msg
    return "*** Quits: " ++ p.name ++ " (" ++ p.user ++ "@" ++ p.host ++ ") (" ++ msg.param 0 ++ ")"
  | "TOPIC" => do
    let p ← mustPrefix msg
    return "*** " ++ p.name ++ " changes topic to '" ++ msg.param 1 ++ "'"
  | "MODE" => do
    let p ← mustPrefix msg
    let _ ← mustParam msg 0
    return "*** " ++ p.name ++ " sets mode: " ++ " ".intercalate (msg.params.drop 1)
  | "NOTICE" => do
    let p ← mustPrefix msg
    return "-" ++ p.name ++ "- " ++ (← mustParam msg 1)
  | "PRIVMSG" => do
    let p ← mustPrefix msg
    match actionText u msg with
    | some params => return "* " ++ p.name ++ " " ++ params
    | none => return "<" ++ p.name ++ "> " ++ (← mustParam msg 1)
  | _ => .ok ""

/-- The clock reading in front of a log line. -/
def timestamp (z : Time.Zone) (t : Int) : String :=
  "[" ++ Time.padInt 2 (Time.hourOf z t) ++ ":" ++ Time.padInt 2 (Time.minuteOf z t) ++ ":" ++
    Time.padInt 2 (Time.secondOf z t) ++ "] "

def marshalLine (z : Time.Zone) (msg : Message) (t : Int) : Except Failure String := do
  let s ← formatMessage u msg
  if s = "" then return "" else return timestamp z t ++ s

def signLen : List Char → Nat
  | '-' :: _ => 1
  | '+' :: _ => 1
  | _ => 0

/-- `%02d` of `fmt.Sscanf`: spaces are skipped, then at most two characters are read. -/
def scanInt (cs : List Char) : Option (Int × List Char) :=
  let cs := cs.dropWhile u.isSpace
  let ds := ((cs.take 2).drop (signLen cs)).takeWhile Char.isDigit
  (decimal ds).map fun n : Nat =>
    (if cs.head? = some '-' then -(n : Int) else n,cs.drop (signLen cs + ds.length))

/-- `fmt.Sscanf` with `"[%02d:%02d:%02d] "`. The blank stands for at least one space,
unless the input ends. -/
def scanTimestamp (line : List Char) : Option (Int × Int × Int) := do
  let (hour,cs) ← scanInt u (← Time.literal '[' line)
  let (minute,cs) ← scanInt u (← Time.literal ':' cs)
  let (sec,cs) ← scanInt u (← Time.literal ':' cs)
  let cs ← Time.literal ']' cs
  if cs.head?.all u.isSpace then some (hour,minute,sec) else none

/-- The bytes of a text. -/
def byteLen (cs : List Char) : Nat := (cs.map Char.utf8Size).sum

/-- The text without its first `n` bytes. A character that is cut goes as a whole. -/
def dropBytes : Nat → List Char → List Char
  | _, [] => []
  | 0, cs => cs
  | n + 1, c :: cs => dropBytes (n + 1 - c.utf8Size) cs

def timestampPrefixLen : Nat := "[01:02:03] ".utf8ByteSize

def trimPrefix (p s : List Char) : List Char := if p.isPrefixOf s then s.drop p.length else s

def trimSuffix (p s : List Char) : List Char := (trimPrefix p.reverse s.reverse).reverse

/-- A text in brackets, or without them. -/
def unwrap (l r : Char) (s : String) : String :=
  String.ofList (trimSuffix [r] (trimPrefix [l] s.toList))

/-- What a log line says: the command, the source and the parameters. -/
abbrev Parsed := String × Prefix × List String

def nickOnly (name : String) : Prefix := ⟨name,"",""⟩

/-- The parameters with a reason behind them, unless it is empty. -/
def withReason (params : List String) (reason : String) : List String :=
  if reason ≠ "" then params ++ [reason] else params

/-- `Joins:`, `Parts:` and `Quits:`, with a nick and its mask behind them. -/
def unmarshalMembership (entity kind rest : String) : Option Parsed :=
  match splitN ' ' 3 rest with
  | nick :: mask :: args =>
    match cut '@' (unwrap '(' ')' mask) with
    | none => none
    | some (user,host) =>
      let reason := match args with
        | r :: _ => unwrap '(' ')' r
        | [] => ""
      let p : Prefix := ⟨nick,user,host⟩
      if kind = "Joins:" then some ("JOIN",p,[entity])
      else if kind = "Parts:" then some ("PART",p,withReason [entity] reason)
      else some ("QUIT",p,withReason [] reason)
  | _ => none

/-- The text behind `pat`, if it stands in front. -/
def after (pat s : String) : Option String :=
  if pat.toList.isPrefixOf s.toList then some (String.ofList (s.toList.drop pat.length)) else none

/-- The other events begin with a nick. -/
def unmarshalNickEvent (entity nick rem : String) : Option Parsed :=
  match after "is now known as " rem with
  | some r => some ("NICK",nickOnly nick,[r])
  | none =>
  match after "was kicked by " rem with
  | some r =>
    match cut ' ' r with
    | none => none
    | some (kicker,reason) => some ("KICK",nickOnly kicker,withReason [entity,nick] (unwrap '(' ')' reason))
  | none =>
  match after "changes topic to " rem with
  | some r => some ("TOPIC",nickOnly nick,[entity,unwrap '\'' '\'' r])
  | none =>
  match after "sets mode: " rem with
  | some r => some ("MODE",nickOnly nick,entity :: split ' ' r)
  | none => none

def unmarshalEvent (entity line : String) : Option Parsed :=
  match cut ' ' line with
  | none => none
  | some (kind,rest) =>
    if kind = "Joins:" ∨ kind = "Parts:" ∨ kind = "Quits:" then
      unmarshalMembership entity kind rest
    else unmarshalNickEvent entity kind rest

/-- The command, the sender and the text of a `PRIVMSG` or `NOTICE`. -/
def unmarshalText (line : List Char) : Option (String × String × String) :=
  match line with
  | '<' :: rest =>
    (Highlight.cut ['>',' '] rest).map fun (sender,text) =>
      ("PRIVMSG",String.ofList sender,String.ofList text)
  | '-' :: rest =>
    (Highlight.cut ['-',' '] rest).map fun (sender,text) =>
      ("NOTICE",String.ofList sender,String.ofList text)
  | '*' :: ' ' :: rest =>
    (Highlight.cut [' '] rest).map fun (sender,text) =>
      ("PRIVMSG",String.ofList sender,"\x01ACTION " ++ String.ofList text ++ "\x01")
  | _ => none

/-- A line without its timestamp. A message the peer sent carries our nick, which the log
does not have. -/
def unmarshalBody (user : Database.User) (network : Database.Network) (entity : String)
    (events : Bool) (line : List Char) : Option Parsed :=
  if events && "*** ".toList.isPrefixOf line then
    unmarshalEvent entity (String.ofList (line.drop 4))
  else
    (unmarshalText line).map fun (cmd,sender,text) =>
      (cmd,nickOnly sender,
        [if entity = sender then Database.getNick user network else entity,text])

/-- Lines that hold no message of the kinds asked for give none. -/
def unmarshalLine (z : Time.Zone) (line : String) (user : Database.User)
    (network : Database.Network) (entity : String) (ref : Int) (events : Bool) :
    Except Failure (Option (Message × Int)) :=
  match scanTimestamp u line.toList with
  | none => .error (.error "malformed timestamp prefix")
  | some (hour,minute,sec) =>
    if byteLen line.toList < timestampPrefixLen then
      .error (.error "malformed timestamp prefix: too short")
    else
      match unmarshalBody user network entity events (dropBytes timestampPrefixLen line.toList) with
      | none => .ok none
      | some (command,p,params) =>
        let t := Time.date z (Time.dateOf z ref) hour minute sec 0
        .ok (some (⟨[("time",Time.formatServerTime t)],some p,command,params⟩,t))

/-- A message with a text, from a sender whose nick has no blanks. -/
structure Plain (msg : Message) (sender text : String) : Prop where
  isText : msg.command = "PRIVMSG" ∨ msg.command = "NOTICE"
  hasPrefix : ∃ p, msg.msgPrefix = some p ∧ p.name = sender
  hasText : msg.params[1]? = some text
  noBlank : ' ' ∉ sender.toList

/-- Where a text is logged: with the peer, for a message to us, or under a name, that of
the channel or of the peer we sent it to. -/
inductive Buffer where
  | direct
  | named (name : String)
deriving Repr, DecidableEq

def Buffer.name (sender : String) : Buffer → String
  | .direct => sender
  | .named name => name

/-- The buffer the upstream connection chooses. `context` is the channel named in the tag
`+draft/channel-context`, if it counts. -/
def bufferOf (cm : CaseMapping) (nick : String) (context : Option String) (target : String) : Buffer :=
  match context with
  | some channel => .named channel
  | none => if cm.apply nick = cm.apply target then .direct else .named target

/-- The text as the log gives it back. -/
def normalText (msg : Message) : String :=
  match actionText u msg with
  | some params =>
    if msg.command = "PRIVMSG" then "\x01ACTION " ++ params ++ "\x01" else msg.param 1
  | none => msg.param 1

/-- The target of a message that was sent to us, or to a channel or a peer, who are known
by their canonical names. -/
def TargetKept (cm : CaseMapping) (user : Database.User) (network : Database.Network)
    (target : String) : Buffer → Prop
  | .direct => target = Database.getNick user network
  | .named name => cm.apply target = cm.apply name

/-- The log gives a message of `sender` back: its command, its sender, its text, its time to
the second, and the target it had. -/
def Restored (z : Time.Zone) (cm : CaseMapping) (user : Database.User) (network : Database.Network)
    (sender : String) (buffer : Buffer) (msg : Message) (t : Int) (events : Bool) : Prop :=
  ∃ line restored, marshalLine u z msg t = .ok line ∧
    unmarshalLine u z line user network (cm.apply (buffer.name sender)) t events =
      .ok (some (restored,t - t % Time.second)) ∧
    restored.command = msg.command ∧ restored.msgPrefix = some (nickOnly sender) ∧
    restored.param 1 = normalText u msg ∧ TargetKept cm user network (restored.param 0) buffer

/-- The clock reads the second of `t` only once, as far as `time.Date` is concerned. -/
def ClockKept (z : Time.Zone) (t : Int) : Prop :=
  z.resolve (z.wall t - t % Time.second) = t - t % Time.second

/-- The sender's nick tells direct messages from others: written canonically where they
are, and unlike the buffer's name where they are not. -/
def SenderTells (cm : CaseMapping) (user : Database.User) (network : Database.Network)
    (sender : String) : Buffer → Prop
  | .direct => cm.apply sender = sender ∨ cm.apply sender = Database.getNick user network
  | .named name => cm.apply name ≠ sender ∨
      cm.apply (Database.getNick user network) = cm.apply name

end

end ZncLog
end Sake
