import Sake.Irc

namespace Sake.Pending

/-- Nanoseconds of the monotonic clock. -/
abbrev Time := Nat

def second : Time := 1000000000

/-- A command that waits for its reply. `sentAt` is `none` while the Go value is
the zero time. `serial` numbers the enqueued commands and stands for the identity
of `msg`, which the source holds by pointer. -/
structure Command where
  downstreamID : Nat
  downstreamLabel : String
  msg : Message
  sentAt : Option Time
  serial : Nat
deriving Repr, DecidableEq

/-- The part of an upstream connection that the command queues read and write.
`sent` lists what was handed to the connection, oldest first. -/
structure Conn where
  pendingCmds : String → List Command
  nextLabelID : Nat
  labeledResponse : Bool
  messageTags : Bool
  sent : List (Nat × Message)
  nextSerial : Nat
  now : Time

/-- The builtin `copy`: overwrites the front of `dst`, keeping its length. -/
def copy (dst src : List α) : List α :=
  src.take dst.length ++ dst.drop src.length

def setQueue (uc : Conn) (cmd : String) (q : List Command) : Conn :=
  { uc with pendingCmds := fun c => if c = cmd then q else uc.pendingCmds c }

def formatLabel (downstreamID labelID : Nat) (label : String) : String :=
  "sd-" ++ toString downstreamID ++ "-" ++ toString labelID ++ "-" ++ label

/-- The label carries the downstream connection and its own label. The message is
shared with the queue entry, so the tag stays on the entry as well. -/
def labeled (uc : Conn) (c : Command) : Message :=
  if uc.labeledResponse then
    let label := formatLabel c.downstreamID uc.nextLabelID c.downstreamLabel
    { c.msg with tags := c.msg.tags.set "label" label }
  else c.msg

/-- Tags are stripped when the server has not enabled `message-tags`. -/
def wire (uc : Conn) (msg : Message) : Message :=
  if uc.messageTags then msg else { msg with tags := [] }

def sendNextPendingCommand (uc : Conn) (cmd : String) : Conn :=
  match uc.pendingCmds cmd with
  | [] => uc
  | c :: rest =>
    let msg := labeled uc c
    { setQueue uc cmd ({ c with msg := msg, sentAt := some uc.now } :: rest) with
      nextLabelID := if uc.labeledResponse then uc.nextLabelID + 1 else uc.nextLabelID
      sent := uc.sent ++ [(c.serial,wire uc msg)] }

def supported (cmd : String) : Bool :=
  ["LIST","WHO","WHOIS","AUTHENTICATE","REGISTER","VERIFY"].contains cmd

/-- No reply for more than 30 seconds. Commands not sent yet never time out. -/
def expired (now : Time) (c : Command) : Bool :=
  match c.sentAt with
  | none => false
  | some t => 30 * second < now - t

/-- Length of the timed out front of a queue. -/
def timedOut (now : Time) : List Command → Nat
  | [] => 0
  | c :: rest => if expired now c then timedOut now rest + 1 else 0

/-- The timed out front is overwritten, but the slice is not shortened. -/
def dropTimedOut (now : Time) (q : List Command) : List Command :=
  let n := timedOut now q
  if 0 < n then copy q (q.drop n) else q

def newCommand (uc : Conn) (dcID : Nat) (label : String) (msg : Message) : Command :=
  ⟨dcID,label,msg,none,uc.nextSerial⟩

/-- The connection once a new command is in the queue `q` of `cmd`. -/
def pushed (uc : Conn) (cmd : String) (q : List Command) : Conn :=
  { setQueue uc cmd q with nextSerial := uc.nextSerial + 1 }

def enqueueCommand (uc : Conn) (dcID : Nat) (label : String) (msg : Message) : Option Conn :=
  if !supported msg.command then none else
  let q := dropTimedOut uc.now (uc.pendingCmds msg.command ++ [newCommand uc dcID label msg])
  let uc := pushed uc msg.command q
  some (if q.length = 1 then sendNextPendingCommand uc msg.command else uc)

def dequeueCommand (uc : Conn) (cmd : String) : Conn :=
  let q := uc.pendingCmds cmd
  let uc := if 0 < q.length then
      setQueue uc cmd ((copy q (q.drop 1)).take (q.length - 1))
    else uc
  sendNextPendingCommand uc cmd

/-- The loop `for i := len(q) - 1; i >= 1; i--`. -/
def cancelDown (id : Nat) : Nat → List Command → List Command
  | 0, q => q
  | i + 1, q =>
    cancelDown id i (if (q[i + 1]?).any (fun c => c.downstreamID == id) then q.eraseIdx (i + 1) else q)

def cancelPendingCommandsByDownstreamID (uc : Conn) (id : Nat) : Conn :=
  { uc with pendingCmds := fun cmd =>
      cancelDown id ((uc.pendingCmds cmd).length - 1) (uc.pendingCmds cmd) }

inductive Action where
  | elapse (d : Time)
  | enqueue (dcID : Nat) (label : String) (msg : Message)
  | dequeue (cmd : String)
  | cancel (id : Nat)
  | caps (labeledResponse messageTags : Bool)

def step (uc : Conn) : Action → Option Conn
  | .elapse d => some { uc with now := uc.now + d }
  | .enqueue dcID label msg => enqueueCommand uc dcID label msg
  | .dequeue cmd => some (dequeueCommand uc cmd)
  | .cancel id => some (cancelPendingCommandsByDownstreamID uc id)
  | .caps lr mt => some { uc with labeledResponse := lr, messageTags := mt }

/-- A connection right after `connectToUpstream`. -/
def start (labeledResponse messageTags : Bool) (now : Time) : Conn :=
  ⟨fun _ => [],0,labeledResponse,messageTags,[],0,now⟩

end Sake.Pending
