import Sake.Irc
import Sake.Strings

/-!
How a client that uses labels is answered: the messages of a handler go through
`SendMessage`, which holds the first one back, and `FlushBatch` ends the answer.
-/

namespace Sake.Labels
open Strings

structure LabelContext where
  label : String
  batch : String
  pendingMsg : Option Message
deriving Repr, DecidableEq

/-- A client while one of its commands is handled. `passed` are the messages that no
capability filtered out, as they came, and `sent` what was written to the connection. -/
structure State where
  caps : List String
  lastBatchRef : Nat
  labelCtx : LabelContext
  passed : List Message
  sent : List Message
deriving Repr, DecidableEq

def isNumeric (command : String) : Bool :=
  command.toList.length == 3 && command.toList.all fun c => (digit c).isSome

/-- `msg.Tags["batch"]`, empty when there is none. -/
def batchTag (m : Message) : String := (m.tags.get "batch").getD ""

def withTag (m : Message) (key value : String) : Message := { m with tags := m.tags.set key value }

section Prepare
variable (caps : List String)

/-- The tags that a client without `message-tags` may see. -/
def supportedTag (name : String) : Bool :=
  (name == "time" && caps.contains "server-time") || (name == "account" && caps.contains "account-tag") ||
    (name == "batch" && caps.contains "batch")

def stripTags (m : Message) : Message :=
  if caps.contains "message-tags" then m
  else { m with tags := m.tags.filter fun kv => supportedTag caps kv.1 }

def stripBatch (m : Message) : Message :=
  if !caps.contains "batch" && batchTag m != "" then { m with tags := m.tags.del "batch" } else m

def stripJoin (m : Message) : Message :=
  if m.command = "JOIN" ∧ ¬caps.contains "extended-join" then { m with params := m.params.take 1 } else m

/-- The commands that only some clients get, with the capability they ask for. -/
def optionalCommands : List (String × String) :=
  [("TAGMSG","message-tags"),("SETNAME","setname"),("CHGHOST","chghost"),("AWAY","away-notify"),
    ("ACCOUNT","account-notify"),("MARKREAD","draft/read-marker"),("READ","soju.im/read"),
    ("METADATA","draft/metadata-2"),("REDACT","draft/message-redaction")]

def filtered (m : Message) : Bool :=
  optionalCommands.any fun e => m.command == e.1 && !caps.contains e.2

/-- The prefix `*` stands for none, and numerics carry that of the server. -/
def withSource (srv : Prefix) (m : Message) : Message :=
  let m := if m.msgPrefix.any fun p => p.name == "*" then { m with msgPrefix := none } else m
  if m.msgPrefix.isNone && isNumeric m.command then { m with msgPrefix := some srv } else m

/-- The message as the client may see it, if it may. -/
def prepare (srv : Prefix) (m : Message) : Option Message :=
  if filtered caps m then none
  else some (withSource srv (stripJoin caps (stripBatch caps (stripTags caps m))))

end Prepare

def batchStart (ref label : String) : Message :=
  ⟨[("label",label)],none,"BATCH",["+" ++ ref,"labeled-response"]⟩

def batchEnd (ref : String) : Message := ⟨[],none,"BATCH",["-" ++ ref]⟩

def ack (label : String) : Message := ⟨[("label",label)],none,"ACK",[]⟩

/-- Puts a message into a batch, unless it is in one. -/
def inBatch (ref : String) (m : Message) : Message :=
  if batchTag m = "" then withTag m "batch" ref else m

def write (m : Message) (s : State) : State := { s with sent := s.sent ++ [m] }

/-- Starts the batch of the answer with the message that was held back. -/
def openBatch (pendingMsg : Message) (s : State) : State :=
  let ref := toString (s.lastBatchRef + 1)
  { s with
    lastBatchRef := s.lastBatchRef + 1
    labelCtx := { s.labelCtx with batch := ref, pendingMsg := none }
    sent := s.sent ++ [batchStart ref s.labelCtx.label,inBatch ref pendingMsg] }

/-- Sends a message in the batch of the answer, or holds it back if there is none yet. -/
def sendOrHold (m : Message) (s : State) : State :=
  if s.labelCtx.batch ≠ "" then write (inBatch s.labelCtx.batch m) s
  else { s with labelCtx := { s.labelCtx with pendingMsg := some m } }

def sendLabeled (m : Message) (s : State) : State :=
  if s.labelCtx.label = "" then write m s
  else
    match s.labelCtx.pendingMsg with
    | some pendingMsg => sendOrHold m (openBatch pendingMsg s)
    | none => sendOrHold m s

/-- `downstreamConn.SendMessage` -/
def sendMessage (srv : Prefix) (m : Message) (s : State) : State :=
  match prepare s.caps srv m with
  | none => s
  | some m => sendLabeled m { s with passed := s.passed ++ [m] }

def flushBatch (s : State) : State :=
  if s.labelCtx.label = "" then s
  else
    match s.labelCtx.pendingMsg with
    | some pendingMsg => write (withTag pendingMsg "label" s.labelCtx.label) s
    | none =>
      if s.labelCtx.batch ≠ "" then write (batchEnd s.labelCtx.batch) s
      else write (ack s.labelCtx.label) s

/-- Tags as handlers set them: never a label, and a batch only in the body of `SendBatch`. -/
structure OwnTags where
  tags : Tags
  noBatch : tags.get "batch" = none
  noLabel : tags.get "label" = none
deriving DecidableEq

structure Draft extends OwnTags where
  msgPrefix : Option Prefix
  command : String
  params : List String
deriving DecidableEq

/-- The calls a handler makes for one client. In the body of `SendBatch`, a message may be
tagged with the reference of the batch. -/
inductive Calls
  | done
  | sendMessage (m : Draft) (tagged : Bool) (rest : Calls)
  | sendBatch (typ : String) (params : List String) (tags : OwnTags) (body rest : Calls)

/-- The message as it is passed to `SendMessage` in the body of a batch. -/
def Draft.message (m : Draft) (ref : Option String) : Message :=
  let m : Message := ⟨m.tags,m.msgPrefix,m.command,m.params⟩
  match ref with
  | none => m
  | some ref => withTag m "batch" ref

section Handle
variable (srv : Prefix)

/-- `SendBatch` only sends its two ends to a client that knows batches. -/
def sendBatchEnd (m : Message) (s : State) : State :=
  if s.caps.contains "batch" then sendMessage srv m s else s

def runCalls (ref : Option String) : Calls → State → State
  | .done, s => s
  | .sendMessage m tagged rest, s =>
    runCalls ref rest (sendMessage srv (m.message (if tagged then ref else none)) s)
  | .sendBatch typ params tags body rest, s =>
    let inner := toString (s.lastBatchRef + 1)
    let start : Message := ⟨tags.tags,none,"BATCH",("+" ++ inner) :: typ :: params⟩
    let s := sendBatchEnd srv start { s with lastBatchRef := s.lastBatchRef + 1 }
    runCalls ref rest (sendBatchEnd srv (batchEnd inner) (runCalls (some inner) body s))

/-- What is done for a command, or for one target of a message. A message that a client
without a network sends to itself comes back with all its tags. -/
inductive Part
  | calls (calls : Calls)
  | toSelf (m : Message)

def runPart (s : State) : Part → State
  | .calls calls => runCalls srv none calls s
  | .toSelf m => sendMessage srv m s

/-- `downstreamConn.handleMessage` for a command with a label. Only `PRIVMSG`, `NOTICE` and
`TAGMSG` have several parts, one for each target, and the label is dropped then. -/
def handleMessage (caps : List String) (lastBatchRef : Nat) (label : String) (parts : List Part) : State :=
  let label := if !caps.contains "labeled-response" || parts.length > 1 then "" else label
  flushBatch (parts.foldl (runPart srv) ⟨caps,lastBatchRef,⟨label,"",none⟩,[],[]⟩)

end Handle

/-- The message starts the batch. -/
def Opens (ref : String) (m : Message) : Prop := m.command = "BATCH" ∧ m.params.head? = some ("+" ++ ref)

/-- The answer to a command with a label, given the messages it consists of. -/
def Labeled (label : String) (passed sent : List Message) : Prop :=
  match passed with
  | [] => sent = [ack label]
  | [m] => sent = [withTag m "label" label]
  | ms => ∃ ref, sent = batchStart ref label :: ms.map (inBatch ref) ++ [batchEnd ref] ∧
      ∀ m ∈ ms, batchTag m = "" ∨ ∃ m' ∈ ms, Opens (batchTag m) m'

/-- Just one message has a label, and it is the one of the command. -/
def LabelOnce (label : String) (sent : List Message) : Prop :=
  sent.filterMap (fun m => m.tags.get "label") = [label]

instance (label : String) (sent : List Message) : Decidable (LabelOnce label sent) :=
  inferInstanceAs (Decidable (_ = _))

end Sake.Labels
