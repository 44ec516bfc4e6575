import Sake.FsReader
import Sake.FsWriter

namespace Sake.FsStore
open MsgStore ZncLog

/-- A call of `Append`, with the time on the clock. -/
structure Call where
  msg : Message
  now : Int
deriving Repr, DecidableEq

def Call.time (c : Call) : Option Int := (DbStore.messageTime c.now c.msg).toOption

/-- The store of a user who has one buffer. -/
structure Buffered where
  host : Host
  user : Database.User
  network : Database.Network
  entity : String

namespace Buffered
variable (b : Buffered)

def appendAll : List Call → Store → Store
  | [], s => s
  | c :: calls, s => appendAll calls (append b.host s b.network b.entity c.msg c.now).2

/-- The store once the calls were made. -/
def after (calls : List Call) : Store := b.appendAll calls .empty

def logs (s : Store) : Logs := ⟨b.host.unicode,b.host.zone,b.host.root,b.user,s.readFile⟩

/-- `LoadLatestID` once the calls were made, for messages without events. -/
def load (calls : List Call) (now : Int) (id : MsgID) (limit : Int) :
    Except Failure (List (Option Message)) :=
  (b.logs (b.after calls)).loadLatestID ⟨b.network,b.entity,false⟩ now (some id) limit

def senderOf (msg : Message) : String :=
  match msg.msgPrefix with
  | some p => p.name
  | none => ""

/-- A text as the log gives it back. -/
def restored (msg : Message) (t : Int) : Message × Int :=
  let whole := t - t % Time.second
  (⟨[("time",Time.formatServerTime whole)],some (nickOnly (senderOf msg)),msg.command,
    [if b.entity = senderOf msg then Database.getNick b.user b.network else b.entity,
      normalText b.host.unicode msg]⟩,whole)

/-- The texts among the messages that were appended. -/
def texts (calls : List Call) : List (Message × Int) :=
  calls.filterMap fun c => if c.msg.isText then c.time.map (b.restored c.msg) else none

def dayOf (t : Int) : Int := b.host.zone.wall t / Time.day

/-- A message of the protocol: its command is in upper case, a text has a sender without
blanks, and its line in the log is a line, not longer than the reader takes. -/
structure Ordinary (c : Call) : Prop where
  upper : Strings.mapChars b.host.unicode.toUpper c.msg.command = c.msg.command
  plain : c.msg.isText = true → ∃ text, Plain c.msg (senderOf c.msg) text
  fits : ∀ t line, c.time = some t → marshalLine b.host.unicode b.host.zone c.msg t = .ok line →
    '\n' ∉ line.toList ∧ '\r' ∉ line.toList ∧ byteLen line.toList < maxScanTokenSize

/-- Calls with messages of the protocol, in the order of their times, before `now`. -/
structure Regular (calls : List Call) (now : Int) : Prop where
  ordinary : ∀ c ∈ calls, b.Ordinary c
  ordered : (calls.filterMap Call.time).Pairwise (· ≤ ·)
  past : ∀ t ∈ calls.filterMap Call.time, t < now

/-- An id that was given out after the calls, and the day it carries: by the last of them, or
by `LastMsgID` at some time. -/
inductive Given (calls : List Call) : MsgID → Int → Prop
  | append (before : List Call) (c : Call) (id : MsgID) (t : Int) (hcalls : calls = before ++ [c])
      (hid : (append b.host (b.after before) b.network b.entity c.msg c.now).1 = .ok (some id))
      (ht : c.time = some t) : Given calls id (b.dayOf t)
  | last (t : Int) : Given calls (lastMsgID b.host (b.after calls) b.network b.entity t) (b.dayOf t)

/-- The reader does not give up on its way from the present to the day. -/
def Near (all : List (Message × Int)) (now d : Int) : Prop :=
  ∀ e, d < e → e + fsMessageStoreMaxTries ≤ b.dayOf now + 1 →
    ∃ y ∈ all, e ≤ b.dayOf y.2 ∧ b.dayOf y.2 < e + fsMessageStoreMaxTries

/-- Everything appended later is within reach of the id, and nothing that was appended
before lies on a later day. -/
structure InReach (pre post : List Call) (day now : Int) : Prop where
  later : ∀ x ∈ b.texts post, day ≤ b.dayOf x.2 ∧ 0 < x.2 ∧
    b.Near (b.texts (pre ++ post)) now (b.dayOf x.2)
  earlier : ∀ x ∈ b.texts pre, day < b.dayOf x.2 → 0 < x.2 →
    ¬ b.Near (b.texts (pre ++ post)) now (b.dayOf x.2)

end Buffered

end Sake.FsStore
