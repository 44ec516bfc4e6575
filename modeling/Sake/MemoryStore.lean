import Sake.Lib.Ring
import Sake.MsgStore

namespace Sake.MemoryStore
open Sake.MsgStore Sake.Lib

def messageRingBufferCap : Nat := 4096

structure MessageRingBuffer where
  buf : List (Option Message)
  cur : Nat
deriving Repr, DecidableEq

def newMessageRingBuffer (capacity : Nat) : MessageRingBuffer :=
  ⟨List.replicate capacity none,1⟩

namespace MessageRingBuffer

def cap (rb : MessageRingBuffer) : Nat := rb.buf.length

def append (rb : MessageRingBuffer) (msg : Message) : MessageRingBuffer × Nat :=
  (⟨Ring.put rb.buf rb.cur msg,rb.cur + 1⟩,rb.cur)

/-- A negative limit is larger than any slice once converted to `uint64`, so that
`make` panics. -/
def loadLatestSeq (rb : MessageRingBuffer) (seq : Nat) (limit : Int) :
    Except Failure (List (Option Message)) :=
  if rb.cur < seq then
    .error (.error ("loading messages from sequence number (" ++ toString seq ++
      ") greater than current (" ++ toString rb.cur ++ ")"))
  else if seq = rb.cur then .ok []
  else
    -- the message with the sequence number `seq` is left out
    let diff := rb.cur - seq - 1
    let diff := if rb.cap < diff then rb.cap else diff
    if limit < 0 then .error (.panic "makeslice: len out of range")
    else
      let diff := if limit < diff then limit.toNat else diff
      .ok ((List.range diff).map fun i => Ring.read rb.buf (rb.cur - diff + i))

end MessageRingBuffer

/-- One ring buffer for each network and entity that was appended to. -/
structure Store where
  buffers : Int × String → Option MessageRingBuffer

def newMemoryStore : Store := ⟨fun _ => none⟩

namespace Store

def lastMsgID (ms : Store) (network : Int) (entity : String) : MsgID :=
  let seq := match ms.buffers (network,entity) with
    | some rb => rb.cur
    | none => 0
  ⟨network,entity,.memory seq⟩

/-- Other messages are not recorded, and get no ID. -/
def append (ms : Store) (network : Int) (entity : String) (msg : Message) :
    Store × Option MsgID :=
  if !msg.isText then (ms,none) else
  let rb := (ms.buffers (network,entity)).getD (newMessageRingBuffer messageRingBufferCap)
  let (rb,seq) := rb.append msg
  (⟨fun k => if k = (network,entity) then some rb else ms.buffers k⟩,
    some ⟨network,entity,.memory seq⟩)

def loadLatestID (ms : Store) (id : MsgID) (options : LoadMessageOptions) :
    Except Failure (List (Option Message)) :=
  if options.events then
    .error (.error "events are unsupported for memory message store")
  else match id.body with
    | .memory seq =>
      match ms.buffers (options.network,options.entity) with
      | none => .ok []
      | some rb => rb.loadLatestSeq seq options.limit
    | _ => .error (.error "invalid internal message ID: got another type")

end Store

/-- One call of `Append`. -/
structure AppendCall where
  network : Int
  entity : String
  msg : Message
deriving Repr, DecidableEq

def appendAll (ms : Store) (calls : List AppendCall) : Store :=
  calls.foldl (fun ms c => (ms.append c.network c.entity c.msg).1) ms

/-- The texts appended to one buffer, oldest first. -/
def texts (network : Int) (entity : String) (calls : List AppendCall) : List Message :=
  (calls.filter fun c => c.network == network && c.entity == entity && c.msg.isText).map
    AppendCall.msg

end Sake.MemoryStore
