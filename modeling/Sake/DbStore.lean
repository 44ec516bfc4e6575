import Sake.MsgStore
import Sake.Time

namespace Sake.DbStore
open MsgStore

inductive Backend where
  | sqlite
  | postgres
deriving Repr, DecidableEq

/-- A row of the table `Message`, joined with the `MessageTarget` it belongs to. -/
structure Row where
  id : Int
  network : Int
  target : String
  raw : String
  /-- In the unit the backend keeps. -/
  time : Int
  sender : String
  text : Option String
deriving Repr, DecidableEq

/-- The message format, as the IRC library reads and writes it. -/
structure Wire where
  string : Message → String
  parse : String → Option Message

/-- What SQL leaves to the engine: the order of rows with equal times, and what a
full-text query matches. -/
structure Engine where
  orderDesc : List Row → List Row
  orderAsc : List Row → List Row
  matchText : String → String → Bool
  orderDesc_perm : ∀ rows, (orderDesc rows).Perm rows
  orderDesc_sorted : ∀ rows, (orderDesc rows).Pairwise fun r s => s.time ≤ r.time
  orderAsc_perm : ∀ rows, (orderAsc rows).Perm rows
  orderAsc_sorted : ∀ rows, (orderAsc rows).Pairwise fun r s => r.time ≤ s.time

/-- The rows in the order of their ids, and the last id given out. -/
structure Db where
  rows : List Row
  lastID : Int
deriving Repr, DecidableEq

def Db.empty : Db := ⟨[],0⟩

def isHex (c : Char) : Bool :=
  ('0' ≤ c && c ≤ '9') || ('a' ≤ c && c ≤ 'f') || ('A' ≤ c && c ≤ 'F')

def startsHexColor (s : List Char) : Bool := 6 ≤ s.length && (s.take 6).all isHex

def startsDigit (s : List Char) : Bool :=
  match s with
  | c :: _ => '0' ≤ c && c ≤ '9'
  | [] => false

/-- At most two digits are skipped. -/
def skipDigits (s : List Char) : List Char :=
  if startsDigit s then (if startsDigit s.tail then s.tail.tail else s.tail) else s

/-- What follows a colour code. -/
def skipColor (s : List Char) : List Char :=
  if startsDigit s then
    match skipDigits s with
    | ',' :: rest => if startsDigit rest then skipDigits rest else ',' :: rest
    | rest => rest
  else s

def skipHexColor (s : List Char) : List Char :=
  if startsHexColor s then
    match s.drop 6 with
    | ',' :: rest => if startsHexColor rest then rest.drop 6 else ',' :: rest
    | rest => rest
  else s

/-- Each round reads at least one character, so the length of the text is fuel enough. -/
def stripLoop : Nat → List Char → List Char
  | 0, _ => []
  | _, [] => []
  | n + 1, c :: rest =>
    if c ∈ ['\x02','\x1D','\x1F','\x1E','\x11','\x16','\x0F'] then stripLoop n rest
    else if c = '\x03' then stripLoop n (skipColor rest)
    else if c = '\x04' then stripLoop n (skipHexColor rest)
    else c :: stripLoop n rest

def stripANSI (s : String) : String := String.ofList (stripLoop s.length s.toList)

/-- The time a backend keeps. SQLite keeps milliseconds, and stores the zero time as
`NULL`; PostgreSQL rounds to microseconds. -/
def Backend.storedTime : Backend → Int → Option Int
  | .sqlite, t => if t = 0 then none else some (t / 1000000)
  | .postgres, t => some ((t + 500) / 1000)

/-- The text column, `NULL` for events. -/
def textColumn (msg : Message) : Option String :=
  match msg.command, msg.params with
  | "PRIVMSG", _ :: text :: _ => some (stripANSI text)
  | "NOTICE", _ :: text :: _ => some (stripANSI text)
  | _, _ => none

/-- The time of a message: its tag, or the clock. -/
def messageTime (now : Int) (msg : Message) : Except Failure Int :=
  match msg.tags.get "time" with
  | none => .ok now
  | some tag =>
    match Time.parseServerTime tag with
    | some t => .ok t
    | none => .error (.error "failed to parse message time tag")

/-- What the environment contributes to a call of `Append`: the clock, how many ids the
engine skips, and whether the statements could be executed. -/
structure Outcome where
  now : Int
  skipped : Nat
  executed : Bool
deriving Repr, DecidableEq

/-- `StoreMessages` with a single message. A transaction that fails leaves no row. -/
def storeMessage (b : Backend) (w : Wire) (db : Db) (o : Outcome) (network : Int) (name : String)
    (msg : Message) : Except Failure (Db × Int) := do
  let t ← messageTime o.now msg
  match msg.msgPrefix with
  | none => .error (.panic "invalid memory address or nil pointer dereference")
  | some p =>
    match b.storedTime t with
    | none => .error (.error "NOT NULL constraint failed: Message.time")
    | some time =>
      if o.executed then
        let id := db.lastID + 1 + o.skipped
        .ok (⟨db.rows ++ [⟨id,network,name,w.string msg,time,p.name,textColumn msg⟩],id⟩,id)
      else .error (.error "failed to execute the statement")

structure MessageOptions where
  afterID : Int
  afterTime : Option Int
  beforeTime : Option Int
  limit : Int
  events : Bool
  sender : String
  text : String
  takeLast : Bool
deriving Repr, DecidableEq

def getMessageLastID (e : Engine) (db : Db) (network : Int) (name : String) : Int :=
  match e.orderDesc (db.rows.filter fun r => r.network == network && r.target == name) with
  | [] => 0
  | r :: _ => r.id

/-- The `WHERE` clause of `ListMessages`. -/
def selected (e : Engine) (network : Int) (name : String) (o : MessageOptions) (r : Row) : Bool :=
  r.network == network && r.target == name && (o.afterID ≤ 0 || o.afterID < r.id) &&
    (o.afterTime.all fun t => t < r.time) && (o.beforeTime.all fun t => r.time < t) &&
    (o.sender == "" || r.sender == o.sender) &&
    (o.text == "" || r.text.any (e.matchText o.text)) &&
    (o.events || r.text.isSome)

/-- A negative limit is none to SQLite, and an error to PostgreSQL. -/
def limitRows (b : Backend) (limit : Int) (rows : List Row) : Except Failure (List Row) :=
  if limit < 0 then
    match b with
    | .sqlite => .ok rows
    | .postgres => .error (.error "LIMIT must not be negative")
  else .ok (rows.take limit.toNat)

def parseRows (w : Wire) : List Row → Except Failure (List Message)
  | [] => .ok []
  | r :: rows =>
    match w.parse r.raw with
    | none => .error (.error "irc: failed to parse message")
    | some msg => (parseRows w rows).map (msg :: ·)

def listMessages (b : Backend) (w : Wire) (e : Engine) (db : Db) (network : Int) (name : String)
    (o : MessageOptions) : Except Failure (List Message) := do
  let rows := db.rows.filter (selected e network name o)
  let rows ← limitRows b o.limit (if o.takeLast then e.orderDesc rows else e.orderAsc rows)
  let l ← parseRows w rows
  return if o.takeLast then l.reverse else l

/-- The time is not looked at. -/
def lastMsgID (e : Engine) (db : Db) (network : Int) (entity : String) : MsgID :=
  ⟨network,entity,.db (getMessageLastID e db network entity)⟩

def loadLatestID (b : Backend) (w : Wire) (e : Engine) (db : Db) (id : MsgID)
    (options : LoadMessageOptions) : Except Failure (List Message) :=
  match id.body with
  | .db msgID =>
    listMessages b w e db options.network options.entity
      ⟨msgID,none,none,options.limit,false,"","",true⟩
  | _ => .error (.error "invalid internal message ID: got another type")

def append (b : Backend) (w : Wire) (db : Db) (o : Outcome) (network : Int) (entity : String)
    (msg : Message) : Except Failure (Db × MsgID) :=
  (storeMessage b w db o network entity msg).map fun (db,id) => (db,⟨network,entity,.db id⟩)

/-- One call of `Append`. -/
structure AppendCall where
  outcome : Outcome
  network : Int
  entity : String
  msg : Message
deriving Repr, DecidableEq

/-- A call that fails changes nothing. -/
def appendOne (b : Backend) (w : Wire) (db : Db) (c : AppendCall) : Db :=
  match append b w db c.outcome c.network c.entity c.msg with
  | .ok (db,_) => db
  | .error _ => db

def appendAll (b : Backend) (w : Wire) (calls : List AppendCall) (db : Db) : Db :=
  calls.foldl (appendOne b w) db

/-- The time a call stores its message under, if it stores it. -/
def AppendCall.storedTime (b : Backend) (c : AppendCall) : Option Int :=
  match messageTime c.outcome.now c.msg with
  | .error _ => none
  | .ok t =>
    if c.msg.msgPrefix.isSome && c.outcome.executed then b.storedTime t else none

/-- A message of a buffer. -/
structure Entry where
  time : Int
  msg : Message
deriving Repr, DecidableEq

/-- `PRIVMSG` or `NOTICE`, with the text they are to have. -/
def Entry.hasText (x : Entry) : Bool := x.msg.isText && 2 ≤ x.msg.params.length

/-- What the calls append to one buffer, in the order of the calls. -/
def entries (b : Backend) (network : Int) (entity : String) (calls : List AppendCall) : List Entry :=
  calls.filterMap fun c =>
    if c.network = network ∧ c.entity = entity then
      (c.storedTime b).map fun time => ⟨time,c.msg⟩
    else none

def texts (b : Backend) (network : Int) (entity : String) (calls : List AppendCall) : List Message :=
  ((entries b network entity calls).filter Entry.hasText).map Entry.msg

/-- Nothing but events follows a message with the latest time of the buffer. -/
def LatestLast (l : List Entry) : Prop :=
  l.Pairwise fun x y => (∀ z ∈ l, z.time ≤ x.time) → y.hasText = false

instance (l : List Entry) : Decidable (LatestLast l) :=
  inferInstanceAs (Decidable (List.Pairwise _ l))

/-- The wire format gives the message of each call back. -/
def Wire.Carries (w : Wire) (calls : List AppendCall) : Prop :=
  ∀ c ∈ calls, w.parse (w.string c.msg) = some c.msg

instance (w : Wire) (calls : List AppendCall) : Decidable (w.Carries calls) :=
  inferInstanceAs (Decidable (∀ c ∈ calls, _))

/-- Loading from the last ID, as it was before the calls `after`, gives texts of these
calls only, and all of them if the limit allows. -/
def LoadsWhatFollows (b : Backend) (w : Wire) (e : Engine) (before after : List AppendCall)
    (network : Int) (entity : String) (limit : Int) : Prop :=
  let id := lastMsgID e (appendAll b w before .empty) network entity
  let loaded := loadLatestID b w e (appendAll b w (before ++ after) .empty) id
    ⟨network,entity,limit,false⟩
  (∀ l, loaded = .ok l → l.Subperm (texts b network entity after)) ∧
    (0 ≤ limit → ∃ l, loaded = .ok l ∧
      ((texts b network entity after).length ≤ limit → l.Perm (texts b network entity after)))

end Sake.DbStore
