import Sake.Lib.Paging
import Sake.Lib.Ring
import Sake.LogPath
import Sake.ZncLog

namespace Sake.FsStore
open MsgStore Lib ZncLog

def fsMessageStoreMaxTries : Nat := 100

/-- `bufio.MaxScanTokenSize` -/
def maxScanTokenSize : Nat := 65536

/-- The lines of a text. What follows the last newline is a line unless it is empty. -/
def rawLines (cs : List Char) : List (List Char) :=
  let pieces := Strings.pieces (· == '\n') cs
  if pieces.getLast? = some [] then pieces.dropLast else pieces

def dropCR (line : List Char) : List Char :=
  if line.getLast? = some '\r' then line.dropLast else line

/-- The lines a `bufio.Scanner` returns, and whether it fails at the line that follows. -/
structure Scan where
  lines : List String
  tooLong : Bool
deriving Repr, DecidableEq

def scan (cs : List Char) : Scan :=
  let lines := rawLines cs
  let short := lines.takeWhile fun line => byteLen line < maxScanTokenSize
  ⟨short.map fun line => String.ofList (dropCR line),short.length < lines.length⟩

/-- What reading the logs of a user depends on. `read` gives the content of a file. -/
structure Logs where
  unicode : Unicode
  zone : Time.Zone
  root : String
  user : Database.User
  read : String → Option (List Char)

/-- The options of a query, with the record of the network. -/
structure Query where
  network : Database.Network
  entity : String
  events : Bool
deriving Repr, DecidableEq

def scannerError (side : String) : Failure :=
  .error ("failed to parse messages " ++ side ++ " ref: scanner error: bufio.Scanner: token too long")

namespace Logs
variable (logs : Logs) (q : Query)

def parseMessage (ref : Int) (line : String) : Except Failure (Option (Message × Int)) :=
  unmarshalLine logs.unicode logs.zone line logs.user q.network q.entity ref q.events

def file (t : Int) : Option (List Char) :=
  logs.read (logPath logs.zone logs.root q.network q.entity t)

section
variable (selector : Message → Bool)

/-- The loop over the lines of a day, for the messages between `lower` and `ref`. The flag
tells whether it was left early. -/
def beforeLoop (ref lower : Int) : List String → List (Option Message) × Nat →
    Except Failure ((List (Option Message) × Nat) × Bool)
  | [], state => .ok (state,false)
  | line :: lines, (ring,cur) =>
    match logs.parseMessage q ref line with
    | .error e => .error e
    | .ok none => beforeLoop ref lower lines (ring,cur)
    | .ok (some (msg,t)) =>
      if ¬ lower < t then beforeLoop ref lower lines (ring,cur)
      else if ¬ t < ref then .ok ((ring,cur),true)
      else if !selector msg then beforeLoop ref lower lines (ring,cur)
      else beforeLoop ref lower lines (Ring.put ring cur msg,cur + 1)

/-- The newest messages of the ring, oldest first. -/
def ringSlice (ring : List (Option Message)) (limit cur : Nat) : List (Option Message) :=
  let n := if cur < limit then cur else limit
  let start := (cur - n + limit) % limit
  if start + n ≤ limit then (ring.drop start).take n
  else ring.drop start ++ ring.take (n - (ring.length - start))

/-- The lines to look at. Behind an offset, what is left of a line is skipped. -/
def linesFrom (content : List Char) (afterOffset : Int) : Scan :=
  if 0 ≤ afterOffset then
    let s := scan (dropBytes afterOffset.toNat content)
    ⟨s.lines.tail,s.tooLong⟩
  else scan content

def parseMessagesBefore (ref lower : Int) (limit : Nat) (afterOffset : Int) :
    Except Failure (List (Option Message)) :=
  match logs.file q ref with
  | none => .ok []
  | some content => do
    let s := linesFrom content afterOffset
    let ((ring,cur),left) ← logs.beforeLoop q selector ref lower s.lines
      (List.replicate limit none,0)
    if !left && s.tooLong then .error (scannerError "before") else return ringSlice ring limit cur

/-- The loop over the lines of a day, for the messages between `ref` and `upper`. -/
def afterLoop (ref upper : Int) (limit : Nat) : List String → List Message →
    Except Failure (List Message × Bool)
  | [], history => .ok (history,false)
  | line :: lines, history =>
    if limit ≤ history.length then .ok (history,true)
    else match logs.parseMessage q ref line with
      | .error e => .error e
      | .ok none => afterLoop ref upper limit lines history
      | .ok (some (msg,t)) =>
        if ¬ ref < t then afterLoop ref upper limit lines history
        else if ¬ t < upper then .ok (history,true)
        else if !selector msg then afterLoop ref upper limit lines history
        else afterLoop ref upper limit lines (history ++ [msg])

def parseMessagesAfter (ref upper : Int) (limit : Nat) : Except Failure (List Message) :=
  match logs.file q ref with
  | none => .ok []
  | some content => do
    let s := scan content
    let (history,left) ← logs.afterLoop q selector ref upper limit s.lines []
    if !left && s.tooLong then .error (scannerError "after") else return history

/-- The day before: its last nanosecond. -/
def dayBefore (t : Int) : Int := Time.truncateDay logs.zone t - 1

/-- The day after: its first instant. -/
def dayAfter (t : Int) : Int :=
  let d := Time.dateOf logs.zone t
  Time.date logs.zone { d with day := d.day + 1 } 0 0 0 0

/-- The loop over the days, back from `start`. What is found goes in front of `messages`.
Each round goes back a day, so that the days down to `lower` are fuel enough. -/
def beforeDays (lower : Int) : Nat → (start : Int) → (remaining tries : Nat) →
    List (Option Message) → Except Failure (List (Option Message))
  | 0, _, _, _, messages => .ok messages
  | fuel + 1, start, remaining, tries, messages =>
    if 0 < remaining ∧ tries < fsMessageStoreMaxTries ∧ lower < start then do
      let buf ← logs.parseMessagesBefore q selector start lower remaining (-1)
      beforeDays lower fuel (logs.dayBefore start) (remaining - buf.length)
        (if buf.length = 0 then tries + 1 else 0) (buf ++ messages)
    else .ok messages

/-- The days between two instants, and some more. -/
def daysBetween (lower upper : Int) : Nat := ((upper - lower) / Time.day + 2).toNat

/-- A `start` that is not set stands for the present. -/
def getBeforeTime (now start lower : Int) (limit : Int) : Except Failure (List (Option Message)) :=
  let start := if start = 0 then now else start
  if limit < 0 then .error (.panic "makeslice: len out of range")
  else logs.beforeDays q selector lower (daysBetween lower start) start limit.toNat 0 []

def afterDays (upper : Int) : Nat → (start : Int) → (remaining tries : Nat) → List Message →
    Except Failure (List Message)
  | 0, _, _, _, messages => .ok messages
  | fuel + 1, start, remaining, tries, messages =>
    if 0 < remaining ∧ tries < fsMessageStoreMaxTries ∧ start < upper then do
      let buf ← logs.parseMessagesAfter q selector start upper remaining
      afterDays upper fuel (logs.dayAfter start) (remaining - buf.length)
        (if buf.length = 0 then tries + 1 else 0) (messages ++ buf)
    else .ok messages

/-- An `upper` that is not set stands for the present. -/
def getAfterTime (now start upper : Int) (limit : Int) : Except Failure (List Message) :=
  let upper := if upper = 0 then now else upper
  logs.afterDays q selector upper (daysBetween start upper) start limit.toNat 0 []

end

def loadBeforeTime (now start lower : Int) (limit : Int) : Except Failure (List (Option Message)) :=
  logs.getBeforeTime q (fun _ => true) now start lower limit

def loadAfterTime (now start upper : Int) (limit : Int) : Except Failure (List Message) :=
  logs.getAfterTime q (fun _ => true) now start upper limit

/-- The loop over the days, back from `t`, down to the day of the id. The zero time bounds
the messages from below. -/
def latestDays (afterTime afterOffset : Int) : Nat → (t : Int) → (remaining tries : Nat) →
    List (Option Message) → Except Failure (List (Option Message))
  | 0, _, _, _, messages => .ok messages
  | fuel + 1, t, remaining, tries, messages =>
    if 0 < remaining ∧ tries < fsMessageStoreMaxTries ∧
        ¬ Time.truncateDay logs.zone t < afterTime then do
      let offset :=
        if 0 ≤ afterOffset ∧ Time.truncateDay logs.zone t = afterTime then afterOffset else -1
      let buf ← logs.parseMessagesBefore q (fun _ => true) t 0 remaining offset
      latestDays afterTime afterOffset fuel (logs.dayBefore t) (remaining - buf.length)
        (if buf.length = 0 then tries + 1 else 0) (buf ++ messages)
    else .ok messages

/-- Without an id there is nothing to stop at. -/
def loadLatestID (now : Int) (id : Option MsgID) (limit : Int) :
    Except Failure (List (Option Message)) := do
  let (afterTime,afterOffset) ← match id with
    | none => .ok ((0 : Int),(0 : Int))
    | some id =>
      match id.body with
      | .fs year month day offset =>
        if id.network ≠ q.network.id ∨ id.target ≠ q.entity then
          .error (.error "cannot find message ID: message ID doesn't match network/entity")
        else .ok (Time.date logs.zone ⟨year,month,day⟩ 0 0 0 0,offset)
      | _ => .error (.error "invalid internal message ID: got another type")
  if limit < 0 then .error (.panic "makeslice: len out of range")
  else logs.latestDays q afterTime afterOffset (daysBetween afterTime now) now limit.toNat 0 []

/-- What all the lines say, if every one of them can be read. -/
def parseLines (ref : Int) : List String → Option (List (Message × Int))
  | [] => some []
  | line :: lines =>
    match logs.parseMessage q ref line with
    | .error _ => none
    | .ok none => parseLines ref lines
    | .ok (some x) => (parseLines ref lines).map (x :: ·)

/-- The messages in the file for the day of `ref`, each with its time. -/
def dayLog (ref : Int) : Option (List (Message × Int)) :=
  match logs.file q ref with
  | none => some []
  | some content =>
    let s := scan content
    if s.tooLong then none else logs.parseLines q ref s.lines

/-- The number of the day of an instant. -/
def dayOf (t : Int) : Int := logs.zone.wall t / Time.day

/-- All files can be read, and each holds messages of its day in the order of their times. -/
def Orderly : Prop :=
  ∀ ref, ∃ l, logs.dayLog q ref = some l ∧ (l.Pairwise fun x y => x.2 ≤ y.2) ∧
    ∀ x ∈ l, logs.dayOf x.2 = logs.dayOf ref

/-- The messages of a day. -/
def messagesOn (d : Int) : List (Message × Int) :=
  (logs.dayLog q (logs.zone.resolve (d * Time.day))).getD []

def Within (lower upper : Int) (x : Message × Int) : Prop := lower < x.2 ∧ x.2 < upper

instance (lower upper : Int) : DecidablePred (Within lower upper) :=
  fun _ => inferInstanceAs (Decidable (_ ∧ _))

/-- The messages between two instants, day by day. -/
def between (lower upper : Int) : List (List (Message × Int)) :=
  (List.range (logs.dayOf upper - logs.dayOf lower + 1).toNat).map fun i : Nat =>
    (logs.messagesOn q (logs.dayOf lower + i)).filter fun x => Within lower upper x

/-- The first second of a day. -/
def AtMidnight (t : Int) : Prop := logs.zone.wall t % Time.day = 0

end Logs

end Sake.FsStore
