import Mathlib.Data.List.Sort
import Sake.DbStore
import Sake.LogPath

/-!
The targets of a network by the time of their latest message, as the file system store and
the SQLite store list them.
-/

namespace Sake.ListTargets
open DbStore

/-- `ChatHistoryTarget`, with the time in nanoseconds. -/
structure Target where
  name : String
  latestMessage : Int
deriving Repr, DecidableEq

/-- The directory of a target, under its escaped name, with the times its files were written. -/
structure Dir where
  name : String
  mtimes : List Int
deriving Repr, DecidableEq

def earlier (x y : Target) : Prop := x.latestMessage ≤ y.latestMessage

instance : DecidableRel earlier := fun x y => inferInstanceAs (Decidable (x.latestMessage ≤ y.latestMessage))

def later (x y : Target) : Prop := earlier y x

instance : DecidableRel later := fun x y => inferInstanceAs (Decidable (earlier y x))

def isTimeBetween (t start stop : Int) : Bool :=
  if stop < start then stop < t && t < start else start < t && t < stop

def truncateSecond (z : Time.Zone) (t : Int) : Int :=
  Time.date z (Time.dateOf z t) (Time.hourOf z t) (Time.minuteOf z t) (Time.secondOf z t) 0

def Dir.lastWritten (d : Dir) : Int := d.mtimes.foldl max 0

def Dir.target (z : Time.Zone) (d : Dir) : Target := ⟨d.name,truncateSecond z d.lastWritten⟩

/-- `ListTargets` of the file system store. It does not ask whether events count. -/
def fsListTargets (z : Time.Zone) (dirs : List Dir) (start stop : Int) (limit : Nat) : List Target :=
  let targets := (dirs.map (Dir.target z)).filter fun x => isTimeBetween x.latestMessage start stop
  (if start < stop then targets.insertionSort earlier else targets.insertionSort later).take limit

/-- A row of `MessageTarget` with the time of its latest message, in milliseconds. -/
structure Latest where
  name : String
  latest : Option Int
deriving Repr, DecidableEq

/-- The inner query of `ListMessageLastPerTarget`. -/
def latestOf (rows : List Row) (network : Int) (events : Bool) (name : String) : Latest :=
  ⟨name,((rows.filter fun r => r.network == network && r.target == name && (events || r.text.isSome)).map
    Row.time).max?⟩

/-- Bounds that are not set do not count, and `NULL` is within no bound. -/
def selected (afterTime beforeTime : Int) (x : Latest) : Bool :=
  (afterTime == 0 || x.latest.any fun t => afterTime / 1000000 < t) &&
    (beforeTime == 0 || x.latest.any fun t => t < beforeTime / 1000000)

/-- What is read of a row; `NULL` is the zero time. -/
def Latest.target (x : Latest) : Target := ⟨x.name,x.latest.getD 0 * 1000000⟩

def listMessageLastPerTarget (rows : List Row) (names : List String) (network afterTime beforeTime : Int)
    (limit : Nat) (events takeLast : Bool) : List Target :=
  let targets := ((names.map (latestOf rows network events)).filter (selected afterTime beforeTime)).map Latest.target
  if takeLast then ((targets.insertionSort later).take limit).reverse
  else (targets.insertionSort earlier).take limit

/-- `ListTargets` of the SQLite store; `names` are the targets the network has. -/
def dbListTargets (rows : List Row) (names : List String) (network start stop : Int) (limit : Nat)
    (events : Bool) : List Target :=
  if start < stop then listMessageLastPerTarget rows names network start stop limit events false
  else listMessageLastPerTarget rows names network stop start limit events true

/-- What was sent to a target: the time of its latest message, and of its latest PRIVMSG or NOTICE. -/
structure Conversation where
  name : String
  latest : Int
  latestText : Option Int
deriving Repr, DecidableEq

def Conversation.counted (c : Conversation) (events : Bool) : Option Int :=
  if events then some c.latest else c.latestText

def Conversation.target (c : Conversation) (events : Bool) : Option Target :=
  (c.counted events).map fun t => ⟨c.name,t⟩

/-- What the interface asks for: the first targets on the way from `start` to `stop`. -/
def walk (start stop : Int) (limit : Nat) (targets : List Target) : List Target :=
  let inside := targets.filter fun x => min start stop < x.latestMessage ∧ x.latestMessage < max start stop
  (if start < stop then inside.insertionSort earlier else inside.insertionSort later).take limit

/-- The two stores hold what was sent, at distinct times. A file was written when its last message
was sent. -/
structure Hold (history : List Conversation) (dirs : List Dir) (rows : List Row) (names : List String)
    (network : Int) (events : Bool) : Prop where
  sent : ∀ c ∈ history, 0 < c.latest
  distinct : (history.map Conversation.latest).Nodup
  files : (dirs.map fun d => (d.name,d.lastWritten)).Perm
    (history.map fun c => (FsStore.escapeFilename c.name,c.latest))
  saved : (names.map (latestOf rows network events)).Perm
    (history.map fun c => ⟨c.name,(c.counted events).map (· / 1000000)⟩)

/-- A conversation of which both stores read the same: the name needs no escape, the latest message
counts, and it was sent on a second the clocks of the zone do not show twice. -/
structure Plain (z : Time.Zone) (events : Bool) (c : Conversation) : Prop where
  name : FsStore.escapeFilename c.name = c.name
  counts : c.counted events = some c.latest
  whole : truncateSecond z c.latest = c.latest
  millis : c.latest % 1000000 = 0

end Sake.ListTargets
