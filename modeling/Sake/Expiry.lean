import Sake.DbStore

/-!
The SQLite message store when old messages are deleted. `Message.id` is declared
`INTEGER PRIMARY KEY` without `AUTOINCREMENT`, so the next id is one more than the largest
id in the table.
-/

namespace Sake.Expiry
open DbStore MsgStore

/-- The largest id in the table, 0 if there is none. -/
def maxID : List Row → Int
  | [] => 0
  | r :: rows => max r.id (maxID rows)

/-- The test of `DeleteMessagesBefore`. The zero time is `NULL`, and nothing is before it. -/
def expired (before time : Int) : Bool :=
  match Backend.sqlite.storedTime before with
  | none => false
  | some bound => time < bound

def deleteMessagesBefore (db : Db) (before : Int) : Db :=
  let rows := db.rows.filter fun r => !expired before r.time
  ⟨rows,maxID rows⟩

/-- The calls on the store; `Append` comes with the clock and whether its statements could
be executed. -/
inductive Op where
  | append (now : Int) (executed : Bool) (network : Int) (entity : String) (msg : Message)
  | deleteMessagesBefore (before : Int)
deriving Repr, DecidableEq

/-- SQLite skips no id. -/
def Op.calls : Op → List AppendCall
  | .append now executed network entity msg => [⟨⟨now,0,executed⟩,network,entity,msg⟩]
  | .deleteMessagesBefore _ => []

def step (w : Wire) (db : Db) : Op → Option Db
  | .deleteMessagesBefore before => some (deleteMessagesBefore db before)
  | op@(.append ..) => some (appendAll .sqlite w op.calls db)

/-- What is still there of the messages that the calls appended to a buffer. -/
def retain (network : Int) (entity : String) (l : List Entry) : Op → List Entry
  | .deleteMessagesBefore before => l.filter fun x => !expired before x.time
  | op@(.append ..) => l ++ entries .sqlite network entity op.calls

def retained (network : Int) (entity : String) (ops : List Op) : List Entry :=
  ops.foldl (retain network entity) []

/-- The ids that `Append` and `LastMsgID` return for a buffer at the end of a run. -/
inductive Returned (w : Wire) (e : Engine) (network : Int) (entity : String) :
    List Op → Int → Prop
  | lastMsgID {ops : List Op} {s : Db} {n : Int} (run : Lib.Runs.run (step w) .empty ops = some s)
      (id : lastMsgID e s network entity = ⟨network,entity,.db n⟩) :
      Returned w e network entity ops n
  | append {ops : List Op} {s t : Db} {n now : Int} {executed : Bool} {msg : Message}
      (run : Lib.Runs.run (step w) .empty ops = some s)
      (id : append .sqlite w s ⟨now,0,executed⟩ network entity msg =
        .ok (t,⟨network,entity,.db n⟩)) :
      Returned w e network entity (ops ++ [.append now executed network entity msg]) n

/-- A deletion leaves a row with the id `n` or a later one. -/
def LeavesRow (n : Int) (db : Db) : Op → Prop
  | .deleteMessagesBefore before =>
    n ≤ 0 ∨ ∃ r ∈ db.rows, n ≤ r.id ∧ expired before r.time = false
  | .append .. => True

instance (n : Int) (db : Db) (op : Op) : Decidable (LeavesRow n db op) :=
  match op with
  | .deleteMessagesBefore _ => inferInstanceAs (Decidable (_ ∨ _))
  | .append .. => isTrue trivial

end Sake.Expiry
