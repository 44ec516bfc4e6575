import Sake.Lib.Runs

namespace Sake.PushTargets

/-- The zero `time.Time`, in seconds. -/
def zeroTime : Int := -62135596800

/-- Where the delayed check of a message stands. -/
inductive Check where
  | waiting
  /-- The read marker was before the message. -/
  | read
  /-- The entry is made, the message is not pushed yet. -/
  | set
  | done
  deriving DecidableEq

inductive Push where
  | message
  | markRead
  deriving DecidableEq

/-- One buffer of a network, the check of one message and the commands for the buffer. -/
structure State where
  /-- The stored read marker. -/
  marker : Option Int
  /-- The buffer's entry in `pushTargets`. -/
  target : Option Int
  check : Check := .waiting
  /-- The MARKREAD that has not come to `pushTargets` yet: `broadcast` and `r.Timestamp`. -/
  command : Option (Bool × Int) := none
  /-- The goroutines that have a MARKREAD to push. -/
  pushes : Nat := 0
  sent : List Push := []

inductive Event where
  /-- `GetReadReceipt` by the check, which may fail. -/
  | readReceipt (ok : Bool)
  | setTarget
  | pushMessage
  /-- MARKREAD up to `pushTargetsMutex`; the criterion is no later than the clock. -/
  | markRead (criteria : Option Int) (stored : Bool)
  | dismiss
  | pushMarkRead

/-- The check of a message with this timestamp and the user's goroutine. -/
def step (timestamp : Int) (s : State) : Event → Option State
  | .readReceipt ok =>
    if s.check = .waiting then
      some { s with check := if !ok || s.marker.any (timestamp ≤ ·) then .done else .read }
    else none
  | .setTarget =>
    if s.check = .read then some { s with check := .set, target := some timestamp } else none
  | .pushMessage =>
    if s.check = .set then some { s with check := .done, sent := s.sent ++ [.message] } else none
  | .markRead criteria stored =>
    if s.command.isSome then none
    else
      let r := s.marker.getD zeroTime
      match criteria.filter (r < ·) with
      | some r =>
        -- a failing database ends the command
        if stored then some { s with marker := some r, command := some (true,r) } else some s
      | none => some { s with command := some (false,r) }
  | .dismiss =>
    match s.command with
    | none => none
    | some (broadcast,r) =>
      if broadcast && s.target.isSome then
        some { s with command := none, target := s.target.filter (r < ·), pushes := s.pushes + 1 }
      else some { s with command := none }
  | .pushMarkRead =>
    if 0 < s.pushes then some { s with pushes := s.pushes - 1, sent := s.sent ++ [.markRead] } else none

/-- Once all is done, a message that was read is no target, or its push was followed by a MARKREAD. -/
def Dismissed (timestamp : Int) (s : State) : Prop :=
  s.check = .done → s.command = none → s.pushes = 0 → ∀ m, s.marker = some m → timestamp ≤ m →
    (∀ e, s.target = some e → m < e) ∨
      ∃ before after, s.sent = before ++ .message :: after ∧ .markRead ∈ after

/-- No MARKREAD that covers the message comes to `pushTargets` between the check's look at the
marker and its entry. -/
def Timely (timestamp : Int) (s : State) : Event → Prop
  | .dismiss => s.check = .read → ∀ r, s.command = some (true,r) → r < timestamp
  | _ => True

end Sake.PushTargets
