import Sake.Lib.Runs

namespace Sake.InactiveUsers

/-- `DisableInactiveUsersDelay` and `EnableUsersOnAuth`. -/
structure Config where
  delay : Nat
  enableUsersOnAuth : Bool

structure Conn where
  id : Nat
  impersonating : Bool
  deriving DecidableEq

/-- The events of a user that the sweep and its clients send. -/
inductive UserEvent where
  | connected (dc : Conn)
  | disconnected (dc : Conn)
  /-- `eventUserUpdate` with `enabled` set to false. -/
  | disable
  deriving DecidableEq

/-- Where `disableInactiveUsers` stands with this user. -/
inductive Sweep where
  | idle
  /-- The database has listed the user. -/
  | listed
  /-- No connection was counted; the event is to be sent. -/
  | checked
  deriving DecidableEq

/-- A user's goroutine with its queue, and the goroutine of the sweep. -/
structure State where
  now : Int
  enabled : Bool
  downstreamInteractedAt : Int
  downstreamConns : List Conn := []
  numDownstreamConns : Int := 0
  closed : List Conn := []
  queue : List UserEvent := []
  sweep : Sweep := .idle

/-- What goes well while an event is handled. -/
structure Outcome where
  /-- `StoreUser` -/
  stored : Bool
  /-- `updateNetwork` for every network -/
  updated : Bool
  welcomed : Bool

def updateUser (o : Outcome) (s : State) (enabled : Bool) (downstreamInteractedAt : Int) : State :=
  if !o.stored then s
  else
    let t := { s with enabled, downstreamInteractedAt }
    if s.enabled != enabled && !o.updated then t
    else if !enabled then { t with closed := t.closed ++ t.downstreamConns }
    else t

def bumpDownstreamInteractionTime (o : Outcome) (s : State) (dc : Conn) : State :=
  if dc.impersonating then s else updateUser o s s.enabled s.now

/-- The cases of `run`. -/
def handle (cfg : Config) (o : Outcome) (s : State) : UserEvent → State
  | .connected dc =>
    let s := if !s.enabled && cfg.enableUsersOnAuth then updateUser o s true s.downstreamInteractedAt else s
    if !s.enabled || !o.welcomed then s
    else
      bumpDownstreamInteractionTime o { s with
        downstreamConns := s.downstreamConns ++ [dc]
        numDownstreamConns := s.numDownstreamConns + 1 } dc
  | .disconnected dc =>
    bumpDownstreamInteractionTime o
      (if dc ∈ s.downstreamConns then
        { s with
          downstreamConns := s.downstreamConns.erase dc
          numDownstreamConns := s.numDownstreamConns - 1 }
      else s) dc
  | .disable => updateUser o s false s.downstreamInteractedAt

inductive Event where
  | elapse (n : Nat)
  /-- A client has authenticated, or its connection has ended. -/
  | send (dc : Conn) (gone : Bool)
  | list
  | check
  | post
  /-- The minute of the sweep is over. -/
  | giveUp
  | handle (o : Outcome)

def step (cfg : Config) (s : State) : Event → Option State
  | .elapse n => some { s with now := s.now + n }
  | .send dc gone => some { s with queue := s.queue ++ [if gone then .disconnected dc else .connected dc] }
  | .list =>
    if s.sweep = .idle ∧ cfg.delay ≠ 0 ∧ s.downstreamInteractedAt < s.now - cfg.delay then
      some { s with sweep := .listed }
    else none
  | .check =>
    if s.sweep = .listed then some { s with sweep := if s.numDownstreamConns > 0 then .idle else .checked }
    else none
  -- the sweep waits for the answer, or no longer than its minute
  | .post => if s.sweep = .checked then some { s with sweep := .idle, queue := s.queue ++ [.disable] } else none
  | .giveUp => some { s with sweep := .idle }
  | .handle o =>
    match s.queue with
    | [] => none
    | e :: queue => some (handle cfg o { s with queue } e)

/-- A user with a registered connection stays as it is when the sweep's event is handled. -/
def Spared (cfg : Config) (s : State) : Prop :=
  s.queue.head? = some .disable → s.downstreamConns ≠ [] → ∀ o t, step cfg s (.handle o) = some t →
    t.enabled = s.enabled ∧ t.closed = s.closed

/-- The sweep is about to disable the user. -/
def Outstanding (s : State) : Prop := s.sweep = .checked ∨ .disable ∈ s.queue

/-- No client is welcomed between the count of the sweep and its event. -/
def Alone (s : State) : Event → Prop
  | .handle _ => ∀ dc, s.queue.head? = some (.connected dc) → ¬ Outstanding s
  | _ => True

end Sake.InactiveUsers
