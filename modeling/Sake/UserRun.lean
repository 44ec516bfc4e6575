import Sake.Irc

namespace Sake.UserRun

/-- What the target of a command sends back: a printed line, or the command's error. -/
structure UserRunMsg where
  message : String
  err : Option String
deriving Repr, DecidableEq

/-- The loop of `RunCommand` and `handleUserRun`. -/
inductive Requester
  | waiting (lines : List String)
  | returned (lines : List String) (err : Option String)
  /-- The context ended. -/
  | timedOut (lines : List String)
deriving Repr, DecidableEq

/-- A command on its way: what the target has yet to send, the reply channel, which
holds one message, and the requester. -/
structure Exchange where
  todo : List UserRunMsg
  ch : Option UserRunMsg
  requester : Requester
deriving Repr, DecidableEq

inductive Action
  | send
  | receive
  | giveUp
deriving Repr, DecidableEq

def printed (text : String) : UserRunMsg := ⟨text,none⟩

/-- What the target sends for a command that prints `lines` and returns `err`. -/
def replies (lines : List String) (err : Option String) : List UserRunMsg :=
  lines.map printed ++ [⟨"",err⟩]

def start (lines : List String) (err : Option String) : Exchange :=
  ⟨replies lines err,none,.waiting []⟩

/-- The target waits for room in the channel. Its other way out of a send, the end of
its own context, only opens once its goroutine has returned. -/
def send (s : Exchange) : Option Exchange :=
  match s.todo, s.ch with
  | msg :: todo, none => some { s with todo := todo, ch := some msg }
  | _, _ => none

def receive (s : Exchange) : Option Exchange :=
  match s.requester, s.ch with
  | .waiting lines, some msg =>
    let requester :=
      if msg.message ≠ "" then .waiting (lines ++ [msg.message]) else .returned lines msg.err
    some { s with ch := none, requester := requester }
  | _, _ => none

def giveUp (s : Exchange) : Option Exchange :=
  match s.requester with
  | .waiting lines => some { s with requester := .timedOut lines }
  | _ => none

def step (s : Exchange) : Action → Option Exchange
  | .send => send s
  | .receive => receive s
  | .giveUp => giveUp s

/-- The target has handled the event and goes on to the next one. -/
def Exchange.handled (s : Exchange) : Prop := s.todo = []

/-- Neither side can go on. -/
def Exchange.AtRest (s : Exchange) : Prop := send s = none ∧ receive s = none

/-- The replies the requester has not taken. -/
def Exchange.unread (s : Exchange) : List UserRunMsg := s.ch.toList ++ s.todo

end Sake.UserRun
