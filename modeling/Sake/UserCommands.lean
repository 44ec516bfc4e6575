import Sake.EventLoop

namespace Sake.UserCommands
open Sake.EventLoop (eventQueueCap)

/-- The service commands, as far as they make a user goroutine wait for another. The
updates without a name and the confirmation prompt of a deletion are `other`. -/
inductive Cmd
  | other (lines : List String)
  | update (target : String)
  | delete (target : String)
  | run (target : String) (cmd : Cmd)
deriving Repr, DecidableEq

/-- What comes back on a reply channel: a printed line, or the end of the request. -/
inductive Reply
  | line (text : String)
  | final
deriving Repr, DecidableEq

/-- A reply channel, with room for one message. -/
structure Chan where
  requester : String
  target : String
  buf : Option Reply
deriving Repr, DecidableEq

inductive Event
  /-- A client's message that holds a service command. -/
  | command (cmd : Cmd)
  | userUpdate (ch : Nat)
  | userRun (ch : Nat) (cmd : Cmd)
  | stop
deriving Repr, DecidableEq

inductive Request
  | update
  | stop
  | run (cmd : Cmd)
deriving Repr, DecidableEq

/-- What a handler does once it has printed its lines. -/
inductive After
  | return
  | awaitMore (target : String) (cmd : Cmd) (ch : Nat)
  | stopSelf
deriving Repr, DecidableEq

/-- What a user goroutine is at. `out` is the reply channel of a command that is run
for another user; such a command has the context of the user it runs as, which does
not end while its goroutine is busy. Other commands have a timed context. -/
inductive Activity
  | idle
  | running (out : Option Nat) (cmd : Cmd)
  | posting (out : Option Nat) (target : String) (req : Request)
  | awaiting (out : Option Nat) (target : String) (req : Request) (ch : Nat)
  | printing (out : Option Nat) (lines : List String) (after : After)
  | ended
deriving Repr, DecidableEq

structure Server where
  users : List String
  queue : String → List Event
  doing : String → Activity
  chans : Nat → Chan
  nextChan : Nat

def Server.setDoing (s : Server) (user : String) (activity : Activity) : Server :=
  { s with doing := Function.update s.doing user activity }

def Server.setQueue (s : Server) (user : String) (events : List Event) : Server :=
  { s with queue := Function.update s.queue user events }

def Server.setBuf (s : Server) (ch : Nat) (buf : Option Reply) : Server :=
  { s with chans := Function.update s.chans ch { s.chans ch with buf := buf } }

def Request.event : Request → Nat → Event
  | .update, ch => .userUpdate ch
  | .stop, _ => .stop
  | .run cmd, ch => .userRun ch cmd

def updatedText (user : String) : String := "updated user \"" ++ user ++ "\""

def deletedText (user : String) : String := "deleted user \"" ++ user ++ "\""

def goodbyeText (user : String) : String :=
  "Goodbye " ++ user ++ ", deleting your account. There will be no further confirmation."

/-- The next turn of `user.run`. -/
def take (s : Server) (user : String) : Option Server :=
  match s.doing user, s.queue user with
  | .idle, e :: events =>
    let s := s.setQueue user events
    match e with
    | .command cmd => some (s.setDoing user (.running none cmd))
    | .userUpdate ch => some (s.setBuf ch (some .final))
    | .userRun ch cmd => some (s.setDoing user (.running (some ch) cmd))
    | .stop => some (s.setDoing user .ended)
  | _, _ => none

/-- `handleUserUpdate`, `handleUserDelete` and `handleUserRun` up to their first wait. -/
def begin (users : List String) (user : String) (out : Option Nat) : Cmd → Activity
  | .other lines => .printing out lines .return
  | .update target =>
    if target = user then .printing out [updatedText user] .return
    else if target ∈ users then .posting out target .update
    else .printing out [] .return
  | .delete target =>
    if target ∉ users then .printing out [] .return
    else if target = user then .printing out [goodbyeText user] .stopSelf
    else .posting out target .stop
  | .run target cmd =>
    if target = user then .running out cmd
    else if target ∈ users then .posting out target (.run cmd)
    else .printing out [] .return

def start (s : Server) (user : String) : Option Server :=
  match s.doing user with
  | .running out cmd => some (s.setDoing user (begin s.users user out cmd))
  | _ => none

def post (s : Server) (user : String) : Option Server :=
  match s.doing user with
  | .posting out target req =>
    if (s.queue target).length < eventQueueCap then
      let ch := s.nextChan
      let s := s.setQueue target (s.queue target ++ [req.event ch])
      some ({ s with
        chans := Function.update s.chans ch ⟨user,target,none⟩
        nextChan := ch + 1 }.setDoing user (.awaiting out target req ch))
    else none
  | _ => none

/-- The requester goes on with what it waits for: a reply, or the end of a goroutine. -/
def receive (s : Server) (user : String) : Option Server :=
  match s.doing user with
  | .posting out target .stop =>
    if s.doing target = .ended then some (s.setDoing user (.printing out [deletedText target] .return))
    else none
  | .awaiting out target .stop _ =>
    if s.doing target = .ended then some (s.setDoing user (.printing out [deletedText target] .return))
    else none
  | .awaiting out target .update ch =>
    match (s.chans ch).buf with
    | some _ =>
      some ((s.setBuf ch none).setDoing user (.printing out [updatedText target] .return))
    | none => none
  | .awaiting out target (.run cmd) ch =>
    match (s.chans ch).buf with
    | some (.line text) =>
      -- an empty line is taken for the end
      if text = "" then some ((s.setBuf ch none).setDoing user (.printing out [] .return))
      else match out with
        | none => some (s.setBuf ch none)
        | some _ => some ((s.setBuf ch none).setDoing user
          (.printing out [text] (.awaitMore target cmd ch)))
    | some .final => some ((s.setBuf ch none).setDoing user (.printing out [] .return))
    | none => none
  | _ => none

/-- A timed context ends. An update that was posted is waited for all the same, and a
user that deletes itself waits without a deadline. -/
def timeout (s : Server) (user : String) : Option Server :=
  match s.doing user with
  | .posting none target _ =>
    if target ≠ user then some (s.setDoing user (.printing none [] .return)) else none
  | .awaiting none target req _ =>
    if target ≠ user ∧ req ≠ .update then some (s.setDoing user (.printing none [] .return))
    else none
  | _ => none

/-- A line goes to the reply channel. -/
def print (s : Server) (user : String) : Option Server :=
  match s.doing user with
  | .printing (some ch) (text :: lines) after =>
    if (s.chans ch).buf = none then
      some ((s.setBuf ch (some (.line text))).setDoing user (.printing (some ch) lines after))
    else none
  | _ => none

/-- The lines are printed. Those for a client never hold its user up. -/
def finish (s : Server) (user : String) : Option Server :=
  match s.doing user with
  | .printing out lines after =>
    if out = none ∨ lines = [] then
      match after, out with
      | .awaitMore target cmd ch, _ => some (s.setDoing user (.awaiting out target (.run cmd) ch))
      | .stopSelf, _ => some (s.setDoing user (.posting out user .stop))
      | .return, none => some (s.setDoing user .idle)
      | .return, some ch =>
        if (s.chans ch).buf = none then some ((s.setBuf ch (some .final)).setDoing user .idle)
        else none
    else none
  | _ => none

inductive Action
  | arrive (user : String) (cmd : Cmd)
  | take (user : String)
  | start (user : String)
  | post (user : String)
  | receive (user : String)
  | timeout (user : String)
  | print (user : String)
  | finish (user : String)
  /-- A stopped user is taken off the server's map. -/
  | remove (user : String)
deriving Repr, DecidableEq

def step (s : Server) : Action → Option Server
  | .arrive user cmd =>
    if (s.queue user).length < eventQueueCap then
      some (s.setQueue user (s.queue user ++ [.command cmd]))
    else none
  | .take user => take s user
  | .start user => start s user
  | .post user => post s user
  | .receive user => receive s user
  | .timeout user => timeout s user
  | .print user => print s user
  | .finish user => finish s user
  | .remove user =>
    if s.doing user = .ended then some { s with users := s.users.erase user } else none

def init (users : List String) : Server where
  users := users
  queue _ := []
  doing user := if user ∈ users then .idle else .ended
  chans _ := ⟨"","",none⟩
  nextChan := 0

end Sake.UserCommands
