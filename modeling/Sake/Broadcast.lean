import Sake.EventLoop

namespace Sake.Broadcast
open Sake.EventLoop (eventQueueCap)

/-- How a user goroutine broadcasts: the message to the server mask sends plainly,
`server notice` gives up once its context ends. The context is timed when the command
came in as a message, and the user's own one when it was run through `user run`. -/
inductive Path
  | serverMask
  | serverNotice (timed : Bool)
deriving Repr, DecidableEq

/-- What a user goroutine takes `s.lock` for: looking a user up or adding one, which
holds it for a moment, a broadcast, and its own removal when it ends. -/
inductive Purpose
  | getUser
  | createUser (name : String)
  | broadcast (path : Path)
  | leave
deriving Repr, DecidableEq

inductive Activity
  | idle
  | handling
  | locking (purpose : Purpose)
  /-- In `forEachUser`, with the users it still has to visit. -/
  | visiting (path : Path) (rest : List String) (expired : Bool)
  | stopped
deriving Repr, DecidableEq

structure Server where
  lock : Option String
  users : List String
  /-- How many events are queued for each user. -/
  queue : String → Nat
  doing : String → Activity

inductive Action
  /-- Any goroutine but a broadcasting one posts an event. -/
  | post (user : String)
  | take (user : String)
  | finish (user : String)
  /-- The handler calls `s.lock.Lock()`. -/
  | wantLock (user : String) (purpose : Purpose)
  /-- The lock is free. A broadcast visits the users in an order of the map's choice. -/
  | acquire (user : String) (order : List String)
  | send (user : String)
  | expire (user : String)
  | skip (user : String)
  | release (user : String)
deriving Repr, DecidableEq

def Server.setDoing (s : Server) (user : String) (activity : Activity) : Server :=
  { s with doing := Function.update s.doing user activity }

def Server.setQueue (s : Server) (user : String) (n : Nat) : Server :=
  { s with queue := Function.update s.queue user n }

/-- The critical sections; only a broadcast keeps the lock. -/
def locked (s : Server) (user : String) (order : List String) : Purpose → Option Server
  | .getUser => some (s.setDoing user .handling)
  | .createUser name =>
    if name ∈ s.users then some (s.setDoing user .handling)
    else
      let s := { s with users := name :: s.users }.setQueue name 0
      some ((s.setDoing name .idle).setDoing user .handling)
  | .leave => some ({ s with users := s.users.erase user }.setDoing user .stopped)
  | .broadcast path =>
    if order.Perm s.users then
      some ({ s with lock := some user }.setDoing user (.visiting path order false))
    else none

def send (s : Server) (user : String) : Option Server :=
  match s.doing user with
  | .visiting path (u :: rest) expired =>
    if s.queue u < eventQueueCap then
      some ((s.setQueue u (s.queue u + 1)).setDoing user (.visiting path rest expired))
    else none
  | _ => none

/-- Only a timed context ends while its user's goroutine is busy. -/
def expire (s : Server) (user : String) : Option Server :=
  match s.doing user with
  | .visiting (.serverNotice true) rest _ =>
    some (s.setDoing user (.visiting (.serverNotice true) rest true))
  | _ => none

def skip (s : Server) (user : String) : Option Server :=
  match s.doing user with
  | .visiting path (_ :: rest) true => some (s.setDoing user (.visiting path rest true))
  | _ => none

def release (s : Server) (user : String) : Option Server :=
  match s.doing user with
  | .visiting _ [] _ => some ({ s with lock := none }.setDoing user .handling)
  | _ => none

def step (s : Server) : Action → Option Server
  | .post user =>
    if s.queue user < eventQueueCap then some (s.setQueue user (s.queue user + 1)) else none
  | .take user =>
    if s.doing user = .idle ∧ 0 < s.queue user then
      some ((s.setQueue user (s.queue user - 1)).setDoing user .handling)
    else none
  | .finish user =>
    if s.doing user = .handling then some (s.setDoing user .idle) else none
  | .wantLock user purpose =>
    if s.doing user = .handling then some (s.setDoing user (.locking purpose)) else none
  | .acquire user order =>
    match s.lock, s.doing user with
    | none, .locking purpose => locked s user order purpose
    | _, _ => none
  | .send user => send s user
  | .expire user => expire s user
  | .skip user => skip s user
  | .release user => release s user

/-- A server whose users are idle, with any events queued. -/
def start (users : List String) (queue : String → Nat) : Server where
  lock := none
  users := users
  queue := queue
  doing user := if user ∈ users then .idle else .stopped

end Sake.Broadcast
