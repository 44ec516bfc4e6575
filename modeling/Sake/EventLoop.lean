import Sake.Irc
import Sake.Lib.Fifo
import Mathlib.Logic.Function.Basic

namespace Sake.EventLoop

/-- Where `serveConn` is with a connection: reading registration commands, dropping a
connection that failed to register, about to announce the connection to its user,
passing on its messages, or through with it. -/
inductive Phase
  | registering
  | dropped
  | registered
  | serving
  | done
deriving Repr, DecidableEq

structure DownstreamConn where
  phase : Phase
  registered : Bool
  /-- `dc.user` is set. -/
  hasUser : Bool
  closed : Bool
  extendedIsupport : Bool
deriving Repr, DecidableEq

inductive Event
  | downstreamConnected (dc : Nat)
  | downstreamMessage (dc : Nat) (msg : Message)
  | downstreamDisconnected (dc : Nat)
  | userUpdate (enabled : Option Bool) (password : Bool)
  | disconnectSession (dc : Nat)
  | stop
deriving Repr, DecidableEq

/-- A call of `handleMessageRegistered`, with what it found. -/
structure Call where
  dc : Nat
  hasUser : Bool
  attached : Bool
deriving Repr, DecidableEq

structure User where
  dcs : Nat → DownstreamConn
  events : List Event
  downstreamConns : List Nat
  enabled : Bool
  enableUsersOnAuth : Bool
  running : Bool
  calls : List Call

/-- What the environment contributes to the handling of one event. -/
structure Outcome where
  /-- The updated user record could be stored. -/
  stored : Bool
  /-- `dc.welcome` returned no error. -/
  welcome : Bool
  /-- The handler returned an error that is no IRC reply. -/
  failed : Bool
  panicked : Bool
  /-- The connections the handler closed, and the user's status if it changed it. -/
  closes : List Nat
  enabled : Option Bool
deriving Repr, DecidableEq

/-- The capacity of `user.events`. -/
def eventQueueCap : Nat := 64

def User.setConn (u : User) (dc : Nat) (f : DownstreamConn → DownstreamConn) : User :=
  { u with dcs := Function.update u.dcs dc (f (u.dcs dc)) }

/-- `Close`, on each of the connections. -/
def User.close (u : User) (dcs : List Nat) : User :=
  { u with dcs := fun dc => if dc ∈ dcs then { u.dcs dc with closed := true } else u.dcs dc }

def User.post (u : User) (e : Event) : Option User :=
  if u.events.length < eventQueueCap then some { u with events := u.events ++ [e] } else none

inductive Handler
  | quit
  | isupport
  | registered
  | unregistered
deriving Repr, DecidableEq

def dispatch (conn : DownstreamConn) (msg : Message) : Handler :=
  if msg.command = "QUIT" then .quit
  else if msg.command = "ISUPPORT" then .isupport
  else if conn.registered then .registered
  else .unregistered

/-- What the handler of a command does to the user is up to the environment. -/
def handleMessageRegistered (u : User) (o : Outcome) (dc : Nat) : User :=
  let call : Call := ⟨dc,(u.dcs dc).hasUser,decide (dc ∈ u.downstreamConns)⟩
  let u := { u with
    calls := u.calls ++ [call]
    enabled := o.enabled.getD u.enabled
    running := u.running && !o.panicked }
  u.close o.closes

/-- The flag tells whether an error is returned. `ISUPPORT` returns one that is an IRC
reply, which the caller takes for a failure. -/
def handleMessage (u : User) (o : Outcome) (dc : Nat) (msg : Message) : User × Bool :=
  match dispatch (u.dcs dc) msg with
  | .quit => (u,false)
  | .isupport => (u,!(u.dcs dc).extendedIsupport)
  | .unregistered => (u,o.failed)
  | .registered => (handleMessageRegistered u o dc,o.failed)

def updateUser (u : User) (o : Outcome) (enabled : Option Bool) : User :=
  if o.stored then
    let u := { u with enabled := enabled.getD u.enabled }
    -- a network that fails to update returns early
    if !u.enabled && !o.failed then u.close u.downstreamConns else u
  else u

def handleConnected (u : User) (o : Outcome) (dc : Nat) : User :=
  let u := if !u.enabled && u.enableUsersOnAuth then updateUser u o (some true) else u
  -- the connection gets an error message, but stays open
  if !u.enabled then u
  -- `welcome` refuses unregistered connections and those it has seen
  else if !(u.dcs dc).registered || (u.dcs dc).hasUser then { u with running := false }
  else
    let u := u.setConn dc fun conn => { conn with hasUser := true }
    if o.welcome then { u with downstreamConns := u.downstreamConns ++ [dc] } else u

def handleEvent (u : User) (o : Outcome) : Event → User
  | .downstreamConnected dc => handleConnected u o dc
  | .downstreamDisconnected dc => { u with downstreamConns := u.downstreamConns.erase dc }
  | .downstreamMessage dc msg =>
    if (u.dcs dc).closed then u
    else
      let (u,failed) := handleMessage u o dc msg
      if failed then u.close [dc] else u
  | .userUpdate enabled password =>
    let u := updateUser u o enabled
    if password then u.close u.downstreamConns else u
  | .disconnectSession dc => if dc ∈ u.downstreamConns then u.close [dc] else u
  | .stop => { u.close u.downstreamConns with running := false }

inductive Action
  /-- `serveConn` handles a message of a connection that is not registered yet. -/
  | handshake (dc : Nat) (o : Outcome) (msg : Message) (registers : Bool)
  | announce (dc : Nat)
  | read (dc : Nat) (msg : Message)
  | hangUp (dc : Nat)
  /-- Another goroutine posts an event that is not about a connection's messages. -/
  | userUpdate (enabled : Option Bool) (password : Bool)
  | disconnectSession (dc : Nat)
  | stop
  | handle (o : Outcome)
  | close (dc : Nat)
  | configure (enableUsersOnAuth : Bool)
deriving Repr, DecidableEq

/-- One turn of the registration loop. -/
def runUntilRegistered (u : User) (dc : Nat) (o : Outcome) (msg : Message) (registers : Bool) :
    User :=
  let (u,failed) := handleMessage u o dc msg
  u.setConn dc fun conn =>
    if failed then { conn with phase := .dropped }
    else if registers then { conn with phase := .registered, registered := true }
    else conn

def step (u : User) : Action → Option User
  | .handshake dc o msg registers =>
    if (u.dcs dc).phase = .registering then some (runUntilRegistered u dc o msg registers) else none
  | .announce dc =>
    if (u.dcs dc).phase = .registered then
      (u.setConn dc fun conn => { conn with phase := .serving }).post (.downstreamConnected dc)
    else none
  | .read dc msg =>
    if (u.dcs dc).phase = .serving then u.post (.downstreamMessage dc msg) else none
  | .hangUp dc =>
    if (u.dcs dc).phase = .serving then
      (u.setConn dc fun conn => { conn with phase := .done }).post (.downstreamDisconnected dc)
    else none
  | .userUpdate enabled password => u.post (.userUpdate enabled password)
  | .disconnectSession dc => u.post (.disconnectSession dc)
  | .stop => u.post .stop
  | .handle o =>
    match u.running, u.events with
    | true, e :: events => some (handleEvent { u with events := events } o e)
    | _, _ => none
  | .close dc => some (u.close [dc])
  | .configure enableUsersOnAuth => some { u with enableUsersOnAuth := enableUsersOnAuth }

/-- A user that was just started, with connections yet to come. -/
def start (enabled enableUsersOnAuth : Bool) (extendedIsupport : Nat → Bool) : User where
  dcs dc := ⟨.registering,false,false,false,extendedIsupport dc⟩
  events := []
  downstreamConns := []
  enabled := enabled
  enableUsersOnAuth := enableUsersOnAuth
  running := true
  calls := []

end Sake.EventLoop
