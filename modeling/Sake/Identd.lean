import Sake.Highlight
import Sake.Strings

/-!
The ident server and the connections that it answers for.
-/

namespace Sake.Identd
open Strings

structure IdentKey where
  remoteHost : String
  remotePort : Int
  localPort : Int
  deriving Repr, DecidableEq

/-- An upstream connection of a user, whose ident is a hash in hexadecimal digits. -/
structure Conn where
  localHost : String
  localPort : Int
  remoteHost : String
  remotePort : Int
  ident : { ident : String // ident ≠ "" }
  deriving Repr, DecidableEq

/-- `newIdentKey` of the addresses of a connection. -/
def Conn.key (c : Conn) : IdentKey := ⟨c.remoteHost,c.remotePort,c.localPort⟩

/-- The connections that are open, and the table. -/
structure State where
  conns : List Conn
  entries : IdentKey → String

def store (s : State) (c : Conn) : State :=
  { conns := c :: s.conns, entries := Function.update s.entries c.key c.ident }

def delete (s : State) (c : Conn) : State :=
  { conns := s.conns.erase c, entries := Function.update s.entries c.key "" }

inductive Event
  | connect (c : Conn)
  | disconnect (c : Conn)

/-- No two connections have the same ends. -/
def step (s : State) : Event → Option State
  | .connect c =>
    if s.conns.any fun d => d.key = c.key ∧ d.localHost = c.localHost then none else some (store s c)
  | .disconnect c => if c ∈ s.conns then some (delete s c) else none

def init : State := ⟨[],fun _ => ""⟩

section
variable (u : Unicode)

def trimSpace (s : String) : String :=
  String.ofList ((s.toList.dropWhile u.isSpace).reverse.dropWhile u.isSpace).reverse

def parseIdentQuery (l : String) : Option (Int × Int) :=
  match splitN ',' 2 l with
  | [localStr,remoteStr] =>
    match parseInt (trimSpace u localStr), parseInt (trimSpace u remoteStr) with
    | some localPort, some remotePort => if localPort ≤ 0 ∨ remotePort ≤ 0 then none else some (localPort,remotePort)
    | _, _ => none
  | _ => none

def noUser (l : String) : String := l ++ " : ERROR : NO-USER\r\n"

def userID (l ident : String) : String := l ++ " : USERID : UNKNOWN : " ++ ident ++ "\r\n"

/-- The answer to a line of a connection from `remoteHost`. -/
def handle (s : State) (remoteHost l : String) : String :=
  match parseIdentQuery u l with
  | none => l ++ " : ERROR : INVALID-PORT\r\n"
  | some (localPort,remotePort) =>
    let ident := s.entries ⟨remoteHost,remotePort,localPort⟩
    if ident = "" then noUser l else userID l ident

end

/-- The answer that names the owner of the connection between the two hosts. -/
def rightAnswer (s : State) (localHost : String) (key : IdentKey) (l : String) : String :=
  match s.conns.find? fun c => c.key = key ∧ c.localHost = localHost with
  | none => noUser l
  | some c => userID l c.ident

/-- A connection that is opened has a key of its own. -/
def Apart (s : State) : Event → Prop
  | .connect c => ∀ d ∈ s.conns, d.key ≠ c.key
  | .disconnect _ => True

end Sake.Identd
