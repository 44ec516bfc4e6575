import Sake.HandleMessage

namespace Sake.Monitor
open Strings Upstream

def command (params : List String) : Message := ⟨[],none,"MONITOR",params⟩

/-- The loop of `GenerateMonitor`. A target that is too long for a message leaves an empty one behind. -/
def generateLoop (subcmd : String) (maxLength : Nat) : List String → List String → Nat → List Message
  | [], buf, _ => if buf = [] then [] else [command [subcmd,",".intercalate buf]]
  | target :: targets, buf, n =>
    if maxLength < n + target.utf8ByteSize + 1 then
      command [subcmd,",".intercalate buf] :: generateLoop subcmd maxLength targets [target] (target.utf8ByteSize + 1)
    else generateLoop subcmd maxLength targets (buf ++ [target]) (n + target.utf8ByteSize + 1)

/-- `xirc.GenerateMonitor` -/
def generateMonitor (subcmd : String) (targets : List String) : List Message :=
  generateLoop subcmd (512 - ("MONITOR " ++ subcmd ++ " ").utf8ByteSize) targets [] 0

section UpdateMonitor
variable (uc : Conn)

/-- A client asks for the nick, and it is monitored already. -/
def seen (nick : String) : Bool :=
  uc.dcMonitored.any fun target =>
    uc.equalCasemap target nick && !uc.equalCasemap target Live.serviceNick &&
      uc.monitored.has (uc.casemap.apply target)

def addTarget (addList : List String) (target : String) : List String :=
  let targetCM := uc.casemap.apply target
  if uc.equalCasemap target Live.serviceNick || uc.monitored.has targetCM || addList.contains targetCM then addList
  else addList ++ [targetCM]

/-- The nick we want is neither ours nor marked as obtained. -/
def desired : Bool := !uc.isOurNick uc.wantNick.1 && !uc.hasDesiredNick

def addList : List String :=
  let addList := uc.dcMonitored.foldl (addTarget uc) []
  let wantNickCM := uc.casemap.apply uc.wantNick.1
  if !addList.contains wantNickCM && !uc.monitored.has uc.wantNick.1 && desired uc then addList ++ [wantNickCM]
  else addList

def removeList : List String := uc.monitored.names.filter fun nick => !seen uc nick

/-- What `updateMonitor` sends. What it does to the connection is `Conn.updateMonitor`. -/
def monitorMessages : List Message :=
  if uc.isupport.any fun kv => kv.1 == "MONITOR" then
    let removeAll := uc.monitored.names.all fun nick => !seen uc nick
    if removeAll && (addList uc).isEmpty && !(removeList uc).isEmpty then [command ["C"]]
    else generateMonitor "-" (removeList uc) ++ generateMonitor "+" (addList uc)
  else []

end UpdateMonitor

/-- A client of the network, and the nicks that it monitors. -/
structure Client where
  id : Nat
  monitored : CasedMap Unit

/-- One target of `MONITOR +` or `MONITOR -`. -/
def monitorTarget (add : Bool) (monitored : CasedMap Unit) (target : String) : CasedMap Unit :=
  if add then
    -- a hard limit, so that clients do not fill the map
    if 1000 ≤ monitored.map.len then monitored else monitored.set target ()
  else monitored.del target

/-- What a client monitors after the command, if the command has the connection updated. -/
def handleMonitor (env : Upstream.Env) (uc : Conn) (msg : Message) (monitored : CasedMap Unit) :
    Option (CasedMap Unit) :=
  match msg.params with
  | [] => none
  | subcommand :: params =>
    if upper env subcommand = "+" ∨ upper env subcommand = "-" then
      params.head?.map fun targets => (split ',' targets).foldl (monitorTarget (subcommand == "+")) monitored
    else if upper env subcommand = "C" then some (.new uc.casemap)
    else none

/-- The nick we want is free: we ask for it. -/
def askForNick (uc : Conn) (online : Bool) (names : List String) : List Message :=
  if !online && desired uc && names.any fun name => uc.equalCasemap name uc.wantNick.1 then
    [⟨[],none,"NICK",[uc.wantNick.1]⟩]
  else []

section Server
variable (cm : CaseMapping)

def equal (a b : String) : Bool := cm.apply a == cm.apply b

def targetsOf (msg : Message) : List String := (split ',' (msg.param 1)).filter (· != "")

def addToList (server : List String) (target : String) : List String :=
  if server.any (equal cm target) then server else server ++ [target]

/-- A server executes a command on its list. -/
def execute (server : List String) (msg : Message) : List String :=
  if msg.command = "MONITOR" then
    match msg.param 0 with
    | "+" => (targetsOf msg).foldl (addToList cm) server
    | "-" => server.filter fun target => !(targetsOf msg).any (equal cm target)
    | "C" => []
    | _ => server
  else server

/-- The targets that the server answers for. -/
def answersTo (msg : Message) : List String :=
  if msg.command = "MONITOR" ∧ msg.param 0 = "+" then targetsOf msg else []

/-- What is owed after an answer about these nicks. -/
def settle : List String → List String → Option (List String)
  | owed, [] => some owed
  | owed, name :: names => if owed.any (equal cm name) then settle (owed.eraseP (equal cm name)) names else none

end Server

/-- An upstream connection, the clients of its network, the commands that the server has not executed, the
server's list and the targets that it has not answered for. -/
structure State where
  conn : Conn
  clients : List Client
  sent : List Message
  server : List String
  owed : List String

inductive Event
  | attach (id : Nat)
  | detach (id : Nat)
  | client (id : Nat) (msg : Message)
  /-- The server executes the oldest command. -/
  | execute
  /-- The server says of targets whether they are online. -/
  | answer (online : Bool) (texts : List String)
  /-- We get another nick. -/
  | ownNick (nick : String)

namespace State
variable (s : State)

/-- The connection, with what its clients monitor now. -/
def synced : Conn := { s.conn with dcMonitored := s.clients.flatMap fun dc => dc.monitored.names }

/-- `updateMonitor` -/
def update : State :=
  { s with conn := s.synced.updateMonitor, sent := s.sent ++ monitorMessages s.synced }

def withClients (clients : List Client) : State := { s with clients }

/-- The targets that we have asked the server to add and not heard of. -/
def pending : List String := s.owed ++ s.sent.flatMap answersTo

end State

def answerMessage (uc : Conn) (online : Bool) (texts : List String) : Message :=
  ⟨[],none,if online then "730" else "731",[uc.nick,",".intercalate texts]⟩

def setMonitored (id : Nat) (monitored : CasedMap Unit) (clients : List Client) : List Client :=
  clients.map fun dc => if dc.id = id then { dc with monitored } else dc

section Steps
variable (env : Upstream.Env) (s : State)

/-- The clients after a command of one of them, if the command has the connection updated. -/
def clientsAfter (id : Nat) (msg : Message) : Option (List Client) :=
  (s.clients.find? fun dc => dc.id = id).bind fun dc =>
    (handleMonitor env s.conn msg dc.monitored).map fun monitored => setMonitored id monitored s.clients

def answer (online : Bool) (texts : List String) (owed : List String) : State :=
  let msg := answerMessage s.conn online texts
  match Upstream.handleMonitor env msg s.conn with
  | .ok _ uc =>
    { s with conn := uc, owed, sent := s.sent ++ askForNick s.conn online (texts.map fun text => (env.parsePrefix text).name) }
  | .error _ uc => { s with conn := uc, owed }

def step (e : Event) : Option State :=
  match e with
  | .attach id =>
    if s.clients.any fun dc => dc.id = id then none
    else some (s.withClients (s.clients ++ [⟨id,.new s.conn.casemap⟩]))
  | .execute =>
    match s.sent with
    | [] => none
    | msg :: sent =>
      some { s with sent, server := execute s.conn.casemap s.server msg, owed := s.owed ++ answersTo msg }
  | .answer online texts =>
    if texts ≠ [] ∧ ∀ text ∈ texts, ',' ∉ text.toList then
      (settle s.conn.casemap s.owed (texts.map fun text => (env.parsePrefix text).name)).map (answer env s online texts)
    else none
  | .ownNick nick => some { s with conn := s.conn.renamed nick }.update
  | .detach id => some (s.withClients (s.clients.filter fun dc => dc.id != id)).update
  | .client id msg =>
    match clientsAfter env s id msg with
    | none => some s
    | some clients => some (s.withClients clients).update

end Steps

/-- The connection learns that the server has the command, with some clients attached already. -/
def start (uc : Conn) (clients : List Client) : State := State.update ⟨uc,clients,[],[],[]⟩

/-- Every command has been executed and answered. -/
def Idle (s : State) : Prop := s.sent = [] ∧ s.owed = []

instance (s : State) : Decidable (Idle s) := inferInstanceAs (Decidable (_ ∧ _))

/-- A client asks for the nick, which is not that of the service. -/
def wanted (cm : CaseMapping) (clients : List Client) (name : String) : Bool :=
  !equal cm name Live.serviceNick && clients.any fun dc => dc.monitored.names.any (equal cm name)

end Sake.Monitor
