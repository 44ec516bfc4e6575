import Sake.DbStore
import Sake.Lib.Files
import Sake.LogPath
import Sake.ZncLog

namespace Sake.FsStore
open MsgStore Lib ZncLog

def fsMessageStoreMaxFiles : Nat := 20

/-- A file kept open by the store, under the name it was opened with. -/
structure Handle where
  name : String
  inode : Nat
  lastUse : Int
deriving Repr, DecidableEq

/-- What the writes of a user's store depend on. `byLastUse` is the sorting of the open
files, which leaves the order of those last used at the same time open. -/
structure Host where
  unicode : Unicode
  zone : Time.Zone
  root : String
  byLastUse : List (String × Handle) → List (String × Handle)
  byLastUse_perm : ∀ files, (byLastUse files).Perm files
  byLastUse_sorted : ∀ files, (byLastUse files).Pairwise fun a b => a.2.lastUse ≤ b.2.lastUse

/-- A line of a log file, with what it was written for. -/
structure Line where
  network : Int
  entity : String
  t : Int
  text : String
deriving Repr, DecidableEq

def Line.bytes (line : Line) : List Char := line.text.toList ++ ['\n']

/-- The disk, and the files that are open, by entity. -/
structure Store where
  disk : Files.Disk (List Char) Line
  files : List (String × Handle)

def Store.empty : Store := ⟨.empty,[]⟩

/-- The way a path leads. The paths of a store all begin at the same place. -/
def place (path : String) : List (List Char) := (Paths.parse path.toList).names

def fileBytes (lines : List Line) : List Char := lines.flatMap Line.bytes

namespace Store

def readFile (s : Store) (path : String) : Option (List Char) :=
  (s.disk.read (place path)).map fileBytes

/-- The open file of an entity, if it bears the path. -/
def cached (s : Store) (entity path : String) : Option Handle :=
  (s.files.lookup entity).filter fun h => h.name = path

/-- The file to write to. Directories that were created stay, also when it cannot be
opened. -/
def openFile (s : Store) (entity path : String) : Except Failure Nat × Store :=
  match s.cached entity path with
  | some h => (.ok h.inode,s)
  | none =>
    match s.disk.mkdirAll (place path).dropLast with
    | none => (.error (.error "failed to create message logs directory"),s)
    | some disk =>
      match disk.openAppend (place path) with
      | none => (.error (.error "failed to open message log file"),{ s with disk })
      | some (disk,i) => (.ok i,{ s with disk })

end Store

def setFile (files : List (String × Handle)) (entity : String) (h : Handle) :
    List (String × Handle) :=
  (entity,h) :: files.filter fun f => f.1 ≠ entity

section
variable (host : Host)

/-- The files that stay open when there are too many. -/
def evict (files : List (String × Handle)) : List (String × Handle) :=
  if fsMessageStoreMaxFiles < files.length then
    let gone := (host.byLastUse files).take (files.length - fsMessageStoreMaxFiles)
    files.filter fun f => f.1 ∉ gone.map Prod.fst
  else files

def formatFSMsgID (network : Int) (entity : String) (t offset : Int) : MsgID :=
  let d := Time.dateOf host.zone t
  ⟨network,entity,.fs d.year d.month d.day offset⟩

/-- The line for a message, if it is one that is logged. -/
def lineOf (network : Database.Network) (entity : String) (msg : Message) (now : Int) :
    Except Failure (Option Line) := do
  let t ← DbStore.messageTime now msg
  let text ← marshalLine host.unicode host.zone msg t
  return if text = "" then none else some ⟨network.id,entity,t,text⟩

def linePath (network : Database.Network) (line : Line) : String :=
  logPath host.zone host.root network line.entity line.t

/-- Writes a line, unless its file was just closed to keep the number of open files down. -/
def writeLine (s : Store) (network : Database.Network) (line : Line) (now : Int) :
    Except Failure MsgID × Store :=
  let path := linePath host network line
  match s.openFile line.entity path with
  | (.error e,s) => (.error e,s)
  | (.ok i,s) =>
    let files := evict host (setFile s.files line.entity ⟨path,i,now⟩)
    if (files.lookup line.entity).isNone then
      (.error (.error "failed to generate message ID: file already closed"),{ s with files })
    else
      let size := byteLen (fileBytes (s.disk.content i))
      (.ok (formatFSMsgID host line.network line.entity line.t size),
        { s with files, disk := s.disk.append i line })

/-- Messages that are not logged have no id. -/
def append (s : Store) (network : Database.Network) (entity : String) (msg : Message) (now : Int) :
    Except Failure (Option MsgID) × Store :=
  match lineOf host network entity msg now with
  | .error e => (.error e,s)
  | .ok none => (.ok none,s)
  | .ok (some line) =>
    match writeLine host s network line now with
    | (.error e,s) => (.error e,s)
    | (.ok id,s) => (.ok (some id),s)

def lastMsgID (s : Store) (network : Database.Network) (entity : String) (t : Int) : MsgID :=
  match s.readFile (logPath host.zone host.root network entity t) with
  | none => formatFSMsgID host network.id entity t (-1)
  | some content => formatFSMsgID host network.id entity t (byteLen content - 1)

def networkDir (network : Database.Network) : String :=
  joinPath [host.root,escapeFilename network.getName]

def renameNetwork (s : Store) (oldNet newNet : Database.Network) : Except Failure Store :=
  let oldDir := place (networkDir host oldNet)
  let newDir := place (networkDir host newNet)
  if (s.disk.node newDir).isSome then .error (.error "destination already exists")
  else
    match s.disk.move oldDir newDir with
    | none => .error (.error "rename failed")
    | some disk => .ok { s with disk }

/-- The networks of a user, their message store, and the lines appended to it so far. -/
structure Session where
  store : Store
  networks : List Database.Network
  appended : List Line

inductive Action where
  | append (network : Int) (entity : String) (msg : Message) (now : Int)
  | update (record : Database.Network)
deriving Repr, DecidableEq

/-- What `checkNetwork` asks of a name: it is not empty, does not look like a flag, and no
other network has it. -/
def nameAllowed (networks : List Database.Network) (record : Database.Network) : Bool :=
  record.getName ≠ "" && record.getName.toList.head? ≠ some '-' &&
    networks.all fun net => net.getName ≠ record.getName || net.id = record.id

def findNetwork (networks : List Database.Network) (id : Int) : Option Database.Network :=
  networks.find? fun net => net.id = id

def replaceNetwork (networks : List Database.Network) (record : Database.Network) :
    List Database.Network :=
  networks.map fun net => if net.id = record.id then record else net

/-- A step of a session in which every renaming that is asked for succeeds. -/
def sessionStep (s : Session) : Action → Option Session
  | .append id entity msg now =>
    (findNetwork s.networks id).map fun net =>
      match lineOf host net entity msg now, append host s.store net entity msg now with
      | .ok (some line), (.ok _,store) => { s with store, appended := s.appended ++ [line] }
      | _, (_,store) => { s with store }
  | .update record =>
    match findNetwork s.networks record.id with
    | none => none
    | some net =>
      if ¬ nameAllowed s.networks record then none
      else if record.getName = net.getName then
        some { s with networks := replaceNetwork s.networks record }
      else
        match renameNetwork host s.store net record with
        | .error _ => none
        | .ok store => some { s with store, networks := replaceNetwork s.networks record }

def startSession (networks : List Database.Network) : Session := ⟨.empty,networks,[]⟩

/-- The place for a line, under the present name of its network. -/
def linePlace (networks : List Database.Network) (line : Line) : Option (List (List Char)) :=
  (findNetwork networks line.network).map fun net => place (linePath host net line)

/-- Every line appended is in the file for its network, entity and day, which holds just the
lines appended for it, and none is in the directory of another network. -/
structure Placed (s : Session) : Prop where
  kept : ∀ line ∈ s.appended, ∃ p, linePlace host s.networks line = some p ∧
    s.store.disk.read p = some (s.appended.filter fun other => linePlace host s.networks other = some p)
  apart : ∀ p lines, s.store.disk.read p = some lines → ∀ line ∈ lines, ∀ net ∈ s.networks,
    place (networkDir host net) <+: p → net.id = line.network

/-- The directories of the networks differ. -/
def Apart (networks : List Database.Network) : Prop :=
  (networks.map fun net => escapeFilename net.getName).Nodup

instance (networks : List Database.Network) : Decidable (Apart networks) :=
  inferInstanceAs (Decidable (List.Nodup _))

/-- Networks as a user has them: with different ids and proper names. -/
structure Proper (networks : List Database.Network) : Prop where
  ids : (networks.map Database.Network.id).Nodup
  named : ∀ net ∈ networks, net.getName ≠ ""
  apart : Apart networks

/-- A file open under the name of the log is the log, and the directories of the networks
differ. -/
def Trusty (s : Session) : Action → Prop
  | .append id entity msg now => ∀ net line h, findNetwork s.networks id = some net →
      lineOf host net entity msg now = .ok (some line) →
      s.store.cached entity (linePath host net line) = some h →
      s.store.disk.node (place (linePath host net line)) = some (.file h.inode)
  | .update record => Apart (replaceNetwork s.networks record)

end

end Sake.FsStore
