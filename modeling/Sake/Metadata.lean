import Sake.CaseMapping
import Sake.Highlight
import Sake.Lib.Table
import Sake.Strings

namespace Sake.Metadata
open Lib Strings

/-- `database.MessageTarget`. -/
structure MessageTarget where
  id : Int
  target : String
  pinned : Bool
  muted : Bool
  blocked : Bool
  deriving Repr, DecidableEq

structure Row where
  network : Int
  mt : MessageTarget
  deriving Repr, DecidableEq

def Row.name (r : Row) : Int × String := (r.network,r.mt.target)

/-- The MessageTarget table. -/
abbrev MessageTargets := Table (fun r : Row => r.mt.id) Row.name

namespace MessageTargets

/-- The row of the target, or a new record. -/
def getMessageTarget (db : MessageTargets) (network : Int) (target : String) : MessageTarget :=
  ((db.find? (network,target)).map Row.mt).getD ⟨0,target,false,false,false⟩

def setFlags (mt : MessageTarget) (r : Row) : Row :=
  { r with mt := { r.mt with pinned := mt.pinned, muted := mt.muted, blocked := mt.blocked } }

theorem setFlags_id (mt : MessageTarget) (r : Row) : (setFlags mt r).mt.id = r.mt.id := rfl

theorem setFlags_name (mt : MessageTarget) (r : Row) : (setFlags mt r).name = r.name := rfl

/-- Whether the database answers the queries of a command, and the id that a new row gets. -/
structure Answers where
  gets : Bool
  lists : Bool
  stores : Bool
  newID : Int
  deriving Repr, DecidableEq

/-- `StoreMessageTarget`; none is an error. -/
def storeMessageTarget (db : MessageTargets) (answers : Answers) (network : Int) (mt : MessageTarget) :
    Option MessageTargets :=
  if !answers.stores then none
  else if mt.id ≠ 0 then
    some (db.modify mt.id (setFlags mt) (setFlags_id mt) (db.free_of_keeps fun r _ _ => setFlags_name mt r))
  else if fresh : db.NewID answers.newID ∧ db.find? (network,mt.target) = none then
    some (db.insert ⟨network,{ mt with id := answers.newID }⟩ fresh.1.1 fresh.1.2 fresh.2)
  else none

end MessageTargets

/-- The flag in a value, what is announced for it, and whether the value is one. -/
def parseMessageTargetMetadataBool : Option String → Bool × String × Bool
  | none => (false,"0",true)
  | some v => if v = "1" then (true,"1",true) else if v = "0" then (false,"0",true) else (false,"",false)

inductive Key
  | pinned
  | muted
  | blocked
  deriving Repr, DecidableEq

def Key.ofString : String → Option Key
  | "soju.im/pinned" => some .pinned
  | "soju.im/muted" => some .muted
  | "soju.im/blocked" => some .blocked
  | _ => none

def Key.get (k : Key) (mt : MessageTarget) : Bool :=
  match k with
  | .pinned => mt.pinned
  | .muted => mt.muted
  | .blocked => mt.blocked

def Key.set (k : Key) (mt : MessageTarget) (b : Bool) : MessageTarget :=
  match k with
  | .pinned => { mt with pinned := b }
  | .muted => { mt with muted := b }
  | .blocked => { mt with blocked := b }

def flagText (b : Bool) : String := if b then "1" else "0"

def getMessageTargetMetadata (mt : MessageTarget) : List (String × String) :=
  [("soju.im/pinned",flagText mt.pinned),("soju.im/muted",flagText mt.muted),
    ("soju.im/blocked",flagText mt.blocked)]

/-- A connection of one network: what its client was sent, and what every client of the network
was sent. -/
structure State where
  db : MessageTargets
  metadataSubs : List String
  sent : List Message
  relayed : List Message

/-- The network that the connection is bound to. -/
structure Bound where
  network : Int
  casemap : CaseMapping

def message (command : String) (params : List String) : Message := ⟨[],none,command,params⟩

def fail (params : List String) : Message := message "FAIL" ("METADATA" :: params)

def keyInvalid (k : String) : Message := fail ["KEY_INVALID",k,"Invalid key"]

def valueInvalid : Message := fail ["VALUE_INVALID","Invalid value"]

/-- `RPL_KEYVALUE`. -/
def keyValue (target k v : String) : Message := message "761" ["*",target,k,"*",v]

def internalError (target : String) : Message := fail ["INTERNAL_ERROR",target,"Internal error"]

/-- One entry of `setMessageTargetMetadata`: the record is changed in place, before the value is
known to be one. -/
def setEntry (target : String) (mt : MessageTarget) (k : String) (v : Option String) :
    MessageTarget × List Message × List Message :=
  match Key.ofString k with
  | none => (mt,[keyInvalid k],[])
  | some key =>
    let (b,mv,ok) := parseMessageTargetMetadataBool v
    if ok then (key.set mt b,[keyValue target k mv],[message "METADATA" [target,k,"*",mv]])
    else (key.set mt b,[valueInvalid],[])

def setMessageTargetMetadata (target : String) (mt : MessageTarget) :
    List (String × Option String) → MessageTarget × List Message × List Message
  | [] => (mt,[],[])
  | (k,v) :: m =>
    let (mt,sent,relayed) := setEntry target mt k v
    let (mt,sent',relayed') := setMessageTargetMetadata target mt m
    (mt,sent ++ sent',relayed ++ relayed')

/-- SET and CLEAR, with the record that was read. -/
def setAndStore (bound : Option Bound) (answers : MessageTargets.Answers) (target : String)
    (m : List (String × Option String)) (s : State) : State :=
  match bound with
  | none => { s with sent := s.sent ++ m.map fun kv => keyInvalid kv.1 }
  | some b =>
    let mt := MessageTargets.getMessageTarget s.db b.network (b.casemap.apply target)
    let (mt,sent,relayed) := setMessageTargetMetadata target mt m
    match MessageTargets.storeMessageTarget s.db answers b.network mt with
    | some db => { s with db := db, sent := s.sent ++ sent, relayed := s.relayed ++ relayed }
    | none => { s with sent := s.sent ++ sent ++ [internalError target], relayed := s.relayed ++ relayed }

/-- The values of a target; none without a record. -/
def targetMetadata (bound : Option Bound) (target : String) (s : State) : List (String × String) :=
  match bound with
  | none => []
  | some b => getMessageTargetMetadata (MessageTargets.getMessageTarget s.db b.network (b.casemap.apply target))

def metadataKeys : List String := ["soju.im/pinned","soju.im/muted","soju.im/blocked"]

/-- What a client that subscribes to a key is sent: the targets with a flag. -/
def listed (db : MessageTargets) (network : Int) (k : String) : List Message :=
  (db.rows.filter fun r => r.network = network && (r.mt.pinned || r.mt.muted || r.mt.blocked)).filterMap
    fun r => ((getMessageTargetMetadata r.mt).lookup k).map fun v => message "METADATA" [r.mt.target,k,"*",v]

def withoutKey (subs : List String) (k : String) : List String := subs.filter (· != k)

section
variable (u : Unicode)

def lower (s : String) : String := mapChars u.toLower s

/-- The keys of SUB; an error of the database ends the command. -/
def sub (bound : Option Bound) (answers : MessageTargets.Answers) : List String → State → State
  | [], s => s
  | word :: words, s =>
    let k := lower u word
    if metadataKeys.contains k then
      let s := { s with metadataSubs := k :: withoutKey s.metadataSubs k }
      match bound, answers.lists with
      | some _, false => { s with sent := s.sent ++ [internalError "*"] }
      | some b, true =>
        sub bound answers words { s with sent := s.sent ++ listed s.db b.network k ++ [message "770" ["*",k]] }
      | none, _ => sub bound answers words { s with sent := s.sent ++ [message "770" ["*",k]] }
    else sub bound answers words { s with sent := s.sent ++ [keyInvalid k] }

def unsub : List String → State → State
  | [], s => s
  | word :: words, s =>
    let k := lower u word
    if metadataKeys.contains k then
      unsub words { s with
        metadataSubs := withoutKey s.metadataSubs k, sent := s.sent ++ [message "771" ["*",k]] }
    else unsub words { s with sent := s.sent ++ [keyInvalid k] }

def needMoreParams (msg : Message) (s : State) : State :=
  { s with sent := s.sent ++ [message "461" ["*",msg.command,"Not enough parameters"]] }

/-- The subcommands that are about one target. -/
def handleTarget (bound : Option Bound) (answers : MessageTargets.Answers) (msg : Message) (s : State) : State :=
  let target := msg.param 0
  match msg.param 1 with
  | "LIST" =>
    { s with sent := s.sent ++ (targetMetadata bound target s).map fun kv => keyValue target kv.1 kv.2 }
  | "GET" =>
    { s with sent := s.sent ++ (msg.params.drop 2).map fun word =>
        match (targetMetadata bound target s).lookup (lower u word) with
        | some v => keyValue target (lower u word) v
        | none => keyInvalid (lower u word) }
  | "SET" =>
    if msg.params.length < 3 then needMoreParams msg s
    else setAndStore bound answers target [(lower u (msg.param 2),msg.params[3]?)] s
  | "CLEAR" =>
    setAndStore bound answers target
      [("soju.im/pinned",none),("soju.im/muted",none),("soju.im/blocked",none)] s
  | subcommand => { s with sent := s.sent ++ [fail ["INVALID_PARAMS",subcommand,"Unknown command"]] }

/-- METADATA on a registered connection. -/
def handleMetadata (bound : Option Bound) (answers : MessageTargets.Answers) (msg : Message) (s : State) : State :=
  if msg.params.length < 2 then needMoreParams msg s
  else
    match msg.param 1 with
    | "SUB" => sub u bound answers (msg.params.drop 2) s
    | "UNSUB" => unsub u (msg.params.drop 2) s
    | "SUBS" => { s with sent := s.sent ++ s.metadataSubs.map fun k => message "772" ["*",k] }
    | _ =>
      -- the record is read before the subcommand is looked at
      let bound := bound.filter fun _ => msg.param 0 ≠ "*"
      if bound.isSome && !answers.gets then { s with sent := s.sent ++ [internalError (msg.param 0)] }
      else handleTarget u bound answers msg s

end

end Sake.Metadata
