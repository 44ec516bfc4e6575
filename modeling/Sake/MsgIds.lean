import Sake.Lib.Codec
import Sake.Time

/-!
How the message IDs of the stores are written: BARE values, in base64. Both encodings
are taken to be such that what was written can be read.
-/

namespace Sake.MsgIds
open Lib

structure Env where
  uint : Codec UInt64
  int : Codec Int
  string : Codec String
  encodeToString : List UInt8 → String
  decodeString : String → Option (List UInt8)
  decode_encode : ∀ bytes, decodeString (encodeToString bytes) = some bytes
  zone : Time.Zone

/-- The bodies of the IDs of one store: their type, and how they are written. -/
structure Body (α : Type) where
  type : UInt64
  codec : Codec α

inductive ParseError where
  | malformed
  | version (got : UInt64)
  | type (got want : UInt64)
deriving Repr, DecidableEq

def msgIDVersion : UInt64 := 0

section
variable (env : Env)

/-- Version, network, target and type. -/
def msgIDHeader : Codec (UInt64 × Int × String × UInt64) :=
  env.uint.pair (env.int.pair (env.string.pair env.uint))

def formatMsgID (netID : Int) (target : String) (body : Body α) (a : α) : String :=
  env.encodeToString ((msgIDHeader env).write (msgIDVersion,netID,target,body.type) ++ body.codec.write a)

/-- `ParseMsgID` up to the body: what the header says, and the bytes after it. -/
def parseHeader (s : String) : Except ParseError ((Int × String × UInt64) × List UInt8) :=
  match (env.decodeString s).bind (msgIDHeader env).read with
  | none => .error .malformed
  | some ((version,header),rest) =>
    if version ≠ msgIDVersion then .error (.version version) else .ok (header,rest)

/-- `ParseMsgID` with a nil body. -/
def parseNilMsgID (s : String) : Except ParseError (Int × String) :=
  (parseHeader env s).map fun ((netID,target,_),_) => (netID,target)

def parseMsgID (body : Body α) (s : String) : Except ParseError (Int × String × α) :=
  (parseHeader env s).bind fun ((netID,target,type),rest) =>
    if type ≠ body.type then .error (.type type body.type)
    else match body.codec.read rest with
      | none => .error .malformed
      | some (a,_) => .ok (netID,target,a)

def memoryMsgID : Body UInt64 := ⟨1,env.uint⟩

/-- Year, month and day, and the offset. -/
def fsMsgID : Body ((Int × Int × Int) × Int) := ⟨2,(env.int.pair (env.int.pair env.int)).pair env.int⟩

def dbMsgID : Body UInt64 := ⟨3,env.uint⟩

def newDate (t : Int) : Int × Int × Int :=
  let d := Time.dateOf env.zone t
  (d.year,d.month,d.day)

def dateTime (d : Int × Int × Int) : Int := Time.date env.zone ⟨d.1,d.2.1,d.2.2⟩ 0 0 0 0

def formatMemoryMsgID (netID : Int) (entity : String) (seq : UInt64) : String :=
  formatMsgID env netID entity (memoryMsgID env) seq

def parseMemoryMsgID (s : String) : Except ParseError (Int × String × UInt64) := parseMsgID env (memoryMsgID env) s

def formatFSMsgID (netID : Int) (entity : String) (t offset : Int) : String :=
  formatMsgID env netID entity (fsMsgID env) (newDate env t,offset)

def parseFSMsgID (s : String) : Except ParseError (Int × String × Int × Int) :=
  (parseMsgID env (fsMsgID env) s).map fun (netID,entity,d,offset) => (netID,entity,dateTime env d,offset)

def formatDBMsgID (netID : Int) (target : String) (msgID : Int64) : String :=
  formatMsgID env netID target (dbMsgID env) msgID.toUInt64

def parseDBMsgID (s : String) : Except ParseError Int64 :=
  (parseMsgID env (dbMsgID env) s).map fun (_,_,id) => id.toInt64

/-- What the IDs of the three stores hold. -/
inductive Content where
  | memory (seq : UInt64)
  | fs (date : Int × Int × Int) (offset : Int)
  | db (msgID : Int64)

def Content.format (netID : Int) (target : String) : Content → String
  | .memory seq => formatMemoryMsgID env netID target seq
  | .fs date offset => formatMsgID env netID target (fsMsgID env) (date,offset)
  | .db msgID => formatDBMsgID env netID target msgID

end

end Sake.MsgIds
