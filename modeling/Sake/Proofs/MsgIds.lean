import Sake.MsgIds

namespace Sake.Proofs.MsgIds
open Sake.MsgIds Lib

variable (env : Env) (netID : Int) (target : String)

theorem parseHeader_format :
    parseHeader env (formatMsgID env netID target body a) = .ok ((netID,target,body.type),body.codec.write a) := by
  simp [parseHeader,formatMsgID,env.decode_encode,Codec.read_write]

theorem parseMsgID_format (body : Body α) (a : α) :
    parseMsgID env body (formatMsgID env netID target body a) = .ok (netID,target,a) := by
  simp [parseMsgID,parseHeader_format,Except.bind,Codec.read_write_end]

theorem parseMsgID_other (h : body.type ≠ other.type) :
    parseMsgID env other (formatMsgID env netID target body a) = .error (.type body.type other.type) := by
  simp [parseMsgID,parseHeader_format,Except.bind,h]

theorem formatMsgID_inj (h : formatMsgID env netID target body a = formatMsgID env netID' target' other b) :
    netID = netID' ∧ target = target' ∧ body.type = other.type ∧ body.codec.write a = other.codec.write b := by
  have hparse := congrArg (parseHeader env) h
  simpa [parseHeader_format,and_assoc] using hparse

theorem write_inj (c : Codec α) (h : c.write a = c.write b) : a = b := by
  have hread := congrArg c.read h
  simpa [c.read_write_end] using hread

theorem format_inj {id : Content}
    (h : id.format env netID target = id'.format env netID' target') : netID = netID' ∧ target = target' ∧ id = id' := by
  cases id <;> cases id' <;> obtain ⟨hnet,htarget,htype,hbody⟩ := formatMsgID_inj env netID target h
  case memory.memory => exact ⟨hnet,htarget,by rw [write_inj env.uint hbody]⟩
  case fs.fs =>
    have hpair := write_inj (fsMsgID env).codec hbody
    simp_all
  case db.db id id' =>
    have hid := congrArg UInt64.toInt64 (write_inj env.uint hbody)
    exact ⟨hnet,htarget,congrArg Content.db hid⟩
  all_goals exact absurd htype (by simp [memoryMsgID,fsMsgID,dbMsgID])

end Sake.Proofs.MsgIds
