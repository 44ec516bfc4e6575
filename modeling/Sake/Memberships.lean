import Mathlib.Data.List.Basic

namespace Sake.Memberships

/-- `xirc.Membership`, whose fields are bytes. -/
structure Membership where
  mode : UInt8
  sigil : UInt8
deriving DecidableEq

inductive Fault where
  | malformed
  | outOfRange
deriving DecidableEq

/-- `s[i]`, which panics behind the end. -/
def byteAt (s : List UInt8) (i : Nat) : Except Fault UInt8 := (s[i]?).elim (.error .outOfRange) .ok

/-- `handleMemberships`, for the bytes of the value: 40 and 41 are the parentheses. -/
def handleMemberships : List UInt8 → Except Fault (List Membership)
  | [] => .ok []
  | c :: rest =>
    let s := c :: rest
    if c ≠ 40 then .error .malformed
    else
      let sep := s.idxOf 41
      if s.length ≤ sep ∨ s.length ≠ sep * 2 then .error .malformed
      else (List.range (s.length / 2 - 1)).mapM fun i => do pure ⟨← byteAt s (i + 1),← byteAt s (sep + i + 1)⟩

def parseMembershipPrefix : List Membership → List UInt8 → List Membership × List UInt8
  | [], s => ([],s)
  | _, [] => ([],[])
  | m :: ms, c :: s =>
    if c = m.sigil then
      let (memberships,nick) := parseMembershipPrefix ms s
      (m :: memberships,nick)
    else parseMembershipPrefix ms (c :: s)

def formatMemberPrefix (ms : List Membership) (multiPrefix : Bool) : List UInt8 :=
  if multiPrefix then ms.map Membership.sigil else (ms.map Membership.sigil).take 1

end Sake.Memberships
