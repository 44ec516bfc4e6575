import Mathlib.Data.Nat.Digits.Lemmas

/-!
The source address for a user's connections. An address is given by how many bytes it has and by the
number that they write.
-/

namespace Sake.LocalAddr

@[ext]
structure IP where
  len : Nat
  value : Nat
deriving Repr, DecidableEq

/-- An address of sixteen bytes may stand for one of four. -/
def IP.to4 (ip : IP) : Option IP :=
  if ip.len = 4 then some ip
  else if ip.len = 16 ∧ ip.value / 2 ^ 32 = 0xffff then some ⟨4,ip.value % 2 ^ 32⟩
  else none

/-- What `net.ParseCIDR` gives: a prefix of `ones` bits, with no bit set after it. -/
structure IPNet where
  ip : IP
  ones : Nat
  size : ip.len = 4 ∨ ip.len = 16
  fits : ip.value < 256 ^ ip.len
  masked : 2 ^ (8 * ip.len - ones) ∣ ip.value

/-- The numbers agree in the bits of the prefix. -/
def IPNet.Agrees (n : IPNet) (a b : Nat) : Prop :=
  a / 2 ^ (8 * n.ip.len - n.ones) = b / 2 ^ (8 * n.ip.len - n.ones)

instance (n : IPNet) (a b : Nat) : Decidable (n.Agrees a b) := inferInstanceAs (Decidable (_ = _))

def IPNet.Contains (n : IPNet) (ip : IP) : Prop :=
  (ip.to4.getD ip).len = (n.ip.to4.getD n.ip).len ∧ n.Agrees (ip.to4.getD ip).value (n.ip.to4.getD n.ip).value

instance (n : IPNet) (ip : IP) : Decidable (n.Contains ip) := inferInstanceAs (Decidable (_ ∧ _))

/-- `big.Int.Bytes`: no zero stands in front, and the sign is left out. -/
def bytes (i : Int) : IP := ⟨(Nat.digits 256 i.natAbs).length,i.natAbs⟩

def select (nets : List IPNet) (remoteIP : IP) : Option IPNet :=
  nets.find? fun n => remoteIP.to4.isNone == n.ip.to4.isNone

/-- The base address plus the number after the user's, which wraps around. -/
def IPNet.next (n : IPNet) (id : Fin (2 ^ 63)) : Int := n.ip.value + (id.val + 1 : Int).bmod (2 ^ 64)

/-- `none` leaves the choice to the system; the error names a network that is too small. -/
def localTCPAddr (nets : List IPNet) (remoteIP : IP) (id : Fin (2 ^ 63)) : Except IPNet (Option IP) :=
  match select nets remoteIP with
  | none => .ok none
  | some n =>
    if n.Contains (bytes (n.next id)) then .ok (some (bytes (n.next id))) else .error n

/-- The base address plus the number of the user, if it lies in the network. -/
def intended (nets : List IPNet) (remoteIP : IP) (id : Fin (2 ^ 63)) : Except IPNet (Option IP) :=
  match select nets remoteIP with
  | none => .ok none
  | some n =>
    let a := n.ip.value + id.val + 1
    if n.Agrees a n.ip.value then .ok (some ⟨n.ip.len,a⟩) else .error n

end Sake.LocalAddr
