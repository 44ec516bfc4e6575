import Mathlib.Data.List.Basic

namespace Sake.Lib.Base64

/-- The digits of the standard alphabet. -/
def alphabet : List Char :=
  "ABCDEFGHIJKLMNOPQRSTUVWXYZabcdefghijklmnopqrstuvwxyz0123456789+/".toList

def value (c : Char) : Option Nat :=
  if 'A' ≤ c ∧ c ≤ 'Z' then some (c.toNat - 'A'.toNat)
  else if 'a' ≤ c ∧ c ≤ 'z' then some (c.toNat - 'a'.toNat + 26)
  else if '0' ≤ c ∧ c ≤ '9' then some (c.toNat - '0'.toNat + 52)
  else if c = '+' then some 62
  else if c = '/' then some 63
  else none

def digit (n : Nat) : Char := alphabet.getD (n % 64) 'A'

/-- The bytes of three octets that stand in one group of four digits. -/
def octets (n : Nat) : List UInt8 := [(n / 65536).toUInt8,(n / 256).toUInt8,n.toUInt8]

/-- Groups of four digits, the last one padded. -/
def decodeChars : List Char → Option (List UInt8)
  | [] => some []
  | [a,b,'=','='] => do
    let n := (← value a) * 262144 + (← value b) * 4096
    pure ((octets n).take 1)
  | [a,b,c,'='] => do
    let n := (← value a) * 262144 + (← value b) * 4096 + (← value c) * 64
    pure ((octets n).take 2)
  | a :: b :: c :: d :: rest => do
    let n := (← value a) * 262144 + (← value b) * 4096 + (← value c) * 64 + (← value d)
    pure (octets n ++ (← decodeChars rest))
  | _ => none

/-- `StdEncoding.DecodeString`: line breaks are skipped. -/
def decodeString (s : String) : Option (List UInt8) :=
  decodeChars (s.toList.filter fun c => c ≠ '\r' ∧ c ≠ '\n')

def encodeBytes : List UInt8 → List Char
  | [] => []
  | [a] =>
    let n := a.toNat * 65536
    [digit (n / 262144),digit (n / 4096),'=','=']
  | [a,b] =>
    let n := a.toNat * 65536 + b.toNat * 256
    [digit (n / 262144),digit (n / 4096),digit (n / 64),'=']
  | a :: b :: c :: rest =>
    let n := a.toNat * 65536 + b.toNat * 256 + c.toNat
    digit (n / 262144) :: digit (n / 4096) :: digit (n / 64) :: digit n :: encodeBytes rest

/-- `StdEncoding.EncodeToString`. -/
def encodeToString (bytes : List UInt8) : String := String.ofList (encodeBytes bytes)

end Sake.Lib.Base64

namespace Sake.Lib.Hex

def value (c : Char) : Option Nat :=
  if '0' ≤ c ∧ c ≤ '9' then some (c.toNat - '0'.toNat)
  else if 'a' ≤ c ∧ c ≤ 'f' then some (c.toNat - 'a'.toNat + 10)
  else if 'A' ≤ c ∧ c ≤ 'F' then some (c.toNat - 'A'.toNat + 10)
  else none

def decodeChars : List Char → Option (List UInt8)
  | [] => some []
  | [_] => none
  | a :: b :: rest => do
    let byte := (16 * (← value a) + (← value b)).toUInt8
    pure (byte :: (← decodeChars rest))

/-- `hex.DecodeString`. -/
def decodeString (s : String) : Option (List UInt8) := decodeChars s.toList

def digit (n : Nat) : Char := "0123456789abcdef".toList.getD (n % 16) '0'

/-- `hex.EncodeToString`. -/
def encodeToString (bytes : List UInt8) : String :=
  String.ofList (bytes.flatMap fun b => [digit (b.toNat / 16),digit b.toNat])

end Sake.Lib.Hex
