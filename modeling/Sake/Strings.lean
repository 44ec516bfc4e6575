import Mathlib.Algebra.Group.Int.Defs
import Mathlib.Algebra.GroupWithZero.Nat
import Mathlib.Data.List.Basic

namespace Sake.Strings

/-- The pieces between the characters that meet `p`, empty ones included. -/
def pieces (p : Char → Bool) : List Char → List (List Char)
  | [] => [[]]
  | c :: rest =>
    if p c then [] :: pieces p rest
    else match pieces p rest with
      | [] => [[c]]
      | word :: words => (c :: word) :: words

/-- `strings.Split` at a single character. -/
def split (sep : Char) (s : String) : List String :=
  (pieces (· == sep) s.toList).map String.ofList

/-- `strings.FieldsFunc`. -/
def fieldsFunc (p : Char → Bool) (s : String) : List String :=
  ((pieces p s.toList).filter fun word => !word.isEmpty).map String.ofList

/-- `strings.Cut` at a single character. -/
def cut (sep : Char) (s : String) : Option (String × String) :=
  match s.toList.span (· != sep) with
  | (_,[]) => none
  | (before,_ :: after) => some (String.ofList before,String.ofList after)

/-- `strings.SplitN` at a single character. -/
def splitN (sep : Char) : Nat → String → List String
  | 0, _ => []
  | 1, s => [s]
  | n + 2, s =>
    match cut sep s with
    | none => [s]
    | some (before,after) => before :: splitN sep (n + 1) after

def startsWith (c : Char) (s : String) : Bool := s.toList.head? == some c

/-- `strings.CutPrefix` with a single character. -/
def cutFirst (c : Char) (s : String) : String × Bool :=
  if startsWith c s then (String.ofList s.toList.tail,true) else (s,false)

def mapChars (f : Char → Char) (s : String) : String := String.ofList (s.toList.map f)

def digit (c : Char) : Option Nat :=
  if '0' ≤ c ∧ c ≤ '9' then some (c.toNat - '0'.toNat) else none

def decimal : List Char → Option Nat
  | [] => none
  | cs => cs.foldl (fun acc c => acc.bind fun n => (digit c).map fun d => 10 * n + d) (some 0)

/-- `strconv.ParseUint` in base 10 for 64 bits. -/
def parseUint (s : String) : Option Nat :=
  (decimal s.toList).filter (· < 2 ^ 64)

/-- `strconv.ParseInt` in base 10 for 64 bits. -/
def parseInt (s : String) : Option Int :=
  match s.toList with
  | '-' :: ds => ((decimal ds).filter (· ≤ 2 ^ 63)).map fun n => -(n : Int)
  | '+' :: ds => ((decimal ds).filter (· < 2 ^ 63)).map Int.ofNat
  | ds => ((decimal ds).filter (· < 2 ^ 63)).map Int.ofNat

/-- What stands before and after the first occurrence of `sep`. -/
def cutAt (sep : List Char) : List Char → Option (List Char × List Char)
  | [] => if sep.isEmpty then some ([],[]) else none
  | c :: rest =>
    if sep.isPrefixOf (c :: rest) then some ([],(c :: rest).drop sep.length)
    else (cutAt sep rest).map fun parts => (c :: parts.1,parts.2)

/-- `strings.Contains`. -/
def contains (s sep : String) : Bool := (cutAt sep.toList s.toList).isSome

/-- `strings.HasPrefix`. -/
def hasPrefix (s front : String) : Bool := front.toList.isPrefixOf s.toList

/-- `strings.ContainsAny`. -/
def containsAny (s chars : String) : Bool := s.toList.any fun c => chars.toList.contains c

end Sake.Strings
