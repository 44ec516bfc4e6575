import Mathlib.Algebra.Order.Ring.Int

namespace Sake.Backoff

/-- Durations are in nanoseconds. -/
structure Backoffer where
  min : Int
  max : Int
  jitter : Int
  n : Int

def newBackoffer (min max jitter : Int) : Backoffer := ⟨min,max,jitter,0⟩

/-- What an `int64` makes of a number. -/
def int64 (x : Int) : Int := x.bmod (2 ^ 64)

namespace Backoffer

def reset (b : Backoffer) : Backoffer := { b with n := 0 }

/-- `rand.Int63n` can return any number below the jitter. -/
def next (b : Backoffer) (rand : Nat) : Int × Backoffer :=
  if b.n = 0 then (0,{ b with n := 1 })
  else
    let d := int64 (b.n * b.min)
    let (d,b) := if d > b.max then (b.max,b) else (d,{ b with n := int64 (b.n * 2) })
    (if b.jitter ≠ 0 then int64 (d + rand % b.jitter) else d,b)

end Backoffer

inductive Call where
  | next (rand : Nat)
  | reset

def Call.isNext : Call → Bool
  | .next _ => true
  | .reset => false

def called (b : Backoffer) : Call → Backoffer
  | .next rand => (b.next rand).2
  | .reset => b.reset

end Sake.Backoff
