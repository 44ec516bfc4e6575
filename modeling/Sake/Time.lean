import Sake.Lib.Calendar
import Sake.Strings

namespace Sake.Time
open Lib Strings

/-- Instants are counted in nanoseconds from the zero value of `time.Time`, the start of
year 1 in UTC. -/
def second : Int := 1000000000
def day : Int := 86400 * second

/-- The local time zone: the offset in force at an instant, in whole seconds, and the
instant `time.Date` picks for a reading of the clock. It picks one that reads so, if there
is one. -/
structure Zone where
  offset : Int → Int
  resolve : Int → Int
  offset_whole : ∀ t, offset t % second = 0
  resolve_reads : ∀ t, resolve (t + offset t) + offset (resolve (t + offset t)) = t + offset t

/-- What the clocks of the zone read, in nanoseconds from the start of year 1. -/
def Zone.wall (z : Zone) (t : Int) : Int := t + z.offset t

/-- A zone that is always the same number of seconds off UTC. -/
def Zone.fixed (seconds : Int) : Zone where
  offset _ := seconds * second
  resolve w := w - seconds * second
  offset_whole _ := Int.mul_emod_left _ _
  resolve_reads t := by omega

/-- `t.Date()` -/
def dateOf (z : Zone) (t : Int) : Calendar.Date := Calendar.date (z.wall t / day)

def hourOf (z : Zone) (t : Int) : Int := z.wall t % day / (3600 * second)
def minuteOf (z : Zone) (t : Int) : Int := z.wall t % (3600 * second) / (60 * second)
def secondOf (z : Zone) (t : Int) : Int := z.wall t % (60 * second) / second

/-- `time.Date`, where everything but the month may be out of range. -/
def date (z : Zone) (d : Calendar.Date) (hour minute sec nsec : Int) : Int :=
  z.resolve (Calendar.dayNumber d * day + (hour * 3600 + minute * 60 + sec) * second + nsec)

def truncateDay (z : Zone) (t : Int) : Int := date z (dateOf z t) 0 0 0 0

/-- The decimal digits of a number, with zeros in front up to the width. -/
def pad (width n : Nat) : String :=
  String.ofList (List.replicate (width - (Nat.toDigits 10 n).length) '0' ++ Nat.toDigits 10 n)

/-- How `fmt` pads a number with zeros: the sign counts for the width. -/
def padInt (width : Nat) (n : Int) : String :=
  if n < 0 then "-" ++ pad (width - 1) n.natAbs else pad width n.natAbs

/-- `t.UTC().Format(xirc.ServerTimeLayout)`. The fraction is cut off, not rounded. -/
def formatServerTime (t : Int) : String :=
  let utc := Zone.fixed 0
  let d := dateOf utc t
  (if d.year < 0 then "-" else "") ++ pad 4 d.year.natAbs ++ "-" ++ padInt 2 d.month ++ "-" ++
    padInt 2 d.day ++ "T" ++ padInt 2 (hourOf utc t) ++ ":" ++ padInt 2 (minuteOf utc t) ++ ":" ++
    padInt 2 (secondOf utc t) ++ "." ++ padInt 3 (t % second / 1000000) ++ "Z"

/-- The number in the first `n` characters, and the characters behind it. -/
def number (n : Nat) (cs : List Char) : Option (Nat × List Char) :=
  if n ≤ cs.length then (decimal (cs.take n)).map fun v => (v,cs.drop n) else none

def literal (c : Char) : List Char → Option (List Char)
  | [] => none
  | d :: rest => if c = d then some rest else none

/-- `time.Parse(xirc.ServerTimeLayout, s)` -/
def parseServerTime (s : String) : Option Int := do
  let (year,cs) ← number 4 s.toList
  let (month,cs) ← number 2 (← literal '-' cs)
  let (mday,cs) ← number 2 (← literal '-' cs)
  let (hour,cs) ← number 2 (← literal 'T' cs)
  let (minute,cs) ← number 2 (← literal ':' cs)
  let (sec,cs) ← number 2 (← literal ':' cs)
  -- a comma may stand for the point
  let (milli,cs) ← number 3 (← (literal '.' cs <|> literal ',' cs))
  let d : Calendar.Date := ⟨year,month,mday⟩
  if cs = ['Z'] ∧ 1 ≤ month ∧ month ≤ 12 ∧ Calendar.date (Calendar.dayNumber d) = d ∧
      hour < 24 ∧ minute < 60 ∧ sec < 60 then
    some (date (Zone.fixed 0) d hour minute sec (milli * 1000000))
  else none

example : parseServerTime "2024-02-29T23:59:58.123Z" =
    some ((738944 * 86400 + 86398) * second + 123000000) := by rfl

end Sake.Time
