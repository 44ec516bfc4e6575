import Mathlib.Data.List.Induction
import Mathlib.Tactic.Ring
import Sake.Backoff

namespace Sake.Proofs.Backoff
open Sake.Backoff

/-- Durations for which nothing overflows. -/
structure Limits where
  min : Int
  max : Int
  jitter : Int
  min_pos : 0 < min
  min_le : min ≤ max
  max_lt : max < 2 ^ 61
  jitter_nonneg : 0 ≤ jitter
  sum_lt : max + jitter < 2 ^ 63

def Limits.at (l : Limits) (n : Int) : Backoffer := ⟨l.min,l.max,l.jitter,n⟩

variable {l : Limits} {n : Int} {k : Nat}

/-- The delay after `k` earlier calls, without the jitter. -/
def delay (l : Limits) (k : Nat) : Int := min l.max (2 ^ (k - 1) * l.min)

/-- The counter after `k` calls of `Next`: its product is the delay, and not much more than the maximum. -/
structure After (l : Limits) (k : Nat) (n : Int) : Prop where
  zero : k = 0 → n = 0
  pos : 0 < k → 0 < n ∧ n * l.min ≤ 2 * l.max ∧ min l.max (n * l.min) = delay l k

theorem int64_eq (hlo : 0 ≤ x) (hhi : x < 2 ^ 63) : int64 x = x := Int.bmod_eq_of_le (by omega) (by omega)

theorem After.fits (h : After l k n) : int64 (n * l.min) = n * l.min ∧ int64 (n * 2) = n * 2 := by
  rcases Nat.eq_zero_or_pos k with hk | hk
  · simp [h.zero hk,int64]
  obtain ⟨hn,hle,-⟩ := h.pos hk
  have hmax := l.max_lt
  have hmul : n ≤ n * l.min := le_mul_of_one_le_right hn.le l.min_pos
  exact ⟨int64_eq (by omega) (by omega),int64_eq (by omega) (by omega)⟩

theorem next_eq (h : After l k n) (hk : 0 < k) (rand : Nat) : (l.at n).next rand =
    (if l.jitter ≠ 0 then int64 (delay l k + rand % l.jitter) else delay l k,
      l.at (if n * l.min > l.max then n else n * 2)) := by
  obtain ⟨hn,-,hd⟩ := h.pos hk
  simp only [Backoffer.next,Limits.at,if_neg hn.ne',h.fits,← hd]
  split
  · rename_i hgt
    rw [min_eq_left hgt.le]
  · rename_i hle
    rw [min_eq_right (not_lt.mp hle)]

theorem After.next (h : After l k n) (rand : Nat) : ∃ m, ((l.at n).next rand).2 = l.at m ∧ After l (k + 1) m := by
  have hmin := l.min_pos
  have hle := l.min_le
  rcases Nat.eq_zero_or_pos k with rfl | hk
  · refine ⟨1,by simp [Backoffer.next,Limits.at,h.zero rfl],nofun,fun _ => ⟨one_pos,by omega,?_⟩⟩
    simp [delay]
  obtain ⟨hn,hbound,hd⟩ := h.pos hk
  refine ⟨_,congrArg Prod.snd (next_eq h hk rand),nofun,fun _ => ?_⟩
  obtain ⟨k,rfl⟩ := Nat.exists_eq_add_one.mpr hk
  have hpow : (2 : Int) ^ (k + 1) * l.min = 2 * (2 ^ k * l.min) := by ring
  have hdouble : n * 2 * l.min = 2 * (n * l.min) := by ring
  have hpos : 0 ≤ (2 : Int) ^ k * l.min := mul_nonneg (by simp) hmin.le
  simp only [delay,Nat.add_sub_cancel,hpow] at hd ⊢
  split
  · exact ⟨hn,hbound,by omega⟩
  · rw [hdouble]
    exact ⟨by omega,by omega,by omega⟩

/-- The calls of `Next` since the start or the last `Reset`. -/
def nexts (calls : List Call) : Nat := (calls.reverse.takeWhile Call.isNext).length

theorem calls_after (l : Limits) (calls : List Call) :
    ∃ n, calls.foldl called (newBackoffer l.min l.max l.jitter) = l.at n ∧ After l (nexts calls) n := by
  induction calls using List.reverseRecOn with
  | nil => exact ⟨0,rfl,fun _ => rfl,nofun⟩
  | append_singleton calls c ih =>
    obtain ⟨n,hcalls,hn⟩ := ih
    rw [List.foldl_append,nexts,List.reverse_append,hcalls]
    cases c with
    | next rand => exact hn.next rand
    | reset => exact ⟨0,rfl,fun _ => rfl,nofun⟩

/-- Whatever was called before, the delay is none at first and then doubles up to the maximum, with less than the
jitter added, and no product overflows. -/
theorem backoff_doubles (l : Limits) (calls : List Call) (rand : Nat) :
    let b := calls.foldl called (newBackoffer l.min l.max l.jitter)
    let k := nexts calls
    (k = 0 → (b.next rand).1 = 0) ∧
    (0 < k → if l.jitter = 0 then (b.next rand).1 = delay l k
      else delay l k ≤ (b.next rand).1 ∧ (b.next rand).1 < delay l k + l.jitter) ∧
    int64 (b.n * b.min) = b.n * b.min ∧ int64 (b.n * 2) = b.n * 2 := by
  intro b k
  obtain ⟨n,hb,h⟩ : ∃ n, b = l.at n ∧ After l k n := calls_after l calls
  rw [hb]
  refine ⟨fun hk => by simp [Backoffer.next,Limits.at,h.zero hk],fun hk => ?_,h.fits⟩
  rw [next_eq h hk]
  split
  · rename_i hj
    exact if_neg (not_not.mpr hj)
  · rename_i hj
    have hlt := Int.emod_lt_of_pos rand (l.jitter_nonneg.lt_of_ne' hj)
    have hnonneg := Int.emod_nonneg rand hj
    have hmin := l.min_pos
    have hle := l.min_le
    have hd : 0 ≤ delay l k := le_min (by omega) (mul_nonneg (by simp) hmin.le)
    have hmax : delay l k ≤ l.max := min_le_left _ _
    have hsum := l.sum_lt
    rw [int64_eq (by omega) (by omega)]
    exact ⟨by omega,by omega⟩

end Sake.Proofs.Backoff
