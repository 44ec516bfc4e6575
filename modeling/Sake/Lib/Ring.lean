import Mathlib.Data.List.DropRight
import Mathlib.Data.Nat.ModEq

namespace Sake.Lib.Ring
open List

variable {α : Type*} {base i : Nat}

/-- Writes entry number `k` of an endless sequence into a cyclic buffer. -/
def put (slots : List (Option α)) (k : Nat) (x : α) : List (Option α) :=
  slots.set (k % slots.length) (some x)

def read (slots : List (Option α)) (k : Nat) : Option α :=
  slots.getD (k % slots.length) none

@[simp] theorem length_put (slots : List (Option α)) (k : Nat) (x : α) : (put slots k x).length = slots.length := by
  simp [put]

/-- The buffer still holds the newest entries of `history`, whose first entry was
written as number `base`. -/
def Recent (slots : List (Option α)) (base : Nat) (history : List α) : Prop :=
  ∀ i x, history[i]? = some x → history.length ≤ i + slots.length → read slots (base + i) = some x

theorem recent_nil (slots : List (Option α)) (base : Nat) : Recent slots base [] := by
  intro i x hx
  simp at hx

/-- Two entries less than one turn apart do not share a slot. -/
theorem slot_ne (hij : i < j) (hc : j < i + c) : i % c ≠ j % c := by
  intro h
  have hd : c ∣ j - i := (Nat.modEq_iff_dvd' hij.le).mp h
  have := Nat.le_of_dvd (by omega) hd
  omega

theorem read_put_self (slots : List (Option α)) (k : Nat) (x : α) (hc : 0 < slots.length) :
    read (put slots k x) k = some x := by
  have := Nat.mod_lt k hc
  simp [read,put,this]

theorem read_put_ne (slots : List (Option α)) (x : α)
    (h : i % slots.length ≠ k % slots.length) : read (put slots k x) i = read slots i := by
  simp [read,put,Ne.symm h]

theorem Recent.put (h : Recent slots base history) (hc : 0 < slots.length) (x : α) :
    Recent (put slots (base + history.length) x) base (history ++ [x]) := by
  intro i y hy hlen
  simp only [length_append,length_singleton,length_put] at hlen
  by_cases hi : i < history.length
  · rw [List.getElem?_append_left hi] at hy
    rw [read_put_ne slots x (slot_ne (by omega) (by omega))]
    exact h i y hy (by omega)
  have hb : i = history.length := by
    have := (List.getElem?_eq_some_iff.mp hy).1
    simp only [length_append,length_singleton] at this
    omega
  subst i
  rw [read_put_self slots _ x hc]
  simpa using hy

/-- Reading the last `d` slots in order returns the last `d` entries, as long as
they are still there. -/
theorem Recent.window (h : Recent slots base history) (d : Nat) (hd : d ≤ history.length) (hs : d ≤ slots.length) :
    (List.range d).map (fun i => read slots (base + history.length - d + i)) = (history.rtake d).map some := by
  apply ext_getElem?
  intro i
  by_cases hi : i < d
  · have hlt : history.length - d + i < history.length := by omega
    have hx : history[history.length - d + i]? = some history[history.length - d + i] := List.getElem?_eq_getElem hlt
    have hr := h _ _ hx (by omega)
    have hb : base + history.length - d + i = base + (history.length - d + i) := by omega
    simp [List.getElem?_map,List.getElem?_range hi,Option.map_some,hb,hr,List.rtake,List.getElem?_drop,hx]
  · have hl : (history.rtake d).length ≤ i := by
      simp only [List.rtake,length_drop]
      omega
    simp [List.getElem?_eq_none hl,hi]

end Sake.Lib.Ring
