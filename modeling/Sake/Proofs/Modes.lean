import Mathlib.Data.List.Nodup
import Sake.HandleMessage

namespace Sake.Proofs.Modes
open Sake.Upstream List

section Ranks
variable {available : List Membership} {ms : MembershipSet} {new m : Membership}

theorem add_cons : MembershipSet.add (avail :: available) (m :: ms) new =
      if m = avail then if avail = new then m :: ms else m :: MembershipSet.add available ms new
      else if avail = new then new :: m :: ms else MembershipSet.add available (m :: ms) new := by
  unfold MembershipSet.add
  rw [MembershipSet.position]
  split_ifs
  · rfl
  · cases MembershipSet.position new available ms <;> rfl
  · rfl
  · rfl

/-- A new rank is put where the order of the available ranks has it. -/
theorem add_spec (h : ms <+ available) (hnew : new ∈ available) :
    ms.add available new <+ available ∧ ∀ m, m ∈ ms.add available new ↔ m = new ∨ m ∈ ms := by
  induction available generalizing ms with
  | nil => cases hnew
  | cons avail available ih =>
    cases ms with
    | nil => exact ⟨singleton_sublist.mpr hnew,fun m => mem_cons⟩
    | cons m ms =>
      rw [add_cons]
      split
      · rename_i hm
        subst hm
        split
        · rename_i hn
          exact ⟨h,by simp [hn]⟩
        · rename_i hn
          obtain ⟨hs,hmem⟩ := ih (cons_sublist_cons.mp h) (mem_of_ne_of_mem (Ne.symm hn) hnew)
          exact ⟨hs.cons_cons m,fun k => by rw [mem_cons,hmem,mem_cons,or_left_comm]⟩
      · rename_i hm
        have h : m :: ms <+ available := (sublist_cons_iff.mp h).resolve_right fun ⟨r,hr,_⟩ => hm (cons.inj hr).1
        split
        · rename_i hn
          exact ⟨hn ▸ h.cons_cons avail,fun k => mem_cons⟩
        · rename_i hn
          obtain ⟨hs,hmem⟩ := ih h (mem_of_ne_of_mem (Ne.symm hn) hnew)
          exact ⟨hs.cons avail,hmem⟩

/-- An operation on a set of ranks: whether one is added, and which. -/
def apply (available : List Membership) (ms : MembershipSet) (op : Bool × Membership) : MembershipSet :=
  if op.1 then ms.add available op.2 else ms.remove op.2

/-- The set is in the order of the available ranks, and has just those whose last operation added them. -/
theorem ranks_kept (available : List Membership) (hd : available.Nodup) (ops : List (Bool × Membership))
    (hops : ∀ op ∈ ops, op.1 = true → op.2 ∈ available) :
    ops.foldl (apply available) [] <+ available ∧
      ∀ m, m ∈ ops.foldl (apply available) [] ↔ ops.reverse.find? (fun op => op.2 = m) = some (true,m) := by
  induction ops using List.reverseRecOn with
  | nil => exact ⟨nil_sublist _,by simp⟩
  | append_singleton ops op ih =>
    obtain ⟨hs,hmem⟩ := ih fun op hop => hops op (mem_append_left _ hop)
    obtain ⟨plus,new⟩ := op
    rw [foldl_append,reverse_append]
    change apply available _ (plus,new) <+ _ ∧ ∀ m, m ∈ apply available _ (plus,new) ↔ find? _ ((plus,new) :: _) = _
    cases plus with
    | true =>
      obtain ⟨hadd,hnew⟩ := add_spec hs (hops (true,new) (by simp) rfl)
      refine ⟨hadd,fun m => (hnew m).trans ?_⟩
      by_cases h : m = new
      · simp [h]
      · simp [h,Ne.symm h,hmem]
    | false =>
      refine ⟨erase_sublist.trans hs,fun m => ((hd.sublist hs).mem_erase_iff).trans ?_⟩
      by_cases h : m = new
      · simp [h]
      · simp [h,Ne.symm h,hmem]

theorem op_before_voice : stdMemberships.Nodup ∧
    [(true,⟨'v','+'⟩),(true,⟨'o','@'⟩)].foldl (apply stdMemberships) [] <+ stdMemberships :=
  ⟨by decide,(ranks_kept stdMemberships (by decide) [(true,⟨'v','+'⟩),(true,⟨'o','@'⟩)] (by decide)).1⟩

end Ranks

section Letters
variable {c : Char} {s modes : List Char}

def isSign (c : Char) : Bool := c = '+' || c = '-'

/-- The nearest sign before the last place of a letter. -/
def signOf (c : Char) (s : List Char) : Option Char := (s.reverse.dropWhile (· ≠ c)).find? isSign

theorem signOf_cons (hc : isSign c = false) (x : Char) (s : List Char) :
    signOf c (x :: s) = if c ∈ s then (signOf c s).or ([x].find? isSign) else none := by
  rw [signOf,reverse_cons,dropWhile_append]
  by_cases h : c ∈ s
  · rw [if_neg (by simpa using h),if_pos h,find?_append]
    rfl
  · rw [if_pos (by simpa using fun x hx => ne_of_mem_of_not_mem hx h),if_neg h]
    by_cases hx : x = c <;> simp [hx,hc]

theorem mem_added (hd : modes.Nodup) (x : Char) : (if modes.contains x then modes else modes ++ [x]).Nodup ∧
    ∀ c, (c ∈ if modes.contains x then modes else modes ++ [x]) ↔ c = x ∨ c ∈ modes := by
  split
  · rename_i hx
    exact ⟨hd,fun c => (or_iff_right_of_imp (· ▸ contains_iff_mem.mp hx)).symm⟩
  · rename_i hx
    refine ⟨?_,by simp [or_comm]⟩
    simpa [nodup_append,hd] using fun d hd => ne_of_mem_of_not_mem hd (mt contains_iff_mem.mpr hx)

theorem apply_sign (hx : isSign x) (sign : Option Bool) :
    applyUserModes sign (x :: s) modes = applyUserModes (some (x = '+')) s modes := by
  rw [applyUserModes.eq_def sign]
  by_cases hplus : x = '+'
  · simp [hplus]
  · have hminus : x = '-' := by simpa [isSign,hplus] using hx
    simp [hminus]

/-- After a first sign, every letter is there or not by the sign of its last place. -/
theorem applyUserModes_signed (plus : Bool) (hd : modes.Nodup) :
    ∃ r, applyUserModes (some plus) s modes = (r,true) ∧ r.Nodup ∧ ∀ c, isSign c = false →
      (c ∈ r ↔ if c ∈ s then (signOf c s).getD (if plus then '+' else '-') = '+' else c ∈ modes) := by
  induction s generalizing plus modes with
  | nil => exact ⟨modes,rfl,hd,by simp⟩
  | cons x s ih =>
    by_cases hx : isSign x
    · rw [apply_sign hx]
      obtain ⟨r,hr,hnd,hmem⟩ := ih (x = '+') hd
      refine ⟨r,hr,hnd,fun c hc => ?_⟩
      have hcx : c ≠ x := by
        rintro rfl
        exact absurd hx (by simp [hc])
      have hsign : (if x = '+' then '+' else '-') = x := by grind [isSign]
      rw [hmem c hc,signOf_cons hc]
      by_cases h : c ∈ s
      · cases signOf c s <;> simp [h,hx,hsign]
      · simp [h,hcx]
    obtain ⟨hplus,hminus⟩ : x ≠ '+' ∧ x ≠ '-' := by simpa [isSign] using hx
    unfold applyUserModes
    rw [if_neg hplus,if_neg hminus]
    cases plus with
    | true =>
      obtain ⟨hnd',hadd⟩ := mem_added hd x
      obtain ⟨r,hr,hnd,hmem⟩ := ih true hnd'
      refine ⟨r,hr,hnd,fun c hc => ?_⟩
      rw [hmem c hc,signOf_cons hc,hadd]
      rcases eq_or_ne c x with rfl | hcx <;> by_cases h : c ∈ s <;> simp_all
    | false =>
      obtain ⟨r,hr,hnd,hmem⟩ := ih false (hd.erase x)
      refine ⟨r,hr,hnd,fun c hc => ?_⟩
      rw [hmem c hc,signOf_cons hc,hd.mem_erase_iff]
      rcases eq_or_ne c x with rfl | hcx <;> by_cases h : c ∈ s <;> simp_all

/-- A letter is in the result exactly if the last sign before its last place is a plus, or it has no place and was
in the set before. Without a first sign nothing changes. -/
theorem userModes_applied (modes : List Char) (hd : modes.Nodup) (s : List Char) :
    (s.head?.all isSign = true → ∃ r, applyUserModes none s modes = (r,true) ∧ r.Nodup ∧ ∀ c, isSign c = false →
      (c ∈ r ↔ signOf c s = some '+' ∨ c ∉ s ∧ c ∈ modes)) ∧
    (s.head?.all isSign = false → applyUserModes none s modes = (modes,false)) := by
  cases s with
  | nil => exact ⟨fun _ => ⟨modes,rfl,hd,by simp [signOf]⟩,nofun⟩
  | cons x s =>
    refine ⟨fun hx => ?_,fun hx => ?_⟩
    · rw [apply_sign hx,← apply_sign hx (some false)]
      obtain ⟨r,hr,hnd,hmem⟩ := applyUserModes_signed (s := x :: s) false hd
      refine ⟨r,hr,hnd,fun c hc => ?_⟩
      rw [hmem c hc]
      by_cases h : c ∈ x :: s
      · cases signOf c (x :: s) <;> simp [h]
      · have hnone : signOf c (x :: s) = none := by rw [signOf_cons hc,if_neg (mt (mem_cons_of_mem x) h)]
        simp [h,hnone]
    · obtain ⟨hplus,hminus⟩ : x ≠ '+' ∧ x ≠ '-' := by simpa [isSign] using hx
      simp [applyUserModes,hplus,hminus]

theorem later_plus_counts : ∃ r, applyUserModes none "+w-i+i".toList ['i'] = (r,true) ∧ r.Nodup :=
  ((userModes_applied ['i'] (by decide) "+w-i+i".toList).1 rfl).imp fun _ h => ⟨h.1,h.2.1⟩

end Letters
end Sake.Proofs.Modes
