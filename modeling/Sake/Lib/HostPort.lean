import Mathlib.Data.List.Basic

namespace Sake.Lib.HostPort
open List

/-- What stands before and after the last occurrence of a character. -/
def cutLast (c : Char) : List Char → Option (List Char × List Char)
  | [] => none
  | x :: xs =>
    match cutLast c xs with
    | some (front,back) => some (x :: front,back)
    | none => if x = c then some ([],xs) else none

def bracket (c : Char) : Bool := c = '[' || c = ']'

/-- `net.SplitHostPort`, on characters. -/
def splitChars (hostport : List Char) : Option (List Char × List Char) :=
  match cutLast ':' hostport with
  | none => none
  | some ('[' :: rest,port) =>
    -- The first closing bracket stands just before the last colon.
    if rest.getLast? = some ']' ∧ rest.dropLast.any bracket = false ∧ port.any bracket = false then
      some (rest.dropLast,port)
    else none
  | some (host,port) =>
    if host.contains ':' || host.any bracket || port.any bracket then none else some (host,port)

/-- `net.SplitHostPort` -/
def splitHostPort (hostport : String) : Option (String × String) :=
  (splitChars hostport.toList).map fun parts => (String.ofList parts.1,String.ofList parts.2)

theorem cutLast_eq_none : cutLast c xs = none ↔ c ∉ xs := by
  induction xs with
  | nil => simp [cutLast]
  | cons x xs ih =>
    rw [cutLast,mem_cons]
    cases hxs : cutLast c xs with
    | some parts =>
      have hmem : c ∈ xs := by
        by_contra hn
        exact absurd (ih.mpr hn) (by simp [hxs])
      simp [hmem]
    | none =>
      have hnot := ih.mp hxs
      by_cases hx : x = c
      · simp [hx]
      · simp [hx,hnot,Ne.symm hx]

theorem cutLast_some (h : cutLast c xs = some (front,back)) : xs = front ++ c :: back ∧ c ∉ back := by
  induction xs generalizing front with
  | nil => cases h
  | cons x xs ih =>
    rw [cutLast] at h
    cases hxs : cutLast c xs with
    | some parts =>
      rw [hxs] at h
      cases h
      obtain ⟨heq,hnot⟩ := ih hxs
      exact ⟨congrArg (x :: ·) heq,hnot⟩
    | none =>
      rw [hxs] at h
      dsimp only at h
      split at h
      · rename_i hx
        cases h
        exact ⟨by rw [hx,nil_append],cutLast_eq_none.mp hxs⟩
      · cases h

theorem cutLast_append (h : c ∉ back) (front : List Char) : cutLast c (front ++ c :: back) = some (front,back) := by
  induction front with
  | nil => rw [nil_append,cutLast,cutLast_eq_none.mpr h,if_pos rfl]
  | cons x front ih => rw [cons_append,cutLast,ih]

/-- What is split is the host and the port with a colon between them, and maybe brackets around the host. -/
theorem splitChars_some (h : splitChars hostport = some (host,port)) :
    hostport = host ++ ':' :: port ∨ hostport = '[' :: host ++ ']' :: ':' :: port := by
  unfold splitChars at h
  split at h
  · cases h
  · rename_i hcut
    split at h
    · rename_i hcond
      cases h
      have hlast := dropLast_append_getLast? ']' hcond.1
      refine .inr ?_
      rw [(cutLast_some hcut).1]
      nth_rewrite 1 [← hlast]
      simp
    · cases h
  · rename_i hcut
    split at h
    · cases h
    · cases h
      exact .inl (cutLast_some hcut).1

/-- Neither a colon nor a bracket. -/
def Plain (text : List Char) : Prop := ':' ∉ text ∧ text.any bracket = false

instance (text : List Char) : Decidable (Plain text) := inferInstanceAs (Decidable (_ ∧ _))

/-- A host and a port are read back if they are plain, and only then. -/
theorem splitChars_append_iff : splitChars (host ++ ':' :: port) = some (host,port) ↔ Plain host ∧ Plain port := by
  constructor
  · intro h
    unfold splitChars at h
    split at h
    · cases h
    · rename_i hcut
      split at h
      · cases h
        -- The brackets would be lost.
        have hlen := congrArg List.length (cutLast_some hcut).1
        simp only [length_append,length_cons,length_dropLast] at hlen
        omega
      · cases h
    · rename_i hcut
      split at h
      · cases h
      rename_i hcond
      cases h
      simp only [Bool.or_eq_true,not_or,Bool.not_eq_true,contains_eq_mem,decide_eq_false_iff_not] at hcond
      exact ⟨⟨hcond.1.1,hcond.1.2⟩,(cutLast_some hcut).2,hcond.2⟩
  · intro ⟨hhost,hport⟩
    unfold splitChars
    rw [cutLast_append hport.1]
    split
    · rename_i heq
      cases heq
    · rename_i heq
      cases heq
      exact absurd hhost.2 (by simp [bracket])
    · rename_i heq
      cases heq
      simp [hhost.1,hhost.2,hport.2]

end Sake.Lib.HostPort
