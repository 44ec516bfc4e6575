import Mathlib.Data.List.Nodup
import Sake.Memberships

namespace Sake.Memberships
variable {s modes sigils : List UInt8} {available ms : List Membership} {nick : List UInt8}

/-- Modes in parentheses, and as many sigils behind. -/
def Written (s modes sigils : List UInt8) : Prop :=
  s = 40 :: (modes ++ 41 :: sigils) ∧ modes.length = sigils.length ∧ 41 ∉ modes

theorem mapM_ok {f : Nat → Except Fault Membership} {is : List Nat}
    (h : ∀ i ∈ is, f i = .ok (g i)) : is.mapM f = .ok (is.map g) := by
  induction is with
  | nil => rfl
  | cons i is ih =>
    rw [List.mapM_cons,h i List.mem_cons_self,ih fun j hj => h j (List.mem_cons_of_mem _ hj)]
    rfl

theorem range_pairs (h : modes.length = sigils.length) :
    ((List.range modes.length).map fun i => Membership.mk modes[i]! sigils[i]!) =
      List.zipWith Membership.mk modes sigils := by
  refine List.ext_getElem (by simp [h]) fun i hi _ => ?_
  simp only [List.length_map,List.length_range] at hi
  simp [hi,h ▸ hi]

theorem Written.pair_read (h : Written s modes sigils) (i : Nat) (hi : i ∈ List.range modes.length) :
    (do pure ⟨← byteAt s (i + 1),← byteAt s (modes.length + 1 + i + 1)⟩) =
      (.ok ⟨modes[i]!,sigils[i]!⟩ : Except Fault Membership) := by
  obtain ⟨rfl,hlen,-⟩ := h
  have hmode : i < modes.length := List.mem_range.mp hi
  have hsigil : i < sigils.length := hlen ▸ hmode
  have hat : modes.length + 1 + i - modes.length = i + 1 := by omega
  have hbehind : modes.length ≤ modes.length + 1 + i := by omega
  simp only [byteAt,List.getElem?_cons_succ,List.getElem?_append_left hmode,List.getElem?_append_right hbehind,hat,
    List.getElem?_eq_getElem hmode,List.getElem?_eq_getElem hsigil,getElem!_pos modes i hmode,
    getElem!_pos sigils i hsigil]
  rfl

theorem Written.accepted (h : Written s modes sigils) :
    handleMemberships s = .ok (List.zipWith Membership.mk modes sigils) := by
  have hpairs := mapM_ok h.pair_read
  obtain ⟨rfl,hlen,hmodes⟩ := h
  have hsep : (40 :: (modes ++ 41 :: sigils)).idxOf 41 = modes.length + 1 := by simp [List.idxOf_append,hmodes]
  have hlength : (40 :: (modes ++ 41 :: sigils)).length = (modes.length + 1) * 2 := by
    simp only [List.length_cons,List.length_append]
    omega
  have hcount : (modes.length + 1) * 2 / 2 - 1 = modes.length := by omega
  have hfits : ¬ ((modes.length + 1) * 2 ≤ modes.length + 1 ∨ (modes.length + 1) * 2 ≠ (modes.length + 1) * 2) := by
    omega
  simp only [handleMemberships,hsep,hlength,hcount,if_neg hfits]
  rw [range_pairs hlen] at hpairs
  exact hpairs

theorem handleMemberships_cases (s : List UInt8) :
    s = [] ∨ (∃ modes sigils, Written s modes sigils) ∨ handleMemberships s = .error .malformed := by
  cases s with
  | nil => exact .inl rfl
  | cons c rest =>
    refine .inr ?_
    simp only [handleMemberships]
    split
    · exact .inr rfl
    next hc =>
    split
    · exact .inr rfl
    next hfits =>
    have hc : c = 40 := not_not.mp hc
    subst hc
    obtain ⟨hsep,hlength⟩ := not_or.mp hfits
    have hmem : (41 : UInt8) ∈ 40 :: rest := List.idxOf_lt_length_iff.mp (Nat.lt_of_not_le hsep)
    obtain ⟨modes,sigils,rfl,hmodes⟩ := List.eq_append_cons_of_mem (List.mem_of_ne_of_mem (by decide) hmem)
    refine .inl ⟨modes,sigils,rfl,?_,hmodes⟩
    simp [List.idxOf_append,hmodes] at hlength
    omega

/-- A name with sigils in front that stand in the order of the ranks is taken apart again. -/
theorem parseMembershipPrefix_sigils (hms : ms.Sublist available) (hdistinct : (available.map Membership.sigil).Nodup)
    (hnick : ∃ c rest, nick = c :: rest ∧ c ∉ available.map Membership.sigil) :
    parseMembershipPrefix available (ms.map Membership.sigil ++ nick) = (ms,nick) := by
  obtain ⟨c,rest,rfl,hc⟩ := hnick
  induction hms with
  | slnil => rfl
  | @cons ms available m hms ih =>
    obtain ⟨hm,hdistinct⟩ := List.nodup_cons.mp hdistinct
    obtain ⟨hcm,hc⟩ := not_or.mp fun h => hc (List.mem_cons.mpr h)
    -- the first byte belongs to a lower rank, or to the nick
    have hskip : ∃ b bs, ms.map Membership.sigil ++ c :: rest = b :: bs ∧ b ≠ m.sigil := by
      cases ms with
      | nil => exact ⟨c,rest,rfl,hcm⟩
      | cons n ms =>
        refine ⟨n.sigil,_,rfl,fun heq => hm (heq ▸ ?_)⟩
        exact List.mem_map_of_mem (hms.subset List.mem_cons_self)
    obtain ⟨b,bs,hbs,hb⟩ := hskip
    have hrest := ih hdistinct hc
    rw [hbs] at hrest ⊢
    simp only [parseMembershipPrefix,if_neg hb]
    exact hrest
  | @cons_cons ms available m hms ih =>
    have hrest := ih (List.nodup_cons.mp hdistinct).2 fun h => hc (List.mem_cons_of_mem _ h)
    simp [parseMembershipPrefix,hrest]

theorem memberships_sound :
    (∀ s ms, handleMemberships s = .ok ms ↔ s = [] ∧ ms = [] ∨ ∃ modes sigils, s = 40 :: (modes ++ 41 :: sigils) ∧
      modes.length = sigils.length ∧ 41 ∉ modes ∧ ms = List.zipWith Membership.mk modes sigils) ∧
    (∀ s, handleMemberships s ≠ .error .outOfRange) ∧
    (∀ available ms nick, (available.map Membership.sigil).Nodup → ms.Sublist available →
      (∃ c rest, nick = c :: rest ∧ c ∉ available.map Membership.sigil) →
      parseMembershipPrefix available (formatMemberPrefix ms true ++ nick) = (ms,nick)) := by
  refine ⟨fun s ms => ⟨fun h => ?_,?_⟩,fun s h => ?_,fun _ _ _ hdistinct hms => parseMembershipPrefix_sigils hms hdistinct⟩
  · rcases handleMemberships_cases s with rfl | ⟨modes,sigils,hw⟩ | hmalformed
    · cases h
      exact .inl ⟨rfl,rfl⟩
    · cases hw.accepted.symm.trans h
      exact .inr ⟨modes,sigils,hw.1,hw.2.1,hw.2.2,rfl⟩
    · cases hmalformed.symm.trans h
  · rintro (⟨rfl,rfl⟩ | ⟨modes,sigils,hs,hlen,hmodes,rfl⟩)
    · rfl
    · exact Written.accepted ⟨hs,hlen,hmodes⟩
  · rcases handleMemberships_cases s with rfl | ⟨modes,sigils,hw⟩ | hmalformed
    · cases h
    · cases hw.accepted.symm.trans h
    · cases hmalformed.symm.trans h

end Sake.Memberships
