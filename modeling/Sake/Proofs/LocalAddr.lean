import Sake.LocalAddr

namespace Sake.Proofs.LocalAddr
open Sake.LocalAddr

variable {n : IPNet} {id : Fin (2 ^ 63)} {a : Nat} {nets : List IPNet} {remoteIP : IP}

theorem bytes_len_iff (k : Nat) : (bytes i).len = k + 1 ↔ 256 ^ k ≤ i.natAbs ∧ i.natAbs < 256 ^ (k + 1) := by
  rw [← Nat.digits_length_le_iff (by omega),← not_lt,← Nat.digits_length_le_iff (by omega),bytes]
  dsimp only
  omega

theorem agrees_iff : n.Agrees a n.ip.value ↔ n.ip.value ≤ a ∧ a < n.ip.value + 2 ^ (8 * n.ip.len - n.ones) := by
  obtain ⟨q,hq⟩ := n.masked
  have hpos : 0 < 2 ^ (8 * n.ip.len - n.ones) := Nat.two_pow_pos _
  rw [IPNet.Agrees,hq,Nat.mul_div_cancel_left _ hpos,Nat.div_eq_iff hpos,Nat.mul_comm]
  omega

theorem fits_of_agrees (h : n.Agrees a n.ip.value) : a < 256 ^ n.ip.len := by
  have hpos : 0 < 2 ^ (8 * n.ip.len - n.ones) := Nat.two_pow_pos _
  have hpow : 256 ^ n.ip.len = 2 ^ (8 * n.ip.len - (8 * n.ip.len - n.ones)) * 2 ^ (8 * n.ip.len - n.ones) := by
    rw [← pow_add,Nat.sub_add_cancel (Nat.sub_le _ _),pow_mul]
    rfl
  have hfits := n.fits
  rw [hpow,← Nat.div_lt_iff_lt_mul hpos] at hfits ⊢
  exact lt_of_eq_of_lt h hfits

theorem small_of_mapped (h : n.ip.value / 2 ^ 32 = 0xffff) (hag : n.Agrees a n.ip.value) : a < 2 ^ 49 := by
  have hlt := (agrees_iff.mp hag).2
  have hle := Nat.le_of_dvd (by omega) n.masked
  omega

/-- The bytes of a number are longer than four if an address of sixteen bytes stands for one of four. -/
theorem contains_iff (h : n.ip.len = 16 → n.ip.value / 2 ^ 32 = 0xffff → 2 ^ 32 ≤ i.natAbs) :
    n.Contains (bytes i) ↔ (bytes i).len = n.ip.len ∧ n.Agrees i.natAbs n.ip.value := by
  have hbytes : (bytes i).to4.getD (bytes i) = bytes i := by
    unfold IP.to4
    split
    · rfl
    split
    · rename_i hmapped
      have hlen := (bytes_len_iff 15).mp hmapped.1
      have hval : i.natAbs / 2 ^ 32 = 0xffff := hmapped.2
      omega
    · rfl
  rw [IPNet.Contains,hbytes]
  by_cases hmapped : n.ip.len = 16 ∧ n.ip.value / 2 ^ 32 = 0xffff
  · have hto4 : n.ip.to4 = some ⟨4,n.ip.value % 2 ^ 32⟩ := by rw [IP.to4,if_neg (by omega),if_pos hmapped]
    have hlarge := h hmapped.1 hmapped.2
    refine iff_of_false (fun hc => ?_) fun hc => ?_
    · rw [hto4] at hc
      have hlen := (bytes_len_iff 3).mp hc.1
      omega
    · have hlen := (bytes_len_iff 15).mp (hc.1.trans hmapped.1)
      have hsmall := small_of_mapped hmapped.2 hc.2
      omega
  · have hto4 : n.ip.to4.getD n.ip = n.ip := by
      rcases n.size with h4 | h16
      · simp [IP.to4,h4]
      · simp_all [IP.to4]
    rw [hto4]
    rfl

theorem next_eq (h : id.val + 1 < 2 ^ 63) : n.next id = ((n.ip.value + id.val + 1 : Nat) : Int) := by
  unfold IPNet.next
  rw [Int.bmod_eq_of_le (by omega) (by omega)]
  omega

theorem next_last (h : ¬ id.val + 1 < 2 ^ 63) : n.next id = n.ip.value - 2 ^ 63 := by
  have hid : (id.val + 1 : Int) = 2 ^ 63 := by omega
  have hmod : (2 ^ 63 : Int).bmod (2 ^ 64) = -2 ^ 63 := by decide
  unfold IPNet.next
  rw [hid,hmod]
  rfl

/-- What comes out for the last user is never an address of the network. -/
theorem below_of_last (h : ¬ id.val + 1 < 2 ^ 63) (hlen : (bytes (n.next id)).len = n.ip.len) :
    (n.next id).natAbs < n.ip.value := by
  have hfits := n.fits
  rw [next_last h] at hlen ⊢
  rcases n.size with h4 | h16
  · have hsmall := (bytes_len_iff 3).mp (hlen.trans h4)
    rw [h4] at hfits
    omega
  · have hlarge := (bytes_len_iff 15).mp (hlen.trans h16)
    omega

theorem bytes_eq_iff : bytes (a : Int) = ⟨n.ip.len,a⟩ ↔ (bytes (a : Int)).len = n.ip.len := by simp [IP.ext_iff,bytes]

theorem bytes_next (h : n.Agrees (n.ip.value + id.val + 1) n.ip.value) :
    bytes (n.next id) = ⟨n.ip.len,n.ip.value + id.val + 1⟩ ↔
      id.val + 1 < 2 ^ 63 ∧ 256 ^ (n.ip.len - 1) ≤ n.ip.value + id.val + 1 := by
  by_cases hnext : id.val + 1 < 2 ^ 63
  · obtain ⟨k,hk⟩ : ∃ k, n.ip.len = k + 1 := ⟨n.ip.len - 1,by have := n.size; omega⟩
    have hfits := fits_of_agrees h
    rw [hk] at hfits
    rw [next_eq hnext,bytes_eq_iff,hk,bytes_len_iff,Int.natAbs_natCast]
    simp only [hfits,hnext,and_true,true_and,Nat.add_sub_cancel]
  · refine iff_of_false (fun hb => ?_) fun hc => hnext hc.1
    have hlt := below_of_last hnext (by rw [hb])
    have hval := congrArg IP.value hb
    simp only [bytes] at hval
    omega

theorem contains_next : n.Contains (bytes (n.next id)) ↔
    n.Agrees (n.ip.value + id.val + 1) n.ip.value ∧ bytes (n.next id) = ⟨n.ip.len,n.ip.value + id.val + 1⟩ := by
  by_cases hnext : id.val + 1 < 2 ^ 63
  · rw [contains_iff (by rw [next_eq hnext,Int.natAbs_natCast]; omega),next_eq hnext,bytes_eq_iff,Int.natAbs_natCast,
      and_comm]
  · refine iff_of_false (fun hc => ?_) fun hc => ?_
    · obtain ⟨hlen,hag⟩ := (contains_iff fun _ _ => by rw [next_last hnext]; omega).mp hc
      exact absurd (agrees_iff.mp hag).1 (not_le.mpr (below_of_last hnext hlen))
    · exact hnext ((bytes_next hc.1).mp hc.2).1

theorem localTCPAddr_some (h : localTCPAddr nets remoteIP id = .ok (some ip)) : ∃ n, select nets remoteIP = some n ∧
    ip = ⟨n.ip.len,n.ip.value + id.val + 1⟩ ∧ n.ip.to4.isNone = (n.ip.len == 16) := by
  unfold localTCPAddr at h
  split at h
  · cases h
  rename_i n hn
  split at h
  · rename_i hc
    obtain ⟨hag,hb⟩ := contains_next.mp hc
    refine ⟨n,hn,?_,?_⟩
    · rw [← hb]
      exact (Option.some.inj (Except.ok.inj h)).symm
    have hlen := ((bytes_next hag).mp hb).2
    rcases n.size with h4 | h16
    · simp [IP.to4,h4]
    · have hmapped : ¬ n.ip.value / 2 ^ 32 = 0xffff := fun hm => by
        have hsmall := small_of_mapped hm hag
        rw [h16] at hlen
        omega
      simp_all [IP.to4]
  · cases h

/-- The address is as intended if it begins with a byte other than zero and the number of the user is not the
last one. No two users ever get the same address. -/
theorem localTCPAddr_iff (nets : List IPNet) (remoteIP : IP) (id : Fin (2 ^ 63)) :
    (localTCPAddr nets remoteIP id = intended nets remoteIP id ↔
      ∀ n, select nets remoteIP = some n → n.Agrees (n.ip.value + id.val + 1) n.ip.value →
        id.val + 1 < 2 ^ 63 ∧ 256 ^ (n.ip.len - 1) ≤ n.ip.value + id.val + 1) ∧
    ∀ remoteIP' id' ip, localTCPAddr nets remoteIP id = .ok (some ip) →
      localTCPAddr nets remoteIP' id' = .ok (some ip) → id = id' := by
  constructor
  · unfold localTCPAddr intended
    cases hn : select nets remoteIP with
    | none => simp
    | some n =>
      simp only [contains_next,Option.some.injEq,forall_eq']
      by_cases hag : n.Agrees (n.ip.value + id.val + 1) n.ip.value
      · rw [← bytes_next hag]
        by_cases hb : bytes (n.next id) = ⟨n.ip.len,n.ip.value + id.val + 1⟩ <;> simp [hag,hb]
      · simp [hag]
  · intro remoteIP' id' ip h h'
    obtain ⟨n,hn,hip,hfour⟩ := localTCPAddr_some h
    obtain ⟨n',hn',hip',hfour'⟩ := localTCPAddr_some h'
    have hfamily := List.find?_some hn
    have hfamily' := List.find?_some hn'
    obtain ⟨hlen,hval⟩ := IP.mk.inj (hip.symm.trans hip')
    have hsame : remoteIP.to4.isNone = remoteIP'.to4.isNone := by simp_all
    have hnet : n = n' := by
      unfold select at hn hn'
      rw [hsame,hn'] at hn
      exact (Option.some.inj hn).symm
    rw [hnet] at hval
    exact Fin.ext (by omega)

/-- `64:ff9b:1::/48`. -/
def nat64 : IPNet := ⟨⟨16,0x64ff9b0001 * 2 ^ 80⟩,48,.inr rfl,by decide,⟨0x64ff9b0001,rfl⟩⟩

theorem leading_zero_refused : localTCPAddr [nat64] ⟨16,2 ^ 125⟩ ⟨0,by decide⟩ = .error nat64 ∧
    intended [nat64] ⟨16,2 ^ 125⟩ ⟨0,by decide⟩ = .ok (some ⟨16,0x64ff9b0001 * 2 ^ 80 + 1⟩) := by
  have hselect : select [nat64] ⟨16,2 ^ 125⟩ = some nat64 := rfl
  have hag : nat64.Agrees (nat64.ip.value + 0 + 1) nat64.ip.value := by decide
  have hnot : ¬ nat64.Contains (bytes (nat64.next ⟨0,by decide⟩)) := fun hc => by
    have hlen := ((bytes_next hag).mp (contains_next.mp hc).2).2
    revert hlen
    decide
  simp only [localTCPAddr,intended,hselect]
  exact ⟨if_neg hnot,if_pos hag⟩

end Sake.Proofs.LocalAddr
