import Sake.Handlers.Registration
import Sake.LabelRouting
import Sake.Proofs.Strings
import Sake.Proofs.Tags

namespace Sake.Proofs.LabelRouting
open Sake.LabelRouting Sake.Strings Sake.Pending Strings List
open Upstream (parseLabel)

theorem repr_isDigit {n : Nat} (h : c ∈ n.repr.toList) : c.isDigit = true := by
  rw [Nat.toList_repr] at h
  exact Nat.isDigit_of_mem_toDigits (by omega) (by omega) h

theorem ofDigitChars_repr : Nat.ofDigitChars 10 n.repr.toList 0 = n := by
  rw [Nat.toList_repr,Nat.ofDigitChars_toDigits (by omega) (by omega)]

theorem decimal_digits (h : ∀ c ∈ cs, c.isDigit = true) (n : Nat) :
    cs.foldl (fun acc c => acc.bind fun n => (digit c).map fun d => 10 * n + d) (some n) =
      some (Nat.ofDigitChars 10 cs n) := by
  induction cs generalizing n with
  | nil => rfl
  | cons c cs ih =>
    have hc : digit c = some (c.toNat - '0'.toNat) := if_pos (by simpa [Char.isDigit,Char.le_def] using h c mem_cons_self)
    rw [foldl_cons,Option.bind_some,hc]
    exact ih (fun d hd => h d (mem_cons_of_mem c hd)) _

theorem parseUint_repr (n : UInt64) : parseUint n.toNat.repr = some n.toNat := by
  have hdecimal : decimal n.toNat.repr.toList = some n.toNat := by
    unfold decimal
    split
    · rename_i hnil
      exact absurd (n.toNat.toList_repr.symm.trans hnil) Nat.toDigits_ne_nil
    · rw [decimal_digits fun c hc => repr_isDigit hc,ofDigitChars_repr]
  rw [parseUint,hdecimal]
  simp [n.toNat_lt]

theorem splitN_formatLabel (id n : Nat) (label : String) :
    splitN '-' 4 (formatLabel id n label) = ["sd",id.repr,n.repr,label] := by
  have hdash (n : Nat) : '-' ∉ n.repr.toList := fun h => absurd (repr_isDigit h) (by decide)
  have hsd : cut '-' (formatLabel id n label) = some ("sd",id.repr ++ "-" ++ n.repr ++ "-" ++ label) :=
    cut_eq_some_iff.mpr ⟨by simp [formatLabel],by decide⟩
  have hid : cut '-' (id.repr ++ "-" ++ n.repr ++ "-" ++ label) = some (id.repr,n.repr ++ "-" ++ label) :=
    cut_eq_some_iff.mpr ⟨by simp,hdash id⟩
  have hn : cut '-' (n.repr ++ "-" ++ label) = some (n.repr,label) := cut_eq_some_iff.mpr ⟨by simp,hdash n⟩
  simp [splitN,hsd,hid,hn]

theorem parseLabel_formatLabel (id : UInt64) (n : Nat) (label : String) :
    parseLabel (formatLabel id.toNat n label) = .ok (id.toNat,label) := by
  have hne : formatLabel id.toNat n label ≠ "" := fun h => by
    have hlist := congrArg String.toList h
    simp [formatLabel] at hlist
  unfold parseLabel
  rw [if_neg hne,splitN_formatLabel]
  simp [parseUint_repr]

variable {next next' : UInt64} {send : Send} {msg : Message} {ctx : Option Labels.LabelContext} {sends : List Send}

theorem sendMessageLabeled_some (h : sendMessageLabeled true next send = some (msg,next',ctx)) : next' = next + 1 ∧
    msg.tags.get "label" = some (formatLabel send.downstreamID.toNat next.toNat send.label) := by
  unfold sendMessageLabeled at h
  split at h
  · cases h
  · cases h
    exact ⟨rfl,(Tags.get_set ..).trans (if_pos rfl)⟩

/-- The numbers of the labels follow one another. -/
theorem mem_labels (h : label ∈ labels next sends) :
    ∃ k < sends.length, ∃ id text, label = formatLabel id ((next.toNat + k) % 2 ^ 64) text := by
  induction sends generalizing next with
  | nil => cases h
  | cons send rest ih =>
    rw [labels] at h
    split at h
    · cases h
    rename_i msg next' ctx hsend
    obtain ⟨rfl,hget⟩ := sendMessageLabeled_some hsend
    rw [hget] at h
    rcases mem_cons.mp h with rfl | h
    · exact ⟨0,by simp,_,_,by rw [Nat.add_zero,Nat.mod_eq_of_lt next.toNat_lt]; rfl⟩
    · obtain ⟨k,hk,id,text,rfl⟩ := ih h
      exact ⟨k + 1,by simpa using hk,id,text,by simp [Nat.add_assoc,Nat.add_comm 1]⟩

theorem labels_nodup (h : sends.length < 2 ^ 64) (next : UInt64) : (labels next sends).Nodup := by
  induction sends generalizing next with
  | nil => exact nodup_nil
  | cons send rest ih =>
    rw [length_cons] at h
    rw [labels]
    split
    · exact nodup_nil
    rename_i msg next' ctx hsend
    obtain ⟨rfl,hget⟩ := sendMessageLabeled_some hsend
    refine nodup_cons.mpr ⟨fun hmem => ?_,ih (by omega) _⟩
    obtain ⟨k,hk,id,text,heq⟩ := mem_labels hmem
    rw [hget] at heq
    have hsplit := congrArg (splitN '-' 4) heq
    rw [splitN_formatLabel,Option.getD_some,splitN_formatLabel] at hsplit
    injection hsplit with _ hsplit
    injection hsplit with _ hsplit
    injection hsplit with hrepr
    have hnum := congrArg (fun s => Nat.ofDigitChars 10 s.toList 0) hrepr
    simp only [ofDigitChars_repr,UInt64.toNat_add,UInt64.toNat_one] at hnum
    omega

end Sake.Proofs.LabelRouting
