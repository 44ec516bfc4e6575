import Mathlib.Data.List.TakeDrop
import Mathlib.Data.List.TakeWhile
import Sake.Strings

namespace Sake.Proofs.Strings
open Sake.Strings List

section Pieces
theorem pieces_append (h : ∀ c ∈ word, p c = false) (hsep : p sep = true)
    (rest : List Char) : pieces p (word ++ sep :: rest) = word :: pieces p rest := by
  induction word with
  | nil => simp [pieces,hsep]
  | cons c word ih =>
    have hc := h c mem_cons_self
    simp [pieces,hc,ih fun d hd => h d (mem_cons_of_mem _ hd)]

theorem pieces_word (h : ∀ c ∈ word, p c = false) : pieces p word = [word] := by
  induction word with
  | nil => rfl
  | cons c word ih =>
    have hc := h c mem_cons_self
    simp [pieces,hc,ih fun d hd => h d (mem_cons_of_mem _ hd)]

theorem pieces_intercalate (hsep : p sep = true) {words : List (List Char)} (hne : words ≠ [])
    (h : ∀ word ∈ words, ∀ c ∈ word, p c = false) : pieces p ([sep].intercalate words) = words := by
  induction words with
  | nil => exact absurd rfl hne
  | cons word words ih =>
    have hword := h word mem_cons_self
    cases words with
    | nil => simpa using pieces_word hword
    | cons next words =>
      rw [intercalate_cons_cons,append_assoc,singleton_append,pieces_append hword hsep,
        ih (cons_ne_nil _ _) fun w hw => h w (mem_cons_of_mem _ hw)]

theorem mem_pieces (h : word ∈ pieces p cs) : ∀ c ∈ word, p c = false := by
  induction cs generalizing word with
  | nil =>
    cases mem_singleton.mp h
    exact fun c hc => nomatch hc
  | cons c cs ih =>
    unfold pieces at h
    split at h
    · rcases mem_cons.mp h with rfl | h
      · exact fun c hc => nomatch hc
      · exact ih h
    rename_i hc
    split at h
    · cases mem_singleton.mp h
      intro c' hc'
      cases mem_singleton.mp hc'
      exact Bool.not_eq_true _ ▸ hc
    · rename_i heq
      rcases mem_cons.mp h with rfl | h
      · intro c' hc'
        rcases mem_cons.mp hc' with rfl | hc'
        · exact Bool.not_eq_true _ ▸ hc
        · exact ih (heq ▸ mem_cons_self) c' hc'
      · exact ih (heq ▸ mem_cons_of_mem _ h)

theorem mem_split {word : String} (h : word ∈ split sep s) : sep ∉ word.toList := by
  obtain ⟨cs,hcs,rfl⟩ := mem_map.mp h
  intro hsep
  rw [String.toList_ofList] at hsep
  exact Bool.false_ne_true ((mem_pieces hcs sep hsep).symm.trans (beq_self_eq_true sep))

theorem split_intercalate (hne : words ≠ [])
    (h : ∀ word ∈ words, sep ∉ word.toList) : split sep ((String.ofList [sep]).intercalate words) = words := by
  unfold split
  rw [String.toList_intercalate,String.toList_ofList,pieces_intercalate (p := (· == sep)) (beq_self_eq_true sep)]
  · rw [map_map]
    exact map_id'' (fun _ => String.ofList_toList) words
  · exact fun hnil => hne (map_eq_nil_iff.mp hnil)
  · intro cs hcs c hc
    obtain ⟨word,hword,rfl⟩ := mem_map.mp hcs
    exact beq_eq_false_iff_ne.mpr fun heq => h word hword (heq ▸ hc)

theorem fieldsFunc_intercalate (hsep : p sep = true) (h : ∀ word ∈ words, word ≠ "" ∧ ∀ c ∈ word.toList, p c = false) :
    fieldsFunc p ((String.ofList [sep]).intercalate words) = words := by
  unfold fieldsFunc
  rw [String.toList_intercalate,String.toList_ofList]
  cases words with
  | nil => rfl
  | cons word words =>
    rw [pieces_intercalate hsep (by simp)]
    · rw [List.filter_eq_self.mpr,List.map_map]
      · refine (List.map_congr_left fun w _ => ?_).trans (List.map_id _)
        exact String.ofList_toList
      · intro cs hcs
        obtain ⟨w,hw,rfl⟩ := List.mem_map.mp hcs
        simpa using (h w hw).1
    · intro cs hcs c hc
      obtain ⟨w,hw,rfl⟩ := List.mem_map.mp hcs
      exact (h w hw).2 c hc

end Pieces

theorem mapChars_self (h : ∀ c ∈ s.toList, f c = c) : mapChars f s = s := by
  unfold mapChars
  rw [map_congr_left h,map_id']
  exact String.ofList_toList

theorem cutFirst_of_not (h : startsWith c s = false) : cutFirst c s = (s,false) := by
  unfold cutFirst
  rw [h]
  rfl

theorem cut_eq_some_iff : cut sep s = some (a,b) ↔ s.toList = a.toList ++ sep :: b.toList ∧ sep ∉ a.toList := by
  unfold cut
  rw [span_eq_takeWhile_dropWhile]
  constructor
  · intro h
    split at h
    · cases h
    next before c after hs =>
    cases h
    obtain ⟨rfl,hd⟩ := Prod.mk.inj hs
    have hc := head?_dropWhile_not (· != sep) s.toList
    have hs := takeWhile_append_dropWhile (p := (· != sep)) (l := s.toList)
    simp only [hd,bne_eq_false_iff_eq] at hc
    rw [hd,hc] at hs
    refine ⟨by simpa using hs.symm,fun hm => ?_⟩
    have := mem_takeWhile_imp (String.toList_ofList ▸ hm)
    simp at this
  · rintro ⟨hs,hn⟩
    have hp : ∀ c ∈ a.toList, (c != sep) = true := fun c hc => bne_iff_ne.mpr fun he => hn (he ▸ hc)
    rw [hs,takeWhile_append_of_pos hp,dropWhile_append_of_pos hp]
    simp

end Sake.Proofs.Strings
