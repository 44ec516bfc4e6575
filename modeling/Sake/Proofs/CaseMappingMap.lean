import Mathlib.Data.List.Dedup
import Sake.CaseMappingMap
import Sake.Proofs.CaseMapping

namespace Sake.Xirc.CaseMappingMap
open CaseMapping AList
variable {V : Type} {cmm : CaseMappingMap V} {m : AList fun _ : String => Entry V} {cm : CaseMapping}

/-- Every entry is stored under its canonical key. -/
def Canonical (cm : CaseMapping) (m : AList fun _ : String => Entry V) : Prop :=
  ∀ k e, m.lookup k = some e → k = cm.apply e.originalKey

theorem Canonical.insert (h : Canonical cm m) (hk : k = cm.apply e.originalKey) : Canonical cm (m.insert k e) := by
  intro k' e' he
  by_cases heq : k' = k
  · rw [heq,lookup_insert] at he
    cases he
    exact heq.trans hk
  · rw [lookup_insert_ne heq] at he
    exact h k' e' he

theorem Canonical.erase (h : Canonical cm m) (k : String) : Canonical cm (m.erase k) := by
  intro k' e he
  by_cases heq : k' = k
  · rw [heq,lookup_erase] at he
    cases he
  · rw [lookup_erase_ne heq] at he
    exact h k' e he

theorem Canonical.rekeyed (h : Canonical cm m) (es : List (Entry V)) :
    Canonical cm (es.foldl (fun m e => m.insert (cm.apply e.originalKey) e) m) := by
  induction es generalizing m with
  | nil => exact h
  | cons e es ih => exact ih (h.insert rfl)

theorem step_canonical (op : Op V) (h : Canonical cmm.casemap cmm.m) :
    Canonical (cmm.step op).casemap (cmm.step op).m := by
  cases op with
  | set name value =>
    simp only [step,set]
    cases he : cmm.m.lookup (cmm.casemap.apply name) with
    | none => exact h.insert rfl
    | some e => exact h.insert (h _ e he)
  | del name => exact h.erase _
  | setCaseMapping newCasemap order => exact Canonical.rekeyed (fun k e he => by cases he) _

theorem run_canonical (ops : List (Op V)) (h : Canonical cmm.casemap cmm.m) :
    Canonical (ops.foldl step cmm).casemap (ops.foldl step cmm).m := by
  induction ops generalizing cmm with
  | nil => exact h
  | cons op ops ih => exact ih (step_canonical op h)

theorem Canonical.keys (h : Canonical cm m) : (m.entries.map fun s => cm.apply s.2.originalKey) = m.keys := by
  refine List.map_congr_left fun s hs => (h s.1 s.2 ?_).symm
  exact mem_lookup_iff.mpr hs

theorem rekeyed_entries (es : List (Entry V)) (hnodup : (es.map fun e => cm.apply e.originalKey).Nodup)
    (hnew : ∀ e ∈ es, cm.apply e.originalKey ∉ m) :
    ((es.foldl (fun m e => m.insert (cm.apply e.originalKey) e) m).entries.map Sigma.snd).Perm
      (es ++ m.entries.map Sigma.snd) := by
  induction es generalizing m with
  | nil => exact .refl _
  | cons e es ih =>
    obtain ⟨hhead,htail⟩ := List.nodup_cons.mp hnodup
    have hout : cm.apply e.originalKey ∉ m := hnew e List.mem_cons_self
    have hrest : ∀ f ∈ es, cm.apply f.originalKey ∉ m.insert (cm.apply e.originalKey) e := by
      intro f hf hmem
      rcases (mem_insert m).mp hmem with heq | hmem
      · exact hhead (List.mem_map.mpr ⟨f,hf,heq⟩)
      · exact hnew f (List.mem_cons_of_mem _ hf) hmem
    have hperm := ih htail hrest
    rw [entries_insert_of_notMem hout] at hperm
    exact hperm.trans List.perm_middle

/-- A change of the mapping keeps all entries whose keys do not fall together. -/
theorem setCaseMapping_perm (order : Order V) (h : (cmm.entries.map fun e => cm.apply e.originalKey).Nodup) :
    (cmm.setCaseMapping cm order).entries.Perm cmm.entries := by
  have hperm : (order cmm.entries).1.Perm cmm.entries := (order cmm.entries).2
  have hnodup : ((order cmm.entries).1.map fun e => cm.apply e.originalKey).Nodup :=
    (List.Perm.nodup_iff (hperm.map _)).mpr h
  have hnew (e) (_ : e ∈ (order cmm.entries).1) : cm.apply e.originalKey ∉ (∅ : AList fun _ : String => Entry V) :=
    notMem_empty _
  have hall := rekeyed_entries _ hnodup hnew
  rw [empty_entries,List.map_nil,List.append_nil] at hall
  exact hall.trans hperm

theorem get_set_of_ne (value : V) (h : cmm.casemap.apply a ≠ cmm.casemap.apply b) :
    (cmm.set b value).get a = cmm.get a := by
  simp only [set]
  split <;> exact congrArg (Option.map Entry.value) (lookup_insert_ne h)

theorem maps_canonical (cm : CaseMapping) (ops : List (Op V)) :
    let cmm := ops.foldl step (new cm)
    (∀ key e, cmm.m.lookup key = some e → key = cmm.casemap.apply e.originalKey) ∧
    (∀ a b, cmm.casemap.apply a = cmm.casemap.apply b →
      cmm.get a = cmm.get b ∧ cmm.has a = cmm.has b ∧ cmm.del a = cmm.del b) ∧
    cmm.len = (cmm.entries.map fun e => cmm.casemap.apply e.originalKey).dedup.length ∧
    (∀ newCasemap order, (cmm.entries.map fun e => newCasemap.apply e.originalKey).Nodup →
      (cmm.setCaseMapping newCasemap order).entries.Perm cmm.entries) ∧
    (∀ a b, (ascii.apply a = ascii.apply b → rfc1459Strict.apply a = rfc1459Strict.apply b) ∧
      (rfc1459Strict.apply a = rfc1459Strict.apply b → rfc1459.apply a = rfc1459.apply b)) ∧
    (∀ (cm : CaseMapping) name, cm.apply (cm.apply name) = cm.apply name) ∧
    (cmm.casemap = ascii → ∀ (cm : CaseMapping) a b value, cm.apply a ≠ cm.apply b →
      (cmm.set b value).get a = cmm.get a) := by
  intro cmm
  have hcan : Canonical cmm.casemap cmm.m := @run_canonical _ (new cm) ops fun k e he => by cases he
  refine ⟨hcan,?_,?_,fun _ => setCaseMapping_perm,fun a b => ⟨apply_of_ascii _,apply_of_finer mapChar_strict⟩,apply_apply,?_⟩
  · intro a b hab
    unfold get has del
    rw [hab]
    exact ⟨rfl,rfl,rfl⟩
  · have hkeys : (cmm.entries.map fun e => cmm.casemap.apply e.originalKey) = cmm.m.keys := by
      unfold CaseMappingMap.entries
      rw [List.map_map]
      exact hcan.keys
    rw [hkeys,List.dedup_eq_self.mpr cmm.m.keys_nodup]
    exact (List.length_map _).symm
  · intro hascii cm a b value hne
    refine get_set_of_ne value fun heq => hne (apply_of_ascii cm ?_)
    rwa [hascii] at heq

end Sake.Xirc.CaseMappingMap
