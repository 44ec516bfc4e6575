import Mathlib.Data.List.Nodup
import Mathlib.Data.List.Perm.Subperm
import Sake.FsHandles
import Sake.Lib.Runs

namespace Sake.Proofs.FsHandles
open Sake.FsStore Lib.Runs List

variable {host : Host} {files : List (String × Handle)} {s t : Store} {h : Handles}

theorem evict_eq (files : List (String × Handle)) :
    evict host files = files.filter fun f => f.1 ∉ oldest host files := by
  unfold evict oldest
  split
  · rfl
  · rename_i hfew
    simp [Nat.sub_eq_zero_of_le (Nat.not_lt.mp hfew)]

/-- The files used longest ago go, so that not too many stay. -/
theorem evict_length (hd : (files.map Prod.fst).Nodup) : (evict host files).length ≤ fsMessageStoreMaxFiles := by
  rw [evict_eq]
  set gone := (host.byLastUse files).take (files.length - fsMessageStoreMaxFiles) with hgone
  have hperm := host.byLastUse_perm files
  have hlen : gone.length = files.length - fsMessageStoreMaxFiles := by
    rw [hgone,length_take,hperm.length_eq]
    omega
  have hsub : gone <+~ files.filter fun f => f.1 ∈ oldest host files := by
    refine Nodup.subperm ((hperm.nodup_iff.mpr (hd.of_map _)).sublist (take_sublist _ _)) fun f hf => ?_
    exact mem_filter.mpr ⟨hperm.subset (mem_of_mem_take hf),decide_eq_true (mem_map_of_mem hf)⟩
  have hsplit := length_eq_length_filter_add (l := files) fun f => decide (f.1 ∈ oldest host files)
  have := hsub.length_le
  simp only [decide_not]
  omega

theorem mem_keys (hl : (files.lookup entity).isSome) : entity ∈ files.map Prod.fst := by
  obtain ⟨f,hf,he⟩ := lookup_isSome_iff.mp hl
  exact mem_map.mpr ⟨f,hf,(beq_iff_eq.mp he).symm⟩

theorem keys_close (h : Handles) (name : String) :
    (h.close name).held.map Prod.fst = (h.held.map Prod.fst).filter (· ≠ name) := by
  rw [filter_map]
  rfl

theorem close_once (ho : h.Once) (name : String) : (h.close name).Once := by
  refine Perm.trans ?_ ho
  have hsplit := (filter_append_perm (fun f => decide (f.1 = name)) h.held).map Prod.snd
  refine perm_iff_count.mpr fun n => ?_
  have := hsplit.count_eq n
  simp only [Handles.close,map_append,count_append,decide_not] at this ⊢
  omega

/-- No handle is lost when several are closed, and the others stay. -/
theorem closeAll (ho : h.Once) (names : List String) :
    (names.foldl Handles.close h).Once ∧
      (names.foldl Handles.close h).held.map Prod.fst = (h.held.map Prod.fst).filter (· ∉ names) := by
  induction names generalizing h with
  | nil => simpa using ho
  | cons name names ih =>
    obtain ⟨honce,hkeys⟩ := ih (close_once ho name)
    refine ⟨honce,hkeys.trans ?_⟩
    rw [keys_close,filter_filter]
    exact filter_congr fun x _ => by simp [Bool.and_comm]

theorem keys_setFile (files : List (String × Handle)) (entity : String) (f : Handle) :
    (setFile files entity f).map Prod.fst = entity :: (files.map Prod.fst).filter (· ≠ entity) := by
  rw [setFile,map_cons,filter_map]
  rfl

/-- The names keep to those in the map, and no handle is lost, when a file is used. -/
theorem use_accounted (ha : Accounted (s,h)) (entity path : String) (f : Handle) :
    ((h.use s entity path).held.map Prod.fst).Perm ((setFile s.files entity f).map Prod.fst) ∧
      (h.use s entity path).Once := by
  rw [keys_setFile]
  unfold Handles.use
  split
  · rename_i hc
    have hmem : entity ∈ s.files.map Prod.fst := by
      obtain ⟨f,hf⟩ := Option.isSome_iff_exists.mp hc
      exact mem_keys (Option.isSome_of_mem (Option.filter_eq_some_iff.mp hf).1)
    refine ⟨ha.stored.trans ((perm_cons_erase hmem).trans ?_),ha.once⟩
    rw [ha.apart.erase_eq_filter]
    simp [bne,Bool.beq_eq_decide_eq]
  · constructor
    · rw [map_cons,keys_close]
      exact (ha.stored.filter _).cons entity
    · have honce := (close_once ha.once entity).cons h.opened
      rw [Handles.Once,range_succ]
      exact honce.trans (perm_append_singleton _ _).symm

theorem evict_accounted (hstored : (h.held.map Prod.fst).Perm (files.map Prod.fst))
    (hd : (files.map Prod.fst).Nodup) (ho : h.Once) :
    Accounted (⟨disk,evict host files⟩,(oldest host files).foldl Handles.close h) := by
  obtain ⟨honce,hkeys⟩ := closeAll ho (oldest host files)
  have hevict : (evict host files).map Prod.fst = (files.map Prod.fst).filter (· ∉ oldest host files) := by
    rw [evict_eq,filter_map]
    rfl
  have hnew := hevict ▸ hkeys ▸ hstored.filter (· ∉ oldest host files)
  have hlen := hnew.length_eq
  rw [length_map,length_map] at hlen
  exact ⟨hlen.trans_le (evict_length hd),hnew,hevict ▸ hd.filter _,honce⟩

theorem openFile_files (ho : s.openFile entity path = (result,t)) : t.files = s.files := by
  unfold Store.openFile at ho
  split at ho
  · cases ho
    rfl
  · split at ho
    · cases ho
      rfl
    · split at ho <;> cases ho <;> rfl

theorem append_accounted {s t : Store × Handles} (ha : Accounted s) (hs : appendStep host s c = some t) :
    Accounted t ∧ ∀ line, lineOf host c.network c.entity c.msg c.now = .ok (some line) →
      line.entity ∈ t.1.files.map Prod.fst := by
  unfold appendStep at hs
  split at hs
  · cases hs
  · rename_i hl
    cases hs
    exact ⟨ha,fun line h => by simp [hl] at h⟩
  · rename_i line hl
    dsimp only at hs
    split at hs
    · rename_i i u id v ho hw
      cases hs
      have hopen := openFile_files ho
      simp only [writeLine,ho,hopen] at hw
      split at hw
      · cases hw
      · rename_i hsome
        cases hw
        set files := setFile s.1.files line.entity ⟨linePath host c.network line,i,c.now⟩ with hfiles
        obtain ⟨hstored,honce⟩ := use_accounted ha line.entity (linePath host c.network line) ⟨_,i,c.now⟩
        have hd : (files.map Prod.fst).Nodup := by
          rw [hfiles,keys_setFile]
          exact nodup_cons.mpr ⟨by simp,ha.apart.filter _⟩
        refine ⟨?_,fun _ h => ?_⟩
        · rw [hopen]
          exact evict_accounted hstored hd honce
        · cases hl.symm.trans h
          exact mem_keys (by simpa using hsome)
    · cases hs

end Sake.Proofs.FsHandles
