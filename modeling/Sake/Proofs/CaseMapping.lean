import Mathlib.Data.List.Nodup
import Mathlib.Data.List.Perm.Basic
import Sake.CaseMapping

namespace Sake.CaseMapping

theorem mapChar_ascii_upper (cm : CaseMapping) (hl : 65 ≤ n) (hu : n ≤ 90) :
    cm.mapChar (ascii.mapChar (Char.ofNat n)) = cm.mapChar (Char.ofNat n) := by
  have hall : ∀ k < 26, cm.mapChar (ascii.mapChar (Char.ofNat (k + 65))) = cm.mapChar (Char.ofNat (k + 65)) := by
    cases cm <;> decide
  have hn := hall (n - 65) (by omega)
  rwa [Nat.sub_add_cancel hl] at hn

theorem mapChar_ascii (cm : CaseMapping) (r : Char) : cm.mapChar (ascii.mapChar r) = cm.mapChar r := by
  by_cases h : 'A' ≤ r ∧ r ≤ 'Z'
  · have hu := mapChar_ascii_upper cm (n := r.toNat) h.1 h.2
    rwa [Char.ofNat_toNat] at hu
  · have hfix : ascii.mapChar r = r := by simp [mapChar,if_neg h]
    rw [hfix]

theorem mapChar_strict (r : Char) : rfc1459.mapChar (rfc1459Strict.mapChar r) = rfc1459.mapChar r := by
  by_cases h : 'A' ≤ r ∧ r ≤ 'Z'
  · have hupper : rfc1459Strict.mapChar r = ascii.mapChar r := by simp [mapChar,if_pos h]
    rw [hupper,mapChar_ascii]
  · by_cases hs : r ∈ special
    · simp only [special,List.mem_cons,List.not_mem_nil,or_false] at hs
      rcases hs with rfl | rfl | rfl | rfl <;> rfl
    · rw [mapChar_fixed rfc1459Strict h hs]

theorem apply_of_finer {fine cm : CaseMapping} (hfine : ∀ r, cm.mapChar (fine.mapChar r) = cm.mapChar r)
    (h : fine.apply a = fine.apply b) : cm.apply a = cm.apply b := by
  have hback name : cm.apply (fine.apply name) = cm.apply name := by
    simp only [apply,String.toList_ofList,List.map_map]
    congr 1
    exact List.map_congr_left fun r _ => hfine r
  rw [← hback a,h,hback]

/-- ASCII is the most strict of the mappings. -/
theorem apply_of_ascii (cm : CaseMapping) (h : ascii.apply a = ascii.apply b) : cm.apply a = cm.apply b :=
  apply_of_finer (mapChar_ascii cm) h

end Sake.CaseMapping

namespace Sake.CaseMappingMap
variable {V : Type} {cm : CaseMapping} {m : CaseMappingMap V}
  {name k : String} {es : List (String × V)} {e : String × V}

/-- The keys of a map, as they are compared. -/
def keys (cm : CaseMapping) (m : CaseMappingMap V) : List String := m.entries.map fun e => cm.apply e.1

theorem mem_keys_of_has : m.has cm name = true ↔ cm.apply name ∈ m.keys cm := by simp [has,get,keys]

theorem set_of_not_mem (h : cm.apply name ∉ m.keys cm) (v : V) :
    (m.set cm name v).entries = m.entries ++ [(name,v)] := by
  unfold set
  rw [if_neg fun hc => h (mem_keys_of_has.mp hc)]

theorem keys_set_of_mem (h : cm.apply name ∈ m.keys cm) (v : V) : (m.set cm name v).keys cm = m.keys cm := by
  unfold set
  rw [if_pos (mem_keys_of_has.mpr h)]
  simp only [keys,List.map_map]
  refine List.map_congr_left fun e _ => ?_
  simp only [Function.comp_apply]
  split <;> rfl

theorem mem_keys_set : k ∈ (m.set cm name v).keys cm ↔ k = cm.apply name ∨ k ∈ m.keys cm := by
  by_cases hk : cm.apply name ∈ m.keys cm
  · rw [keys_set_of_mem hk]
    exact ⟨.inr,fun h => h.elim (fun h => h ▸ hk) id⟩
  · unfold keys
    rw [set_of_not_mem hk,List.map_append,List.map_singleton,List.mem_append,List.mem_singleton]
    exact or_comm

theorem mem_keys_del : k ∈ (m.del cm name).keys cm ↔ k ∈ m.keys cm ∧ k ≠ cm.apply name := by
  simp only [keys,del,List.mem_map,List.mem_filter,bne_iff_ne]
  constructor
  · rintro ⟨e,⟨he,hne⟩,rfl⟩
    exact ⟨⟨e,he,rfl⟩,hne⟩
  · rintro ⟨⟨e,he,rfl⟩,hne⟩
    exact ⟨e,⟨he,hne⟩,rfl⟩

section
variable {name k : String} {v w : V}

theorem mem_of_get (h : m.get cm name = some v) : ∃ k, (k,v) ∈ m.entries ∧ cm.apply k = cm.apply name := by
  obtain ⟨e,he,rfl⟩ := Option.map_eq_some_iff.mp h
  exact ⟨e.1,List.mem_of_find?_eq_some he,key_of_find he⟩

theorem entry_unique (hm : (m.keys cm).Nodup) (he : e ∈ m.entries) (hf : f ∈ m.entries)
    (h : cm.apply e.1 = cm.apply f.1) : e = f :=
  List.inj_on_of_nodup_map hm he hf h

theorem get_of_mem (hm : (m.keys cm).Nodup) (h : (k,v) ∈ m.entries) : m.get cm k = some v := by
  have hsome : (m.get cm k).isSome := mem_keys_of_has.mpr (List.mem_map.mpr ⟨_,h,rfl⟩)
  obtain ⟨w,hw⟩ := Option.isSome_iff_exists.mp hsome
  obtain ⟨k',hk',happly⟩ := mem_of_get hw
  cases entry_unique hm hk' h happly
  exact hw

theorem mem_set_of_ne (h : (k,w) ∈ m.entries) (hne : cm.apply k ≠ cm.apply name) :
    (k,w) ∈ (m.set cm name v).entries := by
  unfold set
  split
  · refine List.mem_map.mpr ⟨(k,w),h,?_⟩
    simp [hne]
  · exact List.mem_append_left _ h

theorem mem_set_self (h : (k,w) ∈ m.entries) (heq : cm.apply k = cm.apply name) :
    (k,v) ∈ (m.set cm name v).entries := by
  have hhas : m.has cm name = true := mem_keys_of_has.mpr (heq ▸ List.mem_map.mpr ⟨_,h,rfl⟩)
  unfold set
  rw [if_pos hhas]
  refine List.mem_map.mpr ⟨(k,w),h,?_⟩
  simp [heq]

/-- What a map holds after `Set`: the new value under the key that was there, or a new one. -/
theorem mem_set (h : e ∈ (m.set cm name v).entries) : e ∈ m.entries ∨ (e = (name,v) ∧ m.get cm name = none) ∨
      (e.2 = v ∧ ∃ w, (e.1,w) ∈ m.entries ∧ cm.apply e.1 = cm.apply name) := by
  unfold set at h
  split at h
  · obtain ⟨f,hf,rfl⟩ := List.mem_map.mp h
    split
    · next heq => exact .inr (.inr ⟨rfl,f.2,hf,by simpa using heq⟩)
    · exact .inl hf
  · next hnone =>
    rcases List.mem_append.mp h with h | h
    · exact .inl h
    · exact .inr (.inl ⟨List.mem_singleton.mp h,by simpa [has] using hnone⟩)

theorem keys_set_nodup (hm : (m.keys cm).Nodup) : ((m.set cm name v).keys cm).Nodup := by
  by_cases hk : cm.apply name ∈ m.keys cm
  · rw [keys_set_of_mem hk]
    exact hm
  unfold keys
  rw [set_of_not_mem hk,List.map_append]
  refine List.nodup_append.mpr ⟨hm,List.nodup_singleton _,?_⟩
  intro a ha b hb heq
  have hname : a = cm.apply name := heq.trans (List.mem_singleton.mp hb)
  exact hk (hname ▸ ha)

end

/-- One step of `SetCaseMapping`. -/
def rekey (cm : CaseMapping) (es : List (String × V)) (e : String × V) : List (String × V) :=
  es.filter (fun f => cm.apply f.1 != cm.apply e.1) ++ [e]

theorem rekey_nodup (h : (es.map fun e => cm.apply e.1).Nodup) (e : String × V) :
    ((rekey cm es e).map fun e => cm.apply e.1).Nodup := by
  unfold rekey
  rw [List.map_append]
  refine List.nodup_append.mpr ⟨(List.filter_sublist.map _).nodup h,List.nodup_singleton _,?_⟩
  intro a ha b hb heq
  obtain ⟨f,hf,rfl⟩ := List.mem_map.mp ha
  rw [List.mem_singleton.mp hb] at heq
  exact bne_iff_ne.mp (List.mem_filter.mp hf).2 heq

theorem rekey_of_not_mem (h : cm.apply e.1 ∉ es.map fun e => cm.apply e.1) : rekey cm es e = es ++ [e] := by
  have hall : es.filter (fun f => cm.apply f.1 != cm.apply e.1) = es := by
    refine List.filter_eq_self.mpr fun f hf => bne_iff_ne.mpr fun heq => h ?_
    exact List.mem_map.mpr ⟨f,hf,heq⟩
  rw [rekey,hall]

theorem mem_setCaseMapping (h : e ∈ (m.setCaseMapping cm).entries) : e ∈ m.entries := by
  have hall (es acc : List (String × V)) (h : e ∈ es.foldl (rekey cm) acc) : e ∈ acc ∨ e ∈ es := by
    induction es generalizing acc with
    | nil => exact .inl h
    | cons f es ih =>
      rcases ih _ h with h | h
      · rcases List.mem_append.mp h with h | h
        · exact .inl (List.mem_filter.mp h).1
        · exact .inr (List.mem_singleton.mp h ▸ List.mem_cons_self)
      · exact .inr (List.mem_cons_of_mem _ h)
  exact (hall m.entries [] h).resolve_left List.not_mem_nil

theorem setCaseMapping_nodup (cm : CaseMapping) (m : CaseMappingMap V) : ((m.setCaseMapping cm).keys cm).Nodup := by
  have hall (es acc : List (String × V)) (h : (acc.map fun e => cm.apply e.1).Nodup) :
      ((es.foldl (rekey cm) acc).map fun e => cm.apply e.1).Nodup := by
    induction es generalizing acc with
    | nil => exact h
    | cons e es ih => exact ih (rekey cm acc e) (rekey_nodup h e)
  exact hall m.entries [] List.nodup_nil

theorem setCaseMapping_of_nodup (h : (m.keys cm).Nodup) : (m.setCaseMapping cm).entries = m.entries := by
  have hall (es acc : List (String × V)) (h : ((acc ++ es).map fun e => cm.apply e.1).Nodup) :
      es.foldl (rekey cm) acc = acc ++ es := by
    induction es generalizing acc with
    | nil => exact (List.append_nil acc).symm
    | cons e es ih =>
      rw [List.append_cons] at h ⊢
      have hacc : ((acc ++ [e]).map fun e => cm.apply e.1).Nodup := ((List.sublist_append_left _ es).map _).nodup h
      rw [List.map_append] at hacc
      have hnot := (List.nodup_append.mp hacc).2.2
      rw [List.foldl_cons,rekey_of_not_mem fun hmem => hnot _ hmem _ (List.mem_singleton.mpr rfl) rfl]
      exact ih (acc ++ [e]) h
  exact (hall m.entries [] h).trans (List.nil_append _)

/-- A change of the mapping keeps everything if no keys fall together, and only then. -/
theorem setCaseMapping_perm_iff : (m.setCaseMapping cm).entries.Perm m.entries ↔ (m.keys cm).Nodup := by
  constructor
  · intro h
    have hkeys : ((m.setCaseMapping cm).keys cm).Perm (m.keys cm) := by exact List.Perm.map _ h
    exact hkeys.nodup_iff.mp (setCaseMapping_nodup cm m)
  · intro h
    rw [setCaseMapping_of_nodup h]

end Sake.CaseMappingMap
