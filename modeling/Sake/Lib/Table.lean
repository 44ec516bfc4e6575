import Mathlib.Data.List.Nodup

namespace Sake.Lib
open List

/-- A table whose rows have positive ids and one more key, the name. -/
structure Table {ρ ν : Type} (id : ρ → Int) (name : ρ → ν) where
  rows : List ρ
  positive : ∀ r ∈ rows, 0 < id r
  nodup : (rows.map id).Nodup
  names : (rows.map name).Nodup

namespace Table

variable {ρ ν : Type} {id : ρ → Int} {name : ρ → ν}
  {t : Table id name} {r r' : ρ} {n : ν} {p : ρ → Bool} {f : ρ → ρ} {k : Int}

def empty : Table id name := ⟨[],fun _ h => absurd h not_mem_nil,nodup_nil,nodup_nil⟩

def single (r : ρ) (h : 0 < id r) : Table id name :=
  ⟨[r],fun _ hr => mem_singleton.mp hr ▸ h,nodup_singleton _,nodup_singleton _⟩

theorem eq_of_name (t : Table id name) (hr : r ∈ t.rows) (hr' : r' ∈ t.rows) (h : name r = name r') : r = r' :=
  inj_on_of_nodup_map t.names hr hr' h

theorem eq_of_id (t : Table id name) (hr : r ∈ t.rows) (hr' : r' ∈ t.rows) (h : id r = id r') : r = r' :=
  inj_on_of_nodup_map t.nodup hr hr' h

/-- `DELETE`, of the rows that meet `p`. -/
def delete (t : Table id name) (p : ρ → Bool) : Table id name where
  rows := t.rows.filter fun r => !p r
  positive r hr := t.positive r (mem_filter.mp hr).1
  nodup := (filter_sublist.map id).nodup t.nodup
  names := (filter_sublist.map name).nodup t.names

theorem mem_delete : r ∈ (t.delete p).rows ↔ r ∈ t.rows ∧ p r = false := by
  change r ∈ t.rows.filter _ ↔ _
  rw [mem_filter,Bool.not_eq_true']

/-- The name is that of no other row. -/
def Free (t : Table id name) (k : Int) (n : ν) : Prop := ∀ r ∈ t.rows, id r ≠ k → name r ≠ n

/-- `UPDATE … WHERE id = k`, to a name that no other row has. -/
def modify (t : Table id name) (k : Int) (f : ρ → ρ) (hid : ∀ r, id (f r) = id r)
    (hname : ∀ r ∈ t.rows, id r = k → t.Free k (name (f r))) : Table id name where
  rows := t.rows.map fun r => if id r = k then f r else r
  positive r hr := by
    obtain ⟨r',hr',rfl⟩ := mem_map.mp hr
    have h := t.positive r' hr'
    by_cases hk : id r' = k
    · simpa [hk,hid] using h
    · simpa [hk] using h
  nodup := by
    have h : (id ∘ fun r => if id r = k then f r else r) = id := by
      funext r
      by_cases hk : id r = k
      · simp [hk,hid]
      · simp [hk]
    rw [map_map,h]
    exact t.nodup
  names := by
    rw [map_map]
    refine (nodup_map_iff_inj_on t.nodup.of_map).mpr fun r hr r' hr' h => ?_
    simp only [Function.comp_apply] at h
    by_cases hk : id r = k
    · by_cases hk' : id r' = k
      · exact t.eq_of_id hr hr' (hk.trans hk'.symm)
      · rw [if_pos hk,if_neg hk'] at h
        exact absurd h.symm (hname r hr hk r' hr' hk')
    · by_cases hk' : id r' = k
      · rw [if_neg hk,if_pos hk'] at h
        exact absurd h (hname r' hr' hk' r hr hk)
      · rw [if_neg hk,if_neg hk'] at h
        exact t.eq_of_name hr hr' h

theorem free_of_keeps (t : Table id name) (h : ∀ r ∈ t.rows, id r = k → name (f r) = name r) :
    ∀ r ∈ t.rows, id r = k → t.Free k (name (f r)) := by
  intro r hr hk r' hr' hk' hn
  rw [h r hr hk] at hn
  exact hk' ((congrArg id (t.eq_of_name hr' hr hn)).trans hk)

variable [DecidableEq ν]

def find? (t : Table id name) (n : ν) : Option ρ := t.rows.find? fun r => name r = n

theorem mem_of_find? (h : t.find? n = some r) : r ∈ t.rows ∧ name r = n := by
  have hn := List.find?_some h
  exact ⟨mem_of_find?_eq_some h,of_decide_eq_true hn⟩

theorem find?_eq_none : t.find? n = none ↔ ∀ r ∈ t.rows, name r ≠ n := by
  rw [find?]
  simp

theorem find?_iff : t.find? n = some r ↔ r ∈ t.rows ∧ name r = n := by
  refine ⟨mem_of_find?,?_⟩
  intro ⟨hr,hn⟩
  cases h : t.find? n with
  | none => exact absurd hn (find?_eq_none.mp h r hr)
  | some r' =>
    obtain ⟨hr',hn'⟩ := mem_of_find? h
    rw [t.eq_of_name hr hr' (hn.trans hn'.symm)]

theorem id_ne_zero (t : Table id name) (h : t.find? n = some r) : id r ≠ 0 := by
  have := t.positive r (mem_of_find? h).1
  omega

theorem find?_modify (hkeeps : ∀ r ∈ t.rows, id r = k → name (f r) = name r) (n : ν) :
    (t.modify k f hid hname).find? n = (t.find? n).map fun r => if id r = k then f r else r := by
  have hkey : ∀ r ∈ t.rows, name (if id r = k then f r else r) = name r := by
    intro r hr
    by_cases hk : id r = k
    · rw [if_pos hk,hkeeps r hr hk]
    · rw [if_neg hk]
  cases h : t.find? n with
  | none =>
    refine find?_eq_none.mpr fun r hr => ?_
    obtain ⟨r',hr',rfl⟩ := mem_map.mp hr
    rw [hkey r' hr']
    exact find?_eq_none.mp h r' hr'
  | some r =>
    obtain ⟨hr,hn⟩ := mem_of_find? h
    exact find?_iff.mpr ⟨mem_map_of_mem hr,(hkey r hr).trans hn⟩

/-- `INSERT`, of a row with a new id and a new name. -/
def insert (t : Table id name) (r : ρ) (hpos : 0 < id r) (hid : ∀ r' ∈ t.rows, id r' ≠ id r)
    (hname : t.find? (name r) = none) : Table id name where
  rows := t.rows ++ [r]
  positive r' hr' := by
    rcases mem_append.mp hr' with hr' | hr'
    · exact t.positive r' hr'
    · exact mem_singleton.mp hr' ▸ hpos
  nodup := by
    rw [map_append,nodup_append]
    refine ⟨t.nodup,nodup_singleton _,?_⟩
    intro k hk k' hk'
    obtain ⟨r',hr',rfl⟩ := mem_map.mp hk
    rw [map_singleton,mem_singleton] at hk'
    exact hk' ▸ hid r' hr'
  names := by
    rw [map_append,nodup_append]
    refine ⟨t.names,nodup_singleton _,?_⟩
    intro n hn n' hn'
    obtain ⟨r',hr',rfl⟩ := mem_map.mp hn
    rw [map_singleton,mem_singleton] at hn'
    exact hn' ▸ find?_eq_none.mp hname r' hr'

theorem find?_insert : (t.insert r hpos hid hname).find? n = if name r = n then some r else t.find? n := by
  change List.find? _ (t.rows ++ [r]) = _
  rw [List.find?_append]
  change (t.find? n).or _ = _
  by_cases hn : name r = n
  · rw [← hn,hname]
    simp
  · simp [hn]

/-- What a new id is, for an engine that chooses it. -/
def NewID (t : Table id name) (k : Int) : Prop := 0 < k ∧ ∀ r ∈ t.rows, id r ≠ k

instance (t : Table id name) (k : Int) : Decidable (t.NewID k) := inferInstanceAs (Decidable (_ ∧ _))

theorem find?_delete : (t.delete p).find? n = (t.find? n).filter fun r => !p r := by
  cases h : t.find? n with
  | none =>
    refine find?_eq_none.mpr fun r hr => ?_
    exact find?_eq_none.mp h r (mem_filter.mp hr).1
  | some r =>
    obtain ⟨hr,hn⟩ := mem_of_find? h
    cases hp : p r with
    | false =>
      rw [Option.filter_some_pos (by simp [hp])]
      exact find?_iff.mpr ⟨mem_filter.mpr ⟨hr,by simp [hp]⟩,hn⟩
    | true =>
      rw [Option.filter_some_neg (by simp [hp])]
      refine find?_eq_none.mpr fun r' hr' hn' => ?_
      obtain ⟨hr',hp'⟩ := mem_filter.mp hr'
      rw [t.eq_of_name hr' hr (hn'.trans hn.symm),hp] at hp'
      cases hp'

theorem find?_delete_spared (h : t.find? n = some r) (hp : p r = false) : (t.delete p).find? n = some r := by
  rw [find?_delete,h]
  exact Option.filter_some_pos (by simp [hp])

end Table

end Sake.Lib
