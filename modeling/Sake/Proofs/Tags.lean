import Mathlib.Data.List.Nodup
import Sake.Irc

namespace Sake.Tags
variable {tags : Tags} {key : String}

@[simp]
theorem get_nil : Tags.get [] key = none := rfl

theorem get_cons : Tags.get (kv :: tags) key = if kv.1 = key then some kv.2 else tags.get key := by
  unfold get
  by_cases h : kv.1 = key
  · rw [List.find?_cons_of_pos (by simpa using h),if_pos h]
    rfl
  · rw [List.find?_cons_of_neg (by simpa using h),if_neg h]

theorem get_append : Tags.get (tags ++ tags') key = (tags.get key).or (tags'.get key) := by
  induction tags with
  | nil => rfl
  | cons kv tags ih =>
    rw [List.cons_append,get_cons,get_cons,ih]
    split <;> rfl

theorem get_del_of_ne (tags : Tags) (h : key ≠ other) : (tags.del key).get other = tags.get other := by
  induction tags with
  | nil => rfl
  | cons kv tags ih =>
    unfold del at ih ⊢
    by_cases hk : kv.1 = key
    · rw [List.filter_cons_of_neg (by simpa using hk),ih,get_cons,if_neg fun hc => h (hk.symm.trans hc)]
    · rw [List.filter_cons_of_pos (by simpa using hk),get_cons,get_cons,ih]

theorem get_set (tags : Tags) (key value other : String) :
    (tags.set key value).get other = if key = other then some value else tags.get other := by
  unfold set
  rw [get_cons]
  split
  · rfl
  · rename_i h
    exact get_del_of_ne tags h

theorem get_eq_none : tags.get key = none ↔ ∀ kv ∈ tags, kv.1 ≠ key := by simp [get]

theorem mem_of_get (h : tags.get key = some value) : (key,value) ∈ tags := by
  obtain ⟨kv,hfind,rfl⟩ := Option.map_eq_some_iff.mp h
  have hk : kv.1 = key := by simpa using List.find?_some hfind
  rw [← hk]
  exact List.mem_of_find?_eq_some hfind

end Sake.Tags
