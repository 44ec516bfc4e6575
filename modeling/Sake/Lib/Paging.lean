import Mathlib.Data.List.DropRight

namespace Sake.Lib.Paging
open List List

variable {α : Type*} {pages : List (List α)} {page l : List α} {key : α → Int}

/-- Reads page after page until `remaining` items are there or `maxTries` pages in a row
had none. -/
def collect (maxTries : Nat) : List (List α) → (tries remaining : Nat) → List α
  | [], _, _ => []
  | page :: pages, tries, remaining =>
    if remaining = 0 ∨ maxTries ≤ tries then []
    else
      let buf := page.take remaining
      buf ++ collect maxTries pages (if buf = [] then tries + 1 else 0) (remaining - buf.length)

/-- Empty pages make the reader give up although it needs more and there is more. -/
def Blocked (maxTries : Nat) (pages : List (List α)) (limit : Nat) : Prop :=
  ∃ pre post, pages = pre ++ (List.replicate maxTries [] ++ post) ∧ pre.flatten.length < limit ∧ post.flatten ≠ []

theorem sub_length_take : remaining - (page.take remaining).length = remaining - page.length := by
  rw [length_take]
  omega

theorem collect_prefix (maxTries : Nat) (pages : List (List α)) (tries remaining : Nat) :
    collect maxTries pages tries remaining <+: pages.flatten.take remaining := by
  induction pages generalizing tries remaining with
  | nil => simp [collect]
  | cons page pages ih =>
    simp only [collect]
    split
    · exact List.nil_prefix
    · rw [flatten_cons,take_append,prefix_append_right_inj,sub_length_take]
      exact ih _ _

theorem collect_of_flatten_nil (h : pages.flatten = [])
    (maxTries tries remaining : Nat) : collect maxTries pages tries remaining = [] := by
  have hp := collect_prefix maxTries pages tries remaining
  rw [h,take_nil] at hp
  exact prefix_nil.mp hp

theorem collect_map :
    collect maxTries (pages.map (List.map f)) tries remaining = (collect maxTries pages tries remaining).map f := by
  induction pages generalizing tries remaining with
  | nil => rfl
  | cons page pages ih =>
    simp only [map_cons,collect]
    split
    · rfl
    · simp [ih]

theorem flatten_replicate_nil (n : Nat) (pages : List (List α)) :
    (replicate n [] ++ pages).flatten = pages.flatten := by
  simp

/-- Where a block of empty pages can be: not across a page with items. -/
theorem block_behind (ht : tries < maxTries) (hp : page ≠ [])
    (h : replicate tries [] ++ page :: pages = pre ++ (replicate maxTries [] ++ post)) :
    ∃ rest, pre = replicate tries [] ++ page :: rest ∧ pages = rest ++ (replicate maxTries [] ++ post) := by
  rcases append_eq_append_iff.mp h with ⟨c,hpre,hc⟩ | ⟨c,hrep,hc⟩
  · cases c with
    | nil =>
      cases maxTries with
      | zero => omega
      | succ n =>
        simp only [nil_append,replicate_succ,cons_append,cons.injEq] at hc
        exact absurd hc.1 hp
    | cons q rest =>
      simp only [cons_append,cons.injEq] at hc
      obtain ⟨rfl,hrest⟩ := hc
      exact ⟨rest,hpre,hrest⟩
  · have hclen : c.length ≤ tries := by
      have := congrArg length hrep
      simp only [length_replicate,length_append] at this
      omega
    have hget := congrArg (fun l => l[c.length]?) hc
    rw [getElem?_append_left (by simp; omega)] at hget
    have hlt : c.length < maxTries := by omega
    have hnil : [] = page := by simpa [hlt] using hget
    exact absurd hnil.symm hp

theorem Blocked.flatten_ne_nil (h : Blocked maxTries pages limit) : pages.flatten ≠ [] := by
  obtain ⟨pre,post,rfl,-,hpost⟩ := h
  simp only [flatten_append,ne_eq,append_eq_nil_iff,not_and]
  exact fun _ _ => hpost

/-- Pages with items behind fewer empty ones: only what comes later can block. -/
theorem blocked_cons_iff (ht : tries < maxTries) (hp : page ≠ []) (pages : List (List α)) :
    Blocked maxTries (replicate tries [] ++ page :: pages) limit ↔
      page.length < limit ∧ Blocked maxTries pages (limit - page.length) := by
  constructor
  · rintro ⟨pre,post,h,hlen,hpost⟩
    obtain ⟨rest,rfl,rfl⟩ := block_behind ht hp h
    rw [flatten_replicate_nil,flatten_cons,length_append] at hlen
    exact ⟨by omega,rest,post,rfl,by omega,hpost⟩
  · rintro ⟨hlt,pre,post,rfl,hlen,hpost⟩
    refine ⟨replicate tries [] ++ page :: pre,post,by simp,?_,hpost⟩
    rw [flatten_replicate_nil,flatten_cons,length_append]
    omega

/-- The reader gets the first items exactly when no block of empty pages stops it. -/
theorem collect_eq_take_iff (ht : tries ≤ maxTries) (pages : List (List α)) (remaining : Nat) :
    collect maxTries pages tries remaining = pages.flatten.take remaining ↔
      ¬ Blocked maxTries (replicate tries [] ++ pages) remaining := by
  induction pages generalizing tries remaining with
  | nil =>
    refine iff_of_true (by simp [collect]) ?_
    intro h
    exact h.flatten_ne_nil (by simp)
  | cons page pages ih =>
    by_cases hr : remaining = 0
    · subst hr
      refine iff_of_true (by simp [collect]) ?_
      rintro ⟨pre,post,-,hlt,-⟩
      exact absurd hlt (Nat.not_lt_zero _)
    by_cases hm : maxTries ≤ tries
    · obtain rfl : tries = maxTries := by omega
      have hstop : collect tries (page :: pages) tries remaining = [] := by simp [collect]
      rw [hstop,eq_comm,take_eq_nil_iff,or_iff_right hr]
      constructor
      · intro hnil h
        rw [← flatten_replicate_nil tries] at hnil
        exact h.flatten_ne_nil hnil
      · intro h
        by_contra hne
        exact h ⟨[],page :: pages,rfl,by simpa using Nat.pos_of_ne_zero hr,hne⟩
    have hgo : collect maxTries (page :: pages) tries remaining = page.take remaining ++
        collect maxTries pages (if page.take remaining = [] then tries + 1 else 0)
          (remaining - (page.take remaining).length) := by
      simp [collect,hr,hm]
    rw [hgo]
    by_cases hp : page = []
    · subst hp
      have hrep : replicate tries ([] : List α) ++ [] :: pages = replicate (tries + 1) [] ++ pages := by
        rw [replicate_succ',append_assoc,singleton_append]
      rw [hrep,← ih (by omega)]
      simp
    · have hbuf : page.take remaining ≠ [] := by simp [hr,hp]
      rw [if_neg hbuf,sub_length_take,flatten_cons,take_append,append_right_inj,
        ih (Nat.zero_le _),blocked_cons_iff (by omega) hp,replicate_zero]
      by_cases hlt : page.length < remaining
      · simp [hlt]
      · refine iff_of_true ?_ (fun h => hlt h.1)
        rintro ⟨pre,post,-,hneg,-⟩
        omega

theorem collect_eq_iff :
    collect maxTries pages 0 limit = pages.flatten.take limit ↔ ¬ Blocked maxTries pages limit := by
  simpa using collect_eq_take_iff (Nat.zero_le maxTries) pages limit

/-- Items that are dropped make no difference if none of the first ones is. -/
theorem collect_filter (maxTries tries remaining : Nat) (h : ∀ x ∈ pages.flatten.take remaining, keep x = true) :
    collect maxTries (pages.map (filter keep)) tries remaining = collect maxTries pages tries remaining := by
  induction pages generalizing tries remaining with
  | nil => rfl
  | cons page pages ih =>
    rw [flatten_cons,take_append] at h
    have hkept : (page.filter keep).take remaining = page.take remaining := by
      have hpage : ∀ x ∈ page.take remaining, keep x = true := fun x hx => h x (mem_append_left _ hx)
      conv_lhs => rw [← take_append_drop remaining page,filter_append,filter_eq_self.mpr hpage]
      rw [take_append,take_take]
      by_cases hle : remaining ≤ page.length
      · simp [hle]
      · have hdrop : page.drop remaining = [] := drop_eq_nil_of_le (by omega)
        simp [hdrop]
    simp only [map_cons,collect,hkept]
    rw [ih]
    rw [sub_length_take]
    exact fun x hx => h x (mem_append_right _ hx)

/-- What the reader finds if nothing limits it. -/
def reached (maxTries : Nat) : List (List α) → (tries : Nat) → List α
  | [], _ => []
  | page :: pages, tries =>
    if maxTries ≤ tries then []
    else page ++ reached maxTries pages (if page = [] then tries + 1 else 0)

/-- A limit takes the first items of these. -/
theorem collect_eq_take_reached :
    collect maxTries pages tries remaining = (reached maxTries pages tries).take remaining := by
  induction pages generalizing tries remaining with
  | nil => simp [collect,reached]
  | cons page pages ih =>
    by_cases hr : remaining = 0
    · simp [collect,hr]
    by_cases hm : maxTries ≤ tries
    · simp [collect,reached,hm]
    have hbuf : page.take remaining = [] ↔ page = [] := by simp [hr]
    simp only [collect,reached,hr,hm,or_self,if_false,hbuf,sub_length_take,ih,take_append]

/-- No block of empty pages stands in front. -/
def Open (maxTries : Nat) (pages : List (List α)) : Prop :=
  ¬ ∃ pre post, pages = pre ++ (List.replicate maxTries [] ++ post)

/-- A block is a place from which on all pages are empty. -/
theorem open_iff : Open maxTries pages ↔
      ∀ j, j + maxTries ≤ pages.length → ∃ k < maxTries, pages[j + k]? ≠ some [] := by
  constructor
  · intro h j hj
    by_contra hall
    refine h ⟨pages.take j,pages.drop (j + maxTries),?_⟩
    have hblock : (pages.drop j).take maxTries = replicate maxTries [] := by
      apply ext_getElem?
      intro k
      by_cases hk : k < maxTries
      · rw [getElem?_take_of_lt hk,getElem?_drop,getElem?_replicate,if_pos hk]
        by_contra hne
        exact hall ⟨k,hk,hne⟩
      · rw [getElem?_eq_none (by simp; omega),getElem?_eq_none (by simp; omega)]
    rw [← hblock,← drop_drop,take_append_drop,take_append_drop]
  · rintro h ⟨pre,post,rfl⟩
    obtain ⟨k,hk,hne⟩ := h pre.length (by simp)
    rw [getElem?_append_right (Nat.le_add_right _ _),Nat.add_sub_cancel_left,
      getElem?_append_left (by simpa using hk),getElem?_replicate,if_pos hk] at hne
    exact hne rfl

theorem open_cons_iff (ht : tries < maxTries) (hp : page ≠ []) (pages : List (List α)) :
    Open maxTries (replicate tries [] ++ page :: pages) ↔ Open maxTries pages := by
  unfold Open
  rw [not_iff_not]
  constructor
  · rintro ⟨pre,post,h⟩
    obtain ⟨rest,-,hrest⟩ := block_behind ht hp h
    exact ⟨rest,post,hrest⟩
  · rintro ⟨pre,post,rfl⟩
    exact ⟨replicate tries [] ++ page :: pre,post,by simp⟩

theorem reached_take (ht : tries ≤ maxTries) (pages : List (List α)) :
    ∃ n ≤ pages.length, reached maxTries pages tries = (pages.take n).flatten ∧
      ∀ i page, pages[i]? = some page → page ≠ [] → (i < n ↔ Open maxTries (replicate tries [] ++ pages.take i)) := by
  induction pages generalizing tries with
  | nil => exact ⟨0,Nat.le_refl _,rfl,by simp⟩
  | cons page pages ih =>
    by_cases hm : maxTries ≤ tries
    · obtain rfl : tries = maxTries := Nat.le_antisymm ht hm
      refine ⟨0,Nat.zero_le _,by simp [reached],?_⟩
      intro i _ _ _
      refine iff_of_false (Nat.not_lt_zero i) fun h => h ⟨[],_,rfl⟩
    obtain ⟨n,hn,hreached,hiff⟩ := @ih (if page = [] then tries + 1 else 0) (by split <;> omega)
    refine ⟨n + 1,Nat.succ_le_succ hn,?_,?_⟩
    · simp [reached,if_neg hm,hreached]
    intro i other hother hne
    cases i with
    | zero =>
      refine iff_of_true (Nat.succ_pos n) ?_
      rintro ⟨pre,post,h⟩
      have := congrArg length h
      simp only [take_zero,append_nil,length_replicate,length_append] at this
      omega
    | succ i =>
      rw [Nat.add_lt_add_iff_right,hiff i other hother hne,take_succ_cons]
      by_cases hp : page = []
      · rw [if_pos hp,hp,replicate_succ',append_assoc,singleton_append]
      · rw [if_neg hp,open_cons_iff (by omega) hp,replicate_zero,nil_append]

theorem filter_and_congr {p : α → Bool} [DecidablePred P] [DecidablePred Q]
    (h : ∀ x ∈ l, (P x ↔ Q x)) : (l.filter fun x => p x && decide (P x)) = l.filter fun x => p x && decide (Q x) := by
  refine filter_congr fun x hx => ?_
  rw [decide_eq_decide.mpr (h x hx)]

section Sorted
variable (hl : l.Pairwise fun x y => key x ≤ key y)
include hl

/-- In a sorted list the items up to a key stand in front of the others. -/
theorem filter_split (p : α → Bool) (c : Int) : l.filter p = (l.filter fun x => p x && decide (key x ≤ c)) ++
      l.filter fun x => p x && decide (c < key x) := by
  induction l with
  | nil => rfl
  | cons x l ih =>
    obtain ⟨hx,hl⟩ := pairwise_cons.mp hl
    by_cases hc : key x ≤ c
    · have hc' : ¬ c < key x := Int.not_lt.mpr hc
      simp only [filter_cons,hc,hc',decide_true,decide_false,Bool.and_true,Bool.and_false,ih hl]
      split <;> rfl
    have hfront : (l.filter fun y => p y && decide (key y ≤ c)) = [] := by
      rw [filter_eq_nil_iff]
      intro y hy
      have := hx y hy
      have hy' : ¬ key y ≤ c := by omega
      simp [hy']
    have hc' : c < key x := Int.not_le.mp hc
    have := ih hl
    simp [filter_cons,hc,hc',decide_true,decide_false,Bool.and_true,Bool.and_false,Bool.false_eq_true,if_false,hfront,nil_append,this]

/-- The items with the keys from `a` on, key by key. -/
theorem flatMap_keys (p : α → Bool) (a : Int) (n : Nat) :
    ((range n).flatMap fun i : Nat => l.filter fun x => p x && decide (key x = a + i)) =
      l.filter fun x => p x && decide (a ≤ key x ∧ key x < a + n) := by
  induction n with
  | zero =>
    rw [range_zero,flatMap_nil,eq_comm,filter_eq_nil_iff]
    intro x _
    have : ¬ (a ≤ key x ∧ key x < a + 0) := by omega
    simp
  | succ n ih =>
    rw [range_succ,flatMap_append,ih,flatMap_singleton,
      filter_split hl (fun x => p x && decide (a ≤ key x ∧ key x < a + (n + 1 : Nat))) (a + n - 1)]
    simp only [Bool.and_assoc,← Bool.decide_and]
    congr 1
    all_goals exact filter_and_congr fun x _ => by omega

end Sorted

/-- If the later part of a sorted list has items with the key `c`, the earlier one has none
with a greater key. -/
theorem filter_behind {b : List α} (h : (a ++ b).Pairwise fun x y => key x ≤ key y) (p : α → Bool) (c : Int) :
    (b.filter fun x => p x && decide (key x = c)) ++ (a ++ b).filter (fun x => p x && decide (c < key x)) =
      (a.filter fun x => p x && decide (c < key x)) ++ b.filter fun x => p x && decide (c ≤ key x) := by
  obtain ⟨-,hb,hab⟩ := pairwise_append.mp h
  rw [filter_append]
  by_cases ha : ∃ x ∈ a, c < key x
  · obtain ⟨x,hx,hlt⟩ := ha
    have hnone : (b.filter fun y => p y && decide (key y = c)) = [] := by
      rw [filter_eq_nil_iff]
      intro y hy
      have := hab x hx y hy
      have hne : ¬ key y = c := by omega
      simp [hne]
    rw [hnone,nil_append]
    congr 1
    refine filter_and_congr fun y hy => ?_
    have := hab x hx y hy
    omega
  · have hnone : (a.filter fun x => p x && decide (c < key x)) = [] := by
      rw [filter_eq_nil_iff]
      intro x hx
      have hno : ¬ c < key x := fun hlt => ha ⟨x,hx,hlt⟩
      simp [hno]
    rw [hnone,nil_append,nil_append,filter_split hb (fun x => p x && decide (c ≤ key x)) c]
    simp only [Bool.and_assoc,← Bool.decide_and]
    congr 1
    all_goals exact filter_and_congr fun x _ => by omega

end Sake.Lib.Paging
