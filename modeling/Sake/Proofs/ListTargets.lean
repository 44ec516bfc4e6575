import Sake.ListTargets

namespace Sake.Proofs.ListTargets
open Sake.ListTargets List Target

variable {start stop : Int}

instance : Std.Total earlier := ⟨fun x y => le_total x.latestMessage y.latestMessage⟩
instance : IsTrans Target earlier := ⟨fun _ _ _ h k => Int.le_trans h k⟩
instance : Std.Total later := ⟨fun x y => le_total y.latestMessage x.latestMessage⟩
instance : IsTrans Target later := ⟨fun _ _ _ h k => Int.le_trans k h⟩

variable {l m : List Target}

/-- Two lists of the same targets, no two of one time, are sorted to the same list. -/
theorem sorted_eq [DecidableRel r] [Std.Total r] [IsTrans Target r]
    (antisymm : ∀ x y, r x y → r y x → x.latestMessage = y.latestMessage) (perm : l.Perm m)
    (distinct : (l.map latestMessage).Nodup) : l.insertionSort r = m.insertionSort r := by
  have same : (l.insertionSort r).Perm (m.insertionSort r) :=
    (perm_insertionSort r l).trans (perm.trans (perm_insertionSort r m).symm)
  refine same.eq_of_pairwise ?_ (pairwise_insertionSort r l) (pairwise_insertionSort r m)
  intro x y hx hy hxy hyx
  have hy := same.mem_iff.mpr hy
  rw [mem_insertionSort] at hx hy
  exact inj_on_of_nodup_map distinct hx hy (antisymm x y hxy hyx)

theorem earlier_eq (perm : l.Perm m) (distinct : (l.map latestMessage).Nodup) :
    l.insertionSort earlier = m.insertionSort earlier :=
  sorted_eq (fun _ _ h k => Int.le_antisymm h k) perm distinct

theorem later_eq (perm : l.Perm m) (distinct : (l.map latestMessage).Nodup) :
    l.insertionSort later = m.insertionSort later :=
  sorted_eq (fun _ _ h k => Int.le_antisymm k h) perm distinct

theorem isTimeBetween_iff : isTimeBetween t start stop = true ↔ min start stop < t ∧ t < max start stop := by
  unfold isTimeBetween
  split <;> simp only [Bool.and_eq_true,decide_eq_true_eq] <;> omega

/-- The directions the two lists take are those of `walk`. -/
theorem walk_forward (limit : Nat) (targets : List Target) (forward : start < stop) : walk start stop limit targets =
      ((targets.filter fun x => start < x.latestMessage ∧ x.latestMessage < stop).insertionSort earlier).take limit := by
  rw [walk,if_pos forward,min_eq_left forward.le,max_eq_right forward.le]

theorem walk_backward (limit : Nat) (targets : List Target) (backward : ¬ start < stop) :
    walk start stop limit targets =
      ((targets.filter fun x => stop < x.latestMessage ∧ x.latestMessage < start).insertionSort later).take limit := by
  rw [walk,if_neg backward,min_eq_right (not_lt.mp backward),max_eq_left (not_lt.mp backward)]

theorem walk_length (start stop : Int) (limit : Nat) (targets : List Target) (backward : ¬ start < stop) :
    (walk start stop limit targets).length =
      min limit (targets.countP fun x => stop < x.latestMessage ∧ x.latestMessage < start) := by
  rw [walk_backward limit targets backward,length_take,length_insertionSort,countP_eq_length_filter]

/-- A list without repetition reads the same backwards only if it is no longer than one. -/
theorem reverse_eq_iff (distinct : l.Nodup) : l.reverse = l ↔ l.length ≤ 1 := by
  match l with
  | [] => simp
  | [x] => simp
  | x :: y :: rest =>
    refine iff_of_false (fun same => ?_) (by simp)
    have last : x ∈ y :: rest := by
      have h := congrArg List.getLast? same
      rw [List.getLast?_reverse] at h
      exact mem_of_getLast? h.symm
    exact (nodup_cons.mp distinct).1 last

section Stores
variable {history : List Conversation} {dirs : List Dir} {rows : List DbStore.Row} {names : List String}
  {network : Int} {events : Bool} {z : Time.Zone}

/-- The targets of plain conversations, as both stores read them. -/
def targetsOf (history : List Conversation) : List Target := history.map fun c => ⟨c.name,c.latest⟩

theorem targets_plain (plain : ∀ c ∈ history, Plain z events c) :
    history.filterMap (Conversation.target · events) = targetsOf history := by
  rw [targetsOf,← filterMap_eq_map]
  refine filterMap_congr fun c hc => ?_
  simp [Conversation.target,(plain c hc).counts]

variable (hold : Hold history dirs rows names network events) (plain : ∀ c ∈ history, Plain z events c)
include hold

theorem times_distinct : ((targetsOf history).map latestMessage).Nodup := by
  rw [targetsOf,map_map]
  exact hold.distinct

theorem positive (hx : x ∈ targetsOf history) : 0 < x.latestMessage := by
  obtain ⟨c,hc,rfl⟩ := mem_map.mp hx
  exact hold.sent c hc

theorem distinct_filter (test : Target → Bool) : (((targetsOf history).filter test).map latestMessage).Nodup :=
  (times_distinct hold).sublist (filter_sublist.map _)

theorem walk_nodup (start stop : Int) (limit : Nat) : (walk start stop limit (targetsOf history)).Nodup := by
  have nodup : ∀ test, ((targetsOf history).filter test).Nodup := fun test => (distinct_filter hold test).of_map
  refine List.Nodup.sublist (take_sublist _ _) ?_
  split
  · exact (perm_insertionSort earlier _).nodup_iff.mpr (nodup _)
  · exact (perm_insertionSort later _).nodup_iff.mpr (nodup _)

include plain

theorem dirs_perm : (dirs.map (Dir.target z)).Perm (targetsOf history) := by
  have read := hold.files.map fun p : String × Int => (⟨p.1,truncateSecond z p.2⟩ : Target)
  rw [map_map,map_map] at read
  refine read.trans (List.Perm.of_eq (map_congr_left fun c hc => ?_))
  simp [(plain c hc).name,(plain c hc).whole]

theorem fs_walks (start stop : Int) (limit : Nat) :
    fsListTargets z dirs start stop limit = walk start stop limit (targetsOf history) := by
  have inside : ((dirs.map (Dir.target z)).filter fun x => isTimeBetween x.latestMessage start stop).Perm
      ((targetsOf history).filter fun x =>
        min start stop < x.latestMessage ∧ x.latestMessage < max start stop) := by
    refine ((dirs_perm hold plain).filter _).trans (List.Perm.of_eq (filter_congr fun x _ => ?_))
    rw [Bool.eq_iff_iff,isTimeBetween_iff,decide_eq_true_iff]
  have distinct := (inside.map latestMessage).nodup_iff.mpr (distinct_filter hold _)
  rw [fsListTargets,walk,earlier_eq inside distinct,later_eq inside distinct]

theorem rows_perm (after before : Int) :
    (((names.map (latestOf rows network events)).filter (selected after before)).map Latest.target).Perm
      ((targetsOf history).filter fun x =>
        (after = 0 ∨ after < x.latestMessage) ∧ (before = 0 ∨ x.latestMessage / 1000000 < before / 1000000)) := by
  have read := (hold.saved.filter (selected after before)).map Latest.target
  refine read.trans (List.Perm.of_eq ?_)
  rw [targetsOf,filter_map,filter_map,map_map]
  have kept : history.filter (selected after before ∘ fun c => ⟨c.name,(c.counted events).map (· / 1000000)⟩) =
      history.filter ((fun x : Target => decide ((after = 0 ∨ after < x.latestMessage) ∧
        (before = 0 ∨ x.latestMessage / 1000000 < before / 1000000))) ∘ fun c => ⟨c.name,c.latest⟩) := by
    refine filter_congr fun c hc => ?_
    have whole := (plain c hc).millis
    rw [Bool.eq_iff_iff]
    simp only [Function.comp_apply,selected,(plain c hc).counts,Option.map_some,Option.any_some,
      Bool.and_eq_true,Bool.or_eq_true,beq_iff_eq,decide_eq_true_eq]
    omega
  rw [kept]
  refine map_congr_left fun c hc => ?_
  have whole := (plain c (mem_filter.mp hc).1).millis
  have counts := (plain c (mem_filter.mp hc).1).counts
  simp only [Function.comp_apply,Latest.target,counts,Option.map_some,Option.getD_some]
  rw [Int.ediv_mul_cancel (Int.dvd_of_emod_eq_zero whole)]

/-- With bounds in whole milliseconds and an upper bound that is set, the query reads what is inside. -/
theorem rows_inside (after : Int) (set : before ≠ 0) (whole : before % 1000000 = 0) :
    (((names.map (latestOf rows network events)).filter (selected after before)).map Latest.target).Perm
      ((targetsOf history).filter fun x => after < x.latestMessage ∧ x.latestMessage < before) := by
  refine (rows_perm hold plain after before).trans (List.Perm.of_eq (filter_congr fun x hx => ?_))
  have sent := positive hold hx
  rw [decide_eq_decide]
  omega

theorem rows_all (after : Int) (none : after ≤ 0) :
    (((names.map (latestOf rows network events)).filter (selected after 0)).map Latest.target).Perm
      (targetsOf history) := by
  refine (rows_perm hold plain after 0).trans (List.Perm.of_eq (filter_eq_self.mpr fun x hx => ?_))
  have sent := positive hold hx
  rw [decide_eq_true_iff]
  omega

theorem db_forward (limit : Nat) (forward : start < stop) (set : stop ≠ 0) (whole : stop % 1000000 = 0) :
    dbListTargets rows names network start stop limit events = walk start stop limit (targetsOf history) := by
  have inside := rows_inside hold plain start set whole
  have distinct := (inside.map latestMessage).nodup_iff.mpr (distinct_filter hold _)
  rw [dbListTargets,if_pos forward,walk_forward limit _ forward,← earlier_eq inside distinct]
  rfl

/-- The last rows are taken, and then turned to the order of time. -/
theorem db_backward (limit : Nat) (backward : ¬ start < stop) (set : start ≠ 0) (whole : start % 1000000 = 0) :
    dbListTargets rows names network start stop limit events = (walk start stop limit (targetsOf history)).reverse := by
  have inside := rows_inside hold plain stop set whole
  have distinct := (inside.map latestMessage).nodup_iff.mpr (distinct_filter hold _)
  rw [dbListTargets,if_neg backward,walk_backward limit _ backward,← later_eq inside distinct]
  rfl

theorem db_unbounded (limit : Nat) (unset : max start stop = 0) :
    (dbListTargets rows names network start stop limit events).length = min limit history.length := by
  unfold dbListTargets listMessageLastPerTarget
  split
  · obtain rfl : stop = 0 := by omega
    have all := rows_all hold plain start (by omega)
    simpa [targetsOf] using congrArg (min limit) all.length_eq
  · obtain rfl : start = 0 := by omega
    have all := rows_all hold plain stop (by omega)
    simpa [targetsOf] using congrArg (min limit) all.length_eq

theorem walk_unbounded (limit : Nat) (unset : max start stop = 0) : walk start stop limit (targetsOf history) = [] := by
  have none : ((targetsOf history).filter fun x =>
      min start stop < x.latestMessage ∧ x.latestMessage < max start stop) = [] := by
    rw [filter_eq_nil_iff]
    intro x hx
    have sent := positive hold hx
    rw [decide_eq_true_iff]
    omega
  simp only [walk,none,insertionSort_nil,ite_self,take_nil]

theorem db_walks_iff (limit : Nat) (whole : max start stop % 1000000 = 0) :
    dbListTargets rows names network start stop limit events = walk start stop limit (targetsOf history) ↔
      if max start stop = 0 then history = [] ∨ limit = 0
      else start < stop ∨ limit ≤ 1 ∨ history.countP (fun c => stop < c.latest ∧ c.latest < start) ≤ 1 := by
  split
  case isTrue unset =>
    rw [walk_unbounded hold plain limit unset,← length_eq_zero_iff,db_unbounded hold plain limit unset,
      ← length_eq_zero_iff]
    omega
  case isFalse set =>
    by_cases forward : start < stop
    · refine iff_of_true (db_forward hold plain limit forward ?_ ?_) (Or.inl forward) <;>
        rwa [max_eq_right forward.le] at *
    · rw [max_eq_left (not_lt.mp forward)] at set whole
      rw [db_backward hold plain limit forward set whole,reverse_eq_iff (walk_nodup hold start stop limit),
        walk_length start stop limit _ forward,targetsOf,countP_map]
      simp only [forward,false_or,inf_le_iff]
      rfl

end Stores

/-! Two channels with a message each, a second apart. -/

def channels : List Conversation := [⟨"#a",1000000000,some 1000000000⟩,⟨"#b",2000000000,some 2000000000⟩]
def channelDirs : List Dir := [⟨"#a",[1000000000]⟩,⟨"#b",[2000000000]⟩]
def channelRows : List DbStore.Row := [⟨1,1,"#a","",1000,"n",some "hi"⟩,⟨2,1,"#b","",2000,"n",some "hi"⟩]

theorem channels_hold : Hold channels channelDirs channelRows ["#a","#b"] 1 false where
  sent := by decide
  distinct := by decide
  files := by decide +kernel
  saved := by decide +kernel

theorem channels_plain : ∀ c ∈ channels, Plain (Time.Zone.fixed 0) false c := by
  intro c hc
  simp only [channels,mem_cons,not_mem_nil,or_false] at hc
  rcases hc with rfl | rfl <;> exact ⟨by decide +kernel,rfl,by decide +kernel,by decide⟩

end Sake.Proofs.ListTargets
