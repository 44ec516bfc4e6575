import Sake.Proofs.FsCalls

namespace Sake.Proofs.FsBacklog
open Sake.FsStore Sake.MsgStore Sake.ZncLog Sake.Proofs.FsReader Sake.Proofs.FsCalls List List Logs
open Sake.Proofs.FsWriter Sake.Proofs.LogLines Lib Paging

variable {b : Buffered} {pre post : List Call} {day now t seconds d : Int} {page : Int → List (Message × Int)}
  {logs : Logs} {x : Message × Int} {id : MsgID}

theorem regular_right (h : b.Regular (pre ++ post) now) : b.Regular post now where
  ordinary c hc := h.ordinary c (mem_append_right _ hc)
  ordered := (pairwise_append.mp (filterMap_append ▸ h.ordered)).2.1
  past t ht := h.past t (by rw [filterMap_append]; exact mem_append_right _ ht)

theorem regular_left (h : b.Regular (pre ++ post) now) : b.Regular pre now where
  ordinary c hc := h.ordinary c (mem_append_left _ hc)
  ordered := (pairwise_append.mp (filterMap_append ▸ h.ordered)).1
  past t ht := h.past t (by rw [filterMap_append]; exact mem_append_left _ ht)

theorem linesOf_append : linesOf b (pre ++ post) = linesOf b pre ++ linesOf b post := filterMap_append

theorem texts_append : b.texts (pre ++ post) = b.texts pre ++ b.texts post :=
  filterMap_append

/-- The pages of the days back from `t`, the newest messages first. -/
def latestPages (logs : Logs) (page : Int → List (Message × Int)) : Nat → Int → List (List Message)
  | 0, _ => []
  | n + 1, t => (picked (fun _ => true) 0 t (page (logs.dayOf t))).reverse ::
      latestPages logs page n (logs.dayBefore t)

/-- The loop reads the pages of the days down to the day of the id. -/
theorem latestDays_eq {q : Query} (hz : logs.zone = Time.Zone.fixed seconds) {afterTime offset : Int}
    (hafter : ∀ t, Time.truncateDay logs.zone t < afterTime ↔ logs.dayOf t < day)
    (hread : ∀ t remaining, 0 < remaining → logs.parseMessagesBefore q (fun _ => true) t 0 remaining
        (if 0 ≤ offset ∧ Time.truncateDay logs.zone t = afterTime then offset else -1) =
      .ok (((picked (fun _ => true) 0 t (page (logs.dayOf t))).rtake remaining).map some)) {n fuel : Nat}
    (hn : n = (logs.dayOf t - day + 1).toNat) (hf : n ≤ fuel) (remaining tries : Nat)
    (messages : List (Option Message)) :
    logs.latestDays q afterTime offset fuel t remaining tries messages =
      .ok ((Paging.collect fsMessageStoreMaxTries (latestPages logs page n t) tries
        remaining).reverse.map some ++ messages) := by
  induction n generalizing t fuel remaining tries messages with
  | zero =>
    have hstop : Time.truncateDay logs.zone t < afterTime := (hafter t).mpr (by omega)
    cases fuel <;> simp [latestDays,hstop,latestPages,Paging.collect]
  | succ n ih =>
    obtain ⟨fuel,rfl⟩ : ∃ m, fuel = m + 1 := ⟨fuel - 1,by omega⟩
    have hlive : ¬ Time.truncateDay logs.zone t < afterTime := fun h => by
      have := (hafter t).mp h
      omega
    by_cases hgo : 0 < remaining ∧ tries < fsMessageStoreMaxTries
    · have hday := dayOf_dayBefore hz t
      have hguard : ¬ (remaining = 0 ∨ fsMessageStoreMaxTries ≤ tries) := by omega
      simp only [latestDays,if_pos (And.intro hgo.1 (And.intro hgo.2 hlive)),
        hread t remaining hgo.1,latestPages,Paging.collect,if_neg hguard,
        rtake_eq_reverse_take_reverse]
      refine (ih (by omega) (by omega) _ _ _).trans ?_
      simp
    · have hnone : Paging.collect fsMessageStoreMaxTries (latestPages logs page (n + 1) t) tries
          remaining = [] := by
        simp only [latestPages,Paging.collect]
        rw [if_pos (by omega)]
      have hstop : ¬ (0 < remaining ∧ tries < fsMessageStoreMaxTries ∧
          ¬ Time.truncateDay logs.zone t < afterTime) := fun h => hgo ⟨h.1,h.2.1⟩
      simp only [latestDays,if_neg hstop,hnone,reverse_nil,map_nil,nil_append]

/-- The messages of a day are over before the day is, and those of today before now. -/
theorem latestPages_eq (hz : logs.zone = Time.Zone.fixed seconds)
    (hpage : ∀ d, ∀ x ∈ page d, logs.dayOf x.2 = d ∧ x.2 % Time.second = 0 ∧ x.2 < now)
    (ht : t = now ∨ t = (logs.dayOf t + 1) * Time.day - seconds * Time.second - 1) (n : Nat) :
    latestPages logs page n t = (((range n).map fun i : Nat =>
      (page (logs.dayOf t - i)).filter fun x => 0 < x.2).map reverse).map (List.map Prod.fst) := by
  induction n generalizing t with
  | zero => rfl
  | succ n ih =>
    have hfilter : ((page (logs.dayOf t)).filter (Within 0 t)) = (page (logs.dayOf t)).filter fun x => 0 < x.2 := by
      refine filter_congr fun x hx => ?_
      obtain ⟨hday,hwhole,hpast⟩ := hpage _ x hx
      rw [decide_eq_decide]
      rw [dayOf_fixed hz,dayOf_fixed hz] at hday
      simp only [Within]
      unfold Time.day Time.second at *
      omega
    have hnext := dayOf_dayBefore hz t
    have hlast := dayBefore_eq hz t
    rw [latestPages,picked_all,hfilter,ih (Or.inr (by rw [hnext,hlast,Int.sub_add_cancel])),hnext, range_succ_eq_map]
    simp [map_cons,map_map,Function.comp_def,Int.natCast_succ,Int.ofNat_zero,Int.sub_zero,Int.sub_sub,Int.add_comm 1,map_reverse]

/-- The texts of a day that lie behind an id of day `day`. -/
def behind (b : Buffered) (pre post : List Call) (day d : Int) : List (Message × Int) :=
  if d = day then (b.texts post).filter fun x => b.dayOf x.2 = d
  else (b.texts (pre ++ post)).filter fun x => b.dayOf x.2 = d

theorem behind_other (hd : d ≠ day) : (behind b pre post day d).filter (fun x => decide (0 < x.2)) =
      (b.texts (pre ++ post)).filter fun x => decide (0 < x.2) && decide (b.dayOf x.2 = d) := by
  rw [behind,if_neg hd,filter_filter]

theorem mem_behind (hx : x ∈ b.texts post ∨ (x ∈ b.texts pre ∧ day < b.dayOf x.2)) :
    x ∈ behind b pre post day (b.dayOf x.2) := by
  unfold behind
  split
  · rename_i hd
    rcases hx with hx | ⟨-,hlt⟩
    · exact mem_filter.mpr ⟨hx,by simp⟩
    · exact absurd hd (Int.ne_of_gt hlt)
  · refine mem_filter.mpr ⟨?_,by simp⟩
    rw [texts_append]
    rcases hx with hx | ⟨hx,-⟩
    · exact mem_append_right _ hx
    · exact mem_append_left _ hx

/-- The texts after the zero time whose day is later than `reach` and meets a condition. -/
def viewed (b : Buffered) (reach : Int) (p : Int → Prop) [DecidablePred p] (l : List (Message × Int)) :
    List (Message × Int) :=
  l.filter fun x => decide (0 < x.2) && decide (p (b.dayOf x.2) ∧ reach < b.dayOf x.2)

theorem mem_viewed [DecidablePred p] :
    x ∈ viewed b reach p l ↔ x ∈ l ∧ 0 < x.2 ∧ p (b.dayOf x.2) ∧ reach < b.dayOf x.2 := by
  simp [viewed]

section Latest
variable (hz : b.host.zone = Time.Zone.fixed seconds) (hu : b.host.unicode.Standard) {pre post : List Call}
  {now : Int} (hr : b.Regular (pre ++ post) now) {day : Int} {n : Nat}
include hz hu hr

theorem readsBehind (h0 : 0 < remaining) (hid : ∀ rest : List Line, (∀ line ∈ rest, Fits line.text.toList) →
      linesFrom (fileBytes (((linesOf b pre).filter fun line => logOf b line.t = logOf b t0) ++
        rest)) offset = ⟨rest.map Line.text,false⟩) :
    (b.logs (b.after (pre ++ post))).parseMessagesBefore (query b) (fun _ => true) t 0 remaining
        (if 0 ≤ offset ∧ Time.truncateDay b.host.zone t = Time.truncateDay b.host.zone t0 then offset else -1) =
      .ok (((picked (fun _ => true) 0 t (behind b pre post (b.dayOf t0) (b.dayOf t))).rtake remaining).map some) := by
  have hcut : Time.truncateDay b.host.zone t = Time.truncateDay b.host.zone t0 ↔ b.dayOf t = b.dayOf t0 := by
    have h1 := @truncateDay_eq (b.logs .empty) seconds hz t
    have h2 := @truncateDay_eq (b.logs .empty) seconds hz t0
    rw [logs_dayOf,logs_zone] at h1 h2
    rw [h1,h2]
    unfold Time.day Time.second
    omega
  by_cases hd : b.dayOf t = b.dayOf t0
  · have hsame : ∀ content, linesFrom content (if 0 ≤ offset ∧
        Time.truncateDay b.host.zone t = Time.truncateDay b.host.zone t0 then offset else -1) =
        linesFrom content offset := by
      intro content
      by_cases hoff : 0 ≤ offset
      · rw [if_pos ⟨hoff,hcut.mpr hd⟩]
      · simp [linesFrom,hoff]
    have hfits : ∀ line ∈ (linesOf b post).filter fun line => b.dayOf line.t = b.dayOf t, Fits line.text.toList :=
      fun line hline => linesOf_fits (regular_right hr) line (mem_of_mem_filter hline)
    have hfilter : ((linesOf b pre).filter fun line => logOf b line.t = logOf b t0) =
        (linesOf b pre).filter fun line => b.dayOf line.t = b.dayOf t :=
      filter_congr fun line _ => by rw [decide_eq_decide,logOf_eq_iff,hd]
    obtain ⟨hcontent,hnone⟩ := file_eq b (pre ++ post) t
    rw [linesOf_append,filter_append] at hcontent hnone
    rw [behind,if_pos hd,← texts_of_day hz hu (regular_right hr)]
    cases hf : (b.logs (b.after (pre ++ post))).file (query b) t with
    | none =>
      have hnil := (append_eq_nil_iff.mp (hnone hf)).2
      simp [parseMessagesBefore,hf,hnil,picked]
    | some content =>
      rw [hf,Option.getD_some] at hcontent
      have hlines := hid _ hfits
      rw [hfilter,← hcontent] at hlines
      have hparse := @parseLines_texts b (b.after (pre ++ post))
        ((linesOf b post).filter fun line => b.dayOf line.t = b.dayOf t) t
        (fun line hline => by simpa using of_mem_filter hline)
        fun line hline => linesOf_heard hz hu (regular_right hr) line (mem_of_mem_filter hline)
      refine parseMessagesBefore_of_lines h0 hf (by rw [hsame,hlines]) (by rw [hsame,hlines,hparse]) ?_
      rw [texts_of_day hz hu (regular_right hr)]
      exact (texts_ordered hz hu (regular_right hr)).filter _
  · have hneg : ¬ (0 ≤ offset ∧ Time.truncateDay b.host.zone t = Time.truncateDay b.host.zone t0) :=
      fun h => hd (hcut.mp h.2)
    rw [if_neg hneg,behind,if_neg hd,← messagesOn_eq hz hu hr]
    exact @parseMessagesBefore_spec (b.logs (b.after (pre ++ post))) (query b) seconds remaining hz
      (orderly hz hu hr) _ t 0 h0

theorem behind_spec (hx : x ∈ behind b pre post day d) : b.dayOf x.2 = d ∧ x.2 % Time.second = 0 ∧ x.2 < now := by
  have hmem : x ∈ b.texts (pre ++ post) ∧ b.dayOf x.2 = d := by
    unfold behind at hx
    split at hx
    · rw [mem_filter,decide_eq_true_eq] at hx
      rw [texts_append]
      exact ⟨mem_append_right _ hx.1,hx.2⟩
    · rw [mem_filter,decide_eq_true_eq] at hx
      exact hx
  exact ⟨hmem.2,texts_whole hz hu hr x hmem.1,texts_past hz hu hr x hmem.1⟩

/-- What a query gives, in terms of the texts behind the id. -/
theorem load_eq (hg : b.Given pre id day) (limit : Nat) :
    b.load (pre ++ post) now id limit = .ok (((Paging.collect fsMessageStoreMaxTries
      (((range (b.dayOf now - day + 1).toNat).map fun i : Nat =>
        (behind b pre post day (b.dayOf now - i)).filter fun x => 0 < x.2).map reverse)
      0 limit).map Prod.fst).reverse.map some) := by
  obtain ⟨t0,offset,rfl,rfl,hid⟩ := given_spec (linesOf_fits (regular_left hr)) hg
  have hzone : (b.logs (b.after (pre ++ post))).zone = Time.Zone.fixed seconds := hz
  have hcut := @truncateDay_eq (b.logs (b.after (pre ++ post))) seconds hzone
  simp only [logs_dayOf,logs_zone] at hcut
  have hafter : ∀ t, Time.truncateDay (b.logs (b.after (pre ++ post))).zone t <
      Time.truncateDay b.host.zone t0 ↔ (b.logs (b.after (pre ++ post))).dayOf t < b.dayOf t0 := by
    intro t
    rw [logs_zone,logs_dayOf,hcut,hcut]
    unfold Time.day Time.second
    omega
  have hfuel : (b.dayOf now - b.dayOf t0 + 1).toNat ≤ daysBetween (Time.truncateDay b.host.zone t0) now := by
    have hnow := @dayOf_fixed (b.logs (b.after (pre ++ post))) seconds hzone now
    rw [logs_dayOf] at hnow
    rw [daysBetween,hcut,hnow]
    unfold Time.day Time.second
    omega
  have hloop := @latestDays_eq (b.dayOf t0) now seconds (behind b pre post (b.dayOf t0))
    (b.logs (b.after (pre ++ post))) (query b) hzone _ offset hafter
    (fun t remaining h0 => readsBehind hz hu hr h0 hid) _ _ rfl hfuel limit 0 []
  have hpages := @latestPages_eq now now seconds (behind b pre post (b.dayOf t0))
    (b.logs (b.after (pre ++ post))) hzone (fun d x hx => behind_spec hz hu hr hx) (Or.inl rfl)
    (b.dayOf now - b.dayOf t0 + 1).toNat
  rw [logs_dayOf,hpages,collect_map,append_nil] at hloop
  have hneg : ¬ limit < 0 := by omega
  rw [Buffered.load,loadLatestID]
  simp only [formatFSMsgID,ne_eq]
  exact hloop

theorem texts_days : (b.texts (pre ++ post)).Pairwise fun x y => b.dayOf x.2 ≤ b.dayOf y.2 :=
  (texts_ordered hz hu hr).imp fun h => @dayOf_mono (b.logs .empty) _ _ seconds hz h

theorem day_le_today : ∀ x ∈ b.texts (pre ++ post), b.dayOf x.2 ≤ b.dayOf now :=
  fun x hx => @dayOf_mono (b.logs .empty) _ _ seconds hz (Int.le_of_lt (texts_past hz hu hr x hx))

theorem view_eq (hn : n ≤ (b.dayOf now - day + 1).toNat) : ((range n).flatMap fun j : Nat =>
      (behind b pre post day (b.dayOf now - n + 1 + j)).filter fun x => 0 < x.2) =
    viewed b (b.dayOf now - n) (day < ·) (b.texts pre) ++ viewed b (b.dayOf now - n) (day ≤ ·) (b.texts post) := by
  simp only [viewed]
  have hdays := texts_days hz hu hr
  have htoday := day_le_today hz hu hr
  by_cases hall : day < b.dayOf now - n + 1
  · -- no page of the day of the id
    have hpages : ((range n).flatMap fun j : Nat =>
        (behind b pre post day (b.dayOf now - n + 1 + j)).filter fun x => 0 < x.2) =
        (range n).flatMap fun j : Nat => (b.texts (pre ++ post)).filter fun x =>
          decide (0 < x.2) && decide (b.dayOf x.2 = b.dayOf now - n + 1 + j) :=
      flatMap_congr fun j _ => behind_other (by omega)
    rw [hpages,flatMap_keys hdays,texts_append,filter_append]
    congr 1
    · refine filter_and_congr fun x hx => ?_
      have := htoday x (by rw [texts_append]; exact mem_append_left _ hx)
      omega
    · refine filter_and_congr fun x hx => ?_
      have := htoday x (by rw [texts_append]; exact mem_append_right _ hx)
      omega
  · -- the last page is the part of its day behind the id
    cases n with
    | zero =>
      have hnone : ∀ l : List (Message × Int), (∀ x ∈ l, b.dayOf x.2 ≤ b.dayOf now) → ∀ c : Message × Int → Prop,
          ∀ _ : DecidablePred c, (l.filter fun x =>
            decide (0 < x.2) && decide (c x ∧ b.dayOf now - (0 : Nat) < b.dayOf x.2)) = [] := by
        intro l hl c _
        rw [filter_eq_nil_iff]
        intro x hx
        have := hl x hx
        have hno : ¬ b.dayOf now - ((0 : Nat)) < b.dayOf x.2 := by omega
        simp only [hno,and_false,decide_false,Bool.and_false,Bool.false_eq_true,not_false_eq_true]
      rw [texts_append] at htoday
      rw [hnone _ fun x hx => htoday x (mem_append_left _ hx),hnone _ fun x hx => htoday x (mem_append_right _ hx)]
      rfl
    | succ m =>
      have hday : b.dayOf now - ((m + 1 : Nat)) + 1 = day := by omega
      have hrest : ((range m).flatMap fun j : Nat =>
          (behind b pre post day (day + ((j + 1 : Nat)))).filter fun x => 0 < x.2) =
          (range m).flatMap fun j : Nat => (b.texts (pre ++ post)).filter fun x =>
            decide (0 < x.2) && decide (b.dayOf x.2 = day + 1 + j) := by
        refine flatMap_congr fun j _ => ?_
        rw [behind_other (by omega)]
        exact filter_and_congr fun x _ => by omega
      have hfirst : (behind b pre post day (day + ((0 : Nat)))).filter (fun x => 0 < x.2) =
          (b.texts post).filter fun x => decide (0 < x.2) && decide (b.dayOf x.2 = day) := by
        rw [behind,if_pos (by omega),filter_filter]
        exact filter_and_congr fun x _ => by omega
      have hlater : ((b.texts (pre ++ post)).filter fun x =>
          decide (0 < x.2) && decide (day + 1 ≤ b.dayOf x.2 ∧ b.dayOf x.2 < day + 1 + m)) =
          (b.texts (pre ++ post)).filter fun x => decide (0 < x.2) && decide (day < b.dayOf x.2) := by
        refine filter_and_congr fun x hx => ?_
        have := htoday x hx
        omega
      rw [range_succ_eq_map,flatMap_cons,flatMap_map,hday,hfirst]
      rw [hrest,flatMap_keys hdays,hlater]
      rw [texts_append] at hdays ⊢
      rw [filter_behind hdays]
      congr 1
      all_goals exact filter_and_congr fun x _ => by omega

/-- The pages of the days back to the day of the id, the newest texts first. -/
def pagesBehind (b : Buffered) (pre post : List Call) (day now : Int) : List (List (Message × Int)) :=
  ((List.range (b.dayOf now - day + 1).toNat).map fun i : Nat =>
    (behind b pre post day (b.dayOf now - i)).filter fun x => 0 < x.2).map List.reverse

omit hz hu hr in
theorem flatten_reverse_pages (hn : n ≤ (b.dayOf now - day + 1).toNat) :
    ((pagesBehind b pre post day now).take n).flatten.reverse = (range n).flatMap fun j : Nat =>
      (behind b pre post day (b.dayOf now - n + 1 + j)).filter fun x => 0 < x.2 := by
  rw [pagesBehind,← map_take,← map_take,take_range,Nat.min_eq_left hn,reverse_flatten,map_map]
  have hid : reverse ∘ reverse = (id : List (Message × Int) → List (Message × Int)) := by
    funext l
    exact reverse_reverse l
  rw [hid,map_id,← map_reverse,range_eq_range',reverse_range',map_map,range_eq_range']
  refine flatMap_congr fun j hj => ?_
  rw [← range_eq_range',mem_range] at hj
  have hday : b.dayOf now - ((0 + n - 1 - j : Nat)) = b.dayOf now - n + 1 + j := by omega
  simp only [Function.comp_apply,hday]

/-- No block of empty pages stands in front of a text exactly when it is near. -/
theorem open_iff_near (hx : x ∈ b.texts post ∨ (x ∈ b.texts pre ∧ day < b.dayOf x.2)) (h0 : 0 < x.2)
    (hd : day ≤ b.dayOf x.2) :
    Paging.Open fsMessageStoreMaxTries
        ((pagesBehind b pre post day now).take (b.dayOf now - b.dayOf x.2).toNat) ↔
      b.Near (b.texts (pre ++ post)) now (b.dayOf x.2) := by
  have hmem : x ∈ b.texts (pre ++ post) := by
    rw [texts_append]
    exact mem_append.mpr (hx.symm.imp And.left id)
  have htoday := day_le_today hz hu hr x hmem
  have hpage : ∀ k, k < (b.dayOf now - b.dayOf x.2).toNat →
      ((pagesBehind b pre post day now).take (b.dayOf now - b.dayOf x.2).toNat)[k]? =
        some ((behind b pre post day (b.dayOf now - k)).filter fun y => 0 < y.2).reverse := by
    intro k hk
    rw [getElem?_take_of_lt hk,pagesBehind,getElem?_map,getElem?_map,getElem?_range (by omega)]
    rfl
  have hlen : ((pagesBehind b pre post day now).take (b.dayOf now - b.dayOf x.2).toNat).length =
      (b.dayOf now - b.dayOf x.2).toNat := by
    simp only [pagesBehind,length_take,length_map,length_range]
    omega
  have hbehind : ∀ d, b.dayOf x.2 < d → behind b pre post day d =
      (b.texts (pre ++ post)).filter fun y => b.dayOf y.2 = d := by
    intro d hlt
    rw [behind,if_neg (by omega)]
  rw [open_iff]
  constructor
  · intro h e he hmax
    obtain ⟨k,hk,hne⟩ := h (b.dayOf now + 1 - e - fsMessageStoreMaxTries).toNat (by omega)
    rw [hpage _ (by omega),hbehind _ (by omega)] at hne
    obtain ⟨y,hy⟩ := exists_mem_of_ne_nil _ fun hnil => hne (congrArg some hnil)
    rw [mem_reverse,mem_filter,mem_filter,decide_eq_true_eq] at hy
    exact ⟨y,hy.1.1,by omega,by omega⟩
  · intro h j hj
    obtain ⟨y,hy,hlow,hhigh⟩ := h (b.dayOf now - j - fsMessageStoreMaxTries + 1) (by omega) (by omega)
    have hytoday := day_le_today hz hu hr y hy
    refine ⟨(b.dayOf now - b.dayOf y.2).toNat - j,by omega,?_⟩
    have hk : j + ((b.dayOf now - b.dayOf y.2).toNat - j) = (b.dayOf now - b.dayOf y.2).toNat := by omega
    have hday : b.dayOf now - ((b.dayOf now - b.dayOf y.2).toNat) = b.dayOf y.2 := by omega
    rw [hk,hpage _ (by omega),hday,hbehind _ (by omega)]
    have hpos : 0 < y.2 := by
      by_contra hneg
      have hle := @dayOf_mono (b.logs .empty) y.2 x.2 seconds hz (by omega)
      rw [logs_dayOf,logs_dayOf] at hle
      omega
    intro hnil
    have hin : y ∈ (((b.texts (pre ++ post)).filter fun z => b.dayOf z.2 = b.dayOf y.2).filter
        fun z => 0 < z.2).reverse := by
      simp [hy,hpos]
    rw [Option.some.inj hnil] at hin
    cases hin

/-- The texts a query without a limit gives, and how far back they reach. -/
theorem load_view (hg : b.Given pre id day) : ∃ reach : Int, (∀ limit : Nat, b.load (pre ++ post) now id limit =
        .ok (((viewed b reach (day < ·) (b.texts pre) ++ viewed b reach (day ≤ ·) (b.texts post)).rtake limit).map
          fun x => some x.1)) ∧
      ∀ x, (x ∈ b.texts post ∨ (x ∈ b.texts pre ∧ day < b.dayOf x.2)) → 0 < x.2 → day ≤ b.dayOf x.2 →
        (reach < b.dayOf x.2 ↔ b.Near (b.texts (pre ++ post)) now (b.dayOf x.2)) := by
  obtain ⟨n,hn,hreached,hiff⟩ := reached_take (Nat.zero_le fsMessageStoreMaxTries)
    (pagesBehind b pre post day now)
  have hlen : n ≤ (b.dayOf now - day + 1).toNat := by simpa only [pagesBehind,length_map,length_range] using hn
  refine ⟨b.dayOf now - n,?_,?_⟩
  · intro limit
    rw [← view_eq hz hu hr hlen,← flatten_reverse_pages hlen,load_eq hz hu hr hg,← pagesBehind,
      collect_eq_take_reached,hreached,rtake_eq_reverse_take_reverse,
      reverse_reverse]
    simp [map_reverse,map_map,Function.comp_def]
  · intro x hx h0 hd
    have hmem : x ∈ b.texts (pre ++ post) := by
      rw [texts_append]
      exact mem_append.mpr (hx.symm.imp And.left fun h => h)
    have htoday := day_le_today hz hu hr x hmem
    have hat : (pagesBehind b pre post day now)[(b.dayOf now - b.dayOf x.2).toNat]? =
        some ((behind b pre post day (b.dayOf x.2)).filter fun y => 0 < y.2).reverse := by
      have hday : b.dayOf now - ((b.dayOf now - b.dayOf x.2).toNat) = b.dayOf x.2 := by omega
      rw [pagesBehind,getElem?_map,getElem?_map,getElem?_range (by omega), Option.map_some,Option.map_some,hday]
    have hne : ((behind b pre post day (b.dayOf x.2)).filter fun y => decide (0 < y.2)).reverse ≠ [] := by
      apply ne_nil_of_mem
      rw [mem_reverse,mem_filter,decide_eq_true_eq]
      exact ⟨mem_behind hx,h0⟩
    rw [← open_iff_near hz hu hr hx h0 hd,← nil_append (take _ _)]
    have := hiff _ _ hat hne
    rw [replicate_zero] at this
    rw [← this]
    omega

/-- A query gives the last texts appended since its id was given out, whatever its limit,
exactly when they are in reach and earlier ones are not. -/
theorem backlog_iff {id : MsgID} {day : Int} (hg : b.Given pre id day) :
    (∀ limit : Nat, b.load (pre ++ post) now id limit =
      .ok (((b.texts post).rtake limit).map fun x => some x.1)) ↔ b.InReach pre post day now := by
  obtain ⟨reach,hload,hnear⟩ := load_view hz hu hr hg
  have hordered := texts_ordered hz hu hr
  have hdays := texts_days hz hu hr
  rw [texts_append] at hordered hdays
  have hsorted := (pairwise_append.mp hordered).2.2
  have hlater := (pairwise_append.mp hdays).2.2
  constructor
  · intro h
    -- with room for everything, the two lists are of the same length
    have hlen := h (((b.texts pre).length + (b.texts post).length))
    rw [hload,Except.ok.injEq] at hlen
    replace hlen := congrArg List.length hlen
    have hpre : (viewed b reach (day < ·) (b.texts pre)).length ≤ _ := length_filter_le _ _
    have hpost : (viewed b reach (day ≤ ·) (b.texts post)).length ≤ _ := length_filter_le _ _
    simp only [length_map,List.rtake,length_drop,length_append] at hlen
    have hnone : viewed b reach (day < ·) (b.texts pre) = [] := by
      by_contra hne
      obtain ⟨x,hx⟩ := exists_mem_of_ne_nil _ hne
      obtain ⟨hmem,hx⟩ := mem_viewed.mp hx
      have hall : viewed b reach (day ≤ ·) (b.texts post) = b.texts post := by
        refine filter_eq_self.mpr fun y hy => ?_
        have h1 := hsorted x hmem y hy
        have h2 := hlater x hmem y hy
        rw [Bool.and_eq_true,decide_eq_true_eq,decide_eq_true_eq]
        omega
      have hpos := length_pos_of_ne_nil hne
      rw [hall] at hlen
      omega
    rw [hnone,length_nil] at hlen
    have hall : viewed b reach (day ≤ ·) (b.texts post) = b.texts post :=
      filter_sublist.eq_of_length (by unfold viewed at hlen hpost; omega)
    constructor
    · intro x hx
      obtain ⟨-,h0,hday,hv⟩ := mem_viewed.mp (hall.symm ▸ hx)
      exact ⟨hday,h0,(hnear x (Or.inl hx) h0 hday).mp hv⟩
    · intro x hx hday h0 hn
      have hr := (hnear x (Or.inr ⟨hx,hday⟩) h0 (Int.le_of_lt hday)).mpr hn
      cases hnone ▸ mem_viewed.mpr ⟨hx,h0,hday,hr⟩
  · intro hin limit
    have hnone : viewed b reach (day < ·) (b.texts pre) = [] := by
      refine eq_nil_iff_forall_not_mem.mpr fun x hx => ?_
      obtain ⟨hx,h0,hday,hr⟩ := mem_viewed.mp hx
      exact hin.earlier x hx hday h0 ((hnear x (Or.inr ⟨hx,hday⟩) h0 (Int.le_of_lt hday)).mp hr)
    have hall : viewed b reach (day ≤ ·) (b.texts post) = b.texts post := by
      refine filter_eq_self.mpr fun y hy => ?_
      obtain ⟨hday,h0,hn⟩ := hin.later y hy
      rw [Bool.and_eq_true,decide_eq_true_eq,decide_eq_true_eq]
      exact ⟨h0,hday,(hnear y (Or.inl hy) h0 hday).mpr hn⟩
    rw [hload,hnone,hall,nil_append]

end Latest

def aliceBuffer : Buffered := ⟨utc,ZncLog.alice,ZncLog.libera,"#sake"⟩

/-- A text of a call at some time. -/
def textAt (text : String) (t : Int) : Call := ⟨FsWriter.said text,t⟩

theorem ordinary_text (line : String) (hline : ∀ t', Call.time ⟨{ FsWriter.said text with tags },t⟩ = some t' →
      marshalLine .ascii (.fixed 0) { FsWriter.said text with tags } t' = .ok line)
    (hfits : '\n' ∉ line.toList ∧ '\r' ∉ line.toList ∧ byteLen line.toList < maxScanTokenSize) :
    aliceBuffer.Ordinary ⟨{ FsWriter.said text with tags },t⟩ where
  upper := show Strings.mapChars Unicode.ascii.toUpper "PRIVMSG" = "PRIVMSG" by decide
  plain _ := ⟨text,Or.inl rfl,⟨_,rfl,rfl⟩,rfl,show ' ' ∉ "bob".toList by decide⟩
  fits t' line' ht hm := by
    cases (hline t' ht).symm.trans hm
    exact hfits

theorem next_day_loaded : aliceBuffer.load [textAt "a" Time.day,textAt "b" (2 * Time.day)] (2 * Time.day + 1)
        ⟨1,"#sake",.fs 1 1 2 0⟩ 5 =
      .ok [some (aliceBuffer.restored (FsWriter.said "b") (2 * Time.day)).1] := by
  have hr : aliceBuffer.Regular ([textAt "a" Time.day] ++ [textAt "b" (2 * Time.day)]) (2 * Time.day + 1) := by
    refine ⟨?_,by decide,by decide⟩
    intro c hc
    simp only [cons_append,nil_append,mem_cons,not_mem_nil,or_false] at hc
    rcases hc with rfl | rfl
    · exact ordinary_text "[00:00:00] <bob> a" (fun _ h => by cases h; rfl) (by decide)
    · exact ordinary_text "[00:00:00] <bob> b" (fun _ h => by cases h; rfl) (by decide)
  have hg : aliceBuffer.Given [textAt "a" Time.day] ⟨1,"#sake",.fs 1 1 2 0⟩
      (aliceBuffer.dayOf Time.day) := .append [] _ _ _ rfl rfl rfl
  refine (@backlog_iff aliceBuffer 0 rfl Unicode.standard_ascii _ _ _ hr _ _ hg).mpr ?_ 5
  have htoday : aliceBuffer.dayOf (2 * Time.day + 1) = 2 := rfl
  constructor
  · intro x hx
    cases mem_singleton.mp hx
    refine ⟨by decide,by decide,?_⟩
    intro e he hmax
    rw [show aliceBuffer.dayOf _ = 2 from rfl] at he
    simp only [fsMessageStoreMaxTries] at hmax
    omega
  · intro x hx hday
    cases mem_singleton.mp hx
    exact absurd hday (by decide)

/-- A text of the evening that arrives after midnight. -/
def late : Call :=
  ⟨{ FsWriter.said "late" with tags := [("time","0001-01-02T23:59:59.000Z")] },2 * Time.day + 5⟩

/-- It is appended after the id was given out, and not loaded. -/
theorem late_text_not_loaded : aliceBuffer.Regular [late] (2 * Time.day + 10) ∧
      aliceBuffer.Given [] (lastMsgID utc (aliceBuffer.after []) ZncLog.libera "#sake" (2 * Time.day)) 2 ∧
      (aliceBuffer.texts [late]).map Prod.snd = [2 * Time.day - Time.second] ∧
      aliceBuffer.load [late] (2 * Time.day + 10)
        (lastMsgID utc (aliceBuffer.after []) ZncLog.libera "#sake" (2 * Time.day)) 5 = .ok [] := by
  refine ⟨⟨?_,by decide,by decide⟩,.last (2 * Time.day),rfl,rfl⟩
  intro c hc
  rw [mem_singleton.mp hc]
  exact ordinary_text "[23:59:59] <bob> late" (fun _ h => by cases h; rfl) (by decide)

end Sake.Proofs.FsBacklog
