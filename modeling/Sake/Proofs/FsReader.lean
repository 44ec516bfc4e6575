import Sake.FsReader
import Sake.Proofs.ZncLog

namespace Sake.Proofs.FsReader
open Sake.FsStore Sake.MsgStore Sake.ZncLog Lib List Paging Logs

variable {logs : Logs} {q : Query} {selector : Message → Bool}
  {upper a b seconds start : Int} {x : Message × Int}
  {limit : Nat}

section Ring
/-- The two halves of the slice are one turn of reading. -/
theorem ringSlice_eq (hl : ring.length = limit) (h0 : 0 < limit) :
    ringSlice ring limit cur = (range (min cur limit)).map fun i =>
      Ring.read ring (cur - min cur limit + i) := by
  have hn : (if cur < limit then cur else limit) = min cur limit := by
    rw [Nat.min_def]
    split <;> split <;> omega
  have hstart : (cur - min cur limit + limit) % limit = (cur - min cur limit) % limit := Nat.add_mod_right _ _
  have hlt : (cur - min cur limit) % limit < limit := Nat.mod_lt _ h0
  have hmod : ∀ i, (cur - min cur limit + i) % limit = ((cur - min cur limit) % limit + i) % limit :=
    fun i => (Nat.mod_add_mod _ _ _).symm
  simp only [ringSlice,hn,hstart]
  generalize hs : (cur - min cur limit) % limit = start at *
  apply ext_getElem?
  intro i
  by_cases hi : i < min cur limit
  · have hil : i < limit := by omega
    have hread : ((range (min cur limit)).map fun i =>
        Ring.read ring (cur - min cur limit + i))[i]? = some (ring.getD ((start + i) % limit) none) := by
      simp [getElem?_range hi,Ring.read,hl,hmod]
    rw [hread]
    split
    · have hsi : start + i < limit := by omega
      rw [getElem?_take_of_lt hi,Nat.mod_eq_of_lt hsi]
      simp [hl,hsi]
    by_cases hwrap : start + i < limit
    · rw [getElem?_append_left (by simp; omega),Nat.mod_eq_of_lt hwrap]
      simp [hl,hwrap]
    have hrest : (start + i) % limit = start + i - limit := by
      rw [Nat.mod_eq_sub_mod (by omega),Nat.mod_eq_of_lt (by omega)]
    rw [getElem?_append_right (by simp; omega),length_drop,hl,hrest, getElem?_take_of_lt (by omega)]
    have hidx : i - (limit - start) = start + i - limit := by omega
    have hb : start + i - limit < ring.length := by omega
    simp [hidx,hb]
  · have hnone : ((range (min cur limit)).map fun i =>
        Ring.read ring (cur - min cur limit + i))[i]? = none := by
      simp [hi]
    rw [hnone]
    split
    all_goals
      simp
      omega

end Ring

/-- The messages a loop over a day picks. -/
def picked (selector : Message → Bool) (lower upper : Int) (l : List (Message × Int)) : List Message :=
  (l.filter fun x => decide (Logs.Within lower upper x) && selector x.1).map Prod.fst

theorem picked_cons_of_not (l : List (Message × Int)) (h : ¬ (Within lower upper x ∧ selector x.1 = true)) :
    picked selector lower upper (x :: l) = picked selector lower upper l := by
  have hx : (decide (Within lower upper x) && selector x.1) = false := by simpa using h
  simp [picked,hx]

theorem picked_cons_of (l : List (Message × Int)) (h : Within lower upper x) (hs : selector x.1 = true) :
    picked selector lower upper (x :: l) = x.1 :: picked selector lower upper l := by
  simp [picked,h,hs]

theorem picked_of_late (hl : (x :: l).Pairwise fun x y => x.2 ≤ y.2) (hx : ¬ x.2 < upper) :
    picked selector lower upper (x :: l) = [] := by
  rw [picked,map_eq_nil_iff,filter_eq_nil_iff]
  intro y hy
  have hle : x.2 ≤ y.2 := by
    rcases mem_cons.mp hy with rfl | hy
    · exact le_refl _
    · exact (pairwise_cons.mp hl).1 y hy
  have hlate : ¬ Within lower upper y := fun h => hx (lt_of_le_of_lt hle h.2)
  simp [hlate]

theorem parseLines_cons (h : logs.parseLines q ref (line :: lines) = some es) :
    (logs.parseMessage q ref line = .ok none ∧ logs.parseLines q ref lines = some es) ∨
      ∃ x rest, logs.parseMessage q ref line = .ok (some x) ∧
        logs.parseLines q ref lines = some rest ∧ es = x :: rest := by
  cases hp : logs.parseMessage q ref line with
  | error e => simp [parseLines,hp] at h
  | ok parsed =>
    cases parsed with
    | none => exact Or.inl ⟨rfl,by simpa [parseLines,hp] using h⟩
    | some x =>
      simp only [parseLines,hp,Option.map_eq_some_iff] at h
      obtain ⟨rest,hrest,rfl⟩ := h
      exact Or.inr ⟨x,rest,rfl,hrest,rfl⟩

theorem beforeLoop_spec (selector : Message → Bool) (lower : Int) (hp : logs.parseLines q ref lines = some es)
    (hs : es.Pairwise fun x y => x.2 ≤ y.2) (hr : 0 < ring.length) (hrec : Ring.Recent ring 0 history) :
    ∃ ring' left, logs.beforeLoop q selector ref lower lines (ring,history.length) =
        .ok ((ring',(history ++ picked selector lower ref es).length),left) ∧
      ring'.length = ring.length ∧
      Ring.Recent ring' 0 (history ++ picked selector lower ref es) := by
  induction lines generalizing es ring history with
  | nil =>
    simp only [parseLines,Option.some.injEq] at hp
    subst hp
    exact ⟨ring,false,by simp [beforeLoop,picked],rfl,by simpa [picked] using hrec⟩
  | cons line lines ih =>
    rcases parseLines_cons hp with ⟨hnone,hp⟩ | ⟨⟨msg,t⟩,rest,hsome,hlines,rfl⟩
    · obtain ⟨ring',left,hloop,hlen,hrec'⟩ := ih hp hs hr hrec
      exact ⟨ring',left,by simpa [beforeLoop,hnone] using hloop,hlen,hrec'⟩
    have hrest := (pairwise_cons.mp hs).2
    by_cases hlow : lower < t
    · by_cases hup : t < ref
      · by_cases hsel : selector msg = true
        · rw [picked_cons_of rest ⟨hlow,hup⟩ hsel]
          have hput := hrec.put hr msg
          obtain ⟨ring',left,hloop,hlen,hrec'⟩ := ih hlines hrest (by simpa using hr) hput
          rw [append_assoc] at hrec'
          refine ⟨ring',left,?_,by simpa using hlen,hrec'⟩
          simpa [beforeLoop,hsome,hlow,hup,hsel] using hloop
        · rw [picked_cons_of_not rest fun h => hsel h.2]
          obtain ⟨ring',left,hloop,hlen,hrec'⟩ := ih hlines hrest hr hrec
          exact ⟨ring',left,by simpa [beforeLoop,hsome,hup,hsel] using hloop,hlen,hrec'⟩
      · rw [picked_of_late hs hup]
        refine ⟨ring,true,?_,rfl,by simpa using hrec⟩
        simp [beforeLoop,hsome,hlow,hup]
    · rw [picked_cons_of_not rest fun h => hlow h.1.1]
      obtain ⟨ring',left,hloop,hlen,hrec'⟩ := ih hlines hrest hr hrec
      exact ⟨ring',left,by simpa [beforeLoop,hsome,hlow] using hloop,hlen,hrec'⟩

theorem afterLoop_spec (selector : Message → Bool) (upper : Int) (hp : logs.parseLines q ref lines = some es)
    (hs : es.Pairwise fun x y => x.2 ≤ y.2) (hh : history.length ≤ limit) :
    ∃ left, logs.afterLoop q selector ref upper limit lines history =
      .ok ((history ++ picked selector ref upper es).take limit,left) := by
  induction lines generalizing es history with
  | nil =>
    simp only [parseLines,Option.some.injEq] at hp
    subst hp
    exact ⟨false,by simp [afterLoop,picked,take_of_length_le hh]⟩
  | cons line lines ih =>
    by_cases hfull : limit ≤ history.length
    · refine ⟨true,?_⟩
      rw [take_append_of_le_length hfull,take_of_length_le hh]
      simp [afterLoop,hfull]
    rcases parseLines_cons hp with ⟨hnone,hp⟩ | ⟨⟨msg,t⟩,rest,hsome,hlines,rfl⟩
    · obtain ⟨left,hloop⟩ := ih hp hs hh
      exact ⟨left,by simpa [afterLoop,hfull,hnone] using hloop⟩
    have hrest := (pairwise_cons.mp hs).2
    by_cases hlow : ref < t
    · by_cases hup : t < upper
      · by_cases hsel : selector msg = true
        · rw [picked_cons_of rest ⟨hlow,hup⟩ hsel]
          have hlen : (history ++ [msg]).length ≤ limit := by simp; omega
          obtain ⟨left,hloop⟩ := ih hlines hrest hlen
          refine ⟨left,?_⟩
          simpa [afterLoop,hfull,hsome,hlow,hup,hsel] using hloop
        · rw [picked_cons_of_not rest fun h => hsel h.2]
          obtain ⟨left,hloop⟩ := ih hlines hrest hh
          exact ⟨left,by simpa [afterLoop,hfull,hsome,hup,hsel] using hloop⟩
      · rw [picked_of_late hs hup]
        refine ⟨true,?_⟩
        simp [afterLoop,hsome,hlow,hup,take_of_length_le hh]
    · rw [picked_cons_of_not rest fun h => hlow h.1.1]
      obtain ⟨left,hloop⟩ := ih hlines hrest hh
      exact ⟨left,by simpa [afterLoop,hfull,hsome,hlow] using hloop⟩

theorem ringSlice_recent (hl : ring.length = limit) (h0 : 0 < limit) (h : Ring.Recent ring 0 history) :
    ringSlice ring limit history.length = (history.rtake limit).map some := by
  have hw := h.window (min history.length limit) (Nat.min_le_left _ _) (by omega)
  have htake : history.rtake (min history.length limit) = history.rtake limit := by
    simp only [rtake]
    congr 1
    omega
  rw [ringSlice_eq hl h0,← htake,← hw,Nat.zero_add]

/-- What a page of a day's file holds, for a query that looks back. -/
theorem parseMessagesBefore_of_lines (h0 : 0 < limit) (hfile : logs.file q ref = some content)
    (hshort : (linesFrom content offset).tooLong = false)
    (hp : logs.parseLines q ref (linesFrom content offset).lines = some es)
    (hs : es.Pairwise fun x y => x.2 ≤ y.2) :
    logs.parseMessagesBefore q selector ref lower limit offset =
      .ok (((picked selector lower ref es).rtake limit).map some) := by
  have hring : (replicate limit (none : Option Message)).length = limit := by simp
  obtain ⟨ring,left,hloop,hlen,hrec⟩ := beforeLoop_spec selector lower hp hs
    (by rw [hring]; exact h0) (Ring.recent_nil (replicate limit none) 0)
  have hslice := ringSlice_recent (hlen.trans hring) h0 hrec
  rw [length_nil] at hloop
  simp only [parseMessagesBefore,hfile,hloop,hshort,Bool.and_false]
  exact congrArg Except.ok hslice

theorem parseMessagesAfter_of_lines (hfile : logs.file q ref = some content) (hshort : (scan content).tooLong = false)
    (hp : logs.parseLines q ref (scan content).lines = some es) (hs : es.Pairwise fun x y => x.2 ≤ y.2) :
    logs.parseMessagesAfter q selector ref upper limit = .ok ((picked selector ref upper es).take limit) := by
  obtain ⟨left,hloop⟩ := afterLoop_spec selector upper hp hs
    (show ([]).length ≤ limit from Nat.zero_le _)
  simp only [parseMessagesAfter,hfile,hloop,hshort,Bool.and_false]
  rfl

/-- What the log says of a message: whole seconds, and a tag that gives the time. -/
def Stamped (x : Message × Int) : Prop :=
  x.2 % Time.second = 0 ∧ x.1.tags = [("time",Time.formatServerTime x.2)]

theorem Stamped.time_eq (hx : Stamped x) (hy : Stamped y) (h : x.1 = y.1) : x.2 = y.2 := by
  have htags := hx.2.symm.trans (h ▸ hy.2)
  simp only [cons.injEq,Prod.mk.injEq,true_and,and_true] at htags
  exact Time.formatServerTime_injective hx.1 hy.1 htags

section
variable (h : logs.dayOf a = logs.dayOf b)
include h

theorem dateOf_congr : Time.dateOf logs.zone a = Time.dateOf logs.zone b := by exact congrArg Lib.Calendar.date h

theorem parseMessage_congr (line : String) : logs.parseMessage q a line = logs.parseMessage q b line := by
  simp [parseMessage,unmarshalLine,dateOf_congr h]

theorem parseLines_congr (lines : List String) : logs.parseLines q a lines = logs.parseLines q b lines := by
  induction lines with
  | nil => rfl
  | cons line lines ih => simp [parseLines,parseMessage_congr h,ih]

theorem dayLog_congr : logs.dayLog q a = logs.dayLog q b := by
  have hfile : logs.file q a = logs.file q b := by simp [file,logPath,logName,dateOf_congr h]
  simp [dayLog,hfile,parseLines_congr h]

end

theorem dayLog_cases (h : logs.dayLog q ref = some es) :
    (logs.file q ref = none ∧ es = []) ∨ ∃ content, logs.file q ref = some content ∧
      (scan content).tooLong = false ∧ logs.parseLines q ref (scan content).lines = some es := by
  cases hfile : logs.file q ref with
  | none =>
    simp only [dayLog,hfile,Option.some.injEq] at h
    exact Or.inl ⟨rfl,h.symm⟩
  | some content =>
    refine Or.inr ⟨content,rfl,?_⟩
    cases hlong : (scan content).tooLong with
    | true => simp [dayLog,hfile,hlong] at h
    | false => exact ⟨rfl,by simpa [dayLog,hfile,hlong] using h⟩

section FixedZone
variable (hz : logs.zone = Time.Zone.fixed seconds)
include hz

theorem wall_fixed (t : Int) : logs.zone.wall t = t + seconds * Time.second := by
  rw [hz]
  rfl

theorem dayOf_fixed (t : Int) : logs.dayOf t = (t + seconds * Time.second) / Time.day := by rw [dayOf,wall_fixed hz]

theorem resolve_fixed (w : Int) : logs.zone.resolve w = w - seconds * Time.second := by
  rw [hz]
  rfl

theorem dayOf_midnight (d : Int) : logs.dayOf (logs.zone.resolve (d * Time.day)) = d := by
  rw [dayOf_fixed hz,resolve_fixed hz]
  unfold Time.day Time.second
  omega

theorem dayAfter_eq (t : Int) : logs.dayAfter t = (logs.dayOf t + 1) * Time.day - seconds * Time.second := by
  simp only [dayAfter,Time.date,Lib.Calendar.dayNumber_add,Time.dateOf, Lib.Calendar.dayNumber_date,resolve_fixed hz]
  simp only [dayOf]
  omega

theorem truncateDay_eq (t : Int) : Time.truncateDay logs.zone t = logs.dayOf t * Time.day - seconds * Time.second := by
  simp only [Time.truncateDay,Time.date,Time.dateOf,Lib.Calendar.dayNumber_date,resolve_fixed hz]
  simp only [dayOf]
  omega

theorem dayBefore_eq (t : Int) : logs.dayBefore t = logs.dayOf t * Time.day - seconds * Time.second - 1 := by
  rw [dayBefore,truncateDay_eq hz]

theorem dayOf_dayAfter (t : Int) : logs.dayOf (logs.dayAfter t) = logs.dayOf t + 1 := by
  rw [dayAfter_eq hz,dayOf_fixed hz]
  unfold Time.day Time.second
  omega

theorem dayOf_dayBefore (t : Int) : logs.dayOf (logs.dayBefore t) = logs.dayOf t - 1 := by
  rw [dayBefore_eq hz,dayOf_fixed hz]
  unfold Time.day Time.second
  omega

theorem lt_dayAfter (t : Int) : t < logs.dayAfter t := by
  rw [dayAfter_eq hz,dayOf_fixed hz]
  unfold Time.day Time.second
  omega

theorem dayBefore_lt (t : Int) : logs.dayBefore t < t := by
  rw [dayBefore_eq hz,dayOf_fixed hz]
  unfold Time.day Time.second
  omega

theorem dayOf_mono (h : a ≤ b) : logs.dayOf a ≤ logs.dayOf b := by
  rw [dayOf_fixed hz,dayOf_fixed hz]
  unfold Time.day Time.second
  omega

theorem parseMessage_stamped (h : logs.parseMessage q ref line = .ok (some x)) : Stamped x := by
  simp only [parseMessage,unmarshalLine] at h
  cases hts : scanTimestamp logs.unicode line.toList with
  | none => simp [hts] at h
  | some hms =>
    simp only [hts] at h
    split at h
    · cases h
    split at h
    · cases h
    cases h
    refine ⟨?_,rfl⟩
    simp only [Time.date,resolve_fixed hz]
    unfold Time.day Time.second
    omega

theorem parseLines_stamped (h : logs.parseLines q ref lines = some es) : ∀ x ∈ es, Stamped x := by
  induction lines generalizing es with
  | nil =>
    simp only [parseLines,Option.some.injEq] at h
    subst h
    simp
  | cons line lines ih =>
    rcases parseLines_cons h with ⟨-,hp⟩ | ⟨x,rest,hx,hp,rfl⟩
    · exact ih hp
    intro y hy
    rcases mem_cons.mp hy with rfl | hy
    · exact parseMessage_stamped hz hx
    · exact ih hp y hy

theorem dayLog_stamped (h : logs.dayLog q ref = some es) : ∀ x ∈ es, Stamped x := by
  rcases dayLog_cases h with ⟨-,rfl⟩ | ⟨content,-,-,hp⟩
  · simp
  · exact parseLines_stamped hz hp

/-- The messages of the day of an instant, as the log of the day has them. -/
theorem orderly_spec (ho : logs.Orderly q) (ref : Int) : logs.dayLog q ref = some (logs.messagesOn q (logs.dayOf ref)) ∧
      ((logs.messagesOn q (logs.dayOf ref)).Pairwise fun x y => x.2 ≤ y.2) ∧
      ∀ x ∈ logs.messagesOn q (logs.dayOf ref), logs.dayOf x.2 = logs.dayOf ref ∧ Stamped x := by
  obtain ⟨l,hl,hs,hday⟩ := ho ref
  have hon : logs.messagesOn q (logs.dayOf ref) = l := by
    rw [messagesOn,dayLog_congr (dayOf_midnight hz (logs.dayOf ref)),hl,Option.getD_some]
  rw [hon]
  exact ⟨hl,hs,fun x hx => ⟨hday x hx,dayLog_stamped hz hl x hx⟩⟩

theorem parseMessagesBefore_spec (ho : logs.Orderly q) (selector : Message → Bool) (ref lower : Int) (h0 : 0 < limit) :
    logs.parseMessagesBefore q selector ref lower limit (-1) =
      .ok (((picked selector lower ref (logs.messagesOn q (logs.dayOf ref))).rtake limit).map some) := by
  obtain ⟨hlog,hs,-⟩ := orderly_spec hz ho ref
  rcases dayLog_cases hlog with ⟨hfile,hnil⟩ | ⟨content,hfile,hshort,hp⟩
  · simp [parseMessagesBefore,hfile,hnil,picked]
  · exact parseMessagesBefore_of_lines h0 hfile hshort hp hs

theorem parseMessagesAfter_spec (ho : logs.Orderly q) (selector : Message → Bool) (ref upper : Int) (limit : Nat) :
    logs.parseMessagesAfter q selector ref upper limit =
      .ok ((picked selector ref upper (logs.messagesOn q (logs.dayOf ref))).take limit) := by
  obtain ⟨hlog,hs,-⟩ := orderly_spec hz ho ref
  rcases dayLog_cases hlog with ⟨hfile,hnil⟩ | ⟨content,hfile,hshort,hp⟩
  · simp [parseMessagesAfter,hfile,hnil,picked]
  · exact parseMessagesAfter_of_lines hfile hshort hp hs

end FixedZone

variable (logs q) in
/-- The pages of the days from `start` on. -/
def afterPages (selector : Message → Bool) (upper : Int) : Nat → Int → List (List Message)
  | 0, _ => []
  | n + 1, start => picked selector start upper (logs.messagesOn q (logs.dayOf start)) ::
      afterPages selector upper n (logs.dayAfter start)

variable (logs q) in
/-- The pages of the days back from `start`, the newest messages first. -/
def beforePages (selector : Message → Bool) (lower : Int) : Nat → Int → List (List Message)
  | 0, _ => []
  | n + 1, start => (picked selector lower start (logs.messagesOn q (logs.dayOf start))).reverse ::
      beforePages selector lower n (logs.dayBefore start)

theorem picked_of_not_lt (h : ¬ lower < upper) (l : List (Message × Int)) : picked selector lower upper l = [] := by
  rw [picked,map_eq_nil_iff,filter_eq_nil_iff]
  intro x _
  have hx : ¬ Within lower upper x := fun hw => h (lt_trans hw.1 hw.2)
  simp [hx]

section Days
variable (hz : logs.zone = Time.Zone.fixed seconds) (selector : Message → Bool) {n : Nat}
include hz

theorem afterPages_late (h : ¬ start < upper) (n : Nat) : (afterPages logs q selector upper n start).flatten = [] := by
  induction n generalizing start with
  | zero => rfl
  | succ n ih =>
    have hnext := lt_dayAfter hz start
    rw [afterPages,flatten_cons,picked_of_not_lt h,ih (by omega),nil_append]

theorem beforePages_early (h : ¬ lower < start) (n : Nat) :
    (beforePages logs q selector lower n start).flatten = [] := by
  induction n generalizing start with
  | zero => rfl
  | succ n ih =>
    have hnext := dayBefore_lt hz start
    rw [beforePages,flatten_cons,picked_of_not_lt h,ih (by omega),reverse_nil,nil_append]

theorem afterDays_eq (ho : logs.Orderly q) (hn : logs.dayOf upper - logs.dayOf start + 1 ≤ n) (hf : n ≤ fuel)
    (remaining tries : Nat) (messages : List Message) :
    logs.afterDays q selector upper fuel start remaining tries messages =
      .ok (messages ++ collect fsMessageStoreMaxTries
        (afterPages logs q selector upper n start) tries remaining) := by
  induction n generalizing start fuel remaining tries messages with
  | zero =>
    have hstop : ¬ start < upper := fun h => by
      have := dayOf_mono hz (le_of_lt h)
      omega
    cases fuel <;> simp [afterDays,hstop,afterPages,collect]
  | succ n ih =>
    obtain ⟨fuel,rfl⟩ : ∃ m, fuel = m + 1 := ⟨fuel - 1,by omega⟩
    by_cases hgo : 0 < remaining ∧ tries < fsMessageStoreMaxTries ∧ start < upper
    · have hday := dayOf_dayAfter hz start
      have hguard : ¬ (remaining = 0 ∨ fsMessageStoreMaxTries ≤ tries) := by omega
      simp only [afterDays,if_pos hgo,parseMessagesAfter_spec hz ho,afterPages,
        collect,if_neg hguard,length_eq_zero_iff]
      exact (ih (by omega) (by omega) _ _ _).trans (by rw [append_assoc])
    · have hnone : collect fsMessageStoreMaxTries
          (afterPages logs q selector upper (n + 1) start) tries remaining = [] := by
        by_cases hlt : start < upper
        · simp only [afterPages,collect]
          rw [if_pos (by omega)]
        · exact collect_of_flatten_nil (afterPages_late hz selector hlt _) _ _ _
      simp [afterDays,if_neg hgo,hnone]

theorem beforeDays_eq (ho : logs.Orderly q) (hn : logs.dayOf start - logs.dayOf lower + 1 ≤ n) (hf : n ≤ fuel)
    (remaining tries : Nat) (messages : List (Option Message)) :
    logs.beforeDays q selector lower fuel start remaining tries messages = .ok ((collect fsMessageStoreMaxTries
        (beforePages logs q selector lower n start) tries remaining).reverse.map some ++ messages) := by
  induction n generalizing start fuel remaining tries messages with
  | zero =>
    have hstop : ¬ lower < start := fun h => by
      have := dayOf_mono hz (le_of_lt h)
      omega
    cases fuel <;> simp [beforeDays,hstop,beforePages,collect]
  | succ n ih =>
    obtain ⟨fuel,rfl⟩ : ∃ m, fuel = m + 1 := ⟨fuel - 1,by omega⟩
    by_cases hgo : 0 < remaining ∧ tries < fsMessageStoreMaxTries ∧ lower < start
    · have hday := dayOf_dayBefore hz start
      have hguard : ¬ (remaining = 0 ∨ fsMessageStoreMaxTries ≤ tries) := by omega
      simp only [beforeDays,if_pos hgo,parseMessagesBefore_spec hz ho selector start lower hgo.1,
        beforePages,collect,if_neg hguard,rtake_eq_reverse_take_reverse]
      refine (ih (by omega) (by omega) _ _ _).trans ?_
      simp
    · have hnone : collect fsMessageStoreMaxTries
          (beforePages logs q selector lower (n + 1) start) tries remaining = [] := by
        by_cases hlt : lower < start
        · simp only [beforePages,collect]
          rw [if_pos (by omega)]
        · exact collect_of_flatten_nil (beforePages_early hz selector hlt _) _ _ _
      simp [beforeDays,if_neg hgo,hnone]

end Days

theorem picked_all : picked (fun _ => true) lower upper l =
      (l.filter fun x => Within lower upper x).map Prod.fst := by
  simp [picked]

instance (t : Int) : Decidable (logs.AtMidnight t) := inferInstanceAs (Decidable (_ = _))

section Between
variable (hz : logs.zone = Time.Zone.fixed seconds) (ho : logs.Orderly q)
include hz ho

/-- The pages read ahead have the messages in between, but not those of midnight. -/
theorem afterPages_eq
    (hs : start = lower ∨ (start = logs.dayOf start * Time.day - seconds * Time.second ∧ lower < start)) (n : Nat) :
    afterPages logs q (fun _ => true) upper n start = (((range n).map fun i : Nat =>
      (logs.messagesOn q (logs.dayOf start + i)).filter fun x => Within lower upper x).map
        (filter fun x => ¬ logs.AtMidnight x.2)).map (List.map Prod.fst) := by
  induction n generalizing start with
  | zero => rfl
  | succ n ih =>
    have hpage : ((logs.messagesOn q (logs.dayOf start)).filter (Within start upper)) =
        ((logs.messagesOn q (logs.dayOf start)).filter (Within lower upper)).filter
          fun x => ¬ logs.AtMidnight x.2 := by
      rw [filter_filter]
      refine filter_congr fun x hx => ?_
      have hday := ((orderly_spec hz ho start).2.2 x hx).1
      rw [← Bool.decide_and,decide_eq_decide]
      rw [dayOf_fixed hz,dayOf_fixed hz] at hday
      simp only [Within,AtMidnight,wall_fixed hz]
      unfold Time.day Time.second at *
      omega
    have hnext := dayOf_dayAfter hz start
    have hlt := lt_dayAfter hz start
    have hmid := dayAfter_eq hz start
    rw [afterPages,picked_all,hpage,ih (Or.inr ⟨by rw [hnext,hmid],by omega⟩),hnext,range_succ_eq_map]
    simp [map_cons,map_map,Function.comp_def,Int.natCast_succ,Int.ofNat_zero,Int.add_zero,Int.add_assoc,Int.add_comm 1]

theorem beforePages_eq (hs : start = upper ∨
      (start = (logs.dayOf start + 1) * Time.day - seconds * Time.second - 1 ∧ start < upper)) (n : Nat) :
    beforePages logs q (fun _ => true) lower n start = (((range n).map fun i : Nat =>
      (logs.messagesOn q (logs.dayOf start - i)).filter fun x => Within lower upper x).map
        reverse).map (List.map Prod.fst) := by
  induction n generalizing start with
  | zero => rfl
  | succ n ih =>
    have hpage : ((logs.messagesOn q (logs.dayOf start)).filter (Within lower start)) =
        (logs.messagesOn q (logs.dayOf start)).filter fun x => Within lower upper x := by
      refine filter_congr fun x hx => ?_
      obtain ⟨hday,hwhole,-⟩ := (orderly_spec hz ho start).2.2 x hx
      rw [decide_eq_decide]
      rw [dayOf_fixed hz,dayOf_fixed hz] at hday
      simp only [Within]
      unfold Time.day Time.second at *
      omega
    have hnext := dayOf_dayBefore hz start
    have hlt := dayBefore_lt hz start
    have hlast := dayBefore_eq hz start
    rw [beforePages,picked_all,hpage,ih (Or.inr ⟨by rw [hnext,hlast,Int.sub_add_cancel],by omega⟩),
      hnext,range_succ_eq_map]
    simp [map_cons,map_map,Function.comp_def,Int.natCast_succ,Int.ofNat_zero,Int.sub_zero,Int.sub_sub,Int.add_comm 1,map_reverse]

theorem between_stamped (hx : x ∈ (logs.between q lower upper).flatten) : Stamped x := by
  simp only [between,mem_flatten,mem_map,exists_exists_and_eq_and,mem_filter] at hx
  obtain ⟨i,-,hx,-⟩ := hx
  have hspec := (orderly_spec hz ho (logs.zone.resolve ((logs.dayOf lower + i) * Time.day))).2.2 x
  rw [dayOf_midnight hz] at hspec
  exact (hspec hx).2

omit ho in
theorem days_enough (start upper : Int) :
    (logs.dayOf upper - logs.dayOf start + 1).toNat ≤ daysBetween start upper := by
  rw [dayOf_fixed hz,dayOf_fixed hz,daysBetween]
  unfold Time.day Time.second
  omega

theorem loadAfterTime_eq (start : Int) (h0 : upper ≠ 0) (now : Int) (limit : Nat) :
    logs.loadAfterTime q now start upper limit = .ok ((collect fsMessageStoreMaxTries
      ((logs.between q start upper).map (filter fun x => ¬ logs.AtMidnight x.2)) 0 limit).map
        Prod.fst) := by
  simp only [loadAfterTime,getAfterTime,if_neg h0]
  rw [afterDays_eq hz _ ho (Int.self_le_toNat _) (days_enough hz start upper),afterPages_eq hz ho (Or.inl rfl),collect_map]
  rfl

theorem loadBeforeTime_eq (hlt : start < upper) (h0 : upper ≠ 0) (now : Int) (limit : Nat) :
    logs.loadBeforeTime q now upper start limit = .ok (((collect fsMessageStoreMaxTries
      ((logs.between q start upper).map reverse).reverse 0 limit).map Prod.fst).reverse.map
        some) := by
  have hle := dayOf_mono hz (le_of_lt hlt)
  have hpages : ((range (logs.dayOf upper - logs.dayOf start + 1).toNat).map fun i : Nat =>
      (logs.messagesOn q (logs.dayOf upper - i)).filter (Within start upper)) =
      (logs.between q start upper).reverse := by
    rw [between,← map_reverse]
    conv_rhs => rw [range_eq_range',reverse_range',map_map]
    refine map_congr_left fun i hi => ?_
    rw [mem_range] at hi
    have hday : logs.dayOf upper - i = logs.dayOf start +
        ((0 + (logs.dayOf upper - logs.dayOf start + 1).toNat - 1 - i : Nat)) := by omega
    simp [hday]
  have hneg : ¬ limit < 0 := by omega
  simp only [loadBeforeTime,getBeforeTime,if_neg h0]
  rw [beforeDays_eq hz _ ho (Int.self_le_toNat _) (days_enough hz start upper),beforePages_eq hz ho (Or.inl rfl),hpages,collect_map]
  simp

/-- A query ahead gives the first messages unless one of them is of midnight, and a query
back the last ones. Either gives up where days without messages block its way. -/
theorem loads_between_iff {start upper : Int} (hlt : start < upper) (h0 : upper ≠ 0) (now : Int) (limit : Nat) :
    (logs.loadAfterTime q now start upper limit = .ok (((logs.between q start upper).flatten.take limit).map Prod.fst) ↔
      (∀ x ∈ (logs.between q start upper).flatten.take limit, ¬ logs.AtMidnight x.2) ∧
        ¬ Paging.Blocked fsMessageStoreMaxTries (logs.between q start upper) limit) ∧
    (logs.loadBeforeTime q now upper start limit =
        .ok (((logs.between q start upper).flatten.rtake limit).map fun x => some x.1) ↔
      ¬ Paging.Blocked fsMessageStoreMaxTries ((logs.between q start upper).map List.reverse).reverse
        limit) := by
  generalize hpages : logs.between q start upper = pages
  have hstamped : ∀ x ∈ pages.flatten, Stamped x := hpages ▸ fun x hx => between_stamped hz ho hx
  constructor
  · rw [loadAfterTime_eq hz ho start h0,hpages,← collect_eq_iff,Except.ok.injEq]
    constructor
    · intro h
      have hday : ∀ x ∈ pages.flatten.take limit, ¬ logs.AtMidnight x.2 := by
        intro x hx
        obtain ⟨y,hy,hxy⟩ := mem_map.mp (h ▸ mem_map_of_mem hx)
        have hkept := mem_of_mem_take ((Paging.collect_prefix _ _ _ _).subset hy)
        rw [← filter_flatten,mem_filter] at hkept
        have htime := (hstamped y hkept.1).time_eq (hstamped x (mem_of_mem_take hx)) hxy
        rw [← htime]
        simpa using hkept.2
      rw [collect_filter _ _ _ (by simpa using hday)] at h
      refine ⟨hday,(Paging.collect_prefix _ _ _ _).eq_of_length ?_⟩
      simpa only [length_map] using congrArg List.length h
    · rintro ⟨hday,h⟩
      rw [collect_filter _ _ _ (by simpa using hday),h]
  · rw [loadBeforeTime_eq hz ho hlt h0,hpages,← collect_eq_iff,Except.ok.injEq,
      ← reverse_flatten,rtake_eq_reverse_take_reverse]
    constructor
    · intro h
      refine List.IsPrefix.eq_of_length ?_ (by
        simpa only [length_map,length_reverse] using congrArg List.length h)
      rw [reverse_flatten]
      exact Paging.collect_prefix _ _ _ _
    · intro h
      rw [h]
      simp [Function.comp_def]

end Between

section Constant

/-- Logs where the same line stands in the file of every day. -/
def everyDay (line : String) : Logs where
  unicode := .ascii
  zone := .fixed 0
  root := "logs/alice"
  user := ZncLog.alice
  read _ := some (line ++ "\n").toList

def inChannel : Query := ⟨ZncLog.libera,"#sake",false⟩

/-- A line of the log of a channel. -/
structure Reads (line : String) (hour minute sec : Int) (said : Parsed) : Prop where
  alone : scan (line ++ "\n").toList = ⟨[line],false⟩
  clock : scanTimestamp .ascii line.toList = some (hour,minute,sec)
  whole : ¬ byteLen line.toList < timestampPrefixLen
  body : unmarshalBody ZncLog.alice ZncLog.libera "#sake" false
    (dropBytes timestampPrefixLen line.toList) = some said
  inDay : 0 ≤ hour * 3600 + minute * 60 + sec ∧ hour * 3600 + minute * 60 + sec < 86400

/-- What the line says, in the file of a day. -/
def saidOn (hour minute sec : Int) (said : Parsed) (d : Int) : Message × Int :=
  let t := d * Time.day + (hour * 3600 + minute * 60 + sec) * Time.second
  (⟨[("time",Time.formatServerTime t)],some said.2.1,said.1,said.2.2⟩,t)

theorem everyDay_dayLog (h : Reads line hour minute sec said) (ref : Int) : (everyDay line).dayLog inChannel ref =
      some [saidOn hour minute sec said ((everyDay line).dayOf ref)] := by
  have hdate : Time.date (everyDay line).zone (Time.dateOf (everyDay line).zone ref) hour minute sec 0 =
      (everyDay line).dayOf ref * Time.day + (hour * 3600 + minute * 60 + sec) * Time.second := by
    simp [Time.date,Time.dateOf,dayOf,everyDay,Time.Zone.fixed]
  have hline : (everyDay line).parseMessage inChannel ref line =
      .ok (some (saidOn hour minute sec said ((everyDay line).dayOf ref))) := by
    rw [saidOn,← hdate]
    simp [parseMessage,unmarshalLine,everyDay,inChannel,h.clock,if_neg h.whole,h.body]
  have hfile : (everyDay line).file inChannel ref = some (line ++ "\n").toList := rfl
  simp only [dayLog,hfile,h.alone,parseLines,hline]
  rfl

theorem everyDay_orderly (h : Reads line hour minute sec said) : (everyDay line).Orderly inChannel := by
  intro ref
  refine ⟨_,everyDay_dayLog h ref,pairwise_singleton _ _,?_⟩
  intro x hx
  rw [mem_singleton.mp hx,saidOn,dayOf_fixed rfl]
  have := h.inDay
  unfold Time.day Time.second
  omega

theorem everyDay_messagesOn (h : Reads line hour minute sec said) (d : Int) :
    (everyDay line).messagesOn inChannel d = [saidOn hour minute sec said d] := by
  simp [messagesOn,everyDay_dayLog h,dayOf_midnight (show (everyDay line).zone = .fixed 0 from rfl)]

def hi : Parsed := ("PRIVMSG",nickOnly "bob",["#sake","hi"])

theorem reads_noon : Reads "[12:00:00] <bob> hi" 12 0 0 hi where
  alone := rfl
  clock := rfl
  whole := by decide
  body := rfl
  inDay := by decide

theorem reads_midnight : Reads "[00:00:00] <bob> hi" 0 0 0 hi where
  alone := rfl
  clock := rfl
  whole := by decide
  body := rfl
  inDay := by decide

end Constant

theorem everyDay_between (h : Reads line hour minute sec said) :
    (everyDay line).between inChannel Time.day (2 * Time.day + 1) =
      [[saidOn hour minute sec said 1].filter fun x => Within Time.day (2 * Time.day + 1) x,
        [saidOn hour minute sec said 2].filter fun x => Within Time.day (2 * Time.day + 1) x] := by
  have h1 : (everyDay line).dayOf Time.day = 1 := rfl
  have h2 : (everyDay line).dayOf (2 * Time.day + 1) = 2 := rfl
  simp only [between,everyDay_messagesOn h]
  rfl

theorem noon_texts_loaded : (everyDay "[12:00:00] <bob> hi").loadAfterTime inChannel 0 Time.day (2 * Time.day + 1) 5 =
        .ok [(saidOn 12 0 0 hi 1).1] ∧
      (everyDay "[12:00:00] <bob> hi").loadBeforeTime inChannel 0 (2 * Time.day + 1) Time.day 5 =
        .ok [some (saidOn 12 0 0 hi 1).1] := by
  have hpages : (everyDay "[12:00:00] <bob> hi").between inChannel Time.day (2 * Time.day + 1) =
      [[saidOn 12 0 0 hi 1],[]] := everyDay_between reads_noon
  obtain ⟨hafter,hbefore⟩ := loads_between_iff rfl (everyDay_orderly reads_noon) (show Time.day < 2 * Time.day + 1 by decide)
    (by decide) 0 5
  have hfew : ∀ pages : List (List (Message × Int)), pages.length = 2 →
      ¬ Paging.Blocked fsMessageStoreMaxTries pages 5 := by
    rintro pages hlen ⟨pre,post,rfl,-,-⟩
    simp [fsMessageStoreMaxTries] at hlen
    omega
  refine ⟨hafter.mpr ⟨?_,hfew _ rfl⟩,hbefore.mpr (hfew _ rfl)⟩
  intro x hx
  rw [mem_singleton.mp hx]
  decide

/-- Every day begins with a text, and the query does not give the second day's. -/
theorem midnight_text_missed : (everyDay "[00:00:00] <bob> hi").Orderly inChannel ∧
      (everyDay "[00:00:00] <bob> hi").between inChannel Time.day (2 * Time.day + 1) = [[],[saidOn 0 0 0 hi 2]] ∧
      (everyDay "[00:00:00] <bob> hi").loadAfterTime inChannel 0 Time.day (2 * Time.day + 1) 5 = .ok [] := by
  have hpages : (everyDay "[00:00:00] <bob> hi").between inChannel Time.day (2 * Time.day + 1) =
      [[],[saidOn 0 0 0 hi 2]] := everyDay_between reads_midnight
  refine ⟨everyDay_orderly reads_midnight,hpages,?_⟩
  have hload := loadAfterTime_eq rfl
    (everyDay_orderly reads_midnight) Time.day (show 2 * Time.day + 1 ≠ 0 by decide) 0 5
  exact hload

end Sake.Proofs.FsReader
