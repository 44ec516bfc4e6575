import Mathlib.Data.List.Induction
import Sake.Pending

namespace Sake.Proofs.Pending
open Sake.Pending Sake.Lib.Runs List

variable {uc : Conn} {msg : Message}

/-- What was handed to the connection, by enqueued command. -/
def sentSerials (uc : Conn) : List Nat := uc.sent.map Prod.fst

def serials (uc : Conn) (cmd : String) : List Nat := (uc.pendingCmds cmd).map Command.serial

/-- A queue without repetitions, in the order of the enqueue calls, of which the
first entry was sent once and no other entry was sent. -/
structure Sound (uc : Conn) (cmd : String) : Prop where
  nodup : (serials uc cmd).Nodup
  ordered : (serials uc cmd).Pairwise (· < ·)
  first : ∀ n ∈ (serials uc cmd).head?, (sentSerials uc).count n = 1
  waiting : ∀ n ∈ (serials uc cmd).tail, n ∉ sentSerials uc

/-- The command enqueued next does not find a first entry that timed out. -/
def Punctual (uc : Conn) : Action → Prop
  | .enqueue _ _ msg => ∀ c ∈ (uc.pendingCmds msg.command).head?, expired uc.now c = false
  | _ => True

/-- Bookkeeping that every operation keeps, whatever the clock says. -/
structure Base (uc : Conn) : Prop where
  ordered : ∀ cmd, (serials uc cmd).Pairwise (· < ·)
  bound : ∀ cmd, ∀ n ∈ serials uc cmd, n < uc.nextSerial
  sentBound : ∀ n ∈ sentSerials uc, n < uc.nextSerial
  apart : ∀ cmd cmd' n, n ∈ serials uc cmd → n ∈ serials uc cmd' → cmd = cmd'
  known : ∀ cmd, serials uc cmd ≠ [] → supported cmd = true

/-- The first entry was sent once, the others were not sent. -/
def Heads (uc : Conn) (cmd : String) : Prop :=
  (∀ n ∈ (serials uc cmd).head?, (sentSerials uc).count n = 1) ∧ ∀ n ∈ (serials uc cmd).tail, n ∉ sentSerials uc

structure Invariant (uc : Conn) : Prop extends Base uc where
  heads : ∀ cmd, Heads uc cmd

theorem Invariant.sound (h : Invariant uc) (cmd : String) : Sound uc cmd where
  nodup := (h.ordered cmd).imp (Nat.ne_of_lt)
  ordered := h.ordered cmd
  first := (h.heads cmd).1
  waiting := (h.heads cmd).2

theorem start_invariant (lr mt : Bool) (now : Time) : Invariant (start lr mt now) := by
  refine ⟨⟨?_,?_,?_,?_,?_⟩,?_⟩
  all_goals simp [start,serials,sentSerials,Heads]

@[simp] theorem serials_setQueue (uc : Conn) (cmd c : String) (q : List Command) :
    serials (setQueue uc cmd q) c = if c = cmd then q.map Command.serial else serials uc c := by
  by_cases hc : c = cmd <;> simp [serials,setQueue,hc]

theorem Base.shrink (h : Base uc) (uc' : Conn)
    (hs : sentSerials uc' = sentSerials uc) (hn : uc'.nextSerial = uc.nextSerial)
    (hq : ∀ cmd, (serials uc' cmd).Sublist (serials uc cmd)) : Base uc' where
  ordered cmd := (h.ordered cmd).sublist (hq cmd)
  bound cmd n hm := hn ▸ h.bound cmd n ((hq cmd).subset hm)
  sentBound n hm := hn ▸ h.sentBound n (hs ▸ hm)
  apart cmd cmd' n hm hm' := h.apart cmd cmd' n ((hq cmd).subset hm) ((hq cmd').subset hm')
  known cmd hne := by
    refine h.known cmd ?_
    intro he
    have hsub := hq cmd
    rw [he] at hsub
    exact hne (sublist_nil.mp hsub)

/-- Sending touches no queue as far as identities are concerned, and adds exactly
the first entry to what was sent. -/
theorem sendNext_spec (uc : Conn) (cmd : String) : (∀ c, serials (sendNextPendingCommand uc cmd) c = serials uc c) ∧
      sentSerials (sendNextPendingCommand uc cmd) = sentSerials uc ++ (serials uc cmd).head?.toList ∧
      (sendNextPendingCommand uc cmd).nextSerial = uc.nextSerial := by
  unfold sendNextPendingCommand
  cases hq : uc.pendingCmds cmd with
  | nil => simp [serials,hq]
  | cons c rest =>
    refine ⟨?_,?_,rfl⟩
    · intro d
      change serials (setQueue uc cmd _) d = _
      rw [serials_setQueue]
      split
      · rename_i he
        simp [serials,he,hq]
      · rfl
    · simp [sentSerials,serials,hq]

/-- Sending the first entry of a queue of which nothing was sent gives it a sound
head, and no other queue notices. -/
theorem sendNext_invariant (cmd : String) (hb : Base uc) (hu : ∀ n ∈ serials uc cmd, n ∉ sentSerials uc)
    (ho : ∀ c, c ≠ cmd → Heads uc c) : Invariant (sendNextPendingCommand uc cmd) := by
  obtain ⟨hq,hs,hn⟩ := sendNext_spec uc cmd
  have hmem : ∀ n ∈ (serials uc cmd).head?.toList, n ∈ serials uc cmd := by
    intro n hm
    exact mem_of_mem_head? (Option.mem_toList.mp hm)
  refine ⟨⟨?_,?_,?_,?_,?_⟩,?_⟩
  · intro c
    rw [hq]
    exact hb.ordered c
  · intro c n hm
    rw [hq] at hm
    exact hn ▸ hb.bound c n hm
  · intro n hm
    rw [hs] at hm
    rw [hn]
    rcases mem_append.mp hm with hm | hm
    · exact hb.sentBound n hm
    · exact hb.bound cmd n (hmem n hm)
  · intro c c' n hm hm'
    rw [hq] at hm hm'
    exact hb.apart c c' n hm hm'
  · intro c hne
    rw [hq] at hne
    exact hb.known c hne
  · intro c
    unfold Heads
    rw [hq,hs]
    by_cases hc : c = cmd
    · subst c
      refine ⟨?_,?_⟩
      · intro n hm
        have hzero := count_eq_zero.mpr (hu n (mem_of_mem_head? hm))
        have he : (serials uc cmd).head? = some n := hm
        simp [hzero,he]
      · intro n hm hin
        rcases mem_append.mp hin with hin | hin
        · exact hu n (mem_of_mem_tail hm) hin
        cases hl : serials uc cmd with
        | nil => simp [hl] at hm
        | cons m rest =>
          have hord := hb.ordered cmd
          rw [hl] at hord hin hm
          simp only [List.head?_cons,Option.toList_some,mem_singleton] at hin
          have := (pairwise_cons.mp hord).1 n hm
          omega
    · have hfresh : ∀ n ∈ serials uc c, n ∉ (serials uc cmd).head?.toList := by
        intro n hm hin
        exact hc (hb.apart c cmd n hm (hmem n hin))
      refine ⟨?_,?_⟩
      · intro n hm
        have hzero := count_eq_zero.mpr (hfresh n (mem_of_mem_head? hm))
        simp only [count_append,hzero]
        exact (ho c hc).1 n hm
      · intro n hm hin
        rcases mem_append.mp hin with hin | hin
        · exact (ho c hc).2 n hm hin
        · exact hfresh n (mem_of_mem_tail hm) hin

theorem dequeued_tail : (copy q (q.drop 1)).take (q.length - 1) = q.tail := by
  cases q with
  | nil => rfl
  | cons c rest =>
    have hl : rest.take (rest.length + 1) = rest := take_of_length_le (Nat.le_succ _)
    simp [copy,hl]

theorem dequeue_eq : dequeueCommand uc cmd =
      sendNextPendingCommand (setQueue uc cmd (uc.pendingCmds cmd).tail) cmd := by
  simp only [dequeueCommand,dequeued_tail]
  split
  · rfl
  have he : uc.pendingCmds cmd = [] := length_eq_zero_iff.mp (by omega)
  have hq : uc.pendingCmds = fun c => if c = cmd then [] else uc.pendingCmds c := by
    funext c
    by_cases hc : c = cmd <;> simp [hc,he]
  rw [he,setQueue,tail_nil,← hq]

theorem dequeue_invariant (cmd : String) (h : Invariant uc) : Invariant (dequeueCommand uc cmd) := by
  rw [dequeue_eq]
  have htail : serials (setQueue uc cmd (uc.pendingCmds cmd).tail) cmd = (serials uc cmd).tail := by
    rw [serials_setQueue,if_pos rfl,map_tail]
    rfl
  have hother : ∀ c, c ≠ cmd → serials (setQueue uc cmd (uc.pendingCmds cmd).tail) c = serials uc c := by
    intro c hc
    simp [hc]
  apply sendNext_invariant cmd
  · refine h.toBase.shrink (setQueue uc cmd _) rfl rfl ?_
    intro c
    by_cases hc : c = cmd
    · subst c
      rw [htail]
      exact tail_sublist _
    · rw [hother c hc]
  · intro n hm
    rw [htail] at hm
    exact (h.heads cmd).2 n hm
  · intro c hc
    unfold Heads
    rw [hother c hc]
    exact h.heads c

/-- The loop erases from the back, so every index it visits is still valid. -/
theorem cancelDown_eq (id : Nat) (c : Command) (front back : List Command) :
    cancelDown id front.length (c :: (front ++ back)) =
      c :: (front.filter (fun d => d.downstreamID != id) ++ back) := by
  induction front using List.reverseRecOn generalizing back with
  | nil => rfl
  | append_singleton front d ih =>
    have hget : (c :: (front ++ [d] ++ back))[front.length + 1]? = some d := by simp
    have herase : (c :: (front ++ [d] ++ back)).eraseIdx (front.length + 1) = c :: (front ++ back) := by
      simp [eraseIdx_append_of_length_le]
    rw [length_append,length_singleton]
    simp only [cancelDown,hget,Option.any_some]
    by_cases hd : d.downstreamID = id
    · simp only [hd,beq_self_eq_true,↓reduceIte,herase,ih]
      simp [hd]
    · have hb : (d.downstreamID == id) = false := by simpa using hd
      simp only [hb,Bool.false_eq_true,↓reduceIte]
      rw [append_assoc,ih]
      simp [hd]

theorem cancel_queue (uc : Conn) (id : Nat) (cmd : String) :
    ((cancelPendingCommandsByDownstreamID uc id).pendingCmds cmd).head? = (uc.pendingCmds cmd).head? ∧
      ((cancelPendingCommandsByDownstreamID uc id).pendingCmds cmd).tail.Sublist
        (uc.pendingCmds cmd).tail := by
  change (cancelDown id _ (uc.pendingCmds cmd)).head? = _ ∧ (cancelDown id _ (uc.pendingCmds cmd)).tail.Sublist _
  cases hq : uc.pendingCmds cmd with
  | nil => simp [cancelDown]
  | cons c rest =>
    have he := cancelDown_eq id c rest []
    simp only [append_nil] at he
    simp only [length_cons,Nat.add_sub_cancel,he,List.head?_cons,true_and]
    exact filter_sublist

theorem cancel_invariant (id : Nat) (h : Invariant uc) : Invariant (cancelPendingCommandsByDownstreamID uc id) := by
  have hhead : ∀ cmd, (serials (cancelPendingCommandsByDownstreamID uc id) cmd).head? = (serials uc cmd).head? := by
    intro cmd
    simp [serials,(cancel_queue uc id cmd).1]
  have htail : ∀ cmd, (serials (cancelPendingCommandsByDownstreamID uc id) cmd).tail.Sublist (serials uc cmd).tail := by
    intro cmd
    simp only [serials,← map_tail]
    exact (cancel_queue uc id cmd).2.map _
  refine ⟨h.toBase.shrink _ rfl rfl ?_,?_⟩
  · intro cmd
    have hh := hhead cmd
    have ht := htail cmd
    cases hs : serials (cancelPendingCommandsByDownstreamID uc id) cmd with
    | nil => exact nil_sublist _
    | cons n rest =>
      cases hs' : serials uc cmd with
      | nil => simp [hs,hs'] at hh
      | cons m rest' =>
        simp only [hs,hs',List.head?_cons,Option.some.injEq] at hh ht
        exact hh ▸ ht.cons_cons n
  · intro cmd
    refine ⟨?_,?_⟩
    · rw [hhead]
      exact (h.heads cmd).1
    · intro n hm
      exact (h.heads cmd).2 n ((htail cmd).subset hm)

/-- The entry just enqueued was never sent, so it does not count as timed out. -/
theorem timedOut_append (now : Time) (q : List Command) (c : Command) (hc : c.sentAt = none) :
    timedOut now (q ++ [c]) = timedOut now q := by
  induction q with
  | nil => simp [timedOut,expired,hc]
  | cons d rest ih =>
    rw [cons_append]
    simp [timedOut,ih]

theorem timedOut_zero_iff (now : Time) (q : List Command) :
    timedOut now q = 0 ↔ ∀ c ∈ q.head?, expired now c = false := by
  cases q with
  | nil => simp [timedOut]
  | cons c rest => by_cases he : expired now c <;> simp [timedOut]

theorem timedOut_le (now : Time) (q : List Command) : timedOut now q ≤ q.length := by
  induction q with
  | nil => simp [timedOut]
  | cons c rest ih =>
    simp only [timedOut,length_cons]
    split <;> omega

theorem serials_pushed : serials (pushed uc cmd q) c = if c = cmd then q.map Command.serial else serials uc c :=
  serials_setQueue uc cmd c q

theorem enqueue_eq (hsup : supported msg.command = true) : enqueueCommand uc dcID label msg =
      let q := dropTimedOut uc.now (uc.pendingCmds msg.command ++ [newCommand uc dcID label msg])
      some (if q.length = 1 then sendNextPendingCommand (pushed uc msg.command q) msg.command
        else pushed uc msg.command q) := by
  simp [enqueueCommand,hsup]

section Push
/-- The connection with the new command at the back of its queue. -/
def enqueued (uc : Conn) (dcID : Nat) (label : String) (msg : Message) : Conn :=
  pushed uc msg.command (uc.pendingCmds msg.command ++ [newCommand uc dcID label msg])

theorem serials_enqueued : serials (enqueued uc dcID label msg) msg.command =
    serials uc msg.command ++ [uc.nextSerial] := by
  rw [enqueued,serials_pushed,if_pos rfl,map_append]
  rfl

theorem serials_enqueued_ne (hd : d ≠ msg.command) : serials (enqueued uc dcID label msg) d = serials uc d := by
  simp [enqueued,serials_pushed,hd]

theorem mem_serials_enqueued (hm : n ∈ serials (enqueued uc dcID label msg) d) :
    n ∈ serials uc d ∨ d = msg.command ∧ n = uc.nextSerial := by
  by_cases hd : d = msg.command
  · subst d
    rw [serials_enqueued,mem_append,mem_singleton] at hm
    exact hm.imp_right (fun hn => ⟨rfl,hn⟩)
  · exact Or.inl (serials_enqueued_ne hd ▸ hm)

theorem Base.fresh (h : Base uc) : uc.nextSerial ∉ sentSerials uc := by
  intro hm
  exact Nat.lt_irrefl _ (h.sentBound _ hm)

theorem Base.enqueued (h : Base uc) (hsup : supported msg.command = true) : Base (enqueued uc dcID label msg) := by
  refine ⟨?_,?_,?_,?_,?_⟩
  · intro d
    by_cases hd : d = msg.command
    · subst d
      rw [serials_enqueued]
      apply pairwise_append.mpr
      refine ⟨h.ordered _,by simp,?_⟩
      intro n hn m hm
      rw [mem_singleton.mp hm]
      exact h.bound _ n hn
    · rw [serials_enqueued_ne hd]
      exact h.ordered d
  · intro d n hm
    change n < uc.nextSerial + 1
    rcases mem_serials_enqueued hm with hm | ⟨_,rfl⟩
    · exact Nat.lt_succ_of_lt (h.bound d n hm)
    · exact Nat.lt_succ_self _
  · intro n hm
    exact Nat.lt_succ_of_lt (h.sentBound n hm)
  · intro d d' n hm hm'
    rcases mem_serials_enqueued hm with hm | ⟨hd,hn⟩ <;>
      rcases mem_serials_enqueued hm' with hm' | ⟨hd',hn'⟩
    · exact h.apart d d' n hm hm'
    · have := h.bound d n hm
      omega
    · have := h.bound d' n hm'
      omega
    · exact hd.trans hd'.symm
  · intro d hne
    by_cases hd : d = msg.command
    · exact hd ▸ hsup
    · exact h.known d (serials_enqueued_ne hd ▸ hne)

theorem heads_enqueued_ne (hd : d ≠ msg.command) (h : Heads uc d) : Heads (enqueued uc dcID label msg) d := by
  unfold Heads
  rw [serials_enqueued_ne hd]
  exact h

theorem heads_enqueued (hb : Base uc) (h : Heads uc msg.command)
    (hne : serials uc msg.command ≠ []) : Heads (enqueued uc dcID label msg) msg.command := by
  unfold Heads
  rw [serials_enqueued]
  obtain ⟨hfirst,hwait⟩ := h
  cases hq : serials uc msg.command with
  | nil => exact absurd hq hne
  | cons m rest =>
    rw [hq] at hfirst hwait
    refine ⟨hfirst,?_⟩
    intro n hm
    simp only [cons_append,tail_cons,mem_append,mem_singleton] at hm
    rcases hm with hm | rfl
    · exact hwait n hm
    · exact hb.fresh

/-- Without a timeout the new entry goes to the back, and is sent at once when it
is alone. -/
theorem enqueue_eq_of_punctual (hp : Punctual uc (.enqueue dcID label msg)) (hsup : supported msg.command = true) :
    enqueueCommand uc dcID label msg = some (if uc.pendingCmds msg.command = [] then
        sendNextPendingCommand (enqueued uc dcID label msg) msg.command
        else enqueued uc dcID label msg) := by
  have hzero : timedOut uc.now (uc.pendingCmds msg.command ++ [newCommand uc dcID label msg]) = 0 := by
    rw [timedOut_append _ _ _ rfl]
    exact (timedOut_zero_iff _ _).mpr hp
  have hkeep : dropTimedOut uc.now (uc.pendingCmds msg.command ++ [newCommand uc dcID label msg]) =
        uc.pendingCmds msg.command ++ [newCommand uc dcID label msg] := by
    simp [dropTimedOut,hzero]
  rw [enqueue_eq hsup,hkeep]
  simp [enqueued]

theorem enqueue_invariant (h : Invariant uc) (hp : Punctual uc (.enqueue dcID label msg))
    (he : enqueueCommand uc dcID label msg = some uc') : Invariant uc' := by
  have hsup : supported msg.command = true := by
    by_contra hn
    simp [enqueueCommand,hn] at he
  have hbase : Base (enqueued uc dcID label msg) := h.toBase.enqueued hsup
  rw [enqueue_eq_of_punctual hp hsup] at he
  cases he
  split
  · -- the queue was empty: nothing of it was sent yet
    rename_i hnil
    apply sendNext_invariant _ hbase
    · intro n hm
      rw [serials_enqueued,serials,hnil,map_nil,nil_append,mem_singleton] at hm
      exact hm ▸ h.toBase.fresh
    · intro d hd
      exact heads_enqueued_ne hd (h.heads d)
  · rename_i hne
    refine ⟨hbase,?_⟩
    intro d
    by_cases hd : d = msg.command
    · subst d
      refine heads_enqueued h.toBase (h.heads _) ?_
      intro hnil
      exact hne (map_eq_nil_iff.mp hnil)
    · exact heads_enqueued_ne hd (h.heads d)

end Push

theorem step_invariant (uc : Conn) (a : Action) (uc' : Conn) (h : Invariant uc)
    (hp : Punctual uc a) (hs : step uc a = some uc') : Invariant uc' := by
  cases a with
  | elapse d | caps lr mt =>
    cases hs
    exact ⟨h.toBase.shrink _ rfl rfl (fun _ => List.Sublist.refl _),h.heads⟩
  | enqueue dcID label msg => exact enqueue_invariant h hp hs
  | dequeue cmd =>
    cases hs
    exact dequeue_invariant cmd h
  | cancel id =>
    cases hs
    exact cancel_invariant id h

/-- Shifting a slice by `n` without shortening it leaves its last entry in twice. -/
theorem copy_repeats (q : List Command) (c : Command) (n : Nat) (hn : 0 < n) (hl : n ≤ q.length) :
    ¬ ((copy (q ++ [c]) ((q ++ [c]).drop n)).map Command.serial).Nodup := by
  intro hd
  have hfront : c ∈ ((q ++ [c]).drop n).take (q ++ [c]).length := by
    rw [take_of_length_le (by simp),drop_append_of_le_length hl]
    simp
  have hback : c ∈ (q ++ [c]).drop ((q ++ [c]).drop n).length := by
    rw [drop_append_of_le_length (by simp; omega)]
    simp
  rw [copy,map_append] at hd
  exact (nodup_append.mp hd).2.2 _ (mem_map.mpr ⟨c,hfront,rfl⟩) _
    (mem_map.mpr ⟨c,hback,rfl⟩) rfl

/-- A timeout always spoils the queue: the entries are moved, but none is dropped. -/
theorem late_step (uc : Conn) (a : Action) (h : Invariant uc) (hl : ¬ Punctual uc a) :
    ∃ uc', step uc a = some uc' ∧ ¬ ∀ cmd, Sound uc' cmd := by
  cases a with
  | enqueue dcID label msg =>
    let c := newCommand uc dcID label msg
    let q := uc.pendingCmds msg.command
    have hn : 0 < timedOut uc.now q := Nat.pos_of_ne_zero fun h0 => hl ((timedOut_zero_iff _ _).mp h0)
    have hle := timedOut_le uc.now q
    have hsup : supported msg.command = true := by
      apply h.known
      intro hq
      have : q.length = 0 := by simpa [serials] using congrArg List.length hq
      omega
    have hdrop : dropTimedOut uc.now (q ++ [c]) = copy (q ++ [c]) ((q ++ [c]).drop (timedOut uc.now q)) := by
      have happ : timedOut uc.now (q ++ [c]) = timedOut uc.now q := timedOut_append _ _ _ rfl
      simp [dropTimedOut,happ,hn]
    have hlen : (dropTimedOut uc.now (q ++ [c])).length ≠ 1 := by
      rw [hdrop]
      simp only [copy,length_append,length_take,length_drop,length_singleton]
      omega
    refine ⟨pushed uc msg.command (dropTimedOut uc.now (q ++ [c])),?_,?_⟩
    · exact (enqueue_eq hsup).trans (congrArg some (if_neg hlen))
    intro hs
    have hd := (hs msg.command).nodup
    rw [serials_pushed,if_pos rfl,hdrop] at hd
    exact copy_repeats q c _ hn hle hd
  | elapse d | dequeue cmd | cancel id | caps lr mt => exact absurd trivial hl

/-- Every queue stays sound along a run exactly when no command is enqueued behind
a first entry that went unanswered for more than 30 seconds. -/
theorem queues_sound_iff_punctual (lr mt : Bool) (now : Time) (as : List Action) :
    AllStates step (fun uc => ∀ cmd, Sound uc cmd) (start lr mt now) as ↔ AllSteps step Punctual (start lr mt now) as :=
  allStates_iff_allSteps (start_invariant lr mt now) (fun _ h => h.sound) step_invariant late_step

def whoCommand (mask : String) : Message := ⟨[],none,"WHO",[mask]⟩

/-- A `WHO` stays unanswered for 31 seconds before the next one arrives: the new
command is queued twice, and will not be sent until a reply comes in. -/
theorem unanswered_who_repeats : ¬ AllStates step (fun uc => ∀ cmd, Sound uc cmd) (start true true 0)
      [.enqueue 1 "" (whoCommand "#a"),.elapse (31 * second),.enqueue 1 "" (whoCommand "#b")] := by
  intro h
  have hlast := (h.2 _ rfl).2 _ rfl
  have hs := (hlast.2 _ rfl) "WHO"
  exact absurd hs.nodup (by decide)

end Sake.Proofs.Pending
