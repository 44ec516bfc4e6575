import Sake.UserRun

namespace Sake.Proofs.UserRun
open Sake.UserRun Sake.Lib.Runs List Option Exchange

variable {s t : Exchange} {lines got : List String} {err : Option String} {msg : UserRunMsg} {a : Action}

def Stopped (s : Exchange) : Prop := ∀ lines, s.requester ≠ .waiting lines

theorem send_spec (h : send s = some t) : t.requester = s.requester ∧ t.unread = s.unread ∧ s.ch = none ∧
      s.todo.length = t.todo.length + 1 := by
  unfold send at h
  split at h
  · rename_i htodo hch
    cases h
    simp [unread,htodo,hch]
  · cases h

theorem receive_spec (h : receive s = some t) : ∃ lines msg, s.requester = .waiting lines ∧
    s.unread = msg :: t.unread ∧ t.todo = s.todo ∧ s.ch = some msg ∧ t.ch = none ∧
    t.requester =
      if msg.message ≠ "" then .waiting (lines ++ [msg.message]) else .returned lines msg.err := by
  unfold receive at h
  split at h
  · rename_i lines msg hreq hch
    cases h
    exact ⟨lines,msg,hreq,by simp [unread,hch],rfl,hch,rfl,rfl⟩
  · cases h

theorem giveUp_spec (h : giveUp s = some t) :
    ∃ lines, s.requester = .waiting lines ∧ t = { s with requester := .timedOut lines } := by
  unfold giveUp at h
  split at h
  · rename_i lines hreq
    cases h
    exact ⟨lines,hreq,rfl⟩
  · cases h

/-- At rest the channel is full, or the target is through. -/
theorem atRest_handled (hr : s.AtRest) : s.handled ↔ s.unread.length ≤ 1 := by
  obtain ⟨hsend,-⟩ := hr
  obtain ⟨todo,ch,requester⟩ := s
  cases todo with
  | nil => cases ch <;> simp [handled,unread]
  | cons msg todo =>
    cases ch with
    | none => simp [send] at hsend
    | some first => simp [handled,unread]

/-- A requester that still waits at rest has taken everything. -/
theorem atRest_all_read (hr : s.AtRest) (hw : s.requester = .waiting lines) : s.unread = [] := by
  obtain ⟨hsend,hreceive⟩ := hr
  obtain ⟨todo,ch,requester⟩ := s
  subst hw
  cases ch with
  | some msg => simp [receive] at hreceive
  | none =>
    cases todo with
    | nil => rfl
    | cons msg todo => simp [send] at hsend

/-- Once nobody reads, the target only gets rid of what the channel holds. -/
theorem stopped_run (hs : Stopped s) (hr : run step s as = some t) :
    t.requester = s.requester ∧ t.unread = s.unread ∧ .giveUp ∉ as := by
  induction as generalizing s with
  | nil =>
    cases hr
    exact ⟨rfl,rfl,not_mem_nil⟩
  | cons a as ih =>
    obtain ⟨u,hu,hrest⟩ := bind_eq_some_iff.mp hr
    cases a with
    | send =>
      obtain ⟨hreq,hunread,-⟩ := send_spec hu
      have hsu : Stopped u := fun lines => hreq ▸ hs lines
      obtain ⟨htreq,htunread,hno⟩ := ih hsu hrest
      exact ⟨htreq.trans hreq,htunread.trans hunread,by simpa using hno⟩
    | receive =>
      obtain ⟨lines,msg,hreq,-⟩ := receive_spec hu
      exact absurd hreq (hs lines)
    | giveUp =>
      obtain ⟨lines,hreq,-⟩ := giveUp_spec hu
      exact absurd hreq (hs lines)

/-- The requester has taken the first lines, none of them empty, and waits for more. -/
structure Reading (lines : List String) (err : Option String) (s : Exchange) (got : List String) :
    Prop where
  waiting : s.requester = .waiting got
  nonempty : "" ∉ got
  unread : got.map printed ++ s.unread = replies lines err

/-- What is expected of a command that has come to rest. -/
def Delivered (lines : List String) (err : Option String) (as : List Action) (t : Exchange) : Prop :=
  t.handled ∧ (.giveUp ∉ as → t.requester = .returned lines err)

/-- The requester gives up with at most one reply unread. -/
def Patient (s : Exchange) : Action → Prop
  | .giveUp => s.unread.length ≤ 1
  | _ => True

theorem allSteps_patient (hno : .giveUp ∉ as) : AllSteps step Patient s as := by
  induction as generalizing s with
  | nil => trivial
  | cons a as ih =>
    have has : .giveUp ∉ as := fun hm => hno (mem_cons_of_mem _ hm)
    refine ⟨?_,fun t _ => ih has⟩
    cases a with
    | send => trivial
    | receive => trivial
    | giveUp => exact absurd mem_cons_self hno

theorem allSteps_cons (hs : step s a = some t) :
    AllSteps step Patient s (a :: as) ↔ Patient s a ∧ AllSteps step Patient t as := by
  constructor
  · intro h
    exact ⟨h.1,h.2 t hs⟩
  · intro h
    exact .cons_some h.1 hs h.2

/-- A message that comes after `got` is the next line or the last reply. -/
theorem next_reply (h : got.map printed ++ msg :: rest = replies lines err) :
    (∃ line later, lines = got ++ line :: later ∧ msg = printed line) ∨
      (lines = got ∧ msg = ⟨"",err⟩ ∧ rest = []) := by
  induction got generalizing lines with
  | nil =>
    cases lines with
    | nil =>
      obtain ⟨hm,hr⟩ := List.cons.inj h
      exact .inr ⟨rfl,hm,hr⟩
    | cons line lines => exact .inl ⟨line,lines,rfl,(List.cons.inj h).1⟩
  | cons first got ih =>
    cases lines with
    | nil =>
      have hlen := congrArg List.length h
      simp [replies] at hlen
    | cons line lines =>
      obtain ⟨hfirst,hrest⟩ := List.cons.inj h
      obtain rfl : first = line := congrArg UserRunMsg.message hfirst
      rcases ih hrest with ⟨l,later,rfl,hm⟩ | ⟨rfl,hm,hr⟩
      · exact .inl ⟨l,later,rfl,hm⟩
      · exact .inr ⟨rfl,hm,hr⟩

/-- A reply without text ends the wait: rightly so if it is the last one. -/
theorem ended_delivered (hgot : "" ∉ got) (hnext : got.map printed ++ msg :: s.unread = replies lines err)
    (hm : msg.message = "") (hreq : s.requester = .returned got msg.err) (hr : run step s as = some t)
    (hrest : t.AtRest) : .giveUp ∉ as ∧ (t.handled ∧ t.requester = .returned lines err ↔ "" ∉ lines) := by
  have hstop : Stopped s := by
    intro l he
    rw [hreq] at he
    cases he
  obtain ⟨htreq,htunread,hno⟩ := stopped_run hstop hr
  refine ⟨hno,?_⟩
  rcases next_reply hnext with ⟨line,later,rfl,rfl⟩ | ⟨rfl,rfl,hlast⟩
  · have hempty : "" ∈ got ++ line :: later := by
      rw [← hm]
      simp [printed]
    constructor
    · intro hd
      have hret := (htreq.trans hreq).symm.trans hd.2
      have hlen := congrArg List.length (Requester.returned.inj hret).1
      simp at hlen
    · intro hc
      exact absurd hempty hc
  · have hdone : t.handled := by
      rw [atRest_handled hrest,htunread,hlast]
      exact Nat.zero_le 1
    constructor
    · intro _
      exact hgot
    · intro _
      exact ⟨hdone,htreq.trans hreq⟩

theorem Reading.next (hgot : "" ∉ got) (hnext : got.map printed ++ msg :: s.unread = replies lines err)
    (hm : msg.message ≠ "") (hreq : s.requester = .waiting (got ++ [msg.message])) :
    Reading lines err s (got ++ [msg.message]) := by
  have hline : msg = printed msg.message := by
    rcases next_reply hnext with ⟨line,later,-,rfl⟩ | ⟨-,rfl,-⟩
    · rfl
    · exact absurd rfl hm
  refine ⟨hreq,?_,?_⟩
  · simp [hgot,Ne.symm hm]
  · rw [map_append,← hnext]
    simp [← hline]

theorem reading_delivered : ∀ {as : List Action} {s : Exchange} {got : List String}, Reading lines err s got →
      run step s as = some t → t.AtRest →
      (Delivered lines err as t ↔ (.giveUp ∉ as → "" ∉ lines) ∧ AllSteps step Patient s as) := by
  intro as
  induction as with
  | nil =>
    intro s got hread hr hrest
    cases hr
    have hnone := hread.unread
    rw [atRest_all_read hrest hread.waiting,append_nil] at hnone
    -- the last reply, which has no text, would be among the lines read
    have hmem : (⟨"",err⟩) ∈ got.map printed := by simp [hnone,replies]
    obtain ⟨line,hline,he⟩ := mem_map.mp hmem
    obtain rfl : line = "" := congrArg UserRunMsg.message he
    exact absurd hline hread.nonempty
  | cons a as ih =>
    intro s got hread hr hrest
    obtain ⟨u,hu,hru⟩ := bind_eq_some_iff.mp hr
    rw [allSteps_cons hu]
    cases a with
    | send =>
      obtain ⟨hreq,hunread,-⟩ := send_spec hu
      have hread' : Reading lines err u got := ⟨hreq.trans hread.waiting,hread.nonempty,hunread ▸ hread.unread⟩
      simpa [Delivered,Patient] using ih hread' hru hrest
    | receive =>
      obtain ⟨got',msg,hwait,hunread,-,-,-,hreq⟩ := receive_spec hu
      obtain rfl : got = got' := by
        rw [hread.waiting] at hwait
        exact Requester.waiting.inj hwait
      have hnext := hread.unread
      rw [hunread] at hnext
      by_cases hm : msg.message = ""
      · rw [if_neg (not_not.mpr hm)] at hreq
        obtain ⟨hno,hiff⟩ := ended_delivered hread.nonempty hnext hm hreq hru hrest
        simpa [Delivered,Patient,hno,allSteps_patient hno] using hiff
      · rw [if_pos hm] at hreq
        have hread' := Reading.next hread.nonempty hnext hm hreq
        simpa [Delivered,Patient] using ih hread' hru hrest
    | giveUp =>
      obtain ⟨got',hwait,rfl⟩ := giveUp_spec hu
      have hstop : Stopped { s with requester := .timedOut got' } := nofun
      obtain ⟨-,htunread,hno⟩ := stopped_run hstop hru
      have hunread : t.unread = s.unread := htunread
      simp [Delivered,Patient,atRest_handled hrest,hunread,allSteps_patient hno]

/-- The steps still to come, at most. -/
def weight (s : Exchange) : Nat :=
  2 * s.todo.length + s.ch.toList.length +
    match s.requester with
    | .waiting _ => 1
    | _ => 0

theorem step_weight (h : step s a = some t) : weight t + 1 ≤ weight s := by
  cases a with
  | send =>
    obtain ⟨hreq,hunread,hch,hlen⟩ := send_spec h
    have hn := congrArg List.length hunread
    simp only [unread,hch,toList_none,nil_append,length_append] at hn
    simp only [weight,hreq]
    omega
  | receive =>
    obtain ⟨lines,msg,hwait,-,htodo,hch,hch',hreq⟩ := receive_spec h
    simp only [weight,hwait,htodo,hch,hch',toList_none,toList_some,length_nil,length_singleton]
    split <;> omega
  | giveUp =>
    obtain ⟨lines,hwait,rfl⟩ := giveUp_spec h
    simp only [weight,hwait]
    omega

theorem run_weight (h : run step s as = some t) : as.length + weight t ≤ weight s := by
  induction as generalizing s with
  | nil =>
    cases h
    simp
  | cons a as ih =>
    obtain ⟨u,hu,hr⟩ := bind_eq_some_iff.mp h
    have hstep := step_weight hu
    have hrest := ih hr
    simp only [length_cons]
    omega

/-- Every exchange comes to rest. Then the target is through and, unless it gave up,
the requester has all lines and the error, exactly if no line was empty and the
requester did not give up with more than one reply unread. -/
theorem delivered_iff_patient (lines : List String) (err : Option String) (as : List Action)
    (t : Exchange) (hr : run step (start lines err) as = some t) :
    as.length ≤ 2 * lines.length + 3 ∧ (t.AtRest → (Delivered lines err as t ↔
        (.giveUp ∉ as → "" ∉ lines) ∧ AllSteps step Patient (start lines err) as)) := by
  constructor
  · have hw := run_weight hr
    simp only [weight,start,replies,length_append,length_map,length_singleton,toList_none,length_nil] at hw
    omega
  · intro hrest
    have hread : Reading lines err (start lines err) [] := ⟨rfl,not_mem_nil,rfl⟩
    exact reading_delivered hread hr hrest

/-- A command that prints a line and fails, read to its end. -/
theorem line_and_error_delivered : Delivered ["a"] (some "b") [.send,.receive,.send,.receive]
      ⟨[],none,.returned ["a"] (some "b")⟩ := by
  refine ((delivered_iff_patient ["a"] (some "b") [.send,.receive,.send,.receive] _ rfl).2
    ⟨rfl,rfl⟩).mpr ⟨fun _ => by decide,?_⟩
  exact .cons_some trivial rfl (.cons_some trivial rfl (.cons_some trivial rfl (.cons_some trivial rfl trivial)))

/-- The requester gives up before it reads the first of two lines: the target is left
waiting for room in the channel. -/
theorem giving_up_wedges_target : ∃ t, run step (start ["a","b"] none) [.send,.giveUp] = some t ∧ t.AtRest ∧
      ¬ Delivered ["a","b"] none [.send,.giveUp] t := by
  refine ⟨_,rfl,⟨rfl,rfl⟩,?_⟩
  intro h
  cases h.1

end Sake.Proofs.UserRun
