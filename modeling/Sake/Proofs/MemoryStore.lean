import Sake.MemoryStore

namespace Sake.Proofs.MemoryStore
open Sake.MsgStore Sake.MemoryStore Sake.Lib List MessageRingBuffer

/-- A buffer of the store describes all texts ever appended to it: the counter
their number, the slots the newest of them. A buffer exists from the first on. -/
def Holds (ms : Store) (network : Int) (entity : String) (history : List Message) : Prop :=
  match ms.buffers (network,entity) with
  | none => history = []
  | some rb => history ≠ [] ∧ rb.cur = history.length + 1 ∧ rb.cap = messageRingBufferCap ∧ Ring.Recent rb.buf 1 history

variable {network : Int} {entity : String} {history : List Message} {ms : Store} {rb : MessageRingBuffer}

theorem recent_append (hpos : 0 < c) (hcur : rb.cur = history.length + 1) (hcap : rb.cap = c)
    (hrec : Ring.Recent rb.buf 1 history) (msg : Message) : (rb.append msg).1.cur = (history ++ [msg]).length + 1 ∧
      (rb.append msg).1.cap = c ∧ Ring.Recent (rb.append msg).1.buf 1 (history ++ [msg]) := by
  refine ⟨by simp [append,hcur],(Ring.length_put _ _ _).trans hcap,?_⟩
  rw [append,hcur,Nat.add_comm]
  exact hrec.put (hpos.trans_eq hcap.symm) msg

theorem Holds.append (h : Holds ms network entity history) (c : AppendCall) :
    Holds (ms.append c.network c.entity c.msg).1 network entity
      (history ++ texts network entity [c]) := by
  by_cases ht : c.msg.isText
  swap
  · simpa [Store.append,texts,ht] using h
  by_cases hk : (network,entity) = (c.network,c.entity)
  · obtain ⟨rfl,rfl⟩ := Prod.mk.inj hk
    have hone : texts c.network c.entity [c] = [c.msg] := by simp [texts,ht]
    rw [hone]
    unfold Holds at h ⊢
    simp only [Store.append,ht,Bool.not_true,Bool.false_eq_true,↓reduceIte]
    refine ⟨by simp,?_⟩
    cases hb : ms.buffers (c.network,c.entity) with
    | none =>
      simp only [hb] at h
      subst h
      have hcap : (newMessageRingBuffer messageRingBufferCap).cap = messageRingBufferCap := length_replicate
      exact recent_append (by decide) rfl hcap (Ring.recent_nil _ 1) c.msg
    | some rb =>
      simp only [hb] at h
      obtain ⟨-,hcur,hcap,hrec⟩ := h
      exact recent_append (by decide) hcur hcap hrec c.msg
  · have hnone : texts network entity [c] = [] := by
      simp only [Prod.mk.injEq,not_and] at hk
      simp only [texts,map_eq_nil_iff,filter_eq_nil_iff,mem_singleton,Bool.and_eq_true,beq_iff_eq,not_and]
      rintro d rfl ⟨hn,he⟩
      exact absurd he.symm (hk hn.symm)
    simpa [Holds,Store.append,ht,hk,hnone] using h

theorem texts_append : texts network entity (xs ++ ys) = texts network entity xs ++ texts network entity ys := by
  simp [texts]

theorem Holds.appendAll (calls : List AppendCall) :
    ∀ {ms : Store} {history : List Message}, Holds ms network entity history →
      Holds (appendAll ms calls) network entity (history ++ texts network entity calls) := by
  induction calls with
  | nil =>
    intro ms history h
    simpa [MemoryStore.appendAll,texts] using h
  | cons c rest ih =>
    intro ms history h
    have hn := ih (h.append c)
    rwa [append_assoc,← texts_append] at hn

theorem holds_run (network : Int) (entity : String) (calls : List AppendCall) :
    Holds (appendAll newMemoryStore calls) network entity (texts network entity calls) := by
  have h : Holds newMemoryStore network entity [] := by simp [Holds,newMemoryStore]
  simpa using h.appendAll calls

theorem Holds.of_none (h : Holds ms network entity history) (hb : ms.buffers (network,entity) = none) :
    history = [] := by
  simpa only [Holds,hb] using h

theorem Holds.of_some (h : Holds ms network entity history) (hb : ms.buffers (network,entity) = some rb) :
    history ≠ [] ∧ rb.cur = history.length + 1 ∧ rb.cap = messageRingBufferCap ∧ Ring.Recent rb.buf 1 history := by
  simpa only [Holds,hb] using h

/-- Loading from a sequence number that was given out skips the message with that
number and everything before it. -/
theorem loadLatestSeq_spec (seq limit : Nat) (hcur : rb.cur = history.length + 1)
    (hcap : rb.cap = c) (hrec : Ring.Recent rb.buf 1 history) (hseq : seq ≤ history.length) :
    rb.loadLatestSeq seq limit = .ok ((history.rtake (min limit (min (history.length - seq) c))).map some) := by
  have hdiff : rb.cur - seq - 1 = history.length - seq := by omega
  have hmin : (if c < history.length - seq then c else history.length - seq) = min (history.length - seq) c := by
    split <;> omega
  have hlim : ∀ d : Nat, (if limit < (d : Int) then (limit : Int).toNat else d) = min limit d := by
    intro d
    split <;> omega
  have hw := hrec.window (min limit (min (history.length - seq) c))
    (by omega) (by have : rb.buf.length = c := hcap; omega)
  have hlt : ¬ rb.cur < seq := by omega
  have hne : ¬ seq = rb.cur := by omega
  have hneg : ¬ (limit : Int) < 0 := by omega
  simp only [loadLatestSeq,hlt,hne,hneg,↓reduceIte,hdiff,hcap,hmin,hlim]
  rw [← hw,hcur,Nat.add_comm history.length 1]

/-- A buffer that the messages were appended to. -/
def filled (capacity : Nat) (history : List Message) : MessageRingBuffer :=
  history.foldl (fun rb msg => (rb.append msg).1) (newMessageRingBuffer capacity)

theorem filled_recent (c : Nat) (history : List Message) : (filled (c + 1) history).cur = history.length + 1 ∧
    (filled (c + 1) history).cap = c + 1 ∧ Ring.Recent (filled (c + 1) history).buf 1 history := by
  induction history using List.reverseRecOn with
  | nil => exact ⟨rfl,length_replicate,Ring.recent_nil _ 1⟩
  | append_singleton history msg ih =>
    obtain ⟨hcur,hcap,hrec⟩ := ih
    rw [filled,foldl_append]
    exact recent_append (Nat.succ_pos c) hcur hcap hrec msg

theorem rtake_append_left (xs ys : List α) (n : Nat) (h : n ≤ ys.length) : (xs ++ ys).rtake n = ys.rtake n := by
  have he : (xs ++ ys).length - n = xs.length + (ys.length - n) := by
    rw [length_append]
    omega
  rw [List.rtake,List.rtake,he,drop_length_add_append]

section
variable (network : Int) (entity : String) (before after : List AppendCall) (limit : Nat)

/-- The answer to a query for what came after `before`, asked after `after`. -/
def queried : Except Failure (List (Option Message)) :=
  let ms := appendAll newMemoryStore before
  (appendAll ms after).loadLatestID (ms.lastMsgID network entity) ⟨network,entity,limit,false⟩

/-- The answer the backlog relies on: the newest of the texts appended since. -/
def expected : Except Failure (List (Option Message)) :=
  let new := texts network entity after
  .ok ((new.rtake (min limit (min new.length messageRingBufferCap))).map some)

/-- Before the first text there is no buffer, and the ID says sequence number 0. -/
theorem queried_fresh (hb : texts network entity before = []) :
    queried network entity before after limit = expected network entity after limit := by
  have h0 := holds_run network entity before
  have h1 := h0.appendAll after
  rw [hb] at h0 h1
  rw [nil_append] at h1
  have hid : (appendAll newMemoryStore before).lastMsgID network entity = ⟨network,entity,.memory 0⟩ := by
    cases hbuf : (appendAll newMemoryStore before).buffers (network,entity) with
    | none => simp [Store.lastMsgID,hbuf]
    | some rb => exact absurd rfl (h0.of_some hbuf).1
  cases hbuf : (appendAll (appendAll newMemoryStore before) after).buffers
      (network,entity) with
  | none => simp [queried,expected,hid,Store.loadLatestID,hbuf,h1.of_none hbuf]
  | some rb =>
    obtain ⟨_,hcur,hcap,hrec⟩ := h1.of_some hbuf
    simp only [queried,hid,Store.loadLatestID,hbuf]
    exact loadLatestSeq_spec 0 limit hcur hcap hrec (Nat.zero_le _)

/-- Afterwards the ID carries the number of the next message, which the query
then leaves out. -/
theorem queried_later (hb : texts network entity before ≠ []) : queried network entity before after limit =
      .ok (((texts network entity after).rtake
        (min limit (min ((texts network entity after).length - 1) messageRingBufferCap))).map
          some) := by
  have h0 := holds_run network entity before
  have h1 := h0.appendAll after
  have hid : (appendAll newMemoryStore before).lastMsgID network entity =
      ⟨network,entity,.memory ((texts network entity before).length + 1)⟩ := by
    cases hbuf : (appendAll newMemoryStore before).buffers (network,entity) with
    | none => exact absurd (h0.of_none hbuf) hb
    | some rb => simp [Store.lastMsgID,hbuf,(h0.of_some hbuf).2.1]
  cases hbuf : (appendAll (appendAll newMemoryStore before) after).buffers
      (network,entity) with
  | none => exact absurd (append_eq_nil_iff.mp (h1.of_none hbuf)).1 hb
  | some rb =>
    obtain ⟨_,hcur,hcap,hrec⟩ := h1.of_some hbuf
    simp only [queried,hid,Store.loadLatestID,hbuf,Bool.false_eq_true,↓reduceIte]
    by_cases hk : texts network entity after = []
    · have hseq : (texts network entity before).length + 1 = rb.cur := by simp [hcur,hk]
      simp [loadLatestSeq,hseq,hk]
    have hpos : 0 < (texts network entity after).length := length_pos_of_ne_nil hk
    rw [loadLatestSeq_spec _ limit (by rw [hcur,length_append]) hcap hrec (by rw [length_append]; omega)]
    have hlen : (texts network entity before ++ texts network entity after).length -
        ((texts network entity before).length + 1) =
        (texts network entity after).length - 1 := by
      rw [length_append]
      omega
    rw [hlen,rtake_append_left _ _ _ (by omega)]

/-- A query from an earlier `LastMsgID` is answered in full exactly when the buffer
was empty then, nothing came in since, or more came in than is returned anyway. -/
theorem queried_iff : queried network entity before after limit = expected network entity after limit ↔
      texts network entity before = [] ∨ texts network entity after = [] ∨ limit < (texts network entity after).length ∨
        messageRingBufferCap < (texts network entity after).length := by
  by_cases hb : texts network entity before = []
  · simp [hb,queried_fresh]
  have hlen : ∀ xs : List Message, ∀ n, n ≤ xs.length → ((xs.rtake n).map some).length = n := by
    intro xs n hn
    simp only [length_map,List.rtake,length_drop]
    omega
  rw [queried_later _ _ _ _ _ hb]
  simp only [hb,expected,Except.ok.injEq,false_or]
  constructor
  · intro h
    have hl := congrArg List.length h
    rw [hlen _ _ (by omega),hlen _ _ (by omega)] at hl
    by_cases hk : (texts network entity after).length = 0
    · exact Or.inl (length_eq_zero_iff.mp hk)
    · omega
  · intro h
    have he : min limit (min ((texts network entity after).length - 1) messageRingBufferCap) =
        min limit (min (texts network entity after).length messageRingBufferCap) := by
      rcases h with h | h | h
      · simp [h]
      · omega
      · omega
    rw [he]

end

def hello (text : String) : AppendCall :=
  ⟨1,"#sake",⟨[],some ⟨"dan","d","host"⟩,"PRIVMSG",["#sake",text]⟩⟩

/-- The first message after the ID was taken is lost. -/
theorem message_after_id_lost :
    queried 1 "#sake" [hello "one"] [hello "two"] 4000 ≠ expected 1 "#sake" [hello "two"] 4000 := by
  intro h
  rw [queried_later 1 "#sake" [hello "one"] [hello "two"] 4000 (by decide)] at h
  exact absurd (congrArg List.length (Except.ok.inj h)) (by decide)

end Sake.Proofs.MemoryStore
