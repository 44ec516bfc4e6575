import Sake.Labels
import Sake.Proofs.Tags

/-!
The answer to a command with a label is what `Labeled` says. The invariant follows the
three states of the label context: nothing sent yet, one message held back, batch open.
-/

namespace Sake.Proofs.Labels
open Sake.Labels List Tags

variable {srv : Prefix} {caps : List String} {m m' : Message} {s : State} {label : String}

theorem get_filter (tags : Tags) (q : String → Bool) (key : String) :
    Tags.get (tags.filter fun kv => q kv.1) key = if q key then tags.get key else none := by
  induction tags with
  | nil => simp
  | cons kv tags ih =>
    by_cases hq : q kv.1
    · rw [filter_cons_of_pos (by simpa using hq),get_cons,get_cons,ih]
      split
      · next hk => rw [if_pos (hk ▸ hq)]
      · rfl
    · rw [filter_cons_of_neg (by simpa using hq),ih,get_cons]
      by_cases hk : kv.1 = key
      · rw [if_neg (hk ▸ hq),if_neg (hk ▸ hq)]
      · rw [if_neg hk]

/-- What a client that knows batches sees of a message. -/
structure Seen (m m' : Message) : Prop where
  label : m.tags.get "label" = none → m'.tags.get "label" = none
  batch : m'.tags.get "batch" = m.tags.get "batch"
  command : m'.command = m.command
  params : m.command ≠ "JOIN" → m'.params = m.params

theorem Seen.trans (h : Seen m m') (h' : Seen m' m'') : Seen m m'' where
  label hm := h'.label (h.label hm)
  batch := h'.batch.trans h.batch
  command := h'.command.trans h.command
  params hm := (h'.params (h.command ▸ hm)).trans (h.params hm)

theorem stripTags_seen (hb : caps.contains "batch" = true) : Seen m (stripTags caps m) := by
  unfold stripTags
  split
  · exact ⟨id,rfl,rfl,fun _ => rfl⟩
  refine ⟨?_,?_,rfl,fun _ => rfl⟩
  · intro hm
    rw [get_filter,hm,ite_self]
  · have hsupported : supportedTag caps "batch" = true := by rw [supportedTag,hb]; rfl
    rw [get_filter,if_pos hsupported]

theorem stripBatch_seen (hb : caps.contains "batch" = true) : Seen m (stripBatch caps m) := by
  unfold stripBatch
  rw [hb]
  exact ⟨id,rfl,rfl,fun _ => rfl⟩

theorem stripJoin_seen : Seen m (stripJoin caps m) := by
  unfold stripJoin
  split
  · next hj => exact ⟨id,rfl,rfl,absurd hj.1⟩
  · exact ⟨id,rfl,rfl,fun _ => rfl⟩

theorem withSource_seen : Seen m (withSource srv m) := by
  unfold withSource
  dsimp only
  split <;> split <;> exact ⟨id,rfl,rfl,fun _ => rfl⟩

theorem prepare_seen (hb : caps.contains "batch" = true) (h : prepare caps srv m = some m') : Seen m m' := by
  unfold prepare at h
  split at h
  · cases h
  · cases h
    exact (((stripTags_seen hb).trans (stripBatch_seen hb)).trans stripJoin_seen).trans withSource_seen

theorem prepare_batch (caps : List String) (srv : Prefix) (hm : m.command = "BATCH") : (prepare caps srv m).isSome := by
  have hfiltered : filtered caps m = false := by simp [filtered,optionalCommands,hm]
  rw [prepare,hfiltered]
  rfl

/-- What has been sent for the messages so far. -/
def Answering (label : String) (s : State) : Prop :=
  s.labelCtx.label = label ∧
    match s.passed with
    | [] => s.labelCtx.batch = "" ∧ s.labelCtx.pendingMsg = none ∧ s.sent = []
    | [m] => s.labelCtx.batch = "" ∧ s.labelCtx.pendingMsg = some m ∧ s.sent = []
    | ms => s.labelCtx.batch ≠ "" ∧ s.labelCtx.pendingMsg = none ∧
        s.sent = batchStart s.labelCtx.batch label :: ms.map (inBatch s.labelCtx.batch)

theorem sendLabeled_answering (hlabel : label ≠ "") (h : Answering label s) (m : Message) :
    Answering label (sendLabeled m { s with passed := s.passed ++ [m] }) := by
  obtain ⟨hl,h⟩ := h
  have hne : ¬ s.labelCtx.label = "" := hl ▸ hlabel
  unfold sendLabeled
  rw [if_neg hne]
  rcases hp : s.passed with _ | ⟨first,_ | ⟨second,rest⟩⟩
  · rw [hp] at h
    obtain ⟨hb,hpend,hsent⟩ := h
    simp [hpend,sendOrHold,hb,Answering,hl,hsent]
  · rw [hp] at h
    obtain ⟨hb,hpend,hsent⟩ := h
    have href : toString (s.lastBatchRef + 1) ≠ "" := Nat.repr_ne_empty
    simp [hpend,sendOrHold,openBatch,write,Answering,hl,hsent]
  · rw [hp] at h
    obtain ⟨hb,hpend,hsent⟩ := h
    simp [hpend,sendOrHold,hb,write,Answering,hl,hsent]

/-- The messages have no label, and each batch they are tagged with was opened. -/
def Nested (passed : List Message) : Prop :=
  ∀ m ∈ passed, m.tags.get "label" = none ∧ (batchTag m = "" ∨ ∃ m' ∈ passed, Opens (batchTag m) m')

theorem Nested.append (h : Nested passed) (hm : m.tags.get "label" = none)
    (hbatch : batchTag m = "" ∨ ∃ m' ∈ passed, Opens (batchTag m) m') : Nested (passed ++ [m]) := by
  have hmore {ref : String} (h : ∃ m' ∈ passed, Opens ref m') : ∃ m' ∈ passed ++ [m], Opens ref m' := by
    obtain ⟨m',hm',ho⟩ := h
    exact ⟨m',mem_append_left _ hm',ho⟩
  intro m' hm'
  rcases mem_append.mp hm' with hm' | hm'
  · exact ⟨(h m' hm').1,(h m' hm').2.imp_right hmore⟩
  · obtain rfl := mem_singleton.mp hm'
    exact ⟨hm,hbatch.imp_right hmore⟩

/-- The client while a handler answers it. -/
structure Good (label : String) (s : State) : Prop where
  batches : s.caps.contains "batch" = true
  answering : Answering label s
  nested : Nested s.passed

theorem sendLabeled_caps : (sendLabeled m s).caps = s.caps := by
  unfold sendLabeled sendOrHold openBatch write
  split
  · rfl
  · split <;> split <;> rfl

theorem sendLabeled_passed : (sendLabeled m s).passed = s.passed := by
  unfold sendLabeled sendOrHold openBatch write
  split
  · rfl
  · split <;> split <;> rfl

theorem sendMessage_passed : (sendMessage srv m s).passed = s.passed ++ (prepare s.caps srv m).toList := by
  unfold sendMessage
  split
  · next hp => simp [hp]
  · next m' hp => rw [sendLabeled_passed,hp]; rfl

theorem sendMessage_good (srv : Prefix) (hlabel : label ≠ "") (h : Good label s) (hm : m.tags.get "label" = none)
    (hbatch : batchTag m = "" ∨ ∃ m' ∈ s.passed, Opens (batchTag m) m') : Good label (sendMessage srv m s) := by
  unfold sendMessage
  split
  · exact h
  next m' hp =>
  have hseen := prepare_seen h.batches hp
  have htag : batchTag m' = batchTag m := by rw [batchTag,hseen.batch,batchTag]
  refine ⟨?_,sendLabeled_answering hlabel h.answering m',?_⟩
  · rw [sendLabeled_caps]
    exact h.batches
  · rw [sendLabeled_passed]
    exact h.nested.append (hseen.label hm) (by rwa [htag])

theorem sendMessage_opens (srv : Prefix) (h : Good label s) (ho : Opens ref m) :
    ∃ m' ∈ (sendMessage srv m s).passed, Opens ref m' := by
  obtain ⟨m',hp⟩ := Option.isSome_iff_exists.mp (prepare_batch s.caps srv ho.1)
  have hseen := prepare_seen h.batches hp
  have hjoin : m.command ≠ "JOIN" := by rw [ho.1]; decide
  refine ⟨m',?_,hseen.command.trans ho.1,(congrArg List.head? (hseen.params hjoin)).trans ho.2⟩
  simp [sendMessage_passed,hp]

theorem message_label (d : Draft) (ref : Option String) : (d.message ref).tags.get "label" = none := by
  cases ref with
  | none => exact d.noLabel
  | some ref =>
    rw [Draft.message,withTag,get_set]
    exact d.noLabel

theorem message_batch (d : Draft) (ref : Option String) : batchTag (d.message ref) = ref.getD "" := by
  cases ref with
  | none => simp [batchTag,Draft.message,d.noBatch]
  | some ref => simp [batchTag,Draft.message,withTag,get_set]

theorem sendBatchEnd_eq (h : Good label s) : sendBatchEnd srv m s = sendMessage srv m s := by
  rw [sendBatchEnd,if_pos h.batches]

theorem sendMessage_grows (srv : Prefix) (m : Message) : s.passed <+: (sendMessage srv m s).passed := by
  rw [sendMessage_passed]
  exact prefix_append _ _

theorem opened_mono (h : ∃ m ∈ passed, Opens ref m) (hp : passed <+: passed') : ∃ m ∈ passed', Opens ref m :=
  h.imp fun _ hm => ⟨hp.subset hm.1,hm.2⟩

/-- By induction on the calls: what is passed only grows, so an open batch stays open. -/
theorem runCalls_good (srv : Prefix) (hlabel : label ≠ "") (calls : Calls) (ref : Option String)
    (h : Good label s) (href : ∀ r ∈ ref, ∃ m ∈ s.passed, Opens r m) :
    Good label (runCalls srv ref calls s) ∧ s.passed <+: (runCalls srv ref calls s).passed := by
  induction calls generalizing ref s with
  | done => exact ⟨h,prefix_refl _⟩
  | sendMessage d tagged rest ih =>
    have hbatch : batchTag (d.message (if tagged then ref else none)) = "" ∨
        ∃ m' ∈ s.passed, Opens (batchTag (d.message (if tagged then ref else none))) m' := by
      rw [message_batch]
      cases tagged with
      | false => exact .inl rfl
      | true =>
        cases ref with
        | none => exact .inl rfl
        | some r => exact .inr (href r rfl)
    have hsent := sendMessage_good srv hlabel h (message_label d _) hbatch
    obtain ⟨hgood,hrest⟩ := ih ref hsent fun r hr => opened_mono (href r hr) (sendMessage_grows srv _)
    exact ⟨hgood,(sendMessage_grows srv _).trans hrest⟩
  | sendBatch typ params tags body rest ihbody ihrest =>
    let inner := toString (s.lastBatchRef + 1)
    let start : Message := ⟨tags.tags,none,"BATCH",("+" ++ inner) :: typ :: params⟩
    have hcount : Good label { s with lastBatchRef := s.lastBatchRef + 1 } := ⟨h.batches,h.answering,h.nested⟩
    have hstart := sendMessage_good srv (m := start) hlabel hcount tags.noLabel
      (.inl (by rw [batchTag,tags.noBatch]; rfl))
    have hopens : Opens inner start := ⟨rfl,rfl⟩
    have hopen := sendMessage_opens srv hcount hopens
    obtain ⟨hbody,hgrown⟩ := ihbody (some inner) hstart fun r hr => (Option.mem_some.mp hr) ▸ hopen
    have hend := sendMessage_good srv (m := batchEnd inner) hlabel hbody rfl (.inl rfl)
    have hprefix := ((sendMessage_grows srv start).trans hgrown).trans (sendMessage_grows srv (batchEnd inner))
    obtain ⟨hgood,hrest⟩ := ihrest ref hend fun r hr => opened_mono (href r hr) hprefix
    rw [runCalls,sendBatchEnd_eq hcount,sendBatchEnd_eq hbody]
    exact ⟨hgood, hprefix.trans hrest⟩

theorem filterMap_label (ref : String) {ms : List Message} (h : ∀ m ∈ ms, m.tags.get "label" = none) :
    (ms.map (inBatch ref)).filterMap (fun m => m.tags.get "label") = [] := by
  rw [filterMap_map,filterMap_eq_nil_iff]
  intro m hm
  change (inBatch ref m).tags.get "label" = none
  unfold inBatch
  split
  · rw [withTag,get_set]
    exact h m hm
  · exact h m hm

theorem flushBatch_passed : (flushBatch s).passed = s.passed := by
  unfold flushBatch write
  split
  · rfl
  · split
    · rfl
    · split <;> rfl

theorem flushBatch_labeled (hlabel : label ≠ "") (h : Answering label s)
    (hnested : 2 ≤ s.passed.length → Nested s.passed) :
    Labeled label s.passed (flushBatch s).sent ∧ LabelOnce label (flushBatch s).sent := by
  obtain ⟨hl,h⟩ := h
  have hne : ¬ s.labelCtx.label = "" := hl ▸ hlabel
  unfold flushBatch LabelOnce
  rw [if_neg hne]
  rcases hp : s.passed with _ | ⟨first,_ | ⟨second,rest⟩⟩
  · rw [hp] at h
    obtain ⟨hb,hpend,hsent⟩ := h
    simp [hpend,hb,write,hsent,Labeled,hl,Sake.Labels.ack,get_cons]
  · rw [hp] at h
    obtain ⟨hb,hpend,hsent⟩ := h
    simp [hpend,write,hsent,Labeled,hl,withTag,get_set]
  have hnested := hnested (by rw [hp]; simp)
  rw [hp] at h hnested
  obtain ⟨hb,hpend,hsent⟩ := h
  have hnone := filterMap_label s.labelCtx.batch fun m hm => (hnested m hm).1
  simp only [hpend,if_pos hb,write,hsent]
  refine ⟨⟨s.labelCtx.batch,rfl,fun m hm => (hnested m hm).2⟩,?_⟩
  rw [cons_append,filterMap_cons,filterMap_append,hnone]
  simp [batchStart,batchEnd,get_cons]

/-- Once the label is dropped, messages are sent as they are. -/
def Dropped (s : State) : Prop := s.labelCtx.label = "" ∧ s.sent = s.passed

theorem sendMessage_dropped (srv : Prefix) (m : Message) (h : Dropped s) : Dropped (sendMessage srv m s) := by
  unfold sendMessage
  split
  · exact h
  next m' _ =>
  refine ⟨?_,?_⟩
  · simp [sendLabeled,h.1,write]
  · simp [sendLabeled,h.1,write,h.2]

theorem sendBatchEnd_dropped (srv : Prefix) (m : Message) (h : Dropped s) : Dropped (sendBatchEnd srv m s) := by
  unfold sendBatchEnd
  split
  · exact sendMessage_dropped srv m h
  · exact h

theorem runCalls_dropped (calls : Calls) (ref : Option String) (h : Dropped s) :
    Dropped (runCalls srv ref calls s) := by
  induction calls generalizing ref s with
  | done => exact h
  | sendMessage d tagged rest ih => exact ih ref (sendMessage_dropped srv _ h)
  | sendBatch typ params tags body rest ihbody ihrest =>
    have hcount : Dropped { s with lastBatchRef := s.lastBatchRef + 1 } := h
    exact ihrest ref (sendBatchEnd_dropped srv _ (ihbody _ (sendBatchEnd_dropped srv _ hcount)))

theorem runParts_dropped (parts : List Part) (h : Dropped s) : Dropped (parts.foldl (runPart srv) s) := by
  induction parts generalizing s with
  | nil => exact h
  | cons part parts ih =>
    cases part with
    | calls calls => exact ih (runCalls_dropped calls none h)
    | toSelf m => exact ih (sendMessage_dropped srv m h)

theorem flushBatch_dropped (h : Dropped s) : (flushBatch s).sent = (flushBatch s).passed := by
  rw [flushBatch,if_pos h.1]
  exact h.2

theorem handleMessage_single (lastBatchRef : Nat) (part : Part) (hbatch : caps.contains "batch" = true)
    (hcap : caps.contains "labeled-response" = true) (hlabel : label ≠ "") :
    let s := handleMessage srv caps lastBatchRef label [part]
    Labeled label s.passed s.sent ∧ LabelOnce label s.sent := by
  have hstart : Good label ⟨caps,lastBatchRef,⟨label,"",none⟩,[],[]⟩ :=
    ⟨hbatch,⟨rfl,rfl,rfl,rfl⟩,fun m hm => nomatch hm⟩
  have hhandle : handleMessage srv caps lastBatchRef label [part] =
      flushBatch (runPart srv ⟨caps,lastBatchRef,⟨label,"",none⟩,[],[]⟩ part) := by
    rw [handleMessage,hcap]
    rfl
  dsimp only
  rw [hhandle,flushBatch_passed]
  cases part with
  | calls calls =>
    obtain ⟨hgood,-⟩ := runCalls_good srv hlabel calls none hstart fun r hr => nomatch hr
    exact flushBatch_labeled hlabel hgood.answering fun _ => hgood.nested
  | toSelf m =>
    -- A message to oneself may carry a label and any batch, but it is the only one.
    rw [runPart,sendMessage]
    cases hp : prepare caps srv m with
    | none => exact flushBatch_labeled hlabel hstart.answering fun _ => hstart.nested
    | some m' =>
      refine flushBatch_labeled hlabel (sendLabeled_answering hlabel hstart.answering m') ?_
      intro hlong
      rw [sendLabeled_passed] at hlong
      exact absurd hlong (by simp)

/-- What the service says. -/
def reply : Draft := ⟨⟨[],rfl,rfl⟩,some ⟨"BouncerServ","",""⟩,"PRIVMSG",["bob","available commands: help"]⟩

end Sake.Proofs.Labels
