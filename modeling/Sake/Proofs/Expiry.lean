import Sake.Expiry
import Sake.Proofs.DbStore

/-!
An id that was returned keeps its place in the order of the ids as long as a row at or
behind it is left.
-/

namespace Sake.Proofs.Expiry
open Sake.DbStore Sake.MsgStore Sake.Expiry Sake.Lib.Runs Sake.Proofs.DbStore List Int

variable {w : Wire} {e : Engine} {s t : Db} {ops : List Op} {l : List Entry} {op : Op} {network n limit : Int}
  {entity : String}

theorem maxID_nonneg (rows : List Row) : 0 ≤ maxID rows := by
  induction rows with
  | nil => exact le_refl 0
  | cons r rows ih => exact le_trans ih (le_max_right _ _)

theorem le_maxID (h : r ∈ rows) : r.id ≤ maxID rows := by
  induction rows with
  | nil => cases h
  | cons s rows ih =>
    rcases mem_cons.mp h with rfl | h
    · exact le_max_left _ _
    · exact le_trans (ih h) (le_max_right _ _)

theorem maxID_append : maxID (rows ++ [r]) = max (maxID rows) r.id := by
  induction rows with
  | nil => exact max_comm _ _
  | cons s rows ih => simp [maxID,ih]

/-- The next id follows the largest one in the table. -/
def Tight (db : Db) : Prop := db.lastID = maxID db.rows

/-- The rows hold the messages `l`, appended to the buffer after the id `n` was returned. -/
def Follow (w : Wire) (network : Int) (entity : String) (n : Int) (db : Db) (l : List Entry) : Prop :=
  ∃ rows : List Row, rows.Sublist db.rows ∧ (∀ r ∈ rows, ofBuffer network entity r = true ∧ n < r.id) ∧
    rows.map rowContent = l.map (entryContent w)

theorem step_append (w : Wire) (db : Db) (now : Int) (executed : Bool) (network : Int) (entity : String)
    (msg : Message) :
    (step w db (.append now executed network entity msg) = some db ∧
      ∀ network' entity', entries .sqlite network' entity'
        (Op.append now executed network entity msg).calls = []) ∨
    ∃ r time, step w db (.append now executed network entity msg) = some ⟨db.rows ++ [r],r.id⟩ ∧
      db.lastID < r.id ∧ rowContent r = entryContent w ⟨time,msg⟩ ∧
      ∀ network' entity', entries .sqlite network' entity'
        (Op.append now executed network entity msg).calls =
          if ofBuffer network' entity' r = true then [⟨time,msg⟩] else [] := by
  cases hc : AppendCall.storedTime .sqlite ⟨⟨now,0,executed⟩,network,entity,msg⟩ with
  | none =>
    left
    refine ⟨?_,?_⟩
    · simp [step,Op.calls,appendAll,appendOne_of_none hc]
    · intro network' entity'
      simp [entries,Op.calls,hc]
  | some time =>
    obtain ⟨r,ha,hid,hnet,htgt,hcont⟩ := appendOne_of_some w db hc
    right
    refine ⟨r,time,?_,hid,hcont,?_⟩
    · simp [step,Op.calls,appendAll,ha]
    intro network' entity'
    have hof : ofBuffer network' entity' r = true ↔ network = network' ∧ entity = entity' := by
      simp [ofBuffer,hnet,htgt]
    by_cases hb : network = network' ∧ entity = entity'
    · obtain ⟨rfl,rfl⟩ := hb
      simp [entries,Op.calls,hc,hof]
    · simp [entries,Op.calls,hb,hof]

theorem step_tight (h : Tight db) (hs : step w db op = some t) : Tight t := by
  cases op with
  | deleteMessagesBefore before =>
    cases hs
    rfl
  | append now executed network entity msg =>
    obtain ⟨hsame,-⟩ | ⟨r,time,hr,hid,-,-⟩ := step_append w db now executed network entity msg
    · cases hsame.symm.trans hs
      exact h
    · cases hr.symm.trans hs
      have hle : maxID db.rows ≤ r.id := le_of_lt (h ▸ hid)
      simp [Tight,maxID_append,max_eq_right hle]

/-- Every row can be read back. -/
def Readable (w : Wire) (db : Db) : Prop := ∀ r ∈ db.rows, (w.parse r.raw).isSome

theorem step_readable (hw : w.Carries op.calls) (h : Readable w db) (hs : step w db op = some t) : Readable w t := by
  cases op with
  | deleteMessagesBefore before =>
    cases hs
    exact fun r hr => h r (mem_of_mem_filter hr)
  | append now executed network entity msg =>
    obtain ⟨hsame,-⟩ | ⟨r,time,hr,-,hcont,-⟩ := step_append w db now executed network entity msg
    · cases hsame.symm.trans hs
      exact h
    cases hr.symm.trans hs
    intro r' hr'
    rcases mem_append.mp hr' with hr' | hr'
    · exact h r' hr'
    obtain rfl := mem_singleton.mp hr'
    have hraw : r'.raw = w.string msg := congrArg (·.2.1) hcont
    have hmsg : w.parse (w.string msg) = some msg := hw _ mem_cons_self
    simp [hraw,hmsg]

/-- While a row at or behind `n` is left, new rows come behind `n`. -/
theorem step_follow (hn : n ≤ db.lastID) (hleaves : LeavesRow n db op) (hf : Follow w network entity n db l)
    (hs : step w db op = some t) : n ≤ t.lastID ∧ Follow w network entity n t (retain network entity l op) := by
  obtain ⟨rows,hsub,hrows,hcontent⟩ := hf
  cases op with
  | deleteMessagesBefore before =>
    cases hs
    refine ⟨?_,rows.filter (fun r => !expired before r.time),hsub.filter _,?_,?_⟩
    · rcases hleaves with h0 | ⟨r,hr,hle,hkept⟩
      · exact le_trans h0 (maxID_nonneg _)
      · have hmem : r ∈ db.rows.filter fun r => !expired before r.time := mem_filter.mpr ⟨hr,by rw [hkept]; rfl⟩
        exact le_trans hle (le_maxID hmem)
    · exact fun r hr => hrows r (mem_of_mem_filter hr)
    · have hfilter := congrArg (List.filter fun x => !expired before x.1) hcontent
      rwa [filter_map,filter_map] at hfilter
  | append now executed network' entity' msg =>
    obtain ⟨hsame,hnone⟩ | ⟨r,time,hr,hid,hcont,hone⟩ := step_append w db now executed network' entity' msg
    · cases hsame.symm.trans hs
      rw [retain,hnone,append_nil]
      exact ⟨hn,rows,hsub,hrows,hcontent⟩
    cases hr.symm.trans hs
    have hlt : n < r.id := lt_of_le_of_lt hn hid
    refine ⟨le_of_lt hlt,?_⟩
    rw [retain,hone]
    by_cases hof : ofBuffer network entity r = true
    · refine ⟨rows ++ [r],hsub.append (List.Sublist.refl _),?_,?_⟩
      · intro r' hr'
        rcases mem_append.mp hr' with hr' | hr'
        · exact hrows r' hr'
        · obtain rfl := mem_singleton.mp hr'
          exact ⟨hof,hlt⟩
      · simp [hof,hcontent,hcont]
    · refine ⟨rows,hsub.trans (sublist_append_left _ _),hrows,?_⟩
      simp [hof,hcontent]

theorem run_follow (hn : n ≤ s.lastID) (hleaves : AllSteps (step w) (LeavesRow n) s ops)
    (hf : Follow w network entity n s l) (hr : run (step w) s ops = some t) :
    Follow w network entity n t (ops.foldl (retain network entity) l) := by
  induction ops generalizing s l with
  | nil =>
    cases hr
    exact hf
  | cons op ops ih =>
    obtain ⟨u,hu,hr⟩ := Option.bind_eq_some_iff.mp hr
    obtain ⟨hn,hf⟩ := step_follow hn hleaves.1 hf hu
    exact ih hn (hleaves.2 u hu) hf hr

theorem run_readable (hw : ∀ op ∈ ops, w.Carries op.calls) (h : Readable w s)
    (hr : run (step w) s ops = some t) : Readable w t := by
  induction ops generalizing s with
  | nil =>
    cases hr
    exact h
  | cons op ops ih =>
    obtain ⟨u,hu,hr⟩ := Option.bind_eq_some_iff.mp hr
    have hu := step_readable (hw op mem_cons_self) h hu
    exact ih (fun op hop => hw op (mem_cons_of_mem _ hop)) hu hr

theorem run_tight (hr : run (step w) .empty ops = some s) : Tight s := by
  have hempty : Tight .empty := rfl
  exact run_invariant Tight hempty (fun _ _ _ => step_tight) hr

theorem retained_carried (hw : ∀ op ∈ ops, w.Carries op.calls) (hl : ∀ x ∈ l, w.parse (w.string x.msg) = some x.msg) :
    ∀ x ∈ ops.foldl (retain network entity) l, w.parse (w.string x.msg) = some x.msg := by
  induction ops generalizing l with
  | nil => exact hl
  | cons op ops ih =>
    refine ih (fun op hop => hw op (mem_cons_of_mem _ hop)) ?_
    intro x hx
    cases op with
    | deleteMessagesBefore before => exact hl x (mem_of_mem_filter hx)
    | append now executed network' entity' msg =>
      rcases mem_append.mp hx with hx | hx
      · exact hl x hx
      · exact entries_carried (hw _ mem_cons_self) x hx

theorem storeMessage_id (h : storeMessage .sqlite w s o network entity msg = .ok (t,n)) : t.lastID = n := by
  unfold storeMessage at h
  dsimp only [bind,Except.bind] at h
  split at h
  · cases h
  split at h
  · cases h
  split at h
  · cases h
  split at h
  · cases h
    rfl
  · cases h

theorem returned_le (h : Returned w e network entity ops n) (hs : run (step w) .empty ops = some s) : n ≤ s.lastID := by
  cases h with
  | lastMsgID hrun hid =>
    cases hrun.symm.trans hs
    have hn : getMessageLastID e s network entity = n := by simpa [lastMsgID] using hid
    rw [← hn,run_tight hs]
    obtain ⟨-,h0⟩ | ⟨r,hr,-,hid⟩ := getMessageLastID_spec e s network entity
    · rw [h0]
      exact maxID_nonneg _
    · rw [hid]
      exact le_maxID (mem_of_mem_filter hr)
  | @append ops u v _ now executed msg hrun hid =>
    have happend : step w u (.append now executed network entity msg) = some v := by
      simp [step,Op.calls,appendAll,appendOne,hid]
    rw [run_append,hrun,Option.bind_some,run,happend] at hs
    cases hs
    cases hstore : storeMessage .sqlite w u ⟨now,0,executed⟩ network entity msg with
    | error f =>
      rw [append,hstore] at hid
      cases hid
    | ok p =>
      rw [append,hstore] at hid
      cases hid
      exact le_of_eq (storeMessage_id hstore).symm

/-- Loading from `n` with room for every row gives every row with a text behind `n`. -/
theorem loaded_of_follow (hread : Readable w db) (hf : Follow w network entity n db l)
    (hl : ∀ x ∈ l, w.parse (w.string x.msg) = some x.msg)
    (hlimit : (db.rows.filter (ofBuffer network entity)).length ≤ limit) :
    ∃ msgs, loadLatestID .sqlite w e db ⟨network,entity,.db n⟩ ⟨network,entity,limit,false⟩ =
        .ok msgs ∧ ((l.filter Entry.hasText).map Entry.msg).Subperm msgs := by
  obtain ⟨rows,hsub,hrows,hcontent⟩ := hf
  have h0 : 0 ≤ limit := by omega
  have hparse : ∀ r ∈ candidates db network entity n, (w.parse r.raw).isSome := fun r hr =>
    hread r (mem_of_mem_filter (mem_of_mem_filter hr))
  set found := candidates db network entity n
  have hperm := e.orderDesc_perm found
  have hlength : (e.orderDesc found).length ≤ limit.toNat := by
    have hle : found.length ≤ (db.rows.filter (ofBuffer network entity)).length := length_filter_le _ _
    rw [hperm.length_eq]
    omega
  refine ⟨_,loadLatestID_eq h0 hparse,?_⟩
  rw [take_of_length_le hlength,← texts_of_content hl hcontent]
  have hcandidates : (rows.filter fun r => r.text.isSome).Sublist found := by
    have hself : (rows.filter fun r => r.text.isSome) = (rows.filter (ofBuffer network entity)).filter fun r =>
          (decide (n ≤ 0) || decide (n < r.id)) && r.text.isSome := by
      rw [filter_filter]
      refine filter_congr fun r hr => ?_
      simp [(hrows r hr).1,(hrows r hr).2]
    rw [hself]
    exact (hsub.filter _).filter _
  have hall := ((hcandidates.filterMap fun r => w.parse r.raw).subperm).trans
    (hperm.symm.filterMap fun r => w.parse r.raw).subperm
  exact hall.trans (reverse_perm _).symm.subperm

/-- If every deletion leaves a row at or behind an id that was returned, loading from that
id gives all texts of the buffer that were appended later and are still there. -/
theorem retained_texts_loaded (w : Wire) (e : Engine) (before after : List Op) {network : Int}
    {entity : String} {n limit : Int} {s t : Db}
    (hw : ∀ op ∈ before ++ after, w.Carries op.calls)
    (hid : Returned w e network entity before n)
    (hs : run (step w) .empty before = some s) (ht : run (step w) s after = some t)
    (hleaves : AllSteps (step w) (LeavesRow n) s after)
    (hlimit : (t.rows.filter (ofBuffer network entity)).length ≤ limit) :
    ∃ msgs, loadLatestID .sqlite w e t ⟨network,entity,.db n⟩ ⟨network,entity,limit,false⟩ = .ok msgs ∧
      (((retained network entity after).filter Entry.hasText).map Entry.msg).Subperm msgs := by
  have hbefore : ∀ op ∈ before, w.Carries op.calls := fun op h => hw op (mem_append_left _ h)
  have hafter : ∀ op ∈ after, w.Carries op.calls := fun op h => hw op (mem_append_right _ h)
  have hempty : Readable w .empty := fun r hr => nomatch hr
  have hread := run_readable hafter (run_readable hbefore hempty hs) ht
  have hnone : Follow w network entity n s [] := ⟨[],nil_sublist _,by simp,rfl⟩
  have hfollow := run_follow (returned_le hid hs) hleaves hnone ht
  exact loaded_of_follow hread hfollow (retained_carried hafter (by simp)) hlimit

def saidOp (time text : String) : Op := .append 0 true 1 "#chan" (said time text)

/-- 2024-05-02, in nanoseconds from the zero time. -/
def nextDay : Int := (Time.parseServerTime "2024-05-02T00:00:00.000Z").getD 0

/-- The first message expires, and the second keeps the ids growing. -/
theorem third_text_loaded_after_expiry : ∃ msgs, loadLatestID .sqlite saidWire (favouring noRow)
        ⟨[⟨2,1,"#chan","2024-05-02T12:00:00.000Ztwo",63850248000000,"bob",some "two"⟩,
          ⟨3,1,"#chan","2024-05-02T12:00:01.000Zthree",63850248001000,"bob",some "three"⟩],3⟩
        ⟨1,"#chan",.db 1⟩ ⟨1,"#chan",10,false⟩ = .ok msgs ∧
      List.Subperm [said "2024-05-02T12:00:00.000Z" "two",said "2024-05-02T12:00:01.000Z" "three"]
        msgs :=
  retained_texts_loaded saidWire (favouring noRow)
    [saidOp "2024-05-01T12:00:05.000Z" "one"]
    [saidOp "2024-05-02T12:00:00.000Z" "two",.deleteMessagesBefore nextDay,saidOp "2024-05-02T12:00:01.000Z" "three"]
    (by decide +kernel) (.lastMsgID rfl rfl) rfl rfl (by decide +kernel) (by decide +kernel)

/-- The only message expires, and the next one takes its id. -/
theorem reused_id_hides_text : ∃ s t, run (step saidWire) .empty [saidOp "2024-05-01T12:00:05.000Z" "one"] = some s ∧
      Returned saidWire (favouring noRow) 1 "#chan" [saidOp "2024-05-01T12:00:05.000Z" "one"] 1 ∧
      run (step saidWire) s
        [.deleteMessagesBefore nextDay,saidOp "2024-05-02T12:00:00.000Z" "two"] = some t ∧
      (retained 1 "#chan" [.deleteMessagesBefore nextDay,saidOp "2024-05-02T12:00:00.000Z" "two"]).map Entry.msg =
        [said "2024-05-02T12:00:00.000Z" "two"] ∧
      loadLatestID .sqlite saidWire (favouring noRow) t ⟨1,"#chan",.db 1⟩ ⟨1,"#chan",10,false⟩ = .ok [] :=
  ⟨_,_,rfl,.lastMsgID rfl rfl,rfl,rfl,rfl⟩

end Sake.Proofs.Expiry
