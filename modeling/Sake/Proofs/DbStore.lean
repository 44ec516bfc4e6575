import Mathlib.Data.List.Perm.Subperm
import Mathlib.Data.List.Sort
import Mathlib.Data.List.Pairwise
import Sake.DbStore

namespace Sake.Proofs.DbStore
open Sake.DbStore MsgStore List

variable {b : Backend} {w : Wire} {e : Engine} {db : Db} {network : Int} {entity : String}
  {rows : List Row} {calls before : List AppendCall} {id limit : Int} {c : AppendCall} {r : Row} {l : List Message}

theorem textColumn_isSome (msg : Message) :
    (textColumn msg).isSome = (msg.isText && decide (2 ≤ msg.params.length)) := by
  unfold textColumn
  split
  · rename_i hc hp
    simp [Message.isText,hc,hp]
  · rename_i hc hp
    simp [Message.isText,hc,hp]
  rename_i hp hn
  rcases hm : msg.params with _ | ⟨p,_ | ⟨q,rest⟩⟩
  · simp
  · simp
  · have h1 : msg.command ≠ "PRIVMSG" := fun hc => hp p q rest hc hm
    have h2 : msg.command ≠ "NOTICE" := fun hc => hn p q rest hc hm
    simp [Message.isText,h1,h2]

/-- What a row and the message it was made from have in common. -/
def rowContent (r : Row) : Int × String × Option String := (r.time,r.raw,r.text)

def entryContent (w : Wire) (x : Entry) : Int × String × Option String :=
  (x.time,w.string x.msg,textColumn x.msg)

def ofBuffer (network : Int) (entity : String) (r : Row) : Bool :=
  r.network == network && r.target == entity

theorem appendOne_of_none (h : c.storedTime b = none) : appendOne b w db c = db := by
  cases ht : messageTime c.outcome.now c.msg with
  | error f => simp [appendOne,append,storeMessage,ht,bind,Except.bind,Except.map]
  | ok t =>
    simp only [AppendCall.storedTime,ht] at h
    cases hp : c.msg.msgPrefix with
    | none => simp [appendOne,append,storeMessage,ht,hp,bind,Except.bind,Except.map]
    | some p =>
      cases hs : b.storedTime t with
      | none => simp [appendOne,append,storeMessage,ht,hp,hs,bind,Except.bind,Except.map]
      | some time =>
        cases he : c.outcome.executed with
        | false => simp [appendOne,append,storeMessage,ht,hp,hs,he,bind,Except.bind,Except.map]
        | true => simp [hp,hs,he] at h

/-- A stored message becomes the last row, under an id that was not given out before. -/
theorem appendOne_of_some (w : Wire) (db : Db) (h : c.storedTime b = some time) :
    ∃ r : Row, appendOne b w db c = ⟨db.rows ++ [r],r.id⟩ ∧ db.lastID < r.id ∧
      r.network = c.network ∧ r.target = c.entity ∧
      rowContent r = entryContent w ⟨time,c.msg⟩ := by
  cases ht : messageTime c.outcome.now c.msg with
  | error f => simp [AppendCall.storedTime,ht] at h
  | ok t =>
    simp only [AppendCall.storedTime,ht,Option.ite_none_right_eq_some,Bool.and_eq_true, Option.isSome_iff_exists] at h
    obtain ⟨⟨⟨p,hp⟩,he⟩,hs⟩ := h
    refine ⟨⟨db.lastID + 1 + c.outcome.skipped,c.network,c.entity,w.string c.msg,time,p.name,
      textColumn c.msg⟩,?_,?_,rfl,rfl,rfl⟩
    · simp [appendOne,append,storeMessage,ht,hp,hs,he,bind,Except.bind,Except.map]
    · simp only
      omega

/-- Ids are positive and grow from row to row. -/
structure Numbered (db : Db) : Prop where
  pos : ∀ r ∈ db.rows, 0 < r.id
  last : ∀ r ∈ db.rows, r.id ≤ db.lastID
  nonneg : 0 ≤ db.lastID
  increasing : db.rows.Pairwise fun r s => r.id < s.id

theorem numbered_empty : Numbered .empty :=
  ⟨by simp [Db.empty],by simp [Db.empty],by simp [Db.empty],by simp [Db.empty]⟩

theorem Numbered.push (h : Numbered db) (hr : db.lastID < r.id) : Numbered ⟨db.rows ++ [r],r.id⟩ := by
  have h0 := h.nonneg
  refine ⟨?_,?_,?_,?_⟩
  · intro s hs
    rcases mem_append.mp hs with hs | hs
    · exact h.pos s hs
    · obtain rfl := mem_singleton.mp hs
      omega
  · intro s hs
    rcases mem_append.mp hs with hs | hs
    · have := h.last s hs
      simp only
      omega
    · obtain rfl := mem_singleton.mp hs
      exact Int.le_refl _
  · simp only
    omega
  · refine pairwise_append.mpr ⟨h.increasing,pairwise_singleton _ _,?_⟩
    intro s hs t ht
    obtain rfl := mem_singleton.mp ht
    have := h.last s hs
    omega

/-- What calls of `Append` do to the table: they add rows behind the others, and those of
one buffer hold what was appended to it. -/
theorem appendAll_spec (b : Backend) (w : Wire) (network : Int) (entity : String)
    (calls : List AppendCall) (h : Numbered db) :
    ∃ rows, (appendAll b w calls db).rows = db.rows ++ rows ∧
      Numbered (appendAll b w calls db) ∧ (∀ r ∈ rows, db.lastID < r.id) ∧
      (rows.filter (ofBuffer network entity)).map rowContent =
        (entries b network entity calls).map (entryContent w) := by
  induction calls generalizing db with
  | nil => exact ⟨[],by simp [appendAll],h,by simp,rfl⟩
  | cons c calls ih =>
    cases hc : c.storedTime b with
    | none =>
      obtain ⟨rows,hr,hn,hl,hm⟩ := ih h
      refine ⟨rows,?_,?_,hl,?_⟩
      · simpa [appendAll,appendOne_of_none hc] using hr
      · simpa [appendAll,appendOne_of_none hc] using hn
      · simpa [entries,hc] using hm
    | some time =>
      obtain ⟨r,ha,hid,hnet,htgt,hcont⟩ := appendOne_of_some w db hc
      obtain ⟨rows,hr,hn,hl,hm⟩ := ih (h.push hid)
      have hall : appendAll b w (c :: calls) db = appendAll b w calls ⟨db.rows ++ [r],r.id⟩ := by simp [appendAll,ha]
      refine ⟨r :: rows,?_,hall ▸ hn,?_,?_⟩
      · rw [hall,hr]
        simp
      · intro s hs
        rcases mem_cons.mp hs with rfl | hs
        · exact hid
        · exact Int.lt_trans hid (hl s hs)
      · by_cases hb : c.network = network ∧ c.entity = entity
        · have hof : ofBuffer network entity r = true := by simp [ofBuffer,hnet,htgt,hb]
          simp only [filter_cons,hof,if_true,map_cons,hcont,hm]
          simp [entries,hc,hb]
        · have hof : ofBuffer network entity r = false := by simpa [ofBuffer,hnet,htgt] using hb
          simp only [filter_cons,hof,Bool.false_eq_true,if_false,hm]
          simp [entries,hb]

theorem parseRows_eq (h : ∀ r ∈ rows, (w.parse r.raw).isSome) :
    parseRows w rows = .ok (rows.filterMap fun r => w.parse r.raw) := by
  induction rows with
  | nil => rfl
  | cons r rows ih =>
    obtain ⟨msg,hm⟩ := Option.isSome_iff_exists.mp (h r mem_cons_self)
    have hr := ih fun s hs => h s (mem_cons_of_mem _ hs)
    simp [parseRows,hm,hr,Except.map]

/-- The rows that loading from an id looks at. -/
def candidates (db : Db) (network : Int) (entity : String) (id : Int) : List Row :=
  (db.rows.filter (ofBuffer network entity)).filter fun r =>
    (decide (id ≤ 0) || decide (id < r.id)) && r.text.isSome

theorem filter_selected : db.rows.filter (selected e network entity ⟨id,none,none,limit,false,"","",true⟩) =
      candidates db network entity id := by
  rw [candidates,filter_filter]
  congr 1
  funext r
  simp only [selected,ofBuffer]
  cases r.network == network <;> cases r.target == entity <;> simp

theorem loadLatestID_eq (hl : 0 ≤ limit) (hp : ∀ r ∈ candidates db network entity id, (w.parse r.raw).isSome) :
    loadLatestID b w e db ⟨network,entity,.db id⟩ ⟨network,entity,limit,false⟩ =
      .ok (((e.orderDesc (candidates db network entity id)).take limit.toNat).filterMap
        fun r => w.parse r.raw).reverse := by
  have hperm := e.orderDesc_perm (candidates db network entity id)
  have hparse : parseRows w ((e.orderDesc (candidates db network entity id)).take limit.toNat) =
      .ok (((e.orderDesc (candidates db network entity id)).take limit.toNat).filterMap fun r => w.parse r.raw) := by
    apply parseRows_eq
    intro r hr
    exact hp r (hperm.subset (take_subset _ _ hr))
  simp only [loadLatestID,listMessages,filter_selected,limitRows,if_true,
    if_neg (Int.not_lt.mpr hl),bind,Except.bind,hparse]
  rfl

/-- Without a limit that counts, what is loaded comes from the candidates all the same. -/
theorem loaded_subperm (hp : ∀ r ∈ candidates db network entity id, (w.parse r.raw).isSome)
    (h : loadLatestID b w e db ⟨network,entity,.db id⟩ ⟨network,entity,limit,false⟩ = .ok l) :
    l.Subperm ((candidates db network entity id).filterMap fun r => w.parse r.raw) := by
  have hperm := e.orderDesc_perm (candidates db network entity id)
  by_cases hl : 0 ≤ limit
  · rw [loadLatestID_eq hl hp,Except.ok.injEq] at h
    subst l
    refine (reverse_perm _).subperm.trans ?_
    refine List.Subperm.trans ?_ (hperm.filterMap _).subperm
    exact ((take_sublist _ _).filterMap _).subperm
  · have hneg : limit < 0 := by omega
    cases b with
    | postgres =>
      simp only [loadLatestID,listMessages,limitRows,if_pos hneg] at h
      cases h
    | sqlite =>
      have hparse := parseRows_eq fun r hr => hp r (hperm.subset hr)
      simp only [loadLatestID,listMessages,filter_selected,limitRows,if_pos hneg,if_true,bind,
        Except.bind,hparse] at h
      cases h
      exact ((reverse_perm _).trans (hperm.filterMap _)).subperm

theorem getMessageLastID_spec (e : Engine) (db : Db) (network : Int) (entity : String) :
    (db.rows.filter (ofBuffer network entity) = [] ∧ getMessageLastID e db network entity = 0) ∨
      ∃ r ∈ db.rows.filter (ofBuffer network entity),
        (∀ s ∈ db.rows.filter (ofBuffer network entity), s.time ≤ r.time) ∧
          getMessageLastID e db network entity = r.id := by
  have hperm := e.orderDesc_perm (db.rows.filter (ofBuffer network entity))
  have hsorted := e.orderDesc_sorted (db.rows.filter (ofBuffer network entity))
  cases ho : e.orderDesc (db.rows.filter (ofBuffer network entity)) with
  | nil =>
    rw [ho] at hperm
    refine Or.inl ⟨hperm.symm.eq_nil,?_⟩
    unfold getMessageLastID
    unfold ofBuffer at ho
    rw [ho]
  | cons r rows =>
    rw [ho] at hperm hsorted
    refine Or.inr ⟨r,hperm.subset mem_cons_self,?_,?_⟩
    · intro s hs
      rcases mem_cons.mp (hperm.symm.subset hs) with rfl | hs
      · exact Int.le_refl _
      · exact (pairwise_cons.mp hsorted).1 s hs
    · unfold getMessageLastID
      unfold ofBuffer at ho
      rw [ho]

theorem hasText_eq_false_iff (x : Entry) : x.hasText = false ↔ textColumn x.msg = none := by
  rw [Entry.hasText,← textColumn_isSome,Option.isSome_eq_false_iff,Option.isNone_iff_eq_none]

theorem latestLast_iff {l : List Entry} (hm : rows.map rowContent = l.map (entryContent w))
    (hid : rows.Pairwise fun r s => r.id < s.id) :
    LatestLast l ↔ ∀ r ∈ rows, (∀ z ∈ rows, z.time ≤ r.time) → ∀ s ∈ rows, r.id < s.id → s.text = none := by
  have hcontent : LatestLast l ↔ (rows.map rowContent).Pairwise fun x y =>
      (∀ z ∈ rows.map rowContent, z.1 ≤ x.1) → y.2.2 = none := by
    rw [hm,pairwise_map,LatestLast]
    simp [entryContent,hasText_eq_false_iff]
  rw [hcontent,pairwise_map]
  simp only [forall_mem_map]
  constructor
  · intro h r hr hmax s hs hlt
    let R : Row → Row → Prop := fun r s => r.id < s.id → (∀ z ∈ rows, z.time ≤ r.time) → s.text = none
    have hrefl : ∀ r ∈ rows, R r r := fun r _ hlt => absurd hlt (Int.lt_irrefl _)
    have hforth : rows.Pairwise R := h.imp fun hrs _ hmax => hrs hmax
    have hback : rows.Pairwise (flip R) := hid.imp fun hlt hgt => absurd (Int.lt_trans hlt hgt) (Int.lt_irrefl _)
    exact List.Pairwise.forall_of_forall_of_flip hrefl hforth hback hr hs hlt hmax
  · intro h
    exact hid.imp_of_mem fun hr hs hlt hmax => h _ hr hmax _ hs hlt

theorem call_of_mem_entries (hx : x ∈ entries b network entity calls) : ∃ c ∈ calls, c.msg = x.msg := by
  obtain ⟨c,hc,hcx⟩ := mem_filterMap.mp hx
  rw [Option.ite_none_right_eq_some] at hcx
  obtain ⟨time,-,rfl⟩ := Option.map_eq_some_iff.mp hcx.2
  exact ⟨c,hc,rfl⟩

/-- Rows with a text give the messages with a text they were made from. -/
theorem texts_of_content {l : List Entry} (hw : ∀ x ∈ l, w.parse (w.string x.msg) = some x.msg)
    (hm : rows.map rowContent = l.map (entryContent w)) :
    (rows.filter fun r => r.text.isSome).filterMap (fun r => w.parse r.raw) =
      (l.filter Entry.hasText).map Entry.msg := by
  have hrows : (rows.filter fun r => r.text.isSome).filterMap (fun r => w.parse r.raw) =
      ((rows.map rowContent).filter fun x => x.2.2.isSome).filterMap fun x => w.parse x.2.1 := by
    rw [filter_map,filterMap_map]
    rfl
  rw [hrows,hm,filter_map,filterMap_map,← filterMap_eq_map]
  have hfilter : l.filter ((fun x : Int × String × Option String => x.2.2.isSome) ∘ entryContent w) =
      l.filter Entry.hasText := by
    congr 1
    funext x
    exact textColumn_isSome x.msg
  rw [hfilter]
  apply filterMap_congr
  intro x hx
  simp [entryContent,hw x (mem_of_mem_filter hx)]

theorem entries_carried (hw : w.Carries calls) :
    ∀ x ∈ entries b network entity calls, w.parse (w.string x.msg) = some x.msg := by
  intro x hx
  obtain ⟨c,hc,hmsg⟩ := call_of_mem_entries hx
  rw [← hmsg]
  exact hw c hc

section
variable (hw : w.Carries calls) (hm : rows.map rowContent = (entries b network entity calls).map (entryContent w))
include hw hm

/-- The candidates among the rows that were added give the texts that were added. -/
theorem texts_eq :
    (rows.filter fun r => r.text.isSome).filterMap (fun r => w.parse r.raw) = texts b network entity calls :=
  texts_of_content (entries_carried hw) hm

theorem parse_isSome_of_content : ∀ r ∈ rows, (w.parse r.raw).isSome := by
  intro r hr
  have hmem : rowContent r ∈ (entries b network entity calls).map (entryContent w) := hm ▸ mem_map_of_mem hr
  obtain ⟨x,hx,hxr⟩ := mem_map.mp hmem
  have hraw : r.raw = w.string x.msg := (congrArg (·.2.1) hxr).symm
  simp [hraw,entries_carried hw x hx]

end

/-- The rows of a buffer before and after a point, as the calls put them there. -/
theorem rows_split (b : Backend) (w : Wire) (network : Int) (entity : String) (before after : List AppendCall) :
    ∃ old new, (appendAll b w before .empty).rows.filter (ofBuffer network entity) = old ∧
      (appendAll b w (before ++ after) .empty).rows.filter (ofBuffer network entity) = old ++ new ∧
      old.map rowContent = (entries b network entity before).map (entryContent w) ∧
      new.map rowContent = (entries b network entity after).map (entryContent w) ∧
      (old.Pairwise fun r s => r.id < s.id) ∧ (∀ r ∈ old, 0 < r.id) ∧
      (∀ r ∈ old, ∀ s ∈ new, r.id < s.id) := by
  obtain ⟨rows,hr,hn,-,hm⟩ := appendAll_spec b w network entity before numbered_empty
  obtain ⟨rows',hr',-,hl',hm'⟩ := appendAll_spec b w network entity after hn
  have hall : appendAll b w (before ++ after) .empty = appendAll b w after (appendAll b w before .empty) := by
    simp [appendAll]
  have hrows : (appendAll b w before .empty).rows = rows := by simpa [Db.empty] using hr
  refine ⟨rows.filter (ofBuffer network entity),rows'.filter (ofBuffer network entity),?_,?_,hm,hm',?_,?_,?_⟩
  · rw [hrows]
  · rw [hall,hr',hrows,filter_append]
  · exact (hrows ▸ hn.increasing).filter _
  · intro r hmem
    exact hn.pos r (hrows ▸ mem_of_mem_filter hmem)
  · intro r hmem s hs
    have h1 := hn.last r (hrows ▸ mem_of_mem_filter hmem)
    have h2 := hl' s (mem_of_mem_filter hs)
    omega

theorem loadsWhatFollows_of_latestLast {after : List AppendCall} (limit : Int) (hafter : w.Carries after)
    (h : LatestLast (entries b network entity before)) : LoadsWhatFollows b w e before after network entity limit := by
  set db := appendAll b w before .empty
  obtain ⟨old,new,hold,hboth,hm,hm',hinc,hpos,hlt⟩ := rows_split b w network entity before after
  have hquiet := (latestLast_iff hm hinc).mp h
  have hcand : candidates (appendAll b w (before ++ after) .empty) network entity
      (getMessageLastID e db network entity) =
      new.filter fun r => r.text.isSome := by
    have hspec := getMessageLastID_spec e db network entity
    rw [hold] at hspec
    rw [candidates,hboth,filter_append]
    rcases hspec with ⟨hnil,hid⟩ | ⟨r,hr,hmax,hid⟩
    · simp [hnil,hid]
    have hr0 := hpos r hr
    have hnone : ∀ s ∈ old, ((decide (r.id ≤ 0) || decide (r.id < s.id)) && s.text.isSome) = false := by
      intro s hs
      by_cases hrs : r.id < s.id
      · simp [hquiet r hr hmax s hs hrs]
      · simp [hrs,hr0]
    have hsome : ∀ s ∈ new, ((decide (r.id ≤ 0) || decide (r.id < s.id)) && s.text.isSome) = s.text.isSome := by
      intro s hs
      simp [hlt r hr s hs]
    rw [hid,filter_congr hsome,filter_eq_nil_iff.mpr fun s hs => by simp [hnone s hs],nil_append]
  have htexts := texts_eq hafter hm'
  have hparse : ∀ r ∈ new.filter (fun r => r.text.isSome), (w.parse r.raw).isSome :=
    fun r hr => parse_isSome_of_content hafter hm' r (mem_of_mem_filter hr)
  rw [← hcand] at hparse htexts
  refine ⟨?_,?_⟩
  · intro l hload
    exact htexts ▸ loaded_subperm hparse hload
  intro hl
  refine ⟨_,loadLatestID_eq hl hparse,?_⟩
  intro hk
  have hperm := e.orderDesc_perm (candidates (appendAll b w (before ++ after) .empty) network entity
    (getMessageLastID e db network entity))
  have hlen : (candidates (appendAll b w (before ++ after) .empty) network entity
      (getMessageLastID e db network entity)).length ≤ limit.toNat := by
    rw [← filterMap_length_eq_length.mpr hparse,htexts]
    omega
  rw [take_of_length_le (hperm.length_eq.trans_le hlen),← htexts]
  exact (reverse_perm _).trans (hperm.filterMap _)

/-- An order of the rows by time that SQL allows, with `r` before the others of its time. -/
def Ahead (r a b : Row) : Prop := b.time < a.time ∨ (a.time = b.time ∧ (b = r → a = r))

instance (r : Row) : DecidableRel (Ahead r) := fun _ _ => inferInstanceAs (Decidable (_ ∨ _))

instance (r : Row) : Std.Total (Ahead r) where
  total a b := by
    rcases Int.lt_trichotomy a.time b.time with h | h | h
    · exact Or.inr (Or.inl h)
    · by_cases ha : a = r
      · exact Or.inl (Or.inr ⟨h,fun _ => ha⟩)
      · exact Or.inr (Or.inr ⟨h.symm,fun hc => absurd hc ha⟩)
    · exact Or.inl (Or.inl h)

instance (r : Row) : IsTrans Row (Ahead r) where
  trans a b c hab hbc := by
    unfold Ahead at *
    rcases hab with hab | ⟨hab,hab'⟩ <;> rcases hbc with hbc | ⟨hbc,hbc'⟩
    · exact Or.inl (by omega)
    · exact Or.inl (by omega)
    · exact Or.inl (by omega)
    · exact Or.inr ⟨by omega,fun hc => hab' (hbc' hc)⟩

/-- An engine that breaks ties in favour of `r`. -/
def favouring (r : Row) : Engine where
  orderDesc rows := rows.insertionSort (Ahead r)
  orderAsc rows := (rows.insertionSort (Ahead r)).reverse
  matchText _ _ := true
  orderDesc_perm rows := perm_insertionSort _ rows
  orderDesc_sorted rows := (pairwise_insertionSort (Ahead r) rows).imp fun h => by
    rcases h with h | h <;> omega
  orderAsc_perm rows := (reverse_perm _).trans (perm_insertionSort _ rows)
  orderAsc_sorted rows := pairwise_reverse.mpr <|
    (pairwise_insertionSort (Ahead r) rows).imp fun h => by rcases h with h | h <;> omega

/-- A favoured row with the latest time is the one that gives the last id. -/
theorem lastID_favouring (hr : r ∈ db.rows.filter (ofBuffer network entity))
    (hmax : ∀ s ∈ db.rows.filter (ofBuffer network entity), s.time ≤ r.time) :
    getMessageLastID (favouring r) db network entity = r.id := by
  have hperm := (favouring r).orderDesc_perm (db.rows.filter (ofBuffer network entity))
  have hsorted : ((favouring r).orderDesc (db.rows.filter (ofBuffer network entity))).Pairwise
      (Ahead r) := pairwise_insertionSort (Ahead r) _
  cases ho : (favouring r).orderDesc (db.rows.filter (ofBuffer network entity)) with
  | nil =>
    rw [ho] at hperm
    rw [hperm.symm.eq_nil] at hr
    cases hr
  | cons s rows =>
    rw [ho] at hperm hsorted
    have hfirst : s = r := by
      rcases mem_cons.mp (hperm.symm.subset hr) with hrs | hmem
      · exact hrs.symm
      rcases (pairwise_cons.mp hsorted).1 r hmem with hlt | ⟨-,hfav⟩
      · have := hmax s (hperm.subset mem_cons_self)
        omega
      · exact hfav rfl
    unfold getMessageLastID
    unfold ofBuffer at ho
    rw [ho,hfirst]

theorem loaded_length (hl : 0 ≤ limit) (hp : ∀ r ∈ candidates db network entity id, (w.parse r.raw).isSome)
    (h : loadLatestID b w e db ⟨network,entity,.db id⟩ ⟨network,entity,limit,false⟩ = .ok l) :
    l.length = min limit.toNat (candidates db network entity id).length := by
  have hperm := e.orderDesc_perm (candidates db network entity id)
  have hsome : ∀ r ∈ (e.orderDesc (candidates db network entity id)).take limit.toNat,
      (w.parse r.raw).isSome := fun r hr => hp r (hperm.subset (take_subset _ _ hr))
  rw [loadLatestID_eq hl hp,Except.ok.injEq] at h
  rw [← h,length_reverse,filterMap_length_eq_length.mpr hsome,length_take,hperm.length_eq]

theorem latestLast_of_loadsWhatFollows (hbefore : w.Carries before)
    (h : ∀ e, LoadsWhatFollows b w e before [] network entity 1) : LatestLast (entries b network entity before) := by
  obtain ⟨old,-,hold,-,hm,-,hinc,-,-⟩ := rows_split b w network entity before []
  rw [latestLast_iff hm hinc]
  intro r hr hmax s hs hrs
  by_contra htext
  obtain ⟨hsub,hload⟩ := h (favouring r)
  rw [append_nil,lastMsgID,lastID_favouring (hold ▸ hr) (hold ▸ hmax)] at hsub hload
  obtain ⟨l,hl,-⟩ := hload (by decide)
  have hparse : ∀ q ∈ candidates (appendAll b w before .empty) network entity r.id, (w.parse q.raw).isSome := by
    intro q hq
    rw [candidates,hold] at hq
    exact parse_isSome_of_content hbefore hm q (mem_of_mem_filter hq)
  have hcand : s ∈ candidates (appendAll b w before .empty) network entity r.id := by
    rw [candidates,hold]
    refine mem_filter.mpr ⟨hs,?_⟩
    simpa [hrs,← Option.isSome_iff_ne_none] using htext
  have hlen := loaded_length (by decide) hparse hl
  have hnil : l = [] := subperm_nil.mp (hsub l hl)
  have hpos := length_pos_of_mem hcand
  rw [hnil,length_nil] at hlen
  omega

/-- The last ID marks the place it was taken at, whatever follows and whichever way the
engine breaks ties, exactly when nothing but events came after the latest time. -/
theorem loads_what_follows_iff (b : Backend) (w : Wire) (before : List AppendCall) (network : Int)
    (entity : String) (hbefore : w.Carries before) :
    (∀ (e : Engine) (after : List AppendCall) (limit : Int), w.Carries after →
      LoadsWhatFollows b w e before after network entity limit) ↔
    LatestLast (entries b network entity before) := by
  constructor
  · intro h
    exact latestLast_of_loadsWhatFollows hbefore fun e => h e [] 1 (by simp [Wire.Carries])
  · intro h e after limit hafter
    exact loadsWhatFollows_of_latestLast limit hafter h

section
variable (time text : String)

/-- A message of one user to one channel. -/
def said : Message := ⟨[("time",time)],some ⟨"bob","",""⟩,"PRIVMSG",["#chan",text]⟩

/-- A call of `Append` that nothing goes wrong with. -/
def saidCall : AppendCall := ⟨⟨0,0,true⟩,1,"#chan",said time text⟩

end

def noRow : Row := ⟨0,0,"","",0,"",none⟩

/-- A wire format for these messages: the time, which has a fixed width, and the text. -/
def saidWire : Wire where
  string msg := (msg.tags.get "time").getD "" ++ msg.param 1
  parse s := some (said (String.ofList (s.toList.take 24)) (String.ofList (s.toList.drop 24)))

theorem third_text_loaded : LoadsWhatFollows .sqlite saidWire (favouring noRow)
      [saidCall "2024-05-01T12:00:03.000Z" "one",saidCall "2024-05-01T12:00:05.000Z" "two"]
      [saidCall "2024-05-01T12:00:04.000Z" "three"] 1 "#chan" 10 :=
  (loads_what_follows_iff .sqlite saidWire
    [saidCall "2024-05-01T12:00:03.000Z" "one",saidCall "2024-05-01T12:00:05.000Z" "two"] 1 "#chan"
    (by decide)).mpr (by decide) _ _ _ (by decide)

/-- The second message has the earlier time, so it comes back though nothing followed. -/
theorem late_text_loaded_again : loadLatestID .sqlite saidWire (favouring noRow) (appendAll .sqlite saidWire
          [saidCall "2024-05-01T12:00:05.000Z" "one",saidCall "2024-05-01T12:00:03.000Z" "two"] .empty)
        (lastMsgID (favouring noRow) (appendAll .sqlite saidWire
          [saidCall "2024-05-01T12:00:05.000Z" "one",saidCall "2024-05-01T12:00:03.000Z" "two"] .empty)
          1 "#chan") ⟨1,"#chan",10,false⟩ =
      .ok [said "2024-05-01T12:00:03.000Z" "two"] := by
  rfl

end Sake.Proofs.DbStore
