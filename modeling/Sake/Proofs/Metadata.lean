import Sake.Metadata

namespace Sake.Proofs.Metadata
open Sake.Metadata MessageTargets

variable {answers : MessageTargets.Answers}

section Rows
theorem set_id (key : Key) (mt : MessageTarget) (b : Bool) : (key.set mt b).id = mt.id := by cases key <;> rfl

theorem find?_store (hstores : answers.stores = true) (h : db.find? (network,target) = some r) {key : Key} (hs : storeMessageTarget db answers network (key.set r.mt b) = some db') :
    db'.find? (network,target) = some { r with mt := key.set r.mt b } := by
  have hne : (key.set r.mt b).id ≠ 0 := by
    rw [set_id]
    exact db.id_ne_zero h
  simp only [storeMessageTarget,hstores,hne,Bool.not_true,Bool.false_eq_true,if_false,
    ne_eq,not_false_eq_true,if_true,Option.some.injEq] at hs
  rw [← hs,Lib.Table.find?_modify fun r _ _ => setFlags_name _ r,h]
  cases key <;> simp [Key.set,setFlags]

theorem store_succeeds (hstores : answers.stores = true) (h : db.find? (network,target) = some r) (key : Key)
    (b : Bool) : ∃ db', storeMessageTarget db answers network (key.set r.mt b) = some db' := by
  have hne : (key.set r.mt b).id ≠ 0 := by
    rw [set_id]
    exact db.id_ne_zero h
  simp [storeMessageTarget,hstores,hne]

theorem set_get (key : Key) (mt : MessageTarget) : key.set mt (key.get mt) = mt := by cases key <;> rfl

theorem get_set (key : Key) (mt : MessageTarget) (b : Bool) : key.get (key.set mt b) = b := by cases key <;> rfl

theorem set_eq_iff (key : Key) (mt : MessageTarget) (b : Bool) : key.set mt b = mt ↔ key.get mt = b := by
  constructor
  · intro h
    rw [← get_set key mt b,h]
  · intro h
    rw [← h,set_get]

end Rows

/-- What the client is sent by the command. -/
def replies (s t : State) : List Message := t.sent.drop s.sent.length

/-- Refused, the command leaves the row as it is; acknowledged, it sets the flag to the value that
it announces, and nothing else. -/
structure Faithful (b : Bound) (target : String) (s t : State) (row : Row) : Prop where
  refused : valueInvalid ∈ replies s t ∨ (∃ k, keyInvalid k ∈ replies s t) →
    t.db.find? (b.network,b.casemap.apply target) = some row
  acknowledged : ∀ k v, keyValue target k v ∈ replies s t → ∃ key flag, Key.ofString k = some key ∧ v = flagText flag ∧
      t.db.find? (b.network,b.casemap.apply target) = some { row with mt := key.set row.mt flag }

/-- A flag is set by a command that the database stores, or has the value; a value that is none
meets a clear flag, or a database that does not store it. -/
def Harmless (answers : MessageTargets.Answers) (k : String) (value : Option String) (mt : MessageTarget) : Prop :=
  ∀ key, answers.gets = true → Key.ofString k = some key →
    match parseMessageTargetMetadataBool value with
    | (flag,_,true) => answers.stores = true ∨ key.get mt = flag
    | (_,_,false) => answers.stores = false ∨ key.get mt = false

section
variable {u : Unicode} {b : Bound} {msg : Message} {s : State} {row : Row}

theorem handleMetadata_set (hset : msg.param 1 = "SET") (hlen : 3 ≤ msg.params.length) (htarget : msg.param 0 ≠ "*") :
    handleMetadata u (some b) answers msg s =
      if answers.gets then
        setAndStore (some b) answers (msg.param 0) [(lower u (msg.param 2),msg.params[3]?)] s
      else { s with sent := s.sent ++ [internalError (msg.param 0)] } := by
  have hbound : (some b).filter (fun _ => decide (msg.param 0 ≠ "*")) = some b := by simp [htarget]
  have hl2 : ¬ msg.params.length < 2 := by omega
  have hl3 : ¬ msg.params.length < 3 := by omega
  rw [handleMetadata,if_neg hl2]
  simp only [hbound,handleTarget,hset,if_neg hl3]
  cases answers.gets <;> rfl

theorem replies_append (h : t.sent = s.sent ++ new) : replies s t = new := by
  rw [replies,h,List.drop_left]

/-- What a command for one key does: it sends the replies, and the record goes to the database. -/
theorem setAndStore_one (answers : Answers) (target k : String) (value : Option String)
    (hrow : s.db.find? (b.network,b.casemap.apply target) = some row) :
    let (mt,sent,_) := setEntry target row.mt k value
    let t := setAndStore (some b) answers target [(k,value)] s
    (∃ db, storeMessageTarget s.db answers b.network mt = some db ∧ t.db = db ∧ replies s t = sent) ∨
      (storeMessageTarget s.db answers b.network mt = none ∧ t.db = s.db ∧
        replies s t = sent ++ [internalError target]) := by
  have hget : getMessageTarget s.db b.network (b.casemap.apply target) = row.mt := by
    rw [getMessageTarget,hrow]
    rfl
  simp only [setAndStore,hget,setMessageTargetMetadata,List.append_nil]
  cases hs : storeMessageTarget s.db answers b.network (setEntry target row.mt k value).1 with
  | some db => exact .inl ⟨db,rfl,rfl,replies_append rfl⟩
  | none => exact .inr ⟨rfl,rfl,replies_append (List.append_assoc _ _ _)⟩

theorem parse_valid (h : parseMessageTargetMetadataBool value = (flag,mv,true)) : mv = flagText flag := by
  cases value with
  | none =>
    cases h
    rfl
  | some v =>
    simp only [parseMessageTargetMetadataBool] at h
    by_cases h1 : v = "1"
    · simp only [h1,if_true,Prod.mk.injEq] at h
      rw [← h.1,← h.2.1]
      rfl
    · by_cases h0 : v = "0"
      · rw [if_neg h1,if_pos h0,Prod.mk.injEq,Prod.mk.injEq] at h
        rw [← h.1,← h.2.1]
        rfl
      · simp [h1,h0] at h

theorem parse_invalid (h : parseMessageTargetMetadataBool value = (flag,mv,false)) : flag = false := by
  cases value with
  | none => simp [parseMessageTargetMetadataBool] at h
  | some v =>
    simp only [parseMessageTargetMetadataBool] at h
    by_cases h1 : v = "1"
    · simp [h1] at h
    by_cases h0 : v = "0"
    · simp [h0] at h
    · simp only [h1,h0,if_false,Prod.mk.injEq] at h
      exact h.1.symm

/-- The row after the command, when the database stores the record and when it does not. -/
theorem find?_after (key : Key) (flag : Bool) (answers : Answers) (hrow : db.find? (network,target) = some row)
    (h : storeMessageTarget db answers network (key.set row.mt flag) = some db' ∨
      storeMessageTarget db answers network (key.set row.mt flag) = none ∧ db' = db) :
    db'.find? (network,target) = if answers.stores then some { row with mt := key.set row.mt flag } else some row := by
  cases hstores : answers.stores with
  | true =>
    rcases h with h | h
    · exact find?_store hstores hrow h
    · obtain ⟨_,hs⟩ := store_succeeds hstores hrow key flag
      rw [hs] at h
      cases h.1
  | false =>
    rcases h with h | h
    · simp [storeMessageTarget,hstores] at h
    · rw [h.2,hrow]
      rfl

/-- Of the messages that a command for one key sends, only an acknowledgement is one. -/
theorem keyValue_mem {msgs : List Message} (hmsgs : ∀ m ∈ msgs, m.command = "FAIL") : keyValue target k v ∉ msgs :=
  fun h => absurd (hmsgs _ h) (by simp [keyValue,message])

theorem keyValue_inj (h : keyValue target k v = keyValue target k' v') : k = k' ∧ v = v' := by
  simp only [keyValue,message,Message.mk.injEq,List.cons.injEq,and_true,true_and] at h
  exact h

theorem unknown_key_faithful
    (hk : Key.ofString k = none) (hrow : s.db.find? (b.network,b.casemap.apply target) = some row)
    (ht : t = setAndStore (some b) answers target [(k,value)] s) : Faithful b target s t row := by
  have hone := setAndStore_one answers target k value hrow
  rw [← ht] at hone
  simp only [setEntry,hk] at hone
  refine ⟨fun _ => ?_,fun k' v hmem => ?_⟩
  · -- the record goes back as it was read
    have hafter : t.db.find? (b.network,b.casemap.apply target) = _ :=
      find?_after .pinned row.mt.pinned answers hrow <| by
        rcases hone with ⟨db,hs,hdb,_⟩ | ⟨hs,hdb,_⟩
        · exact .inl (hdb ▸ hs)
        · exact .inr ⟨hs,hdb⟩
    rw [hafter]
    cases answers.stores <;> rfl
  · refine absurd hmem (keyValue_mem ?_)
    rcases hone with ⟨_,_,_,hr⟩ | ⟨_,_,hr⟩
    · rw [hr]
      simp [keyInvalid,fail,message]
    · rw [hr]
      simp [keyInvalid,internalError,fail,message]

theorem faithful_iff (target k : String) (value : Option String) (hgets : answers.gets = true)
    (hrow : s.db.find? (b.network,b.casemap.apply target) = some row) :
    Faithful b target s (setAndStore (some b) answers target [(k,value)] s) row ↔ Harmless answers k value row.mt := by
  generalize ht : setAndStore (some b) answers target [(k,value)] s = t
  cases hk : Key.ofString k with
  | none =>
    refine iff_of_true (unknown_key_faithful hk hrow ht.symm) ?_
    intro key _ hkey
    rw [hk] at hkey
    cases hkey
  | some key =>
    have hone := setAndStore_one answers target k value hrow
    rw [ht] at hone
    have hharm : Harmless answers k value row.mt ↔ match parseMessageTargetMetadataBool value with
        | (flag,_,true) => answers.stores = true ∨ key.get row.mt = flag
        | (_,_,false) => answers.stores = false ∨ key.get row.mt = false := by
      refine ⟨fun h => h key hgets hk,fun h key' _ hkey => ?_⟩
      rw [hk] at hkey
      cases hkey
      exact h
    rw [hharm]
    rcases hp : parseMessageTargetMetadataBool value with ⟨flag,mv,ok⟩
    have hafter : t.db.find? (b.network,b.casemap.apply target) =
        if answers.stores then some { row with mt := key.set row.mt flag } else some row := by
      refine find?_after key flag answers hrow ?_
      cases ok <;> simp only [setEntry,hk,hp] at hone <;>
        rcases hone with ⟨db,hs,hdb,_⟩ | ⟨hs,hdb,_⟩
      · exact .inl (hdb ▸ hs)
      · exact .inr ⟨hs,hdb⟩
      · exact .inl (hdb ▸ hs)
      · exact .inr ⟨hs,hdb⟩
    cases ok with
    | true =>
      have hmv := parse_valid hp
      simp only [setEntry,hk,hp,if_true] at hone
      have hack : keyValue target k mv ∈ replies s t := by
        rcases hone with ⟨_,_,_,hr⟩ | ⟨_,_,hr⟩ <;> simp [hr]
      have honly : ∀ k' v, keyValue target k' v ∈ replies s t → k' = k ∧ v = mv := by
        intro k' v hmem
        rcases hone with ⟨_,_,_,hr⟩ | ⟨_,_,hr⟩
        · rw [hr] at hmem
          exact keyValue_inj (List.mem_singleton.mp hmem)
        · rw [hr,List.singleton_append,List.mem_cons] at hmem
          refine hmem.elim keyValue_inj fun hmem => absurd hmem (keyValue_mem ?_)
          simp [internalError,fail,message]
      constructor
      · intro h
        obtain ⟨key',flag',hkey',hv,hrow'⟩ := h.acknowledged k mv hack
        rw [hk] at hkey'
        cases hkey'
        rw [hmv] at hv
        rw [hafter] at hrow'
        cases hst : answers.stores with
        | true => exact .inl rfl
        | false =>
          rw [hst,if_neg Bool.false_ne_true,Option.some.injEq] at hrow'
          have hmt := congrArg Row.mt hrow'
          have hflag : flag = flag' := by
            revert hv
            cases flag <;> cases flag' <;> simp [flagText]
          exact .inr ((set_eq_iff key row.mt flag).mp (hflag ▸ hmt.symm))
      · intro h
        refine ⟨fun hrefused => ?_,fun k' v hmem => ?_⟩
        · exfalso
          rcases hone with ⟨_,_,_,hr⟩ | ⟨_,_,hr⟩ <;>
            simp [hr,keyValue,valueInvalid,keyInvalid,internalError,fail,message] at hrefused
        obtain ⟨rfl,rfl⟩ := honly k' v hmem
        refine ⟨key,flag,hk,hmv,?_⟩
        rw [hafter]
        rcases h with h | h
        · rw [h,if_pos rfl]
        · rw [(set_eq_iff key row.mt flag).mpr h]
          cases answers.stores <;> rfl
    | false =>
      have hflag := parse_invalid hp
      simp only [setEntry,hk,hp] at hone
      have hrefused : valueInvalid ∈ replies s t := by
        rcases hone with ⟨_,_,_,hr⟩ | ⟨_,_,hr⟩ <;> simp [hr]
      constructor
      · intro h
        have hrow' := h.refused (.inl hrefused)
        rw [hafter] at hrow'
        cases hst : answers.stores with
        | false => exact .inl rfl
        | true =>
          rw [hst,if_pos rfl,Option.some.injEq] at hrow'
          exact .inr ((set_eq_iff key row.mt false).mp (hflag ▸ congrArg Row.mt hrow'))
      · intro h
        refine ⟨fun _ => ?_,fun k' v hmem => absurd hmem (keyValue_mem ?_)⟩
        · rw [hafter,hflag]
          rcases h with h | h
          · rw [h,if_neg Bool.false_ne_true]
          · rw [(set_eq_iff key row.mt false).mpr h]
            cases answers.stores <;> rfl
        · rcases hone with ⟨_,_,_,hr⟩ | ⟨_,_,hr⟩ <;>
            simp [hr,valueInvalid,internalError,fail,message]

/-- SET for a target that has a row. -/
theorem set_faithful_iff (u : Unicode) (b : Bound) (answers : MessageTargets.Answers) (msg : Message) (s : State) (row : Row)
    (hset : msg.param 1 = "SET") (hlen : 3 ≤ msg.params.length) (htarget : msg.param 0 ≠ "*")
    (hrow : s.db.find? (b.network,b.casemap.apply (msg.param 0)) = some row) :
    Faithful b (msg.param 0) s (handleMetadata u (some b) answers msg s) row ↔
      Harmless answers (lower u (msg.param 2)) msg.params[3]? row.mt := by
  rw [handleMetadata_set hset hlen htarget]
  cases hgets : answers.gets with
  | true => exact faithful_iff (msg.param 0) _ _ hgets hrow
  | false =>
    refine iff_of_true ⟨fun _ => hrow,fun k v hmem => absurd hmem (keyValue_mem ?_)⟩ fun _ hg => ?_
    · rw [replies_append rfl]
      simp [internalError,fail,message]
    · rw [hgets] at hg
      cases hg

end

def oneTarget (pinned : Bool) : MessageTargets := .single ⟨1,⟨1,"#chan",pinned,false,false⟩⟩ Int.one_pos

def bound : Bound := ⟨1,.rfc1459⟩

/-- A pinned target is unpinned. -/
theorem flag_is_set : Faithful bound "#Chan" ⟨oneTarget true,[],[],[]⟩
    (handleMetadata .ascii (some bound) ⟨true,true,true,2⟩
      (message "METADATA" ["#Chan","SET","soju.im/pinned","0"]) ⟨oneTarget true,[],[],[]⟩)
    ⟨1,⟨1,"#chan",true,false,false⟩⟩ := by
  refine (set_faithful_iff .ascii bound _ (message "METADATA" ["#Chan","SET","soju.im/pinned","0"]) _
    ⟨1,⟨1,"#chan",true,false,false⟩⟩ rfl (Nat.le_succ 3) (by decide) rfl).mpr ?_
  intro key _ hkey
  cases hkey
  exact .inl rfl

/-- A value that is refused clears the flag. -/
theorem invalid_value_clears_flag :
    let s : State := ⟨oneTarget true,[],[],[]⟩
    let t := handleMetadata .ascii (some bound) ⟨true,true,true,2⟩
      (message "METADATA" ["#chan","SET","soju.im/pinned","yes"]) s
    t.sent = [valueInvalid] ∧ s.db.find? (1,"#chan") = some ⟨1,⟨1,"#chan",true,false,false⟩⟩ ∧
      t.db.find? (1,"#chan") = some ⟨1,⟨1,"#chan",false,false,false⟩⟩ :=
  ⟨rfl,rfl,rfl⟩

end Sake.Proofs.Metadata
