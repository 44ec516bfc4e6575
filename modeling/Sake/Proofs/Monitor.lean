import Mathlib.Data.Set.Basic
import Mathlib.Tactic.Tauto
import Sake.Monitor
import Sake.Proofs.CaseMapping
import Sake.Proofs.Strings

namespace Sake.Proofs.Monitor
open Sake.Monitor Sake.Strings List CaseMapping Set
open Upstream (Conn)

variable {cm : CaseMapping}

section Names

/-- The names as they are compared. -/
def keysOf (cm : CaseMapping) (names : List String) : Set String := { k | ∃ name ∈ names, cm.apply name = k }

theorem keysOf_append (cm : CaseMapping) (names names' : List String) :
    keysOf cm (names ++ names') = keysOf cm names ∪ keysOf cm names' := by
  ext k
  simp [keysOf,mem_ofPred_eq,mem_union,mem_append,or_and_right,exists_or]

theorem keysOf_cons (cm : CaseMapping) (name : String) (names : List String) (k : String) :
    k ∈ keysOf cm (name :: names) ↔ k = cm.apply name ∨ k ∈ keysOf cm names := by
  simp only [keysOf,mem_cons,exists_eq_or_imp]
  exact or_congr eq_comm Iff.rfl

theorem keysOf_nil (cm : CaseMapping) : keysOf cm [] = ∅ := by
  ext k
  simp [keysOf]

theorem any_equal : names.any (equal cm name) = true ↔ cm.apply name ∈ keysOf cm names := by
  rw [any_eq_true]
  refine exists_congr fun name' => and_congr_right fun _ => ?_
  rw [equal,beq_iff_eq]
  exact eq_comm

theorem names_keys (m : CasedMap V) (hm : m.casemap = cm) : k ∈ keysOf cm m.names ↔ k ∈ m.map.keys m.casemap := by
  subst hm
  simp only [keysOf,CasedMap.names,CaseMappingMap.names,CaseMappingMap.keys,mem_map]
  constructor
  · rintro ⟨name,⟨e,he,rfl⟩,rfl⟩
    exact ⟨e,he,rfl⟩
  · rintro ⟨e,he,rfl⟩
    exact ⟨e.1,⟨e,he,rfl⟩,rfl⟩

theorem has_iff (m : CasedMap V) (hm : m.casemap = cm) (name : String) :
    m.has name = true ↔ cm.apply name ∈ keysOf cm m.names := by
  rw [names_keys m hm,← hm]
  exact CaseMappingMap.mem_keys_of_has

/-- A name that may stand in a command. -/
def Clean (name : String) : Prop := name ≠ "" ∧ ',' ∉ name.toList

theorem mapChar_upper_ne (cm : CaseMapping) (hl : 65 ≤ n) (hu : n ≤ 90) : cm.mapChar (Char.ofNat n) ≠ ',' := by
  have hall : ∀ k < 26, cm.mapChar (Char.ofNat (k + 65)) ≠ ',' := by
    cases cm <;> decide
  have hn := hall (n - 65) (by omega)
  rwa [Nat.sub_add_cancel hl] at hn

theorem mapChar_comma : cm.mapChar r = ',' ↔ r = ',' := by
  by_cases h : 'A' ≤ r ∧ r ≤ 'Z'
  · have hne := mapChar_upper_ne cm (n := r.toNat) h.1 h.2
    rw [Char.ofNat_toNat] at hne
    refine ⟨fun heq => absurd heq hne,fun heq => ?_⟩
    subst heq
    exact absurd h.1 (by decide)
  · by_cases hs : r ∈ special
    · simp only [special,mem_cons,not_mem_nil,or_false] at hs
      rcases hs with rfl | rfl | rfl | rfl <;> cases cm <;> decide
    · rw [mapChar_fixed cm h hs]

theorem clean_apply (cm : CaseMapping) (name : String) : Clean (cm.apply name) ↔ Clean name := by
  have hempty text : text = "" ↔ text.toList = [] := ⟨fun h => h ▸ rfl,fun h => String.toList_inj.mp h⟩
  unfold Clean apply
  refine and_congr ?_ ?_
  · rw [Ne,Ne,hempty,hempty name,String.toList_ofList,map_eq_nil_iff]
  · simp [mapChar_comma]

theorem Clean.congr (h : cm.apply a = cm.apply b) (ha : Clean a) : Clean b := by
  rw [← clean_apply cm,← h,clean_apply]
  exact ha

end Names

section Generated
variable {msgs : List Message}

/-- Commands that name these targets. -/
structure Generated (subcmd : String) (targets : List String) (msgs : List Message) : Prop where
  commands : ∀ msg ∈ msgs, ∃ text, msg = command [subcmd,text]
  targets : msgs.flatMap targetsOf = targets

theorem targetsOf_join (subcmd : String) (h : ∀ target ∈ buf, Clean target) :
    targetsOf (command [subcmd,",".intercalate buf]) = buf := by
  cases hb : buf with
  | nil => rfl
  | cons target rest =>
    have hsplit : split ',' (",".intercalate buf) = buf :=
      Strings.split_intercalate (hb ▸ cons_ne_nil _ _) fun word hword => (h word hword).2
    have hne : buf.filter (· != "") = buf := filter_eq_self.mpr fun target ht => bne_iff_ne.mpr (h target ht).1
    rw [← hb]
    exact (congrArg (List.filter (· != "")) hsplit).trans hne

theorem generateLoop_generated (subcmd : String) (maxLength : Nat) (buf : List String) (n : Nat)
    (ht : ∀ target ∈ targets, Clean target) (hb : ∀ target ∈ buf, Clean target) :
    Generated subcmd (buf ++ targets) (generateLoop subcmd maxLength targets buf n) := by
  induction targets generalizing buf n with
  | nil =>
    unfold generateLoop
    split
    · rename_i hnil
      subst hnil
      exact ⟨fun _ h => (nomatch h),rfl⟩
    · refine ⟨fun msg hmsg => ⟨_,mem_singleton.mp hmsg⟩,?_⟩
      rw [flatMap_singleton,targetsOf_join subcmd hb,append_nil]
  | cons target targets ih =>
    have htarget := ht target mem_cons_self
    have hrest : ∀ target' ∈ targets, Clean target' := fun t h => ht t (mem_cons_of_mem _ h)
    unfold generateLoop
    split
    · have hloop := ih [target] (target.utf8ByteSize + 1) hrest
        fun t h => mem_singleton.mp h ▸ htarget
      refine ⟨fun msg hmsg => ?_,?_⟩
      · rcases mem_cons.mp hmsg with rfl | hmsg
        · exact ⟨_,rfl⟩
        · exact hloop.commands msg hmsg
      · rw [flatMap_cons,targetsOf_join subcmd hb,hloop.targets]
        rfl
    · have hloop := ih (buf ++ [target]) (n + target.utf8ByteSize + 1) hrest fun t h =>
        (mem_append.mp h).elim (hb t) fun h => mem_singleton.mp h ▸ htarget
      rw [append_assoc] at hloop
      exact hloop

theorem generateMonitor_generated (subcmd : String) (ht : ∀ target ∈ targets, Clean target) :
    Generated subcmd targets (generateMonitor subcmd targets) :=
  generateLoop_generated subcmd _ [] 0 ht fun _ h => nomatch h

theorem mem_addToList : k ∈ keysOf cm (addToList cm server target) ↔ k ∈ keysOf cm server ∨ k = cm.apply target := by
  unfold addToList
  split
  · rename_i hin
    refine ⟨.inl,fun h => h.elim id fun h => ?_⟩
    rw [h]
    exact any_equal.mp hin
  · rw [keysOf_append,mem_union,keysOf_cons,keysOf_nil]
    simp

theorem mem_execute_add : k ∈ keysOf cm (execute cm server (command ["+",text])) ↔
      k ∈ keysOf cm server ∨ k ∈ keysOf cm (targetsOf (command ["+",text])) := by
  change k ∈ keysOf cm ((targetsOf (command ["+",text])).foldl (addToList cm) server) ↔ _
  induction targetsOf (command ["+",text]) generalizing server with
  | nil => simp [keysOf_nil]
  | cons target targets ih => rw [foldl_cons,ih,mem_addToList,or_assoc,keysOf_cons]

theorem mem_execute_remove : k ∈ keysOf cm (execute cm server (command ["-",text])) ↔
      k ∈ keysOf cm server ∧ k ∉ keysOf cm (targetsOf (command ["-",text])) := by
  constructor
  · rintro ⟨name,hname,rfl⟩
    obtain ⟨hin,hnot⟩ := mem_filter.mp hname
    refine ⟨⟨name,hin,rfl⟩,fun h => ?_⟩
    rw [any_equal.mpr h] at hnot
    cases hnot
  · rintro ⟨⟨name,hname,rfl⟩,hnot⟩
    refine ⟨name,mem_filter.mpr ⟨hname,?_⟩,rfl⟩
    rw [Bool.not_eq_true']
    exact Bool.not_eq_true _ ▸ fun h => hnot (any_equal.mp h)

theorem mem_execute_adds (h : ∀ msg ∈ msgs, ∃ text, msg = command ["+",text]) (server : List String) (k : String) :
    k ∈ keysOf cm (msgs.foldl (execute cm) server) ↔ k ∈ keysOf cm server ∨ k ∈ keysOf cm (msgs.flatMap targetsOf) := by
  induction msgs generalizing server with
  | nil => simp [keysOf_nil]
  | cons msg msgs ih =>
    obtain ⟨text,rfl⟩ := h msg mem_cons_self
    rw [foldl_cons,ih fun m hm => h m (mem_cons_of_mem _ hm),mem_execute_add,flatMap_cons,
      keysOf_append,mem_union,or_assoc]

theorem mem_execute_removes (h : ∀ msg ∈ msgs, ∃ text, msg = command ["-",text]) (server : List String) (k : String) :
    k ∈ keysOf cm (msgs.foldl (execute cm) server) ↔ k ∈ keysOf cm server ∧ k ∉ keysOf cm (msgs.flatMap targetsOf) := by
  induction msgs generalizing server with
  | nil => simp [keysOf_nil]
  | cons msg msgs ih =>
    obtain ⟨text,rfl⟩ := h msg mem_cons_self
    rw [foldl_cons,ih fun m hm => h m (mem_cons_of_mem _ hm),mem_execute_remove,flatMap_cons,
      keysOf_append,mem_union,not_or,and_assoc]

theorem answers_adds (h : Generated "+" targets msgs) : msgs.flatMap answersTo = targets := by
  rw [← h.targets]
  refine flatMap_congr fun msg hmsg => ?_
  obtain ⟨text,rfl⟩ := h.commands msg hmsg
  rfl

theorem answers_removes (h : Generated "-" targets msgs) : msgs.flatMap answersTo = [] := by
  refine flatMap_eq_nil_iff.mpr fun msg hmsg => ?_
  obtain ⟨text,rfl⟩ := h.commands msg hmsg
  rfl

end Generated

section Update
variable {uc : Conn}

/-- What clients ask for, without the service. -/
def wantKeys (cm : CaseMapping) (targets : List String) : Set String :=
  { k | k ∈ keysOf cm targets ∧ k ≠ cm.apply Live.serviceNick }

def knownKeys (uc : Conn) : Set String := keysOf uc.casemap uc.monitored.names

section
variable (hm : uc.monitored.casemap = uc.casemap)
include hm

theorem seen_iff (nick : String) : seen uc nick = true ↔
      uc.casemap.apply nick ∈ wantKeys uc.casemap uc.dcMonitored ∧ uc.casemap.apply nick ∈ knownKeys uc := by
  simp only [seen,any_eq_true,Bool.and_eq_true,Bool.not_eq_true',Conn.equalCasemap,beq_iff_eq,
    beq_eq_false_iff_ne,has_iff uc.monitored hm,apply_apply]
  constructor
  · rintro ⟨target,htarget,⟨heq,hne⟩,hknown⟩
    rw [← heq]
    exact ⟨⟨⟨target,htarget,rfl⟩,hne⟩,hknown⟩
  · rintro ⟨⟨⟨target,htarget,heq⟩,hne⟩,hknown⟩
    rw [← heq] at hne hknown
    exact ⟨target,htarget,⟨heq,hne⟩,hknown⟩

theorem addTarget_mem (add : List String) (target t : String) : t ∈ addTarget uc add target ↔ t ∈ add ∨
      t = uc.casemap.apply target ∧ t ≠ uc.casemap.apply Live.serviceNick ∧ t ∉ knownKeys uc := by
  have hhas := has_iff uc.monitored hm (uc.casemap.apply target)
  rw [apply_apply] at hhas
  unfold addTarget
  dsimp only
  split
  · rename_i hskip
    refine ⟨.inl,fun h => h.elim id ?_⟩
    rintro ⟨rfl,hne,hnot⟩
    simp only [Bool.or_eq_true,Conn.equalCasemap,beq_iff_eq,hhas,contains_iff_mem] at hskip
    exact hskip.elim (fun h => h.elim (fun h => absurd h hne) fun h => absurd h hnot) id
  · rename_i hadd
    simp only [Bool.or_eq_true,Conn.equalCasemap,beq_iff_eq,hhas,not_or] at hadd
    rw [mem_append,List.mem_singleton]
    refine or_congr Iff.rfl ⟨fun h => ?_,fun h => h.1⟩
    subst h
    exact ⟨rfl,hadd.1.1,hadd.1.2⟩

theorem addTargets_mem (targets add : List String) (t : String) :
    t ∈ targets.foldl (addTarget uc) add ↔ t ∈ add ∨ t ∈ wantKeys uc.casemap targets ∧ t ∉ knownKeys uc := by
  induction targets generalizing add with
  | nil => simp [wantKeys,keysOf_nil]
  | cons target targets ih =>
    rw [foldl_cons,ih,addTarget_mem hm,or_assoc]
    refine or_congr Iff.rfl ?_
    simp only [wantKeys,mem_ofPred_eq,keysOf_cons]
    tauto

theorem removeList_keys : keysOf uc.casemap (removeList uc) = knownKeys uc \ wantKeys uc.casemap uc.dcMonitored := by
  have hseen nick (h : nick ∈ uc.monitored.names) :
      seen uc nick = true ↔ uc.casemap.apply nick ∈ wantKeys uc.casemap uc.dcMonitored := by
    rw [seen_iff hm]
    exact and_iff_left ⟨nick,h,rfl⟩
  ext k
  constructor
  · rintro ⟨nick,hnick,rfl⟩
    obtain ⟨hin,hnot⟩ := mem_filter.mp hnick
    rw [Bool.not_eq_true'] at hnot
    exact ⟨⟨nick,hin,rfl⟩,fun h => Bool.false_ne_true (hnot.symm.trans ((hseen nick hin).mpr h))⟩
  · rintro ⟨⟨nick,hnick,rfl⟩,hnot⟩
    refine ⟨nick,mem_filter.mpr ⟨hnick,?_⟩,rfl⟩
    rw [Bool.not_eq_true',← Bool.not_eq_true,hseen nick hnick]
    exact hnot

variable (hwant : desired uc = true → uc.casemap.apply uc.wantNick.1 ∈ wantKeys uc.casemap uc.dcMonitored)
include hwant

theorem addList_mem (t : String) : t ∈ addList uc ↔ t ∈ wantKeys uc.casemap uc.dcMonitored ∧ t ∉ knownKeys uc := by
  have hfold := addTargets_mem hm uc.dcMonitored []
  simp only [not_mem_nil,false_or] at hfold
  unfold addList
  dsimp only
  split
  · -- the nick we want is added with what the clients ask for, or known already
    rename_i hadd
    simp only [Bool.and_eq_true,Bool.not_eq_true',contains_eq_mem,decide_eq_false_iff_not,hfold] at hadd
    obtain ⟨⟨hnot,hunknown⟩,hdesired⟩ := hadd
    have hknown : uc.casemap.apply uc.wantNick.1 ∉ knownKeys uc := fun h =>
      Bool.false_ne_true (hunknown.symm.trans ((has_iff uc.monitored hm _).mpr h))
    exact absurd ⟨hwant hdesired,hknown⟩ hnot
  · exact hfold t

theorem addList_keys : keysOf uc.casemap (addList uc) = wantKeys uc.casemap uc.dcMonitored \ knownKeys uc := by
  have hself t (h : t ∈ wantKeys uc.casemap uc.dcMonitored) : uc.casemap.apply t = t := by
    obtain ⟨⟨target,-,rfl⟩,-⟩ := h
    exact apply_apply _ _
  ext k
  constructor
  · rintro ⟨t,ht,rfl⟩
    have hmem := (addList_mem hm hwant t).mp ht
    rw [hself t hmem.1]
    exact hmem
  · intro hk
    exact ⟨k,(addList_mem hm hwant k).mpr hk,hself k hk.1⟩

end

/-- A connection whose maps agree on the mapping, of a server that has the command. -/
structure Ready (uc : Conn) : Prop where
  supported : (uc.isupport.any fun kv => kv.1 == "MONITOR") = true
  casemap : uc.monitored.casemap = uc.casemap
  clean : ∀ name ∈ uc.monitored.names, Clean name

section
variable (h : Ready uc) (hwant : desired uc = true → uc.casemap.apply uc.wantNick.1 ∈ wantKeys uc.casemap uc.dcMonitored)
include h hwant

theorem addList_clean (hclean : ∀ target ∈ uc.dcMonitored, Clean target) : ∀ target ∈ addList uc, Clean target := by
  intro t ht
  obtain ⟨⟨⟨target,htarget,rfl⟩,-⟩,-⟩ := (addList_mem h.casemap hwant t).mp ht
  exact (clean_apply _ target).mpr (hclean target htarget)

/-- The server answers for what was not known. It drops what clients do not ask for and adds what was not
known; or it drops everything, when clients ask for nothing. -/
theorem monitorMessages_effect (hclean : ∀ target ∈ uc.dcMonitored, Clean target) (server : List String) :
    keysOf uc.casemap ((monitorMessages uc).flatMap answersTo) = wantKeys uc.casemap uc.dcMonitored \ knownKeys uc ∧
      (keysOf uc.casemap ((monitorMessages uc).foldl (execute uc.casemap) server) =
          keysOf uc.casemap server \ (knownKeys uc \ wantKeys uc.casemap uc.dcMonitored) ∪
            wantKeys uc.casemap uc.dcMonitored \ knownKeys uc ∨
        wantKeys uc.casemap uc.dcMonitored = ∅ ∧
          keysOf uc.casemap ((monitorMessages uc).foldl (execute uc.casemap) server) = ∅) := by
  unfold monitorMessages
  rw [if_pos h.supported]
  dsimp only
  split
  · rename_i hclear
    simp only [Bool.and_eq_true,List.all_eq_true,Bool.not_eq_true',List.isEmpty_iff] at hclear
    obtain ⟨⟨hall,hadd⟩,-⟩ := hclear
    have hnone : wantKeys uc.casemap uc.dcMonitored \ knownKeys uc = ∅ := by
      rw [← addList_keys h.casemap hwant,hadd,keysOf_nil]
    refine ⟨hnone ▸ keysOf_nil _,.inr ⟨?_,keysOf_nil _⟩⟩
    refine eq_empty_of_forall_notMem fun k hk => ?_
    by_cases hknown : k ∈ knownKeys uc
    · obtain ⟨nick,hnick,rfl⟩ := hknown
      exact Bool.false_ne_true ((hall nick hnick).symm.trans ((seen_iff h.casemap nick).mpr ⟨hk,nick,hnick,rfl⟩))
    · exact notMem_empty k (hnone ▸ ⟨hk,hknown⟩)
  · have hremoves := generateMonitor_generated "-" fun target (ht : target ∈ removeList uc) => h.clean target (mem_filter.mp ht).1
    have hadds := generateMonitor_generated "+" (addList_clean h hwant hclean)
    refine ⟨?_,.inl ?_⟩
    · rw [List.flatMap_append,answers_removes hremoves,answers_adds hadds]
      exact addList_keys h.casemap hwant
    · ext k
      rw [List.foldl_append,mem_execute_adds hadds.commands,mem_execute_removes hremoves.commands,hadds.targets,
        hremoves.targets,addList_keys h.casemap hwant,removeList_keys h.casemap]
      rfl

theorem monitorMessages_nil
    (hknown : knownKeys uc = wantKeys uc.casemap uc.dcMonitored) : monitorMessages uc = [] := by
  have hadd : addList uc = [] := by
    refine eq_nil_iff_forall_not_mem.mpr fun t ht => ?_
    obtain ⟨hin,hnot⟩ := (addList_mem h.casemap hwant t).mp ht
    exact hnot (hknown ▸ hin)
  have hremove : removeList uc = [] := by
    refine eq_nil_iff_forall_not_mem.mpr fun nick hnick => ?_
    have hk : uc.casemap.apply nick ∈ keysOf uc.casemap (removeList uc) := ⟨nick,hnick,rfl⟩
    rw [removeList_keys h.casemap] at hk
    exact hk.2 (hknown ▸ hk.1)
  unfold monitorMessages
  rw [if_pos h.supported,hadd,hremove]
  dsimp only
  rw [isEmpty_nil,Bool.not_true,Bool.and_false]
  rfl

end

/-- What the handlers of this module leave as it is. -/
structure Near (uc uc' : Conn) : Prop where
  casemap : uc'.casemap = uc.casemap
  nick : uc'.nick = uc.nick
  wantNick : uc'.wantNick = uc.wantNick
  hasDesiredNick : uc'.hasDesiredNick = uc.hasDesiredNick
  isupport : uc'.isupport = uc.isupport
  monitored : uc'.monitored.casemap = uc.monitored.casemap

theorem Near.desired {uc' : Conn} (h : Near uc uc') : desired uc' = desired uc := by
  unfold Monitor.desired Conn.isOurNick Conn.equalCasemap
  rw [h.casemap,h.nick,h.wantNick,h.hasDesiredNick]

theorem unmonitor_near (uc : Conn) (target : String) :
    Near uc (uc.unmonitor target) ∧ (uc.unmonitor target).monitored = uc.monitored.del target := by
  unfold Conn.unmonitor Conn.forgetUser
  split <;> exact ⟨⟨rfl,rfl,rfl,rfl,rfl,rfl⟩,rfl⟩

theorem Near.trans (h : Near uc uc₁) (h' : Near uc₁ uc₂) : Near uc uc₂ where
  casemap := h'.casemap.trans h.casemap
  nick := h'.nick.trans h.nick
  wantNick := h'.wantNick.trans h.wantNick
  hasDesiredNick := h'.hasDesiredNick.trans h.hasDesiredNick
  isupport := h'.isupport.trans h.isupport
  monitored := h'.monitored.trans h.monitored

theorem unmonitors_near (targets : List String) (uc : Conn) : Near uc (targets.foldl Conn.unmonitor uc) ∧
      (targets.foldl Conn.unmonitor uc).monitored = targets.foldl CasedMap.del uc.monitored := by
  induction targets generalizing uc with
  | nil => exact ⟨⟨rfl,rfl,rfl,rfl,rfl,rfl⟩,rfl⟩
  | cons target targets ih =>
    obtain ⟨hnear,hdel⟩ := unmonitor_near uc target
    obtain ⟨hnear',hdel'⟩ := ih (uc.unmonitor target)
    refine ⟨hnear.trans hnear',?_⟩
    rw [foldl_cons,foldl_cons,hdel',hdel]

theorem dels_names (targets : List String) (m : CasedMap Bool) :
    (∀ name ∈ (targets.foldl CasedMap.del m).names, name ∈ m.names) ∧
      ∀ k, k ∈ keysOf m.casemap (targets.foldl CasedMap.del m).names ↔
        k ∈ keysOf m.casemap m.names ∧ k ∉ keysOf m.casemap targets := by
  induction targets generalizing m with
  | nil => exact ⟨fun _ h => h,fun k => by simp [keysOf_nil]⟩
  | cons target targets ih =>
    obtain ⟨hsub,hkeys⟩ := ih (m.del target)
    have hcm : (m.del target).casemap = m.casemap := rfl
    refine ⟨fun name hname => ?_,fun k => ?_⟩
    · obtain ⟨e,he,rfl⟩ := mem_map.mp (hsub name hname)
      exact mem_map_of_mem (mem_filter.mp he).1
    · have hdel : k ∈ keysOf m.casemap (m.del target).names ↔ k ∈ keysOf m.casemap m.names ∧ k ≠ m.casemap.apply target := by
        rw [names_keys (m.del target) hcm,names_keys m rfl]
        exact CaseMappingMap.mem_keys_del
      rw [hcm] at hkeys
      rw [foldl_cons,hkeys k,hdel,keysOf_cons,not_or,and_assoc]

theorem updateMonitor_effect (h : Ready uc) : Near uc uc.updateMonitor ∧ Ready uc.updateMonitor ∧
      knownKeys uc.updateMonitor = knownKeys uc ∩ wantKeys uc.casemap uc.dcMonitored := by
  have heq : uc.updateMonitor = (removeList uc).foldl Conn.unmonitor uc := by
    unfold Conn.updateMonitor
    rw [if_pos h.supported]
    rfl
  obtain ⟨hnear,hdels⟩ := unmonitors_near (removeList uc) uc
  obtain ⟨hsub,hkeys⟩ := dels_names (removeList uc) uc.monitored
  rw [heq]
  refine ⟨hnear,⟨?_,?_,?_⟩,?_⟩
  · rw [hnear.isupport]
    exact h.supported
  · rw [hnear.monitored,hnear.casemap]
    exact h.casemap
  · rw [hdels]
    exact fun name hname => h.clean name (hsub name hname)
  rw [knownKeys,hnear.casemap,hdels]
  ext k
  have hremove := Set.ext_iff.mp (removeList_keys h.casemap) k
  rw [← h.casemap,hkeys k,h.casemap,hremove]
  simp only [Set.mem_sdiff,Set.mem_inter_iff]
  tauto

end Update

end Sake.Proofs.Monitor
