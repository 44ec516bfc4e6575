import Mathlib.Data.List.Nodup
import Mathlib.Data.List.Sort
import Sake.FsWriter
import Sake.Proofs.LogPath

namespace Sake.Proofs.FsWriter
open Sake.FsStore Sake.MsgStore Sake.Proofs.LogPath Lib Lib.Runs List

variable {host : Host} {net a b : Database.Network} {s : Session} {line : Line} {entity : String}
  {t : Store} {now id : Int} {msg : Message} {networks : List Database.Network}

theorem place_networkDir (host : Host) (h : net.getName ≠ "") :
    place (networkDir host net) = place host.root ++ [step net.getName] := by
  have hjoin := Paths.parse_join host.root.toList ([net.getName].map step) (by
    intro n hn
    obtain ⟨name,-,rfl⟩ := mem_map.mp hn
    exact isName_escapeFilename name)
  rw [filter_steps] at hjoin
  have hone : [net.getName].filter (· ≠ "") = [net.getName] := by simp [h]
  rw [hone] at hjoin
  rw [place,networkDir,joinPath,String.toList_ofList]
  exact congrArg Paths.Path.names hjoin

/-- The way from the directory of a network to the log of a line. -/
def below (host : Host) (line : Line) : List (List Char) :=
  ([line.entity].filter (· ≠ "")).map step ++ [(logName host.zone line.t).toList]

theorem place_linePath (host : Host) (h : net.getName ≠ "") (line : Line) :
    place (linePath host net line) = place (networkDir host net) ++ below host line := by
  rw [place,linePath,parse_logPath,place_networkDir host h]
  simp [place,below,h]

/-- The directories of networks with different names are not below each other. -/
theorem dir_prefix_iff (host : Host) (ha : a.getName ≠ "") (hb : b.getName ≠ "") (rest : List (List Char)) :
    place (networkDir host a) <+: place (networkDir host b) ++ rest ↔
      escapeFilename a.getName = escapeFilename b.getName := by
  rw [place_networkDir host ha,place_networkDir host hb,append_assoc,
    prefix_append_right_inj,singleton_append,cons_prefix_cons,
    and_iff_left List.nil_prefix,step,step,String.toList_inj]

section Find

theorem findNetwork_spec (h : findNetwork networks id = some net) : net ∈ networks ∧ net.id = id :=
  ⟨mem_of_find?_eq_some h,by simpa using List.find?_some h⟩

theorem eq_of_dir_eq (hp : Proper networks) (ha : a ∈ networks)
    (hb : b ∈ networks) (h : escapeFilename a.getName = escapeFilename b.getName) : a = b :=
  inj_on_of_nodup_map hp.apart ha hb h

theorem findNetwork_replace (record : Database.Network) (id : Int) : findNetwork (replaceNetwork networks record) id =
      (findNetwork networks id).map fun net => if net.id = record.id then record else net := by
  have hid : ∀ net : Database.Network, (if net.id = record.id then record else net).id = net.id := by
    intro net
    split
    · rename_i h
      exact h.symm
    · rfl
  simp [findNetwork,replaceNetwork,List.find?_map,Function.comp_def,hid]

end Find

theorem openFile_ok {s : Store}
    (htrue : ∀ h, s.cached entity path = some h → s.disk.node (place path) = some (.file h.inode))
    (h : s.openFile entity path = (.ok i,t)) :
    t.disk.node (place path) = some (.file i) ∧ ∀ q, (t.disk.read q).getD [] = (s.disk.read q).getD [] := by
  cases hc : s.cached entity path with
  | some f =>
    simp only [Store.openFile,hc,Except.ok.injEq] at h
    obtain ⟨rfl,rfl⟩ := h
    exact ⟨htrue f hc,fun q => rfl⟩
  | none =>
    cases hm : s.disk.mkdirAll (place path).dropLast with
    | none => simp [Store.openFile,hc,hm] at h
    | some disk =>
      cases ho : disk.openAppend (place path) with
      | none => simp [Store.openFile,hc,hm,ho] at h
      | some opened =>
        simp only [Store.openFile,hc,hm,ho,Except.ok.injEq] at h
        obtain ⟨rfl,rfl⟩ := h
        obtain ⟨hnode,hread,hother⟩ := Files.Disk.openAppend_spec ho
        refine ⟨hnode,fun q => ?_⟩
        rw [← Files.Disk.read_mkdirAll hm q]
        by_cases hq : q = place path
        · rw [hq,hread,Option.getD_some]
        · rw [hother q hq]

theorem openFile_error {s : Store} (h : s.openFile entity path = (.error e,t)) (q : List (List Char)) :
    t.disk.read q = s.disk.read q := by
  cases hc : s.cached entity path with
  | some f => simp [Store.openFile,hc] at h
  | none =>
    cases hm : s.disk.mkdirAll (place path).dropLast with
    | none =>
      simp only [Store.openFile,hc,hm,Prod.mk.injEq] at h
      rw [← h.2]
    | some disk =>
      cases ho : disk.openAppend (place path) with
      | none =>
        simp only [Store.openFile,hc,hm,ho,Prod.mk.injEq] at h
        rw [← h.2]
        exact Files.Disk.read_mkdirAll hm q
      | some opened => simp [Store.openFile,hc,hm,ho] at h

/-- What a write does to the files: the line is added to its log, or nothing changes. -/
theorem writeLine_reads {s : Store} (htrue : ∀ h, s.cached line.entity (linePath host net line) = some h →
      s.disk.node (place (linePath host net line)) = some (.file h.inode))
    (h : writeLine host s net line now = (r,t)) (q : List (List Char)) :
    (t.disk.read q).getD [] = (s.disk.read q).getD [] ++
      if r.isOk ∧ q = place (linePath host net line) then [line] else [] := by
  cases ho : s.openFile line.entity (linePath host net line) with
  | mk result u =>
    cases result with
    | error e =>
      simp only [writeLine,ho] at h
      obtain ⟨rfl,rfl⟩ := h
      rw [openFile_error ho]
      simp [Except.toBool]
    | ok i =>
      obtain ⟨hnode,hread⟩ := openFile_ok htrue ho
      simp only [writeLine,ho] at h
      split at h
      · obtain ⟨rfl,rfl⟩ := h
        simp [Except.toBool,hread]
      obtain ⟨rfl,rfl⟩ := h
      rw [← hread,Files.Disk.read_append hnode]
      by_cases hq : q = place (linePath host net line)
      · have hcontent : u.disk.read q = some (u.disk.content i) := by
          rw [Files.Disk.read_eq_some_iff]
          exact ⟨i,hq ▸ hnode,rfl⟩
        simp [hq ▸ hcontent,hq,Except.toBool]
      · simp [hq]

theorem lineOf_spec (h : lineOf host net entity msg now = .ok (some line)) :
    line.network = net.id ∧ line.entity = entity := by
  cases ht : DbStore.messageTime now msg with
  | error e => simp [lineOf,ht,bind,Except.bind] at h
  | ok t =>
    cases hm : ZncLog.marshalLine host.unicode host.zone msg t with
    | error e => simp [lineOf,ht,hm,bind,Except.bind] at h
    | ok text =>
      simp only [lineOf,ht,hm,bind,Except.bind] at h
      split at h
      · cases h
      · cases h
        exact ⟨rfl,rfl⟩

/-- Each file holds the lines that belong there, in their order. -/
structure Invariant (host : Host) (s : Session) : Prop where
  proper : Proper s.networks
  owned : ∀ line ∈ s.appended, (findNetwork s.networks line.network).isSome = true
  holds : ∀ q, (s.store.disk.read q).getD [] = s.appended.filter fun line => linePlace host s.networks line = some q

theorem linePlace_eq (host : Host) (hp : Proper networks) (h : findNetwork networks line.network = some net) :
    linePlace host networks line = some (place (networkDir host net) ++ below host line) := by
  have hmem := (findNetwork_spec h).1
  rw [linePlace,h,Option.map_some,place_linePath host (hp.named net hmem)]

theorem Invariant.placed (h : Invariant host s) : Placed host s := by
  constructor
  · intro line hline
    obtain ⟨net,hnet⟩ := Option.isSome_iff_exists.mp (h.owned line hline)
    have hplace := linePlace_eq host h.proper hnet
    refine ⟨_,hplace,?_⟩
    have hq := h.holds (place (networkDir host net) ++ below host line)
    cases hread : s.store.disk.read (place (networkDir host net) ++ below host line) with
    | none =>
      rw [hread,Option.getD_none,eq_comm,filter_eq_nil_iff] at hq
      exact absurd (decide_eq_true hplace) (hq line hline)
    | some lines =>
      rw [hread,Option.getD_some] at hq
      rw [hq]
  · intro p lines hread line hline net hnet hbelow
    have hq := h.holds p
    rw [hread,Option.getD_some] at hq
    rw [hq,mem_filter,decide_eq_true_eq] at hline
    obtain ⟨own,hown⟩ := Option.isSome_iff_exists.mp (h.owned line hline.1)
    obtain ⟨hmem,hid⟩ := findNetwork_spec hown
    have hplace := hline.2
    rw [linePlace_eq host h.proper hown,Option.some.injEq] at hplace
    rw [← hplace,dir_prefix_iff host (h.proper.named net hnet) (h.proper.named own hmem)] at hbelow
    rw [eq_of_dir_eq h.proper hnet hmem hbelow,hid]

theorem append_invariant {t : Session} (hi : Invariant host s) (hg : Trusty host s (.append id entity msg now))
    (h : sessionStep host s (.append id entity msg now) = some t) : Invariant host t := by
  simp only [sessionStep,Option.map_eq_some_iff] at h
  obtain ⟨net,hnet,h⟩ := h
  cases hl : lineOf host net entity msg now with
  | error e =>
    simp only [append,hl] at h
    exact h ▸ hi
  | ok logged =>
    cases logged with
    | none =>
      simp only [append,hl] at h
      exact h ▸ hi
    | some line =>
      obtain ⟨hnid,hentity⟩ := lineOf_spec hl
      have hid : line.network = id := hnid.trans (findNetwork_spec hnet).2
      have htrue : ∀ f, s.store.cached line.entity (linePath host net line) = some f →
          s.store.disk.node (place (linePath host net line)) = some (.file f.inode) := by
        intro f hf
        exact hg net line f hnet hl (hentity ▸ hf)
      cases hw : writeLine host s.store net line now with
      | mk result store =>
        have hread := writeLine_reads htrue hw
        cases result with
        | error e =>
          simp only [append,hl,hw] at h
          subst h
          refine ⟨hi.proper,hi.owned,fun q => ?_⟩
          rw [hread]
          simpa [Except.toBool] using hi.holds q
        | ok msgID =>
          simp only [append,hl,hw] at h
          subst h
          have hplace : linePlace host s.networks line = some (place (linePath host net line)) := by
            rw [linePlace,hid,hnet,Option.map_some]
          refine ⟨hi.proper,?_,fun q => ?_⟩
          · intro other hother
            rcases mem_append.mp hother with hother | hother
            · exact hi.owned other hother
            · rw [mem_singleton.mp hother,hid,hnet]
              rfl
          · rw [hread,hi.holds,filter_append]
            by_cases hq : q = place (linePath host net line)
            · simp [hq,hplace,Except.toBool]
            · simp [hq,hplace,Ne.symm hq]

theorem proper_replace (hp : Proper networks) (hname : record.getName ≠ "")
    (ha : Apart (replaceNetwork networks record)) : Proper (replaceNetwork networks record) := by
  refine ⟨?_,?_,ha⟩
  · have hids : (replaceNetwork networks record).map Database.Network.id =
        networks.map Database.Network.id := by
      rw [replaceNetwork,map_map]
      refine map_congr_left fun net _ => ?_
      simp only [Function.comp_apply]
      split
      · rename_i h
        exact h.symm
      · rfl
    rw [hids]
    exact hp.ids
  · intro net hnet
    obtain ⟨old,hold,rfl⟩ := mem_map.mp hnet
    split
    · exact hname
    · exact hp.named old hold

/-- Where the lines of the renamed network were and are, and where the others stay. -/
theorem linePlace_replace (hi : Invariant host s) (hnet : findNetwork s.networks record.id = some net)
    (hp : Proper (replaceNetwork s.networks record)) (hline : line ∈ s.appended) :
    (linePlace host s.networks line = some (place (networkDir host net) ++ below host line) ∧
      linePlace host (replaceNetwork s.networks record) line =
        some (place (networkDir host record) ++ below host line)) ∨
    ∃ p, linePlace host s.networks line = some p ∧ linePlace host (replaceNetwork s.networks record) line = some p ∧
      ¬ place (networkDir host net) <+: p ∧ ¬ place (networkDir host record) <+: p := by
  obtain ⟨own,hown⟩ := Option.isSome_iff_exists.mp (hi.owned line hline)
  obtain ⟨hmem,hid⟩ := findNetwork_spec hown
  obtain ⟨hnmem,hnid⟩ := findNetwork_spec hnet
  have hrecord : record ∈ replaceNetwork s.networks record := mem_map.mpr ⟨net,hnmem,if_pos hnid⟩
  have hnew := @findNetwork_replace s.networks record line.network
  rw [hown,Option.map_some] at hnew
  by_cases he : own.id = record.id
  · rw [if_pos he] at hnew
    have hsame : own = net := by
      rw [← hid,he,hnet] at hown
      exact (Option.some.inj hown).symm
    subst hsame
    exact Or.inl ⟨linePlace_eq host hi.proper hown,linePlace_eq host hp hnew⟩
  · rw [if_neg he] at hnew
    have hkeep : own ∈ replaceNetwork s.networks record := (findNetwork_spec hnew).1
    refine Or.inr ⟨_,linePlace_eq host hi.proper hown,linePlace_eq host hp hnew,?_,?_⟩
    · rw [dir_prefix_iff host (hi.proper.named net hnmem) (hi.proper.named own hmem)]
      intro hdir
      exact he (eq_of_dir_eq hi.proper hnmem hmem hdir ▸ hnid)
    · rw [dir_prefix_iff host (hp.named record hrecord) (hp.named own hkeep)]
      intro hdir
      exact he (eq_of_dir_eq hp hrecord hkeep hdir ▸ rfl)

theorem owned_replace (hi : Invariant host s) (record : Database.Network) : ∀ line ∈ s.appended,
      (findNetwork (replaceNetwork s.networks record) line.network).isSome = true := by
  intro line hline
  rw [findNetwork_replace,Option.isSome_map]
  exact hi.owned line hline

theorem moved_holds (hi : Invariant host s)
    (hnet : findNetwork s.networks record.id = some net) (hp : Proper (replaceNetwork s.networks record))
    (hmove : s.store.disk.move (place (networkDir host net)) (place (networkDir host record)) =
      some disk) (q : List (List Char)) :
    (disk.read q).getD [] = s.appended.filter fun line =>
      linePlace host (replaceNetwork s.networks record) line = some q := by
  have hcases := fun line (hline : line ∈ s.appended) => linePlace_replace hi hnet hp hline
  by_cases hn : place (networkDir host record) <+: q
  · obtain ⟨rest,rfl⟩ := hn
    rw [Files.Disk.read_move_below hmove,hi.holds]
    refine filter_congr fun line hline => ?_
    rw [decide_eq_decide]
    rcases hcases line hline with ⟨hold,hnew⟩ | ⟨p,hold,hnew,ho,hn⟩
    · rw [hold,hnew,Option.some.injEq,Option.some.injEq,append_right_inj,
        append_right_inj]
    rw [hold,hnew,Option.some.injEq]
    refine iff_of_false ?_ ?_
    · rintro rfl
      exact ho (prefix_append _ _)
    · intro h
      cases h
      exact hn (prefix_append _ _)
  · by_cases ho : place (networkDir host net) <+: q
    · rw [Files.Disk.read_move_left hmove hn ho,Option.getD_none,eq_comm,filter_eq_nil_iff]
      intro line hline
      rw [decide_eq_true_eq]
      rcases hcases line hline with ⟨-,hnew⟩ | ⟨p,-,hnew,hop,-⟩
      · rw [hnew,Option.some.injEq]
        rintro rfl
        exact hn (prefix_append _ _)
      · rw [hnew,Option.some.injEq]
        rintro rfl
        exact hop ho
    · rw [Files.Disk.read_move_other hmove hn ho,hi.holds]
      refine filter_congr fun line hline => ?_
      rw [decide_eq_decide]
      rcases hcases line hline with ⟨hold,hnew⟩ | ⟨p,hold,hnew,-,-⟩
      · rw [hold,hnew,Option.some.injEq,Option.some.injEq]
        refine iff_of_false ?_ ?_
        · rintro rfl
          exact ho (prefix_append _ _)
        · rintro rfl
          exact hn (prefix_append _ _)
      · rw [hold,hnew]

theorem update_invariant {t : Session} (hi : Invariant host s) (hg : Trusty host s (.update record))
    (h : sessionStep host s (.update record) = some t) : Invariant host t := by
  cases hnet : findNetwork s.networks record.id with
  | none => simp [sessionStep,hnet] at h
  | some net =>
    cases hallowed : nameAllowed s.networks record with
    | false => simp [sessionStep,hnet,hallowed] at h
    | true =>
      have hname : record.getName ≠ "" := by
        simp only [nameAllowed,Bool.and_eq_true,decide_eq_true_eq] at hallowed
        exact hallowed.1.1
      have hp := proper_replace hi.proper hname hg
      simp only [sessionStep,hnet,hallowed,not_true_eq_false,if_false] at h
      split at h
      · rename_i hsame
        cases h
        refine ⟨hp,owned_replace hi record,fun q => ?_⟩
        rw [hi.holds]
        refine filter_congr fun line hline => ?_
        have hdir : networkDir host record = networkDir host net := by rw [networkDir,networkDir,hsame]
        rcases linePlace_replace hi hnet hp hline with ⟨hold,hnew⟩ | ⟨p,hold,hnew,-,-⟩
        · rw [hold,hnew,hdir]
        · rw [hold,hnew]
      · cases hr : renameNetwork host s.store net record with
        | error e => simp [hr] at h
        | ok store =>
          simp only [hr,Option.some.injEq] at h
          subst h
          simp only [renameNetwork] at hr
          split at hr
          · cases hr
          split at hr
          · cases hr
          · rename_i hmove
            cases hr
            exact ⟨hp,owned_replace hi record,moved_holds hi hnet hp hmove⟩

theorem start_invariant (hp : Proper networks) : Invariant host (startSession networks) :=
  ⟨hp,fun _ h => absurd h (not_mem_nil),fun _ => rfl⟩

/-- A host in UTC. -/
def utc : Host where
  unicode := .ascii
  zone := .fixed 0
  root := "logs/alice"
  byLastUse files := files.mergeSort fun a b => a.2.lastUse ≤ b.2.lastUse
  byLastUse_perm files := mergeSort_perm files _
  byLastUse_sorted files := by
    refine (pairwise_mergeSort ?_ ?_ files).imp fun h => of_decide_eq_true h
    · intro a b c hab hbc
      rw [decide_eq_true_eq] at hab hbc ⊢
      exact Int.le_trans hab hbc
    · intro a b
      rw [Bool.or_eq_true,decide_eq_true_eq,decide_eq_true_eq]
      exact Int.le_total _ _

def one : Database.Network := ⟨1,"one","irc.one.example",""⟩
def two : Database.Network := ⟨2,"two","irc.two.example",""⟩

def said (text : String) : Message := ⟨[],some ⟨"bob","",""⟩,"PRIVMSG",["#sake",text]⟩

theorem proper_one_two : Proper [one,two] := ⟨by decide,by decide,by decide⟩

/-- The second network takes the name that the first gave up. -/
def swap : List Action :=
  [.append 1 "#sake" (said "a") 0,.append 2 "#go" (said "b") 0,
    .update { one with name := "old" },.update { two with name := "one" },
    .append 2 "#sake" (said "c") 0]

end Sake.Proofs.FsWriter
