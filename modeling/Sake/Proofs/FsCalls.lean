import Sake.Proofs.FsReader
import Sake.Proofs.FsWriter
import Sake.Proofs.LogLines

namespace Sake.Proofs.FsCalls
open Sake.FsStore Sake.MsgStore Sake.ZncLog Sake.Proofs.LogPath Sake.Proofs.FsReader List Option
open Sake.Proofs.FsWriter Sake.Proofs.LogLines Lib

variable {b : Buffered} {s : Store} {lines : List Line} {line : Line} {calls : List Call} {seconds : Int}

/-- The directory of the buffer. -/
def base (b : Buffered) : List (List Char) :=
  place b.host.root ++ ([b.network.getName,b.entity].filter (· ≠ "")).map step

/-- The log of the buffer for a day. -/
def logOf (b : Buffered) (t : Int) : List (List Char) :=
  place (logPath b.host.zone b.host.root b.network b.entity t)

theorem logOf_eq : logOf b t = base b ++ [(logName b.host.zone t).toList] := by
  rw [logOf,place,parse_logPath,base,place,append_assoc]

/-- The store holds the lines of its buffer, and only its logs are open. -/
structure Steady (b : Buffered) (s : Store) (lines : List Line) : Prop where
  holds : ∀ q, (s.disk.read q).getD [] = lines.filter fun line => logOf b line.t = q
  trusty : ∀ path h, s.cached b.entity path = some h → s.disk.node (place path) = some (.file h.inode)
  alone : s.files.filter (fun f => f.1 ≠ b.entity) = []
  files : ∀ q i, s.disk.node q = some (.file i) → q.length = (base b).length + 1
  dirs : ∀ q, s.disk.node q = some .dir → q.length ≤ (base b).length

theorem steady_empty (b : Buffered) : Steady b .empty [] where
  holds _ := rfl
  trusty _ _ h := by cases h
  alone := rfl
  files _ _ h := by cases h
  dirs _ h := by cases h

theorem openFile_steady (hs : Steady b s lines) (t : Int) :
    ∃ i u, s.openFile b.entity (logPath b.host.zone b.host.root b.network b.entity t) = (.ok i,u) ∧ u.files = s.files ∧
      (∀ q j, u.disk.node q = some (.file j) → q.length = (base b).length + 1) ∧
      ∀ q, u.disk.node q = some .dir → q.length ≤ (base b).length := by
  set path := logPath b.host.zone b.host.root b.network b.entity t
  cases hc : s.cached b.entity path with
  | some h => exact ⟨h.inode,s,by simp [Store.openFile,hc],rfl,hs.files,hs.dirs⟩
  | none =>
    have hlast : (logOf b t).dropLast = base b := by rw [logOf_eq,dropLast_concat]
    have hlen : (logOf b t).length = (base b).length + 1 := by rw [logOf_eq]; simp
    obtain ⟨disk,hmk,hnode⟩ := @Files.Disk.mkdirAll_spec _ _ _ s.disk (logOf b t).dropLast (by
      intro q i hq hfile
      have h1 := hs.files q i hfile
      have h2 := hq.length_le
      rw [hlast] at h2
      omega)
    have hdir : disk.node (logOf b t).dropLast = some .dir := by rw [hnode,if_pos (prefix_refl _)]
    have hnotbelow : ¬ logOf b t <+: (logOf b t).dropLast := by
      intro hp
      have := hp.length_le
      rw [hlast] at this
      omega
    have hfile : disk.node (logOf b t) ≠ some .dir := by
      rw [hnode,if_neg hnotbelow]
      intro hd
      have := hs.dirs _ hd
      omega
    obtain ⟨disk',i,hopen,hother⟩ := Files.Disk.openAppend_exists
      (ne_nil_of_length_pos (by omega)) hdir hfile
    have hmk' : s.disk.mkdirAll (place path).dropLast = some disk := hmk
    have hopen' : disk.openAppend (place path) = some (disk',i) := hopen
    refine ⟨i,{ s with disk := disk' },by simp [Store.openFile,hc,hmk',hopen'],rfl,?_,?_⟩
    · intro q j hq
      by_cases hp : q = logOf b t
      · rw [hp,hlen]
      rw [hother q hp,hnode] at hq
      split at hq
      · cases hq
      · exact hs.files q j hq
    · intro q hq
      by_cases hp : q = logOf b t
      · rw [hp,(Files.Disk.openAppend_spec hopen).1] at hq
        cases hq
      rw [hother q hp,hnode] at hq
      split at hq
      · rename_i hbelow
        rw [← hlast]
        exact hbelow.length_le
      · exact hs.dirs q hq

theorem setFile_steady (hs : Steady b s lines) (h : Handle) : setFile s.files b.entity h = [(b.entity,h)] := by
  rw [setFile,hs.alone]

theorem evict_one : evict host [f] = [f] := rfl

/-- A line is written behind the others of its day, and its id says where. -/
theorem writeLine_steady (hs : Steady b s lines) (hentity : line.entity = b.entity) (now : Int) :
    ∃ u, writeLine b.host s b.network line now = (.ok (formatFSMsgID b.host line.network b.entity line.t
          (byteLen (fileBytes (lines.filter fun other => logOf b other.t = logOf b line.t)))),u) ∧
      Steady b u (lines ++ [line]) := by
  obtain ⟨i,v,hopen,hfiles,hf,hd⟩ := openFile_steady hs line.t
  have hpath : linePath b.host b.network line =
      logPath b.host.zone b.host.root b.network b.entity line.t := by rw [linePath,hentity]
  obtain ⟨hnode,hread⟩ := openFile_ok (hs.trusty _) hopen
  have hset : setFile v.files b.entity ⟨logPath b.host.zone b.host.root b.network b.entity line.t,i,now⟩ =
      [(b.entity,⟨logPath b.host.zone b.host.root b.network b.entity line.t,i,now⟩)] := by
    rw [hfiles]
    exact setFile_steady hs _
  have hcontent : v.disk.content i = lines.filter fun other => logOf b other.t = logOf b line.t := by
    have hp := hread (logOf b line.t)
    have hsome : v.disk.read (logOf b line.t) = some (v.disk.content i) := Files.Disk.read_eq_some_iff.mpr ⟨i,hnode,rfl⟩
    rw [hsome,getD_some] at hp
    rw [hp,hs.holds]
  have hwrite : writeLine b.host s b.network line now =
      (.ok (formatFSMsgID b.host line.network b.entity line.t (byteLen (fileBytes (v.disk.content i)))),{ v with
          files := [(b.entity,⟨logPath b.host.zone b.host.root b.network b.entity line.t,i,now⟩)]
          disk := v.disk.append i line }) := by
    simp only [writeLine,hpath,hentity,hopen,hset,evict_one]
    simp
  refine ⟨_,by rw [hwrite,hcontent],?_⟩
  have htrue : ∀ h, s.cached line.entity (linePath b.host b.network line) = some h →
      s.disk.node (place (linePath b.host b.network line)) = some (.file h.inode) := by
    rw [hentity]
    exact hs.trusty _
  have hreads := writeLine_reads htrue hwrite
  refine ⟨?_,?_,?_,hf,hd⟩
  · intro q
    rw [hreads,hs.holds,filter_append,hpath]
    by_cases hq : q = logOf b line.t
    · subst hq
      simp [Except.toBool,logOf]
    · have hq' : ¬ logOf b line.t = q := fun h => hq h.symm
      have hq'' : ¬ q = place (logPath b.host.zone b.host.root b.network b.entity line.t) := hq
      simp [hq',hq'']
  · intro path h hc
    simp only [Store.cached,lookup_cons_self,filter_eq_some_iff,Option.some.injEq,decide_eq_true_eq] at hc
    obtain ⟨rfl,rfl⟩ := hc
    exact hnode
  · simp

/-- The line of a call, if it is logged. -/
def callLine (b : Buffered) (c : Call) : Option Line :=
  match lineOf b.host b.network b.entity c.msg c.now with
  | .ok line => line
  | .error _ => none

def linesOf (b : Buffered) (calls : List Call) : List Line := calls.filterMap (callLine b)

theorem callLine_spec (h : callLine b c = some line) : lineOf b.host b.network b.entity c.msg c.now = .ok (some line) ∧
      line.network = b.network.id ∧ line.entity = b.entity ∧ c.time = some line.t ∧
      marshalLine b.host.unicode b.host.zone c.msg line.t = .ok line.text ∧ line.text ≠ "" := by
  have hl : lineOf b.host b.network b.entity c.msg c.now = .ok (some line) := by
    unfold callLine at h
    split at h
    · rename_i hr
      rw [hr,h]
    · cases h
  refine ⟨hl,(lineOf_spec hl).1,(lineOf_spec hl).2,?_⟩
  cases ht : DbStore.messageTime c.now c.msg with
  | error e => simp [lineOf,ht,bind,Except.bind] at hl
  | ok t =>
    cases hm : marshalLine b.host.unicode b.host.zone c.msg t with
    | error e => simp [lineOf,ht,hm,bind,Except.bind] at hl
    | ok text =>
      simp only [lineOf,ht,hm,bind,Except.bind] at hl
      split at hl
      · cases hl
      · rename_i hne
        cases hl
        exact ⟨by simp [Call.time,ht,Except.toOption],hm,hne⟩

theorem append_steady (hs : Steady b s lines) (c : Call) :
    (callLine b c = none ∧ (append b.host s b.network b.entity c.msg c.now).2 = s ∧
      ∀ id, (append b.host s b.network b.entity c.msg c.now).1 ≠ .ok (some id)) ∨
    ∃ line u, callLine b c = some line ∧ append b.host s b.network b.entity c.msg c.now =
        (.ok (some (formatFSMsgID b.host b.network.id b.entity line.t
          (byteLen (fileBytes (lines.filter fun other => logOf b other.t = logOf b line.t))))),u) ∧
      Steady b u (lines ++ [line]) := by
  cases hc : callLine b c with
  | none =>
    refine Or.inl ⟨rfl,?_⟩
    cases hl : lineOf b.host b.network b.entity c.msg c.now with
    | error e => simp [append,hl]
    | ok r =>
      cases r with
      | none => simp [append,hl]
      | some line => simp [callLine,hl] at hc
  | some line =>
    obtain ⟨hl,hnet,hentity,-⟩ := callLine_spec hc
    obtain ⟨u,hw,hu⟩ := writeLine_steady hs hentity c.now
    refine Or.inr ⟨line,u,rfl,?_,hu⟩
    simp [append,hl,hw,hnet]

theorem appendAll_steady (hs : Steady b s lines) (calls : List Call) :
    Steady b (b.appendAll calls s) (lines ++ linesOf b calls) := by
  induction calls generalizing s lines with
  | nil => simpa [Buffered.appendAll,linesOf] using hs
  | cons c calls ih =>
    rcases append_steady hs c with ⟨hnone,hsame,-⟩ | ⟨line,u,hsome,happ,hu⟩
    · rw [Buffered.appendAll,hsame,linesOf,filterMap_cons_none hnone]
      exact ih hs
    · rw [Buffered.appendAll,happ,linesOf,filterMap_cons_some hsome,← singleton_append,
        ← append_assoc]
      exact ih hu

theorem after_steady (b : Buffered) (calls : List Call) : Steady b (b.after calls) (linesOf b calls) := by
  have := appendAll_steady (steady_empty b) calls
  rwa [nil_append] at this

/-- An id leads behind what was in the log of its day when it was given out. -/
theorem given_spec {id : MsgID} (hfit : ∀ line ∈ linesOf b calls, Fits line.text.toList) (hg : b.Given calls id day) :
    ∃ t offset, id = formatFSMsgID b.host b.network.id b.entity t offset ∧ day = b.dayOf t ∧
      ∀ rest : List Line, (∀ line ∈ rest, Fits line.text.toList) →
        Logs.linesFrom (fileBytes (((linesOf b calls).filter fun line => logOf b line.t = logOf b t) ++
          rest)) offset = ⟨rest.map Line.text,false⟩ := by
  cases hg with
  | append before c _ t hcalls hid ht =>
    subst hcalls
    rcases append_steady (after_steady b before) c with ⟨-,-,hno⟩ | ⟨line,u,hsome,happ,-⟩
    · exact absurd hid (hno id)
    rw [happ] at hid
    cases hid
    obtain ⟨-,-,-,htime,-⟩ := callLine_spec hsome
    obtain rfl : line.t = t := by
      rw [htime] at ht
      exact Option.some.inj ht
    have hlines : linesOf b (before ++ [c]) = linesOf b before ++ [line] := by simp [linesOf,hsome]
    refine ⟨line.t,_,rfl,rfl,fun rest hrest => ?_⟩
    have hone : ([line].filter fun other => logOf b other.t = logOf b line.t) = [line] := by simp
    rw [hlines,filter_append,hone]
    exact linesFrom_line (hfit line (by rw [hlines]; simp)) hrest
  | last t =>
    have hholds := (after_steady b calls).holds (logOf b t)
    refine ⟨t,byteLen (fileBytes ((linesOf b calls).filter fun line => logOf b line.t = logOf b t)) - 1,
      ?_,rfl,fun rest hrest => linesFrom_end hrest⟩
    rw [← hholds,lastMsgID,Store.readFile]
    cases hread : (b.after calls).disk.read (logOf b t) with
    | none =>
      have hread' : (b.after calls).disk.read
          (place (logPath b.host.zone b.host.root b.network b.entity t)) = none := hread
      rw [hread']
      rfl
    | some content =>
      have hread' : (b.after calls).disk.read
          (place (logPath b.host.zone b.host.root b.network b.entity t)) = some content := hread
      rw [hread']
      rfl

/-- What a line says when it is read back in the file it belongs to. -/
def heard (b : Buffered) (line : Line) : Except Failure (Option (Message × Int)) :=
  unmarshalLine b.host.unicode b.host.zone line.text b.user b.network b.entity line.t false

def said (b : Buffered) (line : Line) : Option (Message × Int) := (heard b line).toOption.join

section Heard
variable (hz : b.host.zone = Time.Zone.fixed seconds) (hu : b.host.unicode.Standard)
include hz hu

theorem heard_eq (ho : b.Ordinary c) (h : callLine b c = some line) :
    heard b line = .ok (if c.msg.isText then some (b.restored c.msg line.t) else none) := by
  obtain ⟨-,-,-,-,hm,hne⟩ := callLine_spec h
  cases htext : c.msg.isText with
  | true =>
    obtain ⟨text,hplain⟩ := ho.plain htext
    obtain ⟨line',hline',hback⟩ := ZncLog.plain_unmarshal hu hplain b.host.zone line.t line.t b.user
      b.network b.entity false
    rw [hm] at hline'
    cases hline'
    have htime : b.host.zone.resolve (b.host.zone.wall line.t / Time.day * Time.day +
        b.host.zone.wall line.t % Time.day - line.t % Time.second) =
        line.t - line.t % Time.second := by
      rw [Int.mul_comm (b.host.zone.wall line.t / Time.day),Int.mul_ediv_add_emod,hz]
      exact ZncLog.clockKept_fixed seconds line.t
    rw [heard,hback,htime]
    rfl
  | false =>
    cases hf : formatMessage b.host.unicode c.msg with
    | error e => simp [marshalLine,hf,bind,Except.bind] at hm
    | ok s =>
      rcases ZncLog.event_format ho.upper htext hf with rfl | ⟨rest,hrest⟩
      · simp [marshalLine,hf,bind,Except.bind,pure,Except.pure] at hm
        exact absurd hm hne
      have hs : s ≠ "" := by
        rintro rfl
        cases hrest
      simp only [marshalLine,hf,bind,Except.bind,pure,Except.pure,if_neg hs,Except.ok.injEq] at hm
      rw [heard,← hm,ZncLog.unmarshalLine_timestamp hu,hrest]
      rfl

omit hz in
theorem text_logged (ho : b.Ordinary c) (htext : c.msg.isText = true)
    (ht : c.time = some t) : ∃ line, callLine b c = some line := by
  obtain ⟨text,hplain⟩ := ho.plain htext
  obtain ⟨s,hs,hne,-⟩ := ZncLog.plain_format hu hplain
  have hmt : DbStore.messageTime c.now c.msg = .ok t := by
    unfold Call.time at ht
    cases hm : DbStore.messageTime c.now c.msg with
    | error e => simp [hm,Except.toOption] at ht
    | ok r =>
      rw [hm] at ht
      simpa [Except.toOption] using ht
  have hm : marshalLine b.host.unicode b.host.zone c.msg t = .ok (timestamp b.host.zone t ++ s) := by
    simp [marshalLine,hs,hne,bind,Except.bind,pure,Except.pure]
  have hne' : timestamp b.host.zone t ++ s ≠ "" := by simp [hne]
  exact ⟨_,by simp [callLine,lineOf,hmt,hm,bind,Except.bind,hne']; rfl⟩

theorem texts_eq (ho : ∀ c ∈ calls, b.Ordinary c) :
    b.texts calls = (linesOf b calls).filterMap fun line => said b line := by
  rw [linesOf,filterMap_filterMap]
  refine filterMap_congr fun c hc => ?_
  cases hl : callLine b c with
  | some line =>
    obtain ⟨-,-,-,ht,-⟩ := callLine_spec hl
    rw [bind_some,said,heard_eq hz hu (ho c hc) hl,ht]
    cases c.msg.isText <;> rfl
  | none =>
    cases htext : c.msg.isText with
    | false => rfl
    | true =>
      cases ht : c.time with
      | none => rfl
      | some t =>
        obtain ⟨line,hline⟩ := text_logged hu (ho c hc) htext ht
        rw [hl] at hline
        cases hline

theorem said_time (ho : ∀ c ∈ calls, b.Ordinary c) (hline : line ∈ linesOf b calls)
    (h : said b line = some x) : x.2 = line.t - line.t % Time.second := by
  obtain ⟨c,hc,hl⟩ := mem_filterMap.mp hline
  rw [said,heard_eq hz hu (ho c hc) hl] at h
  cases htext : c.msg.isText with
  | false => simp [htext,Except.toOption] at h
  | true =>
    simp only [htext,Except.toOption,join_some,if_true,Option.some.injEq] at h
    rw [← h]
    rfl

omit hu in
theorem dayOf_whole (t : Int) : b.dayOf (t - t % Time.second) = b.dayOf t := by
  simp only [Buffered.dayOf,hz,Time.Zone.wall,Time.Zone.fixed]
  unfold Time.day Time.second
  omega

end Heard

theorem logOf_eq_iff : logOf b t = logOf b t' ↔ b.dayOf t = b.dayOf t' := by
  rw [logOf_eq,logOf_eq,append_right_inj,singleton_inj,String.toList_inj]
  constructor
  · intro h
    have hdate := congrArg Calendar.dayNumber (logName_injective h)
    simpa [Time.dateOf,Buffered.dayOf] using hdate
  · intro h
    have hdate : Time.dateOf b.host.zone t = Time.dateOf b.host.zone t' := congrArg Calendar.date h
    rw [logName,logName,hdate]

theorem logs_dayOf : (b.logs s).dayOf t = b.dayOf t := rfl

theorem logs_zone : (b.logs s).zone = b.host.zone := rfl

def query (b : Buffered) : Query := ⟨b.network,b.entity,false⟩

theorem parseLines_texts (hday : ∀ line ∈ lines, b.dayOf line.t = b.dayOf ref)
    (hok : ∀ line ∈ lines, ∃ r, heard b line = .ok r) :
    (b.logs s).parseLines (query b) ref (lines.map Line.text) = some (lines.filterMap (said b)) := by
  induction lines with
  | nil => rfl
  | cons line lines ih =>
    obtain ⟨hd,hday⟩ := forall_mem_cons.mp hday
    obtain ⟨⟨r,hr⟩,hok⟩ := forall_mem_cons.mp hok
    have hparse : (b.logs s).parseMessage (query b) ref line.text = .ok r := by
      rw [← parseMessage_congr (show (b.logs s).dayOf line.t = (b.logs s).dayOf ref from hd)]
      exact hr
    have hsaid : said b line = r := by rw [said,hr]; rfl
    cases r with
    | none =>
      rw [filterMap_cons_none hsaid]
      simpa [Logs.parseLines,hparse] using ih hday hok
    | some x =>
      rw [filterMap_cons_some hsaid]
      simp [Logs.parseLines,hparse,ih hday hok]

theorem times_sublist (b : Buffered) (calls : List Call) :
    ((linesOf b calls).map Line.t).Sublist (calls.filterMap Call.time) := by
  induction calls with
  | nil => exact List.Sublist.slnil
  | cons c calls ih =>
    cases hl : callLine b c with
    | some line =>
      obtain ⟨-,-,-,ht,-⟩ := callLine_spec hl
      rw [linesOf,filterMap_cons_some hl,filterMap_cons_some ht]
      exact ih.cons_cons _
    | none =>
      rw [linesOf,filterMap_cons_none hl]
      cases ht : c.time with
      | none =>
        rw [filterMap_cons_none ht]
        exact ih
      | some t =>
        rw [filterMap_cons_some ht]
        exact ih.cons _

theorem file_eq (b : Buffered) (calls : List Call) (ref : Int) : ((b.logs (b.after calls)).file (query b) ref).getD [] =
      fileBytes ((linesOf b calls).filter fun line => b.dayOf line.t = b.dayOf ref) ∧
    ((b.logs (b.after calls)).file (query b) ref = none →
      ((linesOf b calls).filter fun line => b.dayOf line.t = b.dayOf ref) = []) := by
  have hholds := (after_steady b calls).holds (logOf b ref)
  have hfilter : ((linesOf b calls).filter fun line => logOf b line.t = logOf b ref) =
      (linesOf b calls).filter fun line => b.dayOf line.t = b.dayOf ref :=
    filter_congr fun line _ => by rw [decide_eq_decide,logOf_eq_iff]
  rw [hfilter] at hholds
  have hfile : (b.logs (b.after calls)).file (query b) ref =
      ((b.after calls).disk.read (logOf b ref)).map fileBytes := rfl
  rw [hfile,← hholds]
  cases (b.after calls).disk.read (logOf b ref) with
  | none => exact ⟨rfl,fun _ => rfl⟩
  | some lines => exact ⟨rfl,nofun⟩

section Days
variable (hz : b.host.zone = Time.Zone.fixed seconds) (hu : b.host.unicode.Standard) {now : Int}
  (hr : b.Regular calls now)
include hz hu hr

omit hz hu in
theorem linesOf_fits : ∀ line ∈ linesOf b calls, Fits line.text.toList := by
  intro line hline
  obtain ⟨c,hc,hl⟩ := mem_filterMap.mp hline
  obtain ⟨-,-,-,ht,hm,-⟩ := callLine_spec hl
  obtain ⟨h1,h2,h3⟩ := (hr.ordinary c hc).fits line.t line.text ht hm
  exact ⟨h1,h2,h3⟩

theorem linesOf_heard : ∀ line ∈ linesOf b calls, ∃ r, heard b line = .ok r := by
  intro line hline
  obtain ⟨c,hc,hl⟩ := mem_filterMap.mp hline
  exact ⟨_,heard_eq hz hu (hr.ordinary c hc) hl⟩

theorem texts_of_day (d : Int) : ((linesOf b calls).filter fun line => b.dayOf line.t = d).filterMap (said b) =
      (b.texts calls).filter fun x => b.dayOf x.2 = d := by
  rw [texts_eq hz hu hr.ordinary,filter_filterMap,filterMap_filter]
  refine filterMap_congr fun line hline => ?_
  cases hs : said b line with
  | none => simp
  | some x =>
    have hx : b.dayOf x.2 = b.dayOf line.t := by rw [said_time hz hu hr.ordinary hline hs,dayOf_whole hz]
    by_cases hd : b.dayOf line.t = d <;> simp [hx,Option.filter]

theorem texts_ordered : (b.texts calls).Pairwise fun x y => x.2 ≤ y.2 := by
  rw [texts_eq hz hu hr.ordinary,pairwise_filterMap]
  refine (pairwise_map.mp (hr.ordered.sublist (times_sublist b calls))).imp_of_mem ?_
  intro a c ha hc hac x hx y hy
  rw [said_time hz hu hr.ordinary ha hx,said_time hz hu hr.ordinary hc hy]
  unfold Time.second
  omega

theorem texts_past : ∀ x ∈ b.texts calls, x.2 < now := by
  intro x hx
  rw [texts_eq hz hu hr.ordinary] at hx
  obtain ⟨line,hline,hsaid⟩ := mem_filterMap.mp hx
  have hlt := hr.past line.t ((times_sublist b calls).subset (mem_map_of_mem hline))
  rw [said_time hz hu hr.ordinary hline hsaid]
  unfold Time.second
  omega

theorem dayLog_eq (ref : Int) : (b.logs (b.after calls)).dayLog (query b) ref =
    some ((b.texts calls).filter fun x => b.dayOf x.2 = b.dayOf ref) := by
  obtain ⟨hcontent,hnone⟩ := file_eq b calls ref
  rw [← texts_of_day hz hu hr]
  cases hf : (b.logs (b.after calls)).file (query b) ref with
  | none =>
    rw [hnone hf]
    simp [Logs.dayLog,hf]
  | some content =>
    rw [hf,getD_some] at hcontent
    have hscan := @scan_fileBytes ((linesOf b calls).filter fun line => b.dayOf line.t = b.dayOf ref)
      fun line hline => linesOf_fits hr line (mem_of_mem_filter hline)
    have hparse := @parseLines_texts b (b.after calls)
      ((linesOf b calls).filter fun line => b.dayOf line.t = b.dayOf ref) ref
      (fun line hline => by simpa using of_mem_filter hline)
      fun line hline => linesOf_heard hz hu hr line (mem_of_mem_filter hline)
    simp [Logs.dayLog,hf,hcontent,hscan,hparse]

theorem orderly : (b.logs (b.after calls)).Orderly (query b) := by
  intro ref
  refine ⟨_,dayLog_eq hz hu hr ref,(texts_ordered hz hu hr).filter _,?_⟩
  intro x hx
  have hday : b.dayOf x.2 = b.dayOf ref := by simpa using of_mem_filter hx
  exact hday

theorem messagesOn_eq (d : Int) : (b.logs (b.after calls)).messagesOn (query b) d =
    (b.texts calls).filter fun x => b.dayOf x.2 = d := by
  have hd := @dayOf_midnight (b.logs (b.after calls)) seconds hz d
  have hlog := dayLog_eq hz hu hr ((b.logs (b.after calls)).zone.resolve (d * Time.day))
  rw [Logs.messagesOn,hlog]
  exact filter_congr fun x _ => by rw [decide_eq_decide]; exact Eq.congr_right hd

theorem texts_whole : ∀ x ∈ b.texts calls, x.2 % Time.second = 0 := by
  intro x hx
  rw [texts_eq hz hu hr.ordinary] at hx
  obtain ⟨line,hline,hsaid⟩ := mem_filterMap.mp hx
  rw [said_time hz hu hr.ordinary hline hsaid]
  unfold Time.second
  omega

end Days

end Sake.Proofs.FsCalls
