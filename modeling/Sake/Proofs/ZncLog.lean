import Sake.Proofs.Time
import Sake.ZncLog
namespace Sake.Proofs.ZncLog
open Sake.ZncLog MsgStore Sake.Strings List Proofs.Time Database

variable {u : Unicode} {msg : Message} {sender text : String}

/-- The first place of a pattern that ends in a blank, behind a word without blanks. -/
theorem cut_blank (word post : List Char) (hw : ' ' ∉ word) :
    Highlight.cut [' '] (word ++ ' ' :: post) = some (word,post) := by
  induction word with
  | nil => simp [Highlight.cut]
  | cons c word ih =>
    obtain ⟨hc,hw⟩ := not_or.mp (mt mem_cons.mpr hw)
    simp [Highlight.cut,hc,ih hw]

theorem cut_mark_blank (m : Char) (hm : m ≠ ' ') (word post : List Char) (hw : ' ' ∉ word) :
    Highlight.cut [m,' '] (word ++ m :: ' ' :: post) = some (word,post) := by
  induction word with
  | nil => simp [Highlight.cut]
  | cons c word ih =>
    obtain ⟨hc,hw⟩ := not_or.mp (mt mem_cons.mpr hw)
    have hnext : ([m,' ']).isPrefixOf (c :: (word ++ m :: ' ' :: post)) = false := by
      cases word with
      | nil => simp [List.isPrefixOf,hm.symm]
      | cons d word =>
        have hd := (not_or.mp (mt mem_cons.mpr hw)).1
        simp [List.isPrefixOf,hd]
    simp [Highlight.cut,hnext,ih hw]

theorem dropBytes_append (hp : ∀ c ∈ p, c.utf8Size = 1) (s : List Char) : dropBytes p.length (p ++ s) = s := by
  induction p with
  | nil => cases s <;> rfl
  | cons c p ih =>
    have hc := hp c mem_cons_self
    simp [dropBytes,hc,ih fun d hd => hp d (mem_cons_of_mem _ hd)]

theorem length_le_byteLen (cs : List Char) : cs.length ≤ byteLen cs := by
  induction cs with
  | nil => simp
  | cons c cs ih =>
    have hc := Char.utf8Size_pos c
    simp only [byteLen,map_cons,sum_cons,length_cons] at ih ⊢
    omega

theorem scanInt_digits (hu : u.Standard) (ha : a.isDigit) (hb : b.isDigit) (rest : List Char) :
    scanInt u (a :: b :: rest) = (decimal [a,b]).map fun n : Nat => ((n : Int),rest) := by
  have hdigit : ∀ c : Char, c.isDigit → u.isSpace c = false ∧ c ≠ '-' ∧ c ≠ '+' := by
    intro c hc
    simp only [Char.isDigit,Bool.and_eq_true,decide_eq_true_eq] at hc
    have h1 : 48 ≤ c.toNat := hc.1
    have h2 : c.toNat ≤ 57 := hc.2
    refine ⟨hu.isSpace_visible c (by omega) (by omega),?_,?_⟩
    all_goals
      rintro rfl
      exact absurd h1 (by decide)
  obtain ⟨hs,hm,hp⟩ := hdigit a ha
  have hsign : signLen (a :: b :: rest) = 0 := by
    unfold signLen
    split
    · rename_i h
      exact absurd (List.cons.inj h).1 hm
    · rename_i h
      exact absurd (List.cons.inj h).1 hp
    · rfl
  simp [scanInt,hs,hsign,ha,hb,hm]

theorem digitChar_spec : ∀ k < 10, (Nat.digitChar k).isDigit ∧ (Nat.digitChar k).utf8Size = 1 := by decide

theorem decimal_digitChars : ∀ n < 100, decimal [Nat.digitChar (n / 10),Nat.digitChar (n % 10)] = some n := by decide

theorem scanInt_padInt (hu : u.Standard) (h0 : 0 ≤ n) (h1 : n < 100) (rest : List Char) :
    scanInt u ((Time.padInt 2 n).toList ++ rest) = some (n,rest) := by
  have hk : n.natAbs < 100 := by omega
  rw [padInt_two h0 h1]
  rw [cons_append,cons_append, scanInt_digits hu (digitChar_spec _ (by omega)).1 (digitChar_spec _ (by omega)).1,
    decimal_digitChars _ hk,Option.map_some]
  congr 2
  omega

theorem timestamp_toList (z : Time.Zone) (t : Int) (s : List Char) :
    (timestamp z t).toList ++ s = '[' :: ((Time.padInt 2 (Time.hourOf z t)).toList ++
      ':' :: ((Time.padInt 2 (Time.minuteOf z t)).toList ++
        ':' :: ((Time.padInt 2 (Time.secondOf z t)).toList ++ ']' :: ' ' :: s))) := by
  simp [timestamp]

theorem scanTimestamp_timestamp (hu : u.Standard) (z : Time.Zone) (t : Int) (s : List Char) :
    scanTimestamp u ((timestamp z t).toList ++ s) = some (Time.hourOf z t,Time.minuteOf z t,Time.secondOf z t) := by
  have hh := hourOf_bounds z t
  have hm := minuteOf_bounds z t
  have hs := secondOf_bounds z t
  rw [timestamp_toList]
  simp [scanTimestamp,Time.literal,scanInt_padInt hu hh.1 (Int.lt_trans hh.2 (by decide)),scanInt_padInt hu hm.1 (Int.lt_trans hm.2 (by decide)),scanInt_padInt hu hs.1 (Int.lt_trans hs.2 (by decide)),hu.isSpace_blank]

theorem timestamp_width (z : Time.Zone) (t : Int) : (timestamp z t).toList.length = timestampPrefixLen ∧
      ∀ c ∈ (timestamp z t).toList, c.utf8Size = 1 := by
  have hh := hourOf_bounds z t
  have hm := minuteOf_bounds z t
  have hs := secondOf_bounds z t
  have htwo : ∀ n : Int, 0 ≤ n → n < 60 → (Time.padInt 2 n).toList.length = 2 ∧
      ∀ c ∈ (Time.padInt 2 n).toList, c.utf8Size = 1 := by
    intro n h0 h1
    rw [padInt_two h0 (by omega)]
    refine ⟨rfl,?_⟩
    simp only [mem_cons,not_mem_nil,or_false,forall_eq_or_imp,forall_eq]
    exact ⟨(digitChar_spec _ (by omega)).2,(digitChar_spec _ (by omega)).2⟩
  obtain ⟨lh,ch⟩ := htwo _ hh.1 (by omega)
  obtain ⟨lm,cm⟩ := htwo _ hm.1 hm.2
  obtain ⟨ls,cs⟩ := htwo _ hs.1 hs.2
  have hlist := timestamp_toList z t []
  rw [append_nil] at hlist
  rw [hlist]
  constructor
  · simp only [length_cons,length_append,lh,lm,ls]
    rfl
  intro c hc
  simp only [mem_cons,mem_append,not_mem_nil,or_false] at hc
  rcases hc with rfl | hc | rfl | hc | rfl | hc | rfl | rfl
  · rfl
  · exact ch c hc
  · rfl
  · exact cm c hc
  · rfl
  · exact cs c hc
  · rfl
  · rfl

/-- What reading a line back comes to, once its timestamp is off. -/
theorem unmarshalLine_timestamp (hu : u.Standard) (z : Time.Zone) (t ref : Int) (s : String)
    (user : User) (network : Network) (entity : String) (events : Bool) :
    unmarshalLine u z (timestamp z t ++ s) user network entity ref events =
      .ok ((unmarshalBody user network entity events s.toList).map fun (command,p,params) =>
        let t := z.resolve (z.wall ref / Time.day * Time.day + z.wall t % Time.day - t % Time.second)
        (⟨[("time",Time.formatServerTime t)],some p,command,params⟩,t)) := by
  obtain ⟨hl,hc⟩ := timestamp_width z t
  have hlong : ¬ byteLen ((timestamp z t).toList ++ s.toList) < timestampPrefixLen := by
    have := length_le_byteLen ((timestamp z t).toList ++ s.toList)
    rw [length_append] at this
    omega
  have hdrop : dropBytes timestampPrefixLen ((timestamp z t).toList ++ s.toList) = s.toList := by
    rw [← hl]
    exact dropBytes_append hc s.toList
  simp only [unmarshalLine,String.toList_append,scanTimestamp_timestamp hu,if_neg hlong,hdrop, date_of_clock]
  cases unmarshalBody user network entity events s.toList with
  | none => rfl
  | some parsed => rfl

theorem upper_of_upper (hu : u.Standard) (hs : (s.toList.all fun c => c.toNat < 128 && c.toUpper == c) = true) :
    mapChars u.toUpper s = s := by
  simp only [all_eq_true,Bool.and_eq_true,decide_eq_true_eq,beq_iff_eq] at hs
  have hmap : s.toList.map u.toUpper = s.toList := by
    conv_rhs => rw [← map_id s.toList]
    apply map_congr_left
    intro c hc
    rw [hu.toUpper_ascii c (hs c hc).1,(hs c hc).2,id]
  rw [mapChars,hmap,String.ofList_toList]

theorem plain_param (h : Plain msg sender text) : msg.param 1 = text := by
  rw [Message.param,getD_eq_getElem?_getD,h.hasText,Option.getD_some]

/-- Such a message is logged under its sender, and read back as what it was. -/
theorem plain_format (hu : u.Standard) (h : Plain msg sender text) :
    ∃ s, formatMessage u msg = .ok s ∧ s ≠ "" ∧ "*** ".toList.isPrefixOf s.toList = false ∧
      unmarshalText s.toList = some (msg.command,sender,normalText u msg) := by
  obtain ⟨p,hp,rfl⟩ := h.hasPrefix
  have hprefix : mustPrefix msg = .ok p := by simp [mustPrefix,hp]
  have htext : mustParam msg 1 = .ok text := by simp [mustParam,h.hasText]
  rcases h.isText with hc | hc
  · have hup : mapChars u.toUpper msg.command = "PRIVMSG" := by
      rw [hc]
      exact upper_of_upper hu rfl
    cases ha : actionText u msg with
    | none =>
      have hcut := cut_mark_blank '>' (by decide) p.name.toList text.toList h.noBlank
      refine ⟨"<" ++ p.name ++ "> " ++ text,?_,by simp,by simp [List.isPrefixOf],?_⟩
      · simp [formatMessage,hup, hprefix,htext,ha,bind,Except.bind,pure,Except.pure]
      · simp [unmarshalText,hcut,hc,normalText,ha,plain_param h]
    | some params =>
      have hcut := cut_blank p.name.toList params.toList h.noBlank
      refine ⟨"* " ++ p.name ++ " " ++ params,?_,by simp,by simp [List.isPrefixOf],?_⟩
      · simp [formatMessage,hup, hprefix,ha,bind,Except.bind,pure,Except.pure]
      · simp [unmarshalText,hcut,hc,normalText,ha]
  · have hup : mapChars u.toUpper msg.command = "NOTICE" := by
      rw [hc]
      exact upper_of_upper hu rfl
    have hnormal : normalText u msg = text := by
      unfold normalText
      split
      · simp [hc,plain_param h]
      · exact plain_param h
    have hcut := cut_mark_blank '-' (by decide) p.name.toList text.toList h.noBlank
    refine ⟨"-" ++ p.name ++ "- " ++ text,?_,by simp,by simp [List.isPrefixOf],?_⟩
    · simp [formatMessage,hup, hprefix,htext,bind,Except.bind,pure,Except.pure]
    · simp [unmarshalText,hcut,hc,hnormal]

/-- What is logged of other messages begins with asterisks. -/
theorem event_format (hup : mapChars u.toUpper msg.command = msg.command) (hev : msg.isText = false)
    (h : formatMessage u msg = .ok s) : s = "" ∨ ∃ rest, s.toList = '*' :: '*' :: '*' :: ' ' :: rest := by
  simp only [Message.isText,Bool.or_eq_false_iff,beq_eq_false_iff_ne] at hev
  unfold formatMessage at h
  rw [hup] at h
  split at h
  case h_8 hc => exact absurd hc hev.2
  case h_9 hc => exact absurd hc hev.1
  case h_10 => exact Or.inl (Except.ok.inj h).symm
  all_goals
    right
    simp only [bind,Except.bind] at h
    repeat' split at h
    all_goals cases h
    all_goals
      simp only [String.toList_append]
      exact ⟨_,rfl⟩

/-- The whole way to the log and back. -/
theorem plain_unmarshal (hu : u.Standard) (h : Plain msg sender text) (z : Time.Zone) (t ref : Int)
    (user : User) (network : Network) (entity : String) (events : Bool) :
    ∃ line, marshalLine u z msg t = .ok line ∧ unmarshalLine u z line user network entity ref events = .ok (some
        (⟨[("time",Time.formatServerTime (z.resolve (z.wall ref / Time.day * Time.day +
            z.wall t % Time.day - t % Time.second)))],some (nickOnly sender),msg.command,
          [if entity = sender then getNick user network else entity,normalText u msg]⟩,
        z.resolve (z.wall ref / Time.day * Time.day + z.wall t % Time.day - t % Time.second))) := by
  obtain ⟨s,hs,hne,hstar,htext⟩ := plain_format hu h
  refine ⟨timestamp z t ++ s,?_,?_⟩
  · simp [marshalLine,hs,hne,bind,Except.bind,pure,Except.pure]
  · rw [unmarshalLine_timestamp hu]
    simp only [unmarshalBody,hstar,Bool.and_false,Bool.false_eq_true,if_false,htext,Option.map_some]

/-- The target that is read back, our own nick where the buffer bears the sender's name. -/
theorem targetKept_iff : TargetKept cm user network (if cm.apply (buffer.name sender) = sender then
      getNick user network else cm.apply (buffer.name sender)) buffer ↔
    SenderTells cm user network sender buffer := by
  cases buffer with
  | direct =>
    simp only [Buffer.name,TargetKept,SenderTells]
    by_cases hs : cm.apply sender = sender <;> simp [hs]
  | named name =>
    simp only [Buffer.name,TargetKept,SenderTells]
    by_cases hs : cm.apply name = sender <;> simp [hs]

/-- A logged text comes back as it was sent exactly when the clock and the sender's nick
allow it. -/
theorem restored_iff (u : Unicode) (hu : u.Standard) (z : Time.Zone) (cm : CaseMapping)
    (user : Database.User) (network : Database.Network) (sender text : String) (buffer : Buffer)
    (msg : Message) (h : Plain msg sender text) (t : Int) (events : Bool) :
    Restored u z cm user network sender buffer msg t events ↔
      ClockKept z t ∧ SenderTells cm user network sender buffer := by
  obtain ⟨line,hline,hback⟩ := plain_unmarshal hu h z t t user network (cm.apply (buffer.name sender)) events
  rw [Int.mul_comm (z.wall t / Time.day),Int.mul_ediv_add_emod] at hback
  rw [← targetKept_iff]
  constructor
  · rintro ⟨line',restored,hl,hload,-,-,-,htarget⟩
    rw [hline] at hl
    cases hl
    rw [hback] at hload
    simp only [Except.ok.injEq,Option.some.injEq,Prod.mk.injEq] at hload
    obtain ⟨rfl,hclock⟩ := hload
    exact ⟨hclock,htarget⟩
  · rintro ⟨hclock,htarget⟩
    rw [hclock] at hback
    exact ⟨line,_,hline,hback,rfl,rfl,rfl,htarget⟩

/-- Where the clock is never put back, every time is kept. -/
theorem clockKept_fixed (seconds t : Int) : ClockKept (Time.Zone.fixed seconds) t := by
  simp only [ClockKept,Time.Zone.wall,Time.Zone.fixed]
  omega

section
variable (sender : String)

def hello : Message := ⟨[],some ⟨sender,"",""⟩,"PRIVMSG",["alice","hello"]⟩

def alice : Database.User := Database.newUser "alice"

def libera : Database.Network := ⟨1,"libera","irc.libera.chat",""⟩

end

theorem lower_case_peer_restored :
    Restored .ascii (Time.Zone.fixed 3600) .rfc1459 alice libera "bob" .direct (hello "bob")
      (5 * Time.second + 7) false :=
  (restored_iff .ascii Unicode.standard_ascii (Time.Zone.fixed 3600) .rfc1459 alice libera "bob" "hello"
    .direct (hello "bob") ⟨Or.inl rfl,⟨_,rfl,rfl⟩,rfl,by decide⟩ (5 * Time.second + 7) false).mpr
    ⟨clockKept_fixed _ _,Or.inl rfl⟩

/-- A direct message of `Bob` is logged under `bob`, and comes back as sent to `bob`. -/
theorem upper_case_peer_lost :
    ¬ Restored .ascii (Time.Zone.fixed 3600) .rfc1459 alice libera "Bob" .direct (hello "Bob")
      (5 * Time.second) false := by
  rintro ⟨line,restored,hline,hload,-,-,-,htarget⟩
  have hplain : Plain (hello "Bob") "Bob" "hello" := ⟨Or.inl rfl,⟨_,rfl,rfl⟩,rfl,by decide⟩
  obtain ⟨line',hline',hback⟩ := plain_unmarshal Unicode.standard_ascii hplain (Time.Zone.fixed 3600)
    (5 * Time.second) (5 * Time.second) alice libera "bob" false
  cases hline.symm.trans hline'
  have hentity : CaseMapping.rfc1459.apply (Buffer.direct.name "Bob") = "bob" := by decide
  rw [hentity,hback] at hload
  obtain ⟨rfl,-⟩ := hload
  have hbob : (if "bob" = "Bob" then Database.getNick alice libera else "bob") =
      Database.getNick alice libera := htarget
  exact absurd hbob (by decide)

end Sake.Proofs.ZncLog
