import Sake.Lib.Mirror
import Sake.Proofs.Monitor

namespace Sake.Proofs.MonitorRuns
open Sake.Monitor Sake.Strings Lib.Mirror Lib.Runs Monitor List
open Upstream (Conn)

section States
variable {env : Upstream.Env} {s : State}
  {msg : Message} {clients : List Client} {uc : Conn}

def targetsOfClients (clients : List Client) : List String := clients.flatMap fun dc => dc.monitored.names

theorem wanted_iff : wanted cm clients name = true ↔ cm.apply name ∈ wantKeys cm (targetsOfClients clients) := by
  have hany : (clients.any fun dc => dc.monitored.names.any (equal cm name)) = true ↔
      cm.apply name ∈ keysOf cm (targetsOfClients clients) := by
    rw [← any_equal,targetsOfClients,any_flatMap]
  unfold wanted
  rw [Bool.and_eq_true,hany,and_comm]
  refine and_congr Iff.rfl ?_
  rw [Bool.not_eq_true',equal,beq_eq_false_iff_ne]

/-- No command takes back what has not been answered, and a nick that we want is monitored by a client. -/
structure Asked (uc : Conn) (clients : List Client) (pending : List String) : Prop where
  pending : ∀ target ∈ pending, wanted uc.casemap clients target = true
  desired : desired uc = true → wanted uc.casemap clients uc.wantNick.1 = true
  nonempty : ∀ dc ∈ clients, ∀ name ∈ dc.monitored.names, name ≠ ""

instance (uc : Conn) (clients : List Client) (pending : List String) : Decidable (Asked uc clients pending) :=
  decidable_of_iff ((∀ target ∈ pending, wanted uc.casemap clients target = true) ∧
    (Monitor.desired uc = true → wanted uc.casemap clients uc.wantNick.1 = true) ∧
    ∀ dc ∈ clients, ∀ name ∈ dc.monitored.names, name ≠ "")
    ⟨fun h => ⟨h.1,h.2.1,h.2.2⟩,fun h => ⟨h.pending,h.desired,h.nonempty⟩⟩

/-- What clients monitor is compared as on the connection, and comes out of a list with commas. -/
def Listed (uc : Conn) (clients : List Client) : Prop :=
  ∀ dc ∈ clients, dc.monitored.casemap = uc.casemap ∧ ∀ name ∈ dc.monitored.names, ',' ∉ name.toList

structure Inv (s : State) : Prop where
  ready : Ready s.conn
  listed : Listed s.conn s.clients
  desired : Monitor.desired s.conn = true → wanted s.conn.casemap s.clients s.conn.wantNick.1 = true
  nonempty : ∀ dc ∈ s.clients, ∀ name ∈ dc.monitored.names, name ≠ ""
  mirrors : Mirrors (wantKeys s.conn.casemap (targetsOfClients s.clients)) (knownKeys s.conn)
    (keysOf s.conn.casemap s.pending) (keysOf s.conn.casemap (s.sent.foldl (execute s.conn.casemap) s.server))

theorem synced_clean (hlisted : Listed s.conn s.clients)
    (hnonempty : ∀ dc ∈ s.clients, ∀ name ∈ dc.monitored.names, name ≠ "") :
    ∀ target ∈ s.synced.dcMonitored, Clean target := by
  intro target htarget
  obtain ⟨dc,hdc,hname⟩ := mem_flatMap.mp htarget
  exact ⟨hnonempty dc hdc target hname,(hlisted dc hdc).2 target hname⟩

/-- Wherever `updateMonitor` is called for clients that ask for what is pending, the invariant holds after it. -/
theorem update_inv (hready : Ready s.conn) (hlisted : Listed s.conn s.clients)
    (hasked : Asked s.conn s.clients s.pending)
    (hmirrors : Mirrors want (knownKeys s.conn) (keysOf s.conn.casemap s.pending)
      (keysOf s.conn.casemap (s.sent.foldl (execute s.conn.casemap) s.server))) : Inv s.update := by
  have hsynced : Ready s.synced := ⟨hready.supported,hready.casemap,hready.clean⟩
  have hclean := synced_clean hlisted hasked.nonempty
  have hwant : desired s.synced = true →
      s.synced.casemap.apply s.synced.wantNick.1 ∈ wantKeys s.synced.casemap s.synced.dcMonitored := fun h =>
    wanted_iff.mp (hasked.desired h)
  let cm := s.conn.casemap
  let want' := wantKeys cm (targetsOfClients s.clients)
  obtain ⟨hnear,hready',hknown⟩ := updateMonitor_effect hsynced
  have hknown' : knownKeys s.update.conn = knownKeys s.conn ∩ want' := hknown
  have hcm : s.update.conn.casemap = cm := hnear.casemap
  set reached := s.sent.foldl (execute cm) s.server
  obtain ⟨hanswers,hremote⟩ := monitorMessages_effect hsynced hwant hclean reached
  have hpending : keysOf cm s.pending ⊆ want' := by
    rintro k ⟨target,htarget,rfl⟩
    exact wanted_iff.mp (hasked.pending target htarget)
  have hpending' : keysOf cm s.update.pending = keysOf cm s.pending ∪ want' \ knownKeys s.conn := by
    change keysOf cm (s.owed ++ (s.sent ++ monitorMessages s.synced).flatMap answersTo) = _
    rw [flatMap_append,← append_assoc,keysOf_append]
    exact congrArg _ hanswers
  have hsent : s.update.sent.foldl (execute cm) s.update.server =
      (monitorMessages s.synced).foldl (execute cm) reached := foldl_append
  refine ⟨hready',?_,?_,hasked.nonempty,?_⟩
  · intro dc hdc
    rw [hcm]
    exact hlisted dc hdc
  · intro hdesired
    have hnick : s.update.conn.wantNick = s.conn.wantNick := hnear.wantNick
    rw [hcm,hnick]
    exact hasked.desired (hnear.desired.symm.trans hdesired)
  · have hupdate : Mirrors want' (knownKeys s.conn ∩ want') (keysOf cm s.pending ∪ want' \ knownKeys s.conn)
        (keysOf cm ((monitorMessages s.synced).foldl (execute cm) reached)) := by
      rcases hremote with hremote | ⟨hnone,hremote⟩
      · exact hremote ▸ hmirrors.update hpending
      · exact hremote ▸ Mirrors.clear hpending hnone
    rw [hcm,hpending',hsent,hknown']
    exact hupdate

theorem names_set (m : CasedMap V) (name : String) (v : V) : ∀ n ∈ (m.set name v).names, n ∈ m.names ∨ n = name := by
  intro n hn
  obtain ⟨e,he,rfl⟩ := mem_map.mp hn
  change e ∈ (m.map.set m.casemap name v).entries at he
  unfold CaseMappingMap.set at he
  split at he
  · obtain ⟨e',he',rfl⟩ := mem_map.mp he
    refine .inl ?_
    split
    · exact mem_map.mpr ⟨e',he',rfl⟩
    · exact mem_map_of_mem he'
  · rcases mem_append.mp he with he | he
    · exact .inl (mem_map_of_mem he)
    · exact .inr (mem_singleton.mp he ▸ rfl)

theorem names_del (m : CasedMap V) (name : String) : ∀ n ∈ (m.del name).names, n ∈ m.names := by
  intro n hn
  obtain ⟨e,he,rfl⟩ := mem_map.mp hn
  exact mem_map_of_mem (mem_filter.mp he).1

theorem monitorTarget_names (add : Bool) (m : CasedMap Unit) (target : String) :
    (monitorTarget add m target).casemap = m.casemap ∧
      ∀ n ∈ (monitorTarget add m target).names, n ∈ m.names ∨ n = target := by
  unfold monitorTarget
  split
  · split
    · exact ⟨rfl,fun _ h => .inl h⟩
    · exact ⟨rfl,names_set m target ()⟩
  · exact ⟨rfl,fun n hn => .inl (names_del m target n hn)⟩

theorem monitorTargets_names (add : Bool) (targets : List String) (m : CasedMap Unit) :
    (targets.foldl (monitorTarget add) m).casemap = m.casemap ∧
      ∀ n ∈ (targets.foldl (monitorTarget add) m).names, n ∈ m.names ∨ n ∈ targets := by
  induction targets generalizing m with
  | nil => exact ⟨rfl,fun _ h => .inl h⟩
  | cons target targets ih =>
    obtain ⟨hcm,hnames⟩ := monitorTarget_names add m target
    obtain ⟨hcm',hnames'⟩ := ih (monitorTarget add m target)
    refine ⟨hcm'.trans hcm,fun n hn => ?_⟩
    rcases hnames' n hn with hn | hn
    · rcases hnames n hn with hn | rfl
      · exact .inl hn
      · exact .inr mem_cons_self
    · exact .inr (mem_cons_of_mem _ hn)

theorem handleMonitor_listed (hm : m.casemap = uc.casemap)
    (hnames : ∀ name ∈ m.names, ',' ∉ name.toList) (h : handleMonitor env uc msg m = some m') :
    m'.casemap = uc.casemap ∧ ∀ name ∈ m'.names, ',' ∉ name.toList := by
  unfold handleMonitor at h
  split at h
  · cases h
  split at h
  · obtain ⟨targets,-,rfl⟩ := Option.map_eq_some_iff.mp h
    rename_i subcommand params _ _
    obtain ⟨hcm,hsub⟩ := monitorTargets_names (subcommand == "+") (split ',' targets) m
    refine ⟨hcm.trans hm,fun name hname => ?_⟩
    rcases hsub name hname with hname | hname
    · exact hnames name hname
    · exact Strings.mem_split hname
  · split at h
    · cases h
      exact ⟨rfl,fun _ h => nomatch h⟩
    · cases h

theorem clientsAfter_listed {id : Nat} (h : Listed s.conn s.clients)
    (hc : clientsAfter env s id msg = some clients) : Listed s.conn clients := by
  obtain ⟨dc,hdc,hafter⟩ := Option.bind_eq_some_iff.mp hc
  obtain ⟨monitored,hmon,rfl⟩ := Option.map_eq_some_iff.mp hafter
  obtain ⟨hcm,hnames⟩ := h dc (mem_of_find?_eq_some hdc)
  intro dc' hdc'
  obtain ⟨dc₀,hdc₀,rfl⟩ := mem_map.mp hdc'
  split
  · exact handleMonitor_listed hcm hnames hmon
  · exact h dc₀ hdc₀

/-- The events that do not ask for a nick too many or too few. -/
def Steady (env : Upstream.Env) (s : State) : Event → Prop
  | .detach id => Asked s.conn (s.clients.filter fun dc => dc.id != id) s.pending
  | .client id msg => ∀ clients ∈ clientsAfter env s id msg, Asked s.conn clients s.pending
  | .ownNick nick => Asked (s.conn.renamed nick) s.clients s.pending
  | _ => True

instance (env : Upstream.Env) (s : State) (e : Event) : Decidable (Steady env s e) :=
  match e with
  | .detach _ | .client _ _ | .ownNick _ => by unfold Steady; infer_instance
  | .attach _ | .execute | .answer _ _ => isTrue trivial

theorem Inv.attach (h : Inv s) (id : Nat) : Inv (s.withClients (s.clients ++ [⟨id,.new s.conn.casemap⟩])) := by
  have htargets : targetsOfClients (s.clients ++ [⟨id,.new s.conn.casemap⟩]) = targetsOfClients s.clients := by
    unfold targetsOfClients
    rw [flatMap_append]
    exact append_nil _
  have hwanted name : wanted s.conn.casemap (s.clients ++ [⟨id,.new s.conn.casemap⟩]) name = true ↔
      wanted s.conn.casemap s.clients name = true := by
    rw [wanted_iff,wanted_iff,htargets]
  refine ⟨h.ready,?_,fun hd => (hwanted _).mpr (h.desired hd),?_,?_⟩
  · intro dc hdc
    rcases mem_append.mp hdc with hdc | hdc
    · exact h.listed dc hdc
    · cases mem_singleton.mp hdc
      exact ⟨rfl,fun _ h => nomatch h⟩
  · intro dc hdc
    rcases mem_append.mp hdc with hdc | hdc
    · exact h.nonempty dc hdc
    · cases mem_singleton.mp hdc
      exact fun _ h => nomatch h
  · change Mirrors (wantKeys s.conn.casemap (targetsOfClients (s.clients ++ _))) _ _ _
    rw [htargets]
    exact h.mirrors

theorem Inv.execute (h : Inv s) (hsent : s.sent = msg :: sent) :
    Inv { s with sent, server := Monitor.execute s.conn.casemap s.server msg, owed := s.owed ++ answersTo msg } := by
  refine ⟨h.ready,h.listed,h.desired,h.nonempty,?_⟩
  have hmirrors := h.mirrors
  unfold State.pending at hmirrors
  rw [hsent,flatMap_cons,← append_assoc] at hmirrors
  exact hmirrors

theorem settle_keys (h : settle cm owed names = some owed') :
    keysOf cm names ⊆ keysOf cm owed ∧ keysOf cm owed' ⊆ keysOf cm owed ∧
      keysOf cm owed ⊆ keysOf cm names ∪ keysOf cm owed' := by
  induction names generalizing owed with
  | nil =>
    cases h
    rw [keysOf_nil]
    exact ⟨Set.empty_subset _,subset_rfl,Set.subset_union_right⟩
  | cons name names ih =>
    unfold settle at h
    split at h
    · rename_i hin
      have hkey := any_equal.mp hin
      have herase : keysOf cm (owed.eraseP (equal cm name)) ⊆ keysOf cm owed := by
        rintro k ⟨n,hn,rfl⟩
        exact ⟨n,mem_of_mem_eraseP hn,rfl⟩
      have hkept : keysOf cm owed ⊆ {cm.apply name} ∪ keysOf cm (owed.eraseP (equal cm name)) := by
        rintro k ⟨n,hn,rfl⟩
        by_cases heq : cm.apply n = cm.apply name
        · exact .inl heq
        · refine .inr ⟨n,(mem_eraseP_of_neg ?_).mpr hn,rfl⟩
          rw [equal,beq_iff_eq]
          exact Ne.symm heq
      obtain ⟨hnames,hsub,hrest⟩ := ih h
      refine ⟨?_,hsub.trans herase,?_⟩
      · intro k hk
        rcases (keysOf_cons cm name names k).mp hk with rfl | hk
        · exact hkey
        · exact herase (hnames hk)
      · intro k hk
        rcases hkept hk with hk | hk
        · exact .inl ((keysOf_cons cm name names k).mpr (.inl hk))
        · rcases hrest hk with hk | hk
          · exact .inl ((keysOf_cons cm name names k).mpr (.inr hk))
          · exact .inr hk
    · cases h

theorem sets_names (f : String → String) (online : Bool) (texts : List String) (m : CasedMap Bool) :
    (texts.foldl (fun m text => m.set (f text) online) m).casemap = m.casemap ∧
      (∀ n ∈ (texts.foldl (fun m text => m.set (f text) online) m).names, n ∈ m.names ∨ n ∈ texts.map f) ∧
      keysOf m.casemap (texts.foldl (fun m text => m.set (f text) online) m).names =
        keysOf m.casemap m.names ∪ keysOf m.casemap (texts.map f) := by
  induction texts generalizing m with
  | nil => exact ⟨rfl,fun _ h => .inl h,by rw [map_nil,keysOf_nil,Set.union_empty]; rfl⟩
  | cons text texts ih =>
    obtain ⟨hcm,hnames,hkeys⟩ := ih (m.set (f text) online)
    have hset : (m.set (f text) online).casemap = m.casemap := rfl
    refine ⟨hcm,fun n hn => ?_,?_⟩
    · rcases hnames n hn with hn | hn
      · rcases names_set m (f text) online n hn with hn | rfl
        · exact .inl hn
        · exact .inr mem_cons_self
      · exact .inr (mem_cons_of_mem _ hn)
    · rw [hset] at hkeys
      rw [foldl_cons,hkeys]
      ext k
      have hk : k ∈ keysOf m.casemap (m.set (f text) online).names ↔
          k = m.casemap.apply (f text) ∨ k ∈ keysOf m.casemap m.names := by
        rw [names_keys (m.set (f text) online) hset,names_keys m rfl]
        exact CaseMappingMap.mem_keys_set
      rw [Set.mem_union,Set.mem_union,map_cons,keysOf_cons]
      tauto

theorem askForNick_effect (uc : Conn) (online : Bool) (names : List String) (server : List String) :
    (askForNick uc online names).flatMap answersTo = [] ∧
      (askForNick uc online names).foldl (Monitor.execute uc.casemap) server = server := by
  unfold askForNick
  split <;> exact ⟨rfl,rfl⟩

/-- The handler of an answer, where the nicks in it have no commas. -/
theorem handleMonitor_answer (env : Upstream.Env) (uc : Conn) (online : Bool) (hne : texts ≠ [])
    (htexts : ∀ text ∈ texts, ',' ∉ text.toList) :
    Upstream.handleMonitor env (answerMessage uc online texts) uc = .ok () { uc with
      monitored := texts.foldl (fun m text => m.set (env.parsePrefix text).name online) uc.monitored } := by
  set msg := answerMessage uc online texts
  have hsplit : split ',' (msg.param 1) = texts := Strings.split_intercalate hne htexts
  have honline : (msg.command == "730") = online := by cases online <;> rfl
  change EStateM.Result.ok () { uc with
    monitored := (split ',' (msg.param 1)).foldl
      (fun m target => m.set (env.parsePrefix target).name (msg.command == "730"))
      uc.monitored } = _
  rw [hsplit,honline]

theorem Inv.answer (h : Inv s) (online : Bool) (hne : texts ≠ []) (htexts : ∀ text ∈ texts, ',' ∉ text.toList)
    (hsettle : settle s.conn.casemap s.owed (texts.map fun text => (env.parsePrefix text).name) = some owed) :
    Inv (Monitor.answer env s online texts owed) := by
  let names := texts.map fun text => (env.parsePrefix text).name
  let monitored := texts.foldl (fun m text => m.set (env.parsePrefix text).name online) s.conn.monitored
  have hresult : Monitor.answer env s online texts owed = { s with
      conn := { s.conn with monitored }
      owed
      sent := s.sent ++ askForNick s.conn online names } := by
    unfold Monitor.answer
    dsimp only
    rw [handleMonitor_answer env s.conn online hne htexts]
  obtain ⟨hheard,hless,hrest⟩ := settle_keys hsettle
  obtain ⟨hcm,hnames,hkeys⟩ := sets_names (fun text => (env.parsePrefix text).name) online texts s.conn.monitored
  rw [h.ready.casemap] at hkeys
  obtain ⟨hquiet,hserver⟩ := askForNick_effect s.conn online names (s.sent.foldl (Monitor.execute s.conn.casemap) s.server)
  have howed : keysOf s.conn.casemap s.pending =
      keysOf s.conn.casemap s.owed ∪ keysOf s.conn.casemap (s.sent.flatMap answersTo) := keysOf_append ..
  rw [hresult]
  refine ⟨⟨h.ready.supported,hcm.trans h.ready.casemap,?_⟩,h.listed,h.desired,h.nonempty,?_⟩
  · intro name hname
    rcases hnames name hname with hname | hname
    · exact h.ready.clean name hname
    -- the nick is one that a client asks for, maybe in another spelling
    have hpending : s.conn.casemap.apply name ∈ keysOf s.conn.casemap s.pending :=
      howed ▸ .inl (hheard ⟨name,hname,rfl⟩)
    obtain ⟨⟨target,htarget,heq⟩,-⟩ := h.mirrors.pending_want hpending
    exact Clean.congr heq (synced_clean h.listed h.nonempty target htarget)
  · have hpending' : keysOf s.conn.casemap (owed ++ (s.sent ++ askForNick s.conn online names).flatMap answersTo) =
        keysOf s.conn.casemap owed ∪ keysOf s.conn.casemap (s.sent.flatMap answersTo) := by
      rw [flatMap_append,hquiet,append_nil,keysOf_append]
    have hsent : (s.sent ++ askForNick s.conn online names).foldl (Monitor.execute s.conn.casemap) s.server =
        s.sent.foldl (Monitor.execute s.conn.casemap) s.server := by
      rw [foldl_append,hserver]
    change Mirrors _ (keysOf s.conn.casemap monitored.names)
      (keysOf s.conn.casemap (owed ++ (s.sent ++ askForNick s.conn online names).flatMap answersTo))
      (keysOf s.conn.casemap ((s.sent ++ askForNick s.conn online names).foldl (Monitor.execute s.conn.casemap) s.server))
    rw [hpending',hsent]
    have hanswer := h.mirrors.answer (keysOf s.conn.casemap names)
      (keysOf s.conn.casemap owed ∪ keysOf s.conn.casemap (s.sent.flatMap answersTo))
    rw [howed] at hanswer
    have hmirrors := hanswer (hheard.trans Set.subset_union_left) (Set.union_subset_union_left _ hless) (by
        rw [← Set.union_assoc]
        exact Set.union_subset_union_left _ hrest)
    rw [show knownKeys s.conn ∪ keysOf s.conn.casemap names = keysOf s.conn.casemap monitored.names from hkeys.symm]
      at hmirrors
    exact hmirrors

theorem step_inv (h : Inv s) (hg : Steady env s e) (ht : step env s e = some t) : Inv t := by
  cases e with
  | attach id =>
    dsimp only [step] at ht
    split at ht
    · cases ht
    · cases ht
      exact h.attach id
  | detach id =>
    cases ht
    exact update_inv h.ready (fun dc hdc => h.listed dc (mem_filter.mp hdc).1) hg h.mirrors
  | client id msg =>
    dsimp only [step] at ht
    split at ht
    · cases ht
      exact h
    · rename_i clients hc
      cases ht
      have hlisted : Listed s.conn clients := clientsAfter_listed h.listed hc
      exact update_inv h.ready hlisted (hg clients hc) h.mirrors
  | execute =>
    dsimp only [step] at ht
    split at ht
    · cases ht
    · rename_i hsent
      cases ht
      exact h.execute hsent
  | answer online texts =>
    dsimp only [step] at ht
    split at ht
    · rename_i htexts
      obtain ⟨owed,hsettle,rfl⟩ := Option.map_eq_some_iff.mp ht
      exact h.answer online htexts.1 htexts.2 hsettle
    · cases ht
  | ownNick nick =>
    cases ht
    exact update_inv ⟨h.ready.supported,h.ready.casemap,h.ready.clean⟩ h.listed hg h.mirrors

theorem start_inv (hready : Ready uc) (hnone : uc.monitored.names = [])
    (hlisted : Listed uc clients) (hasked : Asked uc clients []) : Inv (start uc clients) := by
  have hknown : knownKeys uc = ∅ := by rw [knownKeys,hnone,keysOf_nil]
  have hmirrors : Mirrors ∅ (knownKeys uc) (keysOf uc.casemap []) (keysOf uc.casemap []) := by
    rw [hknown,keysOf_nil]
    exact ⟨subset_rfl,Set.union_empty ∅,rfl⟩
  exact update_inv hready hlisted hasked hmirrors

/-- When all commands have been answered, the server monitors what the clients ask for and the nick we
want, and there is nothing left to send. -/
theorem monitor_converges (env : Upstream.Env) {uc : Conn} {clients : List Client} (hready : Ready uc)
    (hnone : uc.monitored.names = []) (hlisted : Listed uc clients) (hasked : Asked uc clients [])
    {events : List Event} (hg : AllSteps (step env) (Steady env) (start uc clients) events)
    (hrun : run (step env) (start uc clients) events = some s) (hidle : Idle s) :
    (∀ name, s.server.any (equal s.conn.casemap name) = true ↔ wanted s.conn.casemap s.clients name = true ∨
        desired s.conn = true ∧ equal s.conn.casemap name s.conn.wantNick.1 = true) ∧
      monitorMessages s.synced = [] := by
  have hinv : Inv s := AllStates.last (AllStates.of_steps Inv (start_inv hready hnone hlisted hasked) (fun _ h => h)
    (fun _ _ _ h hg ht => step_inv h hg ht) hg) hrun
  obtain ⟨hsent,howed⟩ := hidle
  have hpending : keysOf s.conn.casemap s.pending = ∅ := by
    unfold State.pending
    rw [hsent,howed]
    exact keysOf_nil _
  have hremote := hinv.mirrors.remote_want
  rw [hsent,foldl_nil] at hremote
  refine ⟨fun name => ?_,?_⟩
  · rw [any_equal,hremote,← wanted_iff]
    refine ⟨.inl,fun hw => hw.elim id fun ⟨hdesired,heq⟩ => ?_⟩
    have hnick := wanted_iff.mp (hinv.desired hdesired)
    rw [equal,beq_iff_eq] at heq
    rw [wanted_iff,heq]
    exact hnick
  · refine monitorMessages_nil ⟨hinv.ready.supported,hinv.ready.casemap,hinv.ready.clean⟩ ?_
      (hinv.mirrors.known_eq hpending)
    exact fun hdesired => wanted_iff.mp (hinv.desired hdesired)

end States

section Sample

def plain : Upstream.Env := ⟨.ascii,fun name => ⟨name,"",""⟩,fun _ => true,fun _ _ => true⟩

theorem bob_named : "bob" ≠ "" := by decide

/-- A connection with this nick, where we want `bob`. -/
def connection (nick : String) : Conn :=
  { Conn.start .rfc1459 ⟨"bob",bob_named⟩ ⟨[]⟩ "" "bob" "bob" with
    nick, hasDesiredNick := nick == "bob", isupport := [("MONITOR",none)] }

def monitors (id : Nat) (params : List String) : Event := .client id (command params)

/-- A client monitors two nicks and, when the answers are there, one of them. -/
def calm : List Event :=
  [.attach 1,monitors 1 ["+","alice,Carol[1]"],.execute,.answer false ["Alice","carol{1}"],
    monitors 1 ["-","ALICE"],.execute]

theorem monitor_converges_calm :
    ∃ s, run (step plain) (start (connection "bob") []) calm = some s ∧ Idle s ∧ s.server = ["carol[1]"] ∧
      (∀ name, s.server.any (equal s.conn.casemap name) = true ↔ wanted s.conn.casemap s.clients name = true ∨
          desired s.conn = true ∧ equal s.conn.casemap name s.conn.wantNick.1 = true) ∧
      monitorMessages s.synced = [] := by
  have hrun : (run (step plain) (start (connection "bob") []) calm).any
      (fun s => decide (Idle s ∧ s.server = ["carol[1]"])) = true := by
    decide +kernel
  obtain ⟨s,hs,hend⟩ := (Option.any_eq_true _ _).mp hrun
  obtain ⟨hidle,hserver⟩ := of_decide_eq_true hend
  have hready : Ready (connection "bob") := ⟨rfl,rfl,fun _ h => nomatch h⟩
  have hsteady : AllSteps (step plain) (Steady plain) (start (connection "bob") []) calm := by decide +kernel
  have hlisted : Listed (connection "bob") [] := fun _ h => nomatch h
  have hasked : Asked (connection "bob") [] [] := by decide +kernel
  exact ⟨s,hs,hidle,hserver,monitor_converges plain hready rfl hlisted hasked hsteady hs hidle⟩

/-- A nick that is dropped before the answer stays on the server. A nick that was asked for twice, and dropped
after the first answer, is not asked for again. The nick we want is dropped by the next call. An empty
target is never on the server. -/
theorem monitor_diverges : ((run (step plain) (start (connection "bob") [])
      [.attach 1,monitors 1 ["+","alice"],monitors 1 ["-","alice"],.execute,.answer false ["alice"]]).any
      fun s => decide (Idle s) && s.server == ["alice"] && !wanted s.conn.casemap s.clients "alice") = true ∧
    ((run (step plain) (start (connection "bob") [])
      [.attach 1,.attach 2,monitors 1 ["+","alice"],monitors 2 ["+","alice"],.execute,.execute,
        .answer false ["alice"],.detach 2,monitors 1 ["C"],.execute,.answer false ["alice"],
        monitors 1 ["+","alice"]]).any
      fun s => decide (Idle s) && s.server == [] && wanted s.conn.casemap s.clients "alice") = true ∧
    ((run (step plain) (start (connection "bob_") []) [.execute,.answer true ["bob"]]).any
      fun s => decide (Idle s) && monitorMessages s.synced == [command ["C"]]) = true ∧
    ((run (step plain) (start (connection "bob") []) [.attach 1,monitors 1 ["+",""],.execute]).any
      fun s => decide (Idle s) && s.server == [] && wanted s.conn.casemap s.clients "") = true := by
  decide +kernel

end Sample

end Sake.Proofs.MonitorRuns
