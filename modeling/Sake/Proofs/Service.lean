import Sake.Proofs.UserNetworks
import Sake.ServiceOps

namespace Sake.Proofs.Service
open Lib.Handler Networks Goroutine Sake.Service UserNetworks Checks Keeps Lib.Flags

variable {admin : Bool} {s : State} {e : Effect} {α : Type} {text : String} {env : Env} {ctx : Ctx}
  {Q : Op → Prop} {post : α → Prop} {params : List String}

section Effects
variable {t u : State}

theorem Emits.refl (admin : Bool) (s : State) : Emits admin s s := ⟨[],by simp,by simp [State.emit]⟩

theorem Emits.trans (h : Emits admin s t) (h' : Emits admin t u) : Emits admin s u := by
  obtain ⟨es,hes,rfl⟩ := h
  obtain ⟨es',hes',rfl⟩ := h'
  refine ⟨es ++ es',fun e he => ?_,by simp [State.emit]⟩
  rcases List.mem_append.mp he with he | he
  · exact hes e he
  · exact hes' e he

theorem Emits.one (h : Plain admin e) : Emits admin s (s.emit [e]) := ⟨[e],fun _ he => List.mem_singleton.mp he ▸ h,rfl⟩

theorem Quiet.refl (admin : Bool) (s : State) : Quiet admin s s :=
  ⟨[],s.answers,s.dbFailed,by simp,id,by simp [State.emit]⟩

theorem Quiet.trans (h : Quiet admin s t) (h' : Quiet admin t u) : Quiet admin s u := by
  obtain ⟨es,answers,failed,hes,hf,rfl⟩ := h
  obtain ⟨es',answers',failed',hes',hf',rfl⟩ := h'
  refine ⟨es ++ es',answers',failed',fun e he => ?_,fun hs => hf' (hf hs),by simp [State.emit]⟩
  rcases List.mem_append.mp he with he | he
  · exact hes e he
  · exact hes' e he

theorem Emits.quiet (h : Emits admin s t) : Quiet admin s t := by
  obtain ⟨es,hes,rfl⟩ := h
  exact ⟨es,s.answers,s.dbFailed,hes,id,rfl⟩

end Effects

section Looks
variable (admin : Bool)

/-- The code does no more than look at the state and at the database. -/
def Looks (m : Handler α) : Prop := ∀ s, Stays (Quiet admin s) m

variable {admin}

theorem Looks.print (text : String) : Looks admin (print text) := by
  intro s t h
  exact Quiet.trans h (Emits.quiet (Emits.one trivial))

theorem Looks.call {f : Int → DB → Except String (DB × α)}
    (hf : ∀ id db db' a, f id db = .ok (db',a) → db' = db) : Looks admin (call f) := by
  intro s t h
  rcases call_cases f t with ⟨e,answers,hc⟩ | ⟨newID,answers,db,a,hfa,hc⟩
  · simp only [Safe,hc]
    exact ⟨Quiet.trans h ⟨[],answers,true,by simp,fun _ => rfl,by simp [State.emit]⟩,trivial⟩
  · simp only [Safe,hc]
    cases hf _ _ _ _ hfa
    exact Quiet.trans h ⟨[],answers,t.dbFailed,by simp,id,by simp [State.emit]⟩

theorem Looks.ends {m : Handler Unit} (h : Looks admin m) (s : State) : match m s with
    | .ok _ t => Quiet admin s t
    | .error _ t => Quiet admin s t := by
  have hs := h s s (Quiet.refl admin s)
  simp only [Safe] at hs
  split <;> simp_all

theorem Looks.list [Decidable c] {xs : List α}
    (hf : ∀ x, Looks admin (f x)) : Looks admin (xs.forM f >>= fun _ => if c then Goroutine.print text else pure ()) :=
  fun s =>
  seq (forM fun x _ => hf x s) (either (Looks.print _ s) (Keeps.pure _))

end Looks

section Prints
variable {m n : Handler Unit}

/-- The code ends well, after plain effects only. -/
def Prints (admin : Bool) (m : Handler Unit) : Prop := ∀ s, ∃ t, m s = .ok () t ∧ Emits admin s t

theorem Prints.pure : Prints admin (pure ()) := fun s => ⟨s,rfl,Emits.refl admin s⟩

theorem Prints.emit (h : Plain admin e) : Prints admin (emit e) := fun s => ⟨s.emit [e],rfl,Emits.one h⟩

theorem Prints.print (text : String) : Prints admin (print text) := Prints.emit trivial

theorem Prints.bind (hm : Prints admin m) (hn : Prints admin n) : Prints admin (m >>= fun _ => n) := by
  intro s
  obtain ⟨t,ht,hst⟩ := hm s
  obtain ⟨u,hu,htu⟩ := hn t
  refine ⟨u,?_,Emits.trans hst htu⟩
  simp [Bind.bind,EStateM.bind,ht,hu]

theorem Prints.get_bind (h : ∀ s, Prints admin (f s)) : Prints admin (get >>= f) :=
  fun s => h s s

theorem Prints.ite [Decidable c] (hm : Prints admin m) (hn : Prints admin n) : Prints admin (if c then m else n) := by
  split
  · exact hm
  · exact hn

theorem Prints.toServer (r : Nat) (msg : Message) : Prints admin (toServer r msg) := by
  intro s
  refine ⟨_,rfl,_,fun e he => ?_,rfl⟩
  obtain ⟨c,_,rfl⟩ := List.mem_map.mp he
  trivial

theorem Prints.looks (h : Prints admin m) : Looks admin m := by
  intro s t ht
  obtain ⟨u,hu,htu⟩ := h t
  simp only [Safe,hu]
  exact Quiet.trans ht (Emits.quiet htu)

theorem sendCertfpFingerprints_prints (env : Env) (cert : List UInt8) :
    Prints admin (sendCertfpFingerprints env cert) :=
  (Prints.print _).bind ((Prints.print _).bind (Prints.print _))

end Prints

section Performs
variable {β : Type} {m : Handler α} {k : α → Handler Unit}

/-- The code carries out an operation as described, or only looks. -/
def Works (env : Env) (ctx : Ctx) (Q : Op → Prop) (m : Handler Unit) (s : State) : Prop :=
  ∃ op, Performs env ctx m s op ∧ ((∃ n, op = .look n) ∨ Q op)

theorem EndsAs.refl (admin : Bool) (r : EStateM.Result Fault State Unit) : EndsAs admin r r := by
  cases r with
  | ok _ t => exact ⟨t,rfl,Emits.refl admin t⟩
  | error e t => exact ⟨e,rfl⟩

theorem Works.congr {m : Handler Unit} (h : m s = n s) (hn : Works env ctx Q n s) : Works env ctx Q m s := by
  obtain ⟨op,⟨s',hs,hop,hend⟩,hq⟩ := hn
  exact ⟨op,⟨s',hs,hop,h ▸ hend⟩,hq⟩

theorem Works.look {m : Handler Unit} (h : Looks ctx.admin m) : Works env ctx Q m s :=
  ⟨.look m,⟨s,Emits.refl _ s,h.ends,EndsAs.refl _ _⟩,.inl ⟨m,rfl⟩⟩

theorem Works.throw (e : Fault) : Works env ctx Q (throw e) s := Works.look fun _ => Keeps.throw trivial

theorem Works.get_bind (h : Works env ctx Q (f s) s) : Works env ctx Q (get >>= f) s := h

theorem Works.checks_bind (hm : Checks m s post)
    (hf : ∀ a, post a → Works env ctx Q (f a) s) : Works env ctx Q (m >>= f) s := by
  rcases hm with ⟨a,ha,hpost⟩ | ⟨e,he⟩
  · refine Works.congr ?_ (hf a hpost)
    simp [Bind.bind,EStateM.bind,ha]
  · refine Works.congr ?_ (Works.throw e)
    simp only [Bind.bind,EStateM.bind,he]
    rfl

theorem Works.emit_bind (he : Plain ctx.admin e)
    (hf : Works env ctx Q (f ()) (s.emit [e])) : Works env ctx Q (emit e >>= f) s := by
  obtain ⟨op,⟨s',hs,hop,hend⟩,hq⟩ := hf
  exact ⟨op,⟨s',Emits.trans (Emits.one he) hs,hop,hend⟩,hq⟩

/-- The code ends as other code does, but for its value and the text of an error. -/
def Follows (m : Handler α) (n : Handler β) : Prop := ∀ s, match n s with
  | .ok _ t => ∃ a, m s = .ok a t
  | .error _ t => ∃ e, m s = .error e t

theorem Follows.refl (m : Handler α) : Follows m m := by
  intro s
  cases h : m s with
  | ok a t => exact ⟨a,rfl⟩
  | error e t => exact ⟨e,rfl⟩

theorem Follows.discard (m : Handler α) : Follows m (discard m) := by
  intro s
  rw [discard_eq_bind]
  simp only [Bind.bind,EStateM.bind]
  cases h : m s with
  | ok a t => exact ⟨a,rfl⟩
  | error e t => exact ⟨e,rfl⟩

theorem wrap_run : wrap text m s = match m s with
    | .ok a t => .ok a t
    | .error (.error e) t => .error (.error (text ++ e)) t
    | .error e t => .error e t := by
  change EStateM.tryCatch m _ s = _
  unfold EStateM.tryCatch
  cases h : m s with
  | ok a t => rfl
  | error e t => cases e <;> rfl

theorem Follows.wrap {n : Handler β} (text : String) (h : Follows m n) : Follows (wrap text m) n := by
  intro s
  have hs := h s
  rw [wrap_run]
  split at hs
  · obtain ⟨a,ha⟩ := hs
    exact ⟨a,by rw [ha]⟩
  · obtain ⟨e,he⟩ := hs
    rw [he]
    cases e <;> exact ⟨_,rfl⟩

theorem endsAs_bind {op : Op} (hm : Follows m (op.exec env ctx))
    (hk : ∀ a, Prints ctx.admin (k a)) (s : State) : EndsAs ctx.admin ((m >>= k) s) (op.exec env ctx s) := by
  have h := hm s
  cases hx : op.exec env ctx s with
  | ok _ t =>
    rw [hx] at h
    obtain ⟨a,ha⟩ := h
    simp only [Bind.bind,EStateM.bind,ha]
    exact hk a t
  | error _ t =>
    rw [hx] at h
    obtain ⟨e,he⟩ := h
    simp only [Bind.bind,EStateM.bind,he]
    exact ⟨e,rfl⟩

/-- The operation is carried out, and what comes after it are plain effects. -/
theorem Works.op_bind (op : Op) (hop : op.Allowed env ctx s) (hq : Q op)
    (hm : Follows m (op.exec env ctx)) (hk : ∀ a, Prints ctx.admin (k a)) : Works env ctx Q (m >>= k) s :=
  ⟨op,⟨s,Emits.refl _ s,hop,endsAs_bind hm hk s⟩,.inr hq⟩

theorem Works.op_print (op : Op) (hop : op.Allowed env ctx s) (hq : Q op) :
    Works env ctx Q (op.exec env ctx >>= fun _ => print text) s :=
  Works.op_bind op hop hq (Follows.refl _) fun _ => Prints.print _

theorem Works.of_op {m : Handler Unit} (op : Op) (hop : op.Allowed env ctx s) (hq : Q op)
    (hm : m = op.exec env ctx) : Works env ctx Q m s :=
  ⟨op,⟨s,Emits.refl _ s,hop,hm ▸ EndsAs.refl _ _⟩,.inr hq⟩

end Performs

section Checks

theorem failIf_checks (c : Bool) (text : String) : Checks (failIf c text) s fun _ => c = false := by
  cases c with
  | false => exact Checks.pure rfl
  | true => exact throw _

theorem ofExcept_checks (e : Except String α) : Checks (ofExcept e) s fun a => e = .ok a := by
  cases e with
  | ok a => exact Checks.pure rfl
  | error text => exact throw _

theorem wrap_checks (text : String) (h : Checks m s post) : Checks (wrap text m) s post := by
  simp only [Checks,wrap_run]
  rcases h with ⟨a,ha,hpost⟩ | ⟨e,he⟩
  · exact .inl ⟨a,by rw [ha],hpost⟩
  · rw [he]
    cases e <;> exact .inr ⟨_,rfl⟩

theorem parseFlags_checks (flags : List (Flag α)) (init : α) (params : List String) :
    Checks (parseFlags flags init params) s fun parsed => parse flags params init = .ok parsed := by
  unfold parseFlags
  split
  · rename_i hparsed
    exact Checks.pure hparsed
  all_goals exact throw _

theorem parseOnlyFlags_checks (flags : List (Flag α)) (init : α) (params : List String) :
    Checks (parseOnlyFlags flags init params) s fun fs => parse flags params init = .ok (fs,[]) := by
  refine (parseFlags_checks flags init params).bind fun parsed hparsed => ?_
  refine (failIf_checks _ _).bind fun _ hargs => Checks.pure ?_
  have hnil : parsed.2 = [] := by simpa using hargs
  rw [hparsed,← hnil]

theorem selectNetwork_checks (missing name : String) :
    Checks (selectNetwork ctx missing name) s (Picks ctx s name) := by
  refine get_bind ?_
  by_cases hname : name = ""
  · rw [if_pos hname]
    split
    · exact throw _
    · exact Checks.pure (by rwa [Picks,if_pos hname])
  · rw [if_neg hname]
    split
    · exact throw _
    · exact Checks.pure (by rwa [Picks,if_neg hname])

theorem Picks.selected (h : Picks ctx s name r) : Selected ctx s r := by
  unfold Picks at h
  split at h
  · exact .inl h
  · exact .inr (List.mem_of_find?_eq_some h)

theorem getNetworkFromArg_checks (params : List String) : Checks (getNetworkFromArg ctx params) s fun selected =>
      Picks ctx s (popArg params).1 selected.1 ∧ selected.2 = (popArg params).2 :=
  (selectNetwork_checks _ _).bind fun _ hr => Checks.pure ⟨hr,rfl⟩

theorem stripNetworkSuffix_checks (name : String) :
    Checks (stripNetworkSuffix ctx name) s fun target => Targets ctx s name target.1 target.2 := by
  refine get_bind ?_
  unfold Targets
  cases ctx.network with
  | some r => exact Checks.pure ⟨rfl,rfl⟩
  | none =>
    dsimp only
    split
    · exact throw _
    rename_i hcut
    split
    · rename_i hr
      exact Checks.pure ⟨_,hcut,hr⟩
    · exact throw _

theorem Targets.selected (h : Targets ctx s word name r) : Selected ctx s r := by
  unfold Targets at h
  split at h
  · rename_i hown
    exact .inl (h.2 ▸ hown)
  · obtain ⟨netName,-,hr⟩ := h
    exact .inr (List.mem_of_find?_eq_some hr)

theorem checkNewChannel_checks (name : String) (r : Nat) :
    Checks (checkNewChannel name r) s fun _ => FreeName s name r := by
  refine (failIf_checks _ _).bind fun _ hname => ?_
  refine get_bind ((failIf_checks _ _).bind fun _ hchan => ?_)
  exact (failIf_checks _ _).mono fun _ h => ⟨hname,hchan,by simpa using h⟩

end Checks

open Works

section Binds

theorem Works.failIf_bind (hf : c = false → Works env ctx Q (f ()) s) : Works env ctx Q (failIf c text >>= f) s :=
  checks_bind (failIf_checks _ _) fun _ => hf

theorem Works.flags_bind (hf : ∀ fs, parse flags params init = .ok (fs,[]) → Works env ctx Q (f fs) s) :
    Works env ctx Q (parseOnlyFlags flags init params >>= f) s :=
  checks_bind (parseOnlyFlags_checks _ _ _) hf

theorem Works.select_bind (hf : ∀ r, Picks ctx s name r → Works env ctx Q (f r) s) :
    Works env ctx Q (selectNetwork ctx missing name >>= f) s :=
  checks_bind (selectNetwork_checks _ _) hf

end Binds

/-- The command carries out an operation of its own, or only looks. -/
abbrev Serves (env : Env) (ctx : Ctx) (s : State) (command : Command) (params : List String) : Prop :=
  Works env ctx (Op.Of env ctx s command params) (handle env ctx command params) s

section Networks
variable (params : List String) {fs : NetworkFlags}

theorem update_ok (h : fs.update env ctx.admin old = .ok record) : Passes env ctx fs ∧ record = fs.apply env old := by
  unfold NetworkFlags.update at h
  split at h
  · cases h
  · rename_i hcheck
    exact ⟨hcheck,(Except.ok.inj h).symm⟩

theorem ignoreLimit_admin (h : (fs.ignoreLimit && !ctx.admin) = false) (hi : fs.ignoreLimit = true) :
    ctx.admin = true := by
  simpa [hi] using h

theorem networkCreate_works : Serves env ctx s .networkCreate params := by
  refine flags_bind fun fs hfs => ?_
  refine failIf_bind fun haddr => ?_
  refine failIf_bind fun hlim => ?_
  refine checks_bind (ofExcept_checks _) fun record hrecord => ?_
  obtain ⟨addr,haddr⟩ := Option.isSome_iff_exists.mp (by simpa using haddr : fs.addr.isSome = true)
  rw [haddr,Option.getD_some] at hrecord
  have hrecord := update_ok hrecord
  refine op_bind (.createNetwork record (!fs.ignoreLimit))
    ⟨fs,addr,hrecord.1,hrecord.2,rfl,ignoreLimit_admin hlim⟩
    ⟨fs,addr,hfs,haddr,by rw [← hrecord.2]⟩ (Follows.wrap _ (Follows.discard _)) fun r => ?_
  exact Prints.get_bind fun _ => Prints.print _

theorem networkStatus_works : Serves env ctx s .networkStatus params := by
  refine failIf_bind fun _ => get_bind ?_
  exact Works.look (Looks.list fun _ => Looks.print _)

theorem networkUpdate_works : Serves env ctx s .networkUpdate params := by
  refine checks_bind (getNetworkFromArg_checks _) fun selected hsel => ?_
  refine flags_bind fun fs hfs => ?_
  refine failIf_bind fun hlim => get_bind ?_
  refine checks_bind (ofExcept_checks _) fun record hrecord => ?_
  have hrecord := update_ok hrecord
  rw [hsel.2] at hfs
  refine op_bind (.updateNetwork selected.1 record _)
    ⟨Picks.selected hsel.1,fs,hrecord.1,hrecord.2,rfl,ignoreLimit_admin hlim⟩
    ⟨fs,selected.1,hfs,hsel.1,by rw [← hrecord.2]⟩ (Follows.wrap _ (Follows.discard _)) fun r => ?_
  exact Prints.get_bind fun _ => Prints.print _

theorem networkDelete_works : Serves env ctx s .networkDelete params := by
  refine failIf_bind fun _ => ?_
  refine checks_bind (getNetworkFromArg_checks _) fun selected hsel => get_bind ?_
  exact op_print (.deleteNetwork (s.heap selected.1).record.id) ⟨selected.1,Picks.selected hsel.1,rfl⟩
    ⟨selected.1,hsel.1,rfl⟩

theorem networkQuote_works : Serves env ctx s .networkQuote params := by
  refine failIf_bind fun _ => ?_
  refine checks_bind (getNetworkFromArg_checks _) fun selected _ => get_bind ?_
  dsimp only
  split
  · exact Works.throw _
  · refine checks_bind (wrap_checks _ (ofExcept_checks _)) fun msg _ => Works.look (Prints.looks ?_)
    refine Prints.bind (Prints.emit ?_) (Prints.print _)
    exact trivial

end Networks

section Certificates
variable (params : List String)

/-- The certificate is stored as the user's default or as the network's own. -/
theorem storeCertKey_works (fs : CertFlags)
    (hcert : cert ≠ []) (hq : ∀ op, Certifies ctx s fs cert key op → Q op) (hk : Prints ctx.admin k) :
    Works env ctx Q (storeCertKey env ctx fs.network fs.isDefault cert key >>= fun _ => k) s := by
  unfold storeCertKey
  split
  · rename_i hdefault
    rw [bind_assoc]
    refine failIf_bind fun hname => ?_
    exact op_bind (.updateUser (setDefaultCert cert key)) (.setDefaultCert cert key hcert)
      (hq _ (.inl ⟨hdefault,by simpa using hname,rfl⟩)) (Follows.refl _) fun _ => hk
  · rename_i hdefault
    rw [bind_assoc]
    refine select_bind fun r hsel => ?_
    exact op_bind (.editSASL r (setCert cert key)) ⟨Picks.selected hsel,.setCert cert key hcert⟩
      (hq _ (.inr ⟨by simpa using hdefault,r,hsel,rfl⟩)) (Follows.refl _) fun _ => hk

theorem certFPGenerate_works : Serves env ctx s .certFPGenerate params := by
  refine flags_bind fun fs hfs => ?_
  refine failIf_bind fun hbits => ?_
  refine checks_bind (ofExcept_checks _) fun pair hpair => ?_
  refine storeCertKey_works fs (env.generateCertFP_ne hpair) (fun op hop => ⟨fs,pair,hfs,hbits,hpair,hop⟩) ?_
  exact (Prints.print _).bind (sendCertfpFingerprints_prints env _)

/-- Reading the text adds plain effects, since only admins get to a file. -/
theorem importedPEM_works (source : String)
    (hk : ∀ es pem, Imports env ctx source pem → Works env ctx Q (k pem) (s.emit es)) :
    Works env ctx Q (importedPEM env ctx source >>= k) s := by
  unfold importedPEM
  simp only [Imports] at hk
  split
  · rename_i hbegin
    simp only [if_pos hbegin] at hk
    have hs : s.emit [] = s := by simp [State.emit]
    exact hs ▸ hk [] _ rfl
  · rename_i hbegin
    simp only [if_neg hbegin] at hk
    rw [bind_assoc]
    refine failIf_bind fun hadmin => ?_
    unfold readCertKeyPEM
    split
    · rename_i hurl
      simp only [if_pos hurl] at hk
      rw [bind_assoc]
      refine failIf_bind fun hhttps => ?_
      rw [bind_assoc]
      exact emit_bind trivial (checks_bind (ofExcept_checks _) fun pem hpem => hk _ pem ⟨by simpa using hhttps,hpem⟩)
    · rename_i hurl
      simp only [if_neg hurl] at hk
      rw [bind_assoc]
      have hplain : ctx.admin = true := by simpa [hurl] using hadmin
      exact emit_bind hplain (checks_bind (ofExcept_checks _) fun pem hpem => hk _ pem ⟨hplain,hpem⟩)

theorem certFPImport_works : Serves env ctx s .certFPImport params := by
  refine checks_bind (parseFlags_checks _ _ _) fun parsed hparsed => ?_
  refine failIf_bind fun hlen => importedPEM_works _ fun es pem hpem => ?_
  refine checks_bind (ofExcept_checks _) fun pair hpair => ?_
  obtain ⟨fs,source,rfl⟩ : ∃ fs source, parsed = (fs,[source]) := by
    obtain ⟨source,hsource⟩ := List.length_eq_one_iff.mp (by simpa using hlen : parsed.2.length = 1)
    exact ⟨parsed.1,source,by rw [← hsource]⟩
  refine storeCertKey_works fs (env.parseCertKeyPEM_ne hpair)
    (fun op hop => ⟨fs,source,pem,pair,hparsed,hpem,hpair,hop⟩) ?_
  exact (Prints.print _).bind (sendCertfpFingerprints_prints env _)

theorem certFPRemove_works : Serves env ctx s .certFPRemove params := by
  refine flags_bind fun fs hfs => ?_
  split
  · rename_i hdefault
    refine failIf_bind fun hname => ?_
    exact op_print (.updateUser (setDefaultCert [] [])) .removeDefaultCert
      ⟨fs,hfs,.inl ⟨hdefault,by simpa using hname,rfl⟩⟩
  · rename_i hdefault
    refine select_bind fun r hsel => get_bind ?_
    exact op_print (.editSASL r (removeCert s.user)) ⟨Picks.selected hsel,.removeCert⟩
      ⟨fs,hfs,.inr ⟨by simpa using hdefault,r,hsel,rfl⟩⟩

theorem certFPFingerprints_works : Serves env ctx s .certFPFingerprints params := by
  refine flags_bind fun fs _ => ?_
  split
  · refine failIf_bind fun _ => get_bind ?_
    refine failIf_bind fun _ => Works.look (Prints.looks ?_)
    exact sendCertfpFingerprints_prints env _
  · refine select_bind fun r _ => get_bind ?_
    refine failIf_bind fun _ => Works.look (Prints.looks ?_)
    exact sendCertfpFingerprints_prints env _

theorem saslStatus_works : Serves env ctx s .saslStatus params := by
  refine flags_bind fun name _ => ?_
  refine select_bind fun r _ => get_bind (Works.look fun _ => ?_)
  exact Keeps.bind (forM fun line _ => Looks.print _ _) fun _ => Looks.print _ _

theorem saslSetPlain_works : Serves env ctx s .saslSetPlain params := by
  refine checks_bind (parseFlags_checks _ _ _) fun parsed hparsed => ?_
  refine failIf_bind fun hlen => ?_
  obtain ⟨name,username,password,rfl⟩ : ∃ name username password, parsed = (name,[username,password]) := by
    obtain ⟨username,password,hargs⟩ := List.length_eq_two.mp (by simpa using hlen : parsed.2.length = 2)
    exact ⟨parsed.1,username,password,by rw [← hargs]⟩
  refine select_bind fun r hsel => ?_
  exact op_print (.editSASL r _) ⟨Picks.selected hsel,.setPlain _ _⟩
    ⟨name,username,password,r,hparsed,hsel,rfl⟩

theorem saslSetExternal_works : Serves env ctx s .saslSetExternal params := by
  refine flags_bind fun name hname => ?_
  refine select_bind fun r hsel => get_bind ?_
  refine failIf_bind fun hcert => ?_
  have hne : clientCert s.user (s.heap r).record ≠ [] := by simpa using hcert
  exact op_print (.editSASL r setExternal) ⟨Picks.selected hsel,.setExternal hne⟩
    ⟨name,r,hname,hsel,hne,rfl⟩

theorem saslReset_works : Serves env ctx s .saslReset params := by
  refine flags_bind fun name hname => ?_
  refine select_bind fun r hsel => ?_
  exact op_print (.editSASL r resetSASL) ⟨Picks.selected hsel,.resetSASL⟩ ⟨name,r,hname,hsel,rfl⟩

end Certificates

section Users
variable (params : List String)

theorem printUserStatus_looks (user : Database.User) : Looks ctx.admin (printUserStatus user) := by
  intro t
  refine Keeps.bind ?_ fun _ => Looks.print _ _
  refine tryCatch (Looks.call (fun _ db db' _ h => ?_) t) fun e _ => ?_
  · cases h
    rfl
  · cases e <;> exact throw trivial

theorem userStatus_works : Serves env ctx s .userStatus params := by
  refine failIf_bind fun _ => get_bind ?_
  split
  · exact Works.look (Looks.list printUserStatus_looks)
  · split
    · exact Works.throw _
    · exact Works.look (printUserStatus_looks _)

theorem userCreate_works (hadmin : ctx.admin = true) : Serves env ctx s .userCreate params := by
  refine flags_bind fun fs _ => ?_
  refine failIf_bind fun _ => ?_
  refine failIf_bind fun _ => ?_
  refine failIf_bind fun _ => ?_
  refine failIf_bind fun _ => ?_
  refine checks_bind (ofExcept_checks _) fun password _ => ?_
  exact op_bind (.createUser (fs.record password)) ⟨hadmin,rfl⟩ ⟨_,rfl⟩ (Follows.wrap _ (Follows.refl _))
    fun _ => Prints.print _

theorem updateOtherUser_works (username : String) (fs : UserUpdateFlags)
    (hq : ∀ event, Q (.post username event)) : Works env ctx Q (updateOtherUser env ctx username fs) s := by
  refine failIf_bind fun hadmin => ?_
  refine failIf_bind fun _ => ?_
  refine failIf_bind fun _ => ?_
  refine checks_bind (ofExcept_checks _) fun hashed _ => get_bind ?_
  refine failIf_bind fun _ => ?_
  have hadmin : ctx.admin = true := by simpa using hadmin
  exact op_print (.post username _) hadmin (hq _)

theorem updateOwnUser_works (fs : UserUpdateFlags) (hip : fs.sourceIP.isSome → ctx.admin = true)
    (hq : Q (.updateUser (fs.apply env ctx))) : Works env ctx Q (updateOwnUser env ctx fs) s := by
  refine failIf_bind fun _ => ?_
  refine failIf_bind fun _ => ?_
  refine failIf_bind fun hmax => ?_
  have hmax : fs.maxNetworks.isSome → ctx.admin = true := by
    intro h
    simpa [h] using hmax
  refine op_bind (.updateUser (fs.apply env ctx)) (.flags fs hmax hip) hq (Follows.refl _) fun _ => ?_
  exact Prints.get_bind fun _ => Prints.print _

theorem userUpdate_works : Serves env ctx s .userUpdate params := by
  refine flags_bind fun fs hfs => ?_
  refine failIf_bind fun _ => ?_
  refine failIf_bind fun _ => ?_
  refine failIf_bind fun hip => get_bind ?_
  split
  · exact updateOtherUser_works _ _ fun event => .inl ⟨_,event,rfl⟩
  · refine updateOwnUser_works _ (fun h => ?_) (.inr ⟨fs,hfs,rfl⟩)
    simpa [h] using hip

theorem deleteSelf_works (username : String) : Works env ctx Q (deleteSelf username) s := by
  refine Works.look fun t => Keeps.bind (Looks.print _ _) fun _ => Keeps.bind ?_ fun _ => throw trivial
  refine Prints.looks (Prints.emit ?_) t
  exact trivial

theorem userDelete_works : Serves env ctx s .userDelete params := by
  refine failIf_bind fun _ => get_bind ?_
  refine failIf_bind fun hadmin => ?_
  refine failIf_bind fun _ => ?_
  split
  · exact Works.look (Looks.print _)
  refine failIf_bind fun _ => ?_
  split
  · exact deleteSelf_works _
  rename_i hself
  have hadmin : ctx.admin = true := by
    by_contra hno
    exact hself (by simpa [hno] using hadmin)
  exact of_op (.deleteUser _) hadmin rfl rfl

theorem runAsOther_works (username : String) (params : List String) (hadmin : ctx.admin = true)
    (hq : Q (.post username (.userRun params))) : Works env ctx Q (runAsOther username params) s :=
  get_bind (failIf_bind fun _ => of_op (.post username _) hadmin hq rfl)

end Users

section Channels
variable (params : List String)

theorem printChannels_looks (lines : List String) : Looks ctx.admin (printChannels lines) :=
  Looks.list fun _ => Looks.print _

theorem channelStatus_works : Serves env ctx s .channelStatus params := by
  refine get_bind (flags_bind fun name _ => ?_)
  split
  · exact Works.look (printChannels_looks _)
  · split
    · exact Works.throw _
    · exact Works.look (printChannels_looks _)

theorem settings_keep (fs : ChannelFlags) :
    ∀ set ∈ fs.settings env, ∀ f, set = .ok f → ∀ ch, (f ch).id = ch.id ∧ (f ch).name = ch.name := by
  have hsetting : ∀ {α : Type} value (parse : String → Except String α)
      (set : α → Channel → Channel), (∀ a ch, (set a ch).id = ch.id ∧ (set a ch).name = ch.name) →
      ∀ f, setting value parse set = .ok f → ∀ ch, (f ch).id = ch.id ∧ (f ch).name = ch.name := by
    intro α value parse set hset f hf ch
    unfold setting at hf
    split at hf
    · cases hf
      exact ⟨rfl,rfl⟩
    · split at hf
      · cases hf
        exact hset _ ch
      · cases hf
  intro set hset
  simp only [ChannelFlags.settings,List.mem_cons,List.not_mem_nil,or_false] at hset
  rcases hset with rfl | rfl | rfl | rfl | rfl <;> exact hsetting _ _ _ fun _ _ => ⟨rfl,rfl⟩

theorem applySettings_keep
    (h : ∀ set ∈ settings, ∀ f, set = .ok f → ∀ ch, (f ch).id = ch.id ∧ (f ch).name = ch.name) (ch : Channel) :
    (applySettings settings ch).1.id = ch.id ∧ (applySettings settings ch).1.name = ch.name := by
  induction settings generalizing ch with
  | nil => exact ⟨rfl,rfl⟩
  | cons set settings ih =>
    cases set with
    | error e => exact ⟨rfl,rfl⟩
    | ok f =>
      have hf := h _ List.mem_cons_self f rfl ch
      have hrest := ih (fun set hset => h set (List.mem_cons_of_mem _ hset)) (f ch)
      exact ⟨hrest.1.trans hf.1,hrest.2.trans hf.2⟩

theorem update_keeps (env : Env) (fs : ChannelFlags) (ch : Channel) :
    (fs.update env ch).1.id = ch.id ∧ (fs.update env ch).1.name = ch.name :=
  applySettings_keep (settings_keep fs) ch

theorem channelCreate_works : Serves env ctx s .channelCreate params := by
  refine failIf_bind fun hparams => ?_
  obtain ⟨word,flags,rfl⟩ := List.exists_cons_of_ne_nil (by simpa using hparams : params ≠ [])
  refine flags_bind fun fs hfs => ?_
  refine checks_bind (stripNetworkSuffix_checks _) fun target htarget => ?_
  refine checks_bind (checkNewChannel_checks _ _) fun _ hnew => ?_
  have hkeeps := update_keeps env fs (newChannel target.1 "")
  dsimp only
  split
  · exact Works.throw _
  rename_i hvalid
  refine op_bind (.createChannel target.2 _) ⟨Targets.selected htarget,?_,hkeeps.1⟩
    ⟨word,flags,fs,_,_,rfl,hfs,htarget,hnew,hvalid,rfl⟩ (Follows.refl _) fun _ =>
      (Prints.toServer _ _).bind (Prints.print _)
  rw [hkeeps.2]
  exact hnew.2.2

theorem channelUpdate_works : Serves env ctx s .channelUpdate params := by
  refine failIf_bind fun hparams => ?_
  obtain ⟨word,flags,rfl⟩ := List.exists_cons_of_ne_nil (by simpa using hparams : params ≠ [])
  refine flags_bind fun fs hfs => ?_
  refine checks_bind (stripNetworkSuffix_checks _) fun target htarget => get_bind ?_
  split
  · exact Works.throw _
  · rename_i ch hch
    exact op_print (.updateChannel target.2 target.1 fs ch) ⟨Targets.selected htarget,hch⟩
      ⟨word,flags,fs,_,_,ch,rfl,hfs,htarget,hch,rfl⟩

theorem channelDelete_works : Serves env ctx s .channelDelete params := by
  refine failIf_bind fun _ => ?_
  refine checks_bind (stripNetworkSuffix_checks _) fun target hsel => ?_
  exact op_bind (.deleteChannel target.2 target.1) (Targets.selected hsel) ⟨_,_,rfl⟩ (Follows.wrap _ (Follows.refl _)) fun _ =>
    Prints.bind (Prints.get_bind fun _ => Prints.ite (Prints.toServer _ _) Prints.pure) (Prints.print _)

theorem ignoreList_works : Serves env ctx s .ignoreList params := by
  refine flags_bind fun name _ => ?_
  refine select_bind fun r _ => get_bind ?_
  exact Works.look (Looks.list fun _ => Looks.print _)

theorem ignoreAdd_works : Serves env ctx s .ignoreAdd params := by
  refine checks_bind (parseFlags_checks _ _ _) fun parsed _ => ?_
  refine failIf_bind fun _ => ?_
  refine select_bind fun r hsel => get_bind ?_
  refine failIf_bind fun _ => ?_
  exact op_print (.addIgnore r _) (Picks.selected hsel) ⟨_,_,rfl⟩

theorem ignoreDelete_works : Serves env ctx s .ignoreDelete params := by
  refine checks_bind (parseFlags_checks _ _ _) fun parsed _ => ?_
  refine failIf_bind fun _ => ?_
  refine select_bind fun r hsel => ?_
  exact op_print (.deleteIgnore r _) (Picks.selected hsel) ⟨_,_,rfl⟩

end Channels

section Server
variable (params : List String)

theorem listDeviceCertificates_looks : Looks ctx.admin listDeviceCertificates := by
  intro t
  refine get_bind fun u _ => Looks.call (fun _ db db' _ h => ?_) t
  cases h
  rfl

theorem wrap_looks (text : String) (h : Looks ctx.admin m) : Looks ctx.admin (wrap text m) := by
  intro t
  refine tryCatch (h t) fun e _ => ?_
  cases e <;> exact throw trivial

theorem deviceCertificateStatus_works : Serves env ctx s .deviceCertificateStatus params := by
  refine failIf_bind fun _ => Works.look fun t => ?_
  refine Keeps.bind (wrap_looks _ listDeviceCertificates_looks t) fun certs => ?_
  exact Looks.list (fun _ => Looks.print _) t

theorem deviceCertificateCreate_works : Serves env ctx s .deviceCertificateCreate params := by
  refine failIf_bind fun _ => ?_
  refine flags_bind fun fs _ => ?_
  refine failIf_bind fun _ => ?_
  refine failIf_bind fun _ => ?_
  refine failIf_bind fun _ => ?_
  refine op_print (.storeCertificate _) ?_ ⟨_,rfl⟩
  rfl

theorem deviceCertificateDelete_works : Serves env ctx s .deviceCertificateDelete params := by
  refine failIf_bind fun _ => ?_
  refine failIf_bind fun _ => ?_
  exact op_print (.deleteCertificate _ _) trivial ⟨_,_,rfl⟩

theorem serverStatus_works : Serves env ctx s .serverStatus params := by
  refine failIf_bind fun _ => Works.look fun t => ?_
  refine Keeps.bind (Looks.call (fun _ db db' _ h => ?_) t) fun _ => get_bind fun _ _ => Looks.print _ _
  cases h
  rfl

theorem serverNotice_works (hadmin : ctx.admin = true) : Serves env ctx s .serverNotice params := by
  refine failIf_bind fun _ => ?_
  exact op_bind (.notice _) hadmin ⟨_,rfl⟩ (Follows.refl _) fun _ => Prints.get_bind fun _ => Prints.print _

theorem serverDebug_works (hadmin : ctx.admin = true) : Serves env ctx s .serverDebug params := by
  refine failIf_bind fun _ => ?_
  split
  · exact Works.throw _
  · exact of_op (.debug _) hadmin ⟨_,rfl⟩ rfl

theorem help_works : Serves env ctx s .help params := by
  change Works env ctx _ (handleServiceHelp ctx params) s
  unfold handleServiceHelp
  split
  · exact Works.look (Looks.print _)
  · refine checks_bind (ofExcept_checks _) fun found _ => ?_
    split <;> exact Works.look (Looks.print _)

end Server

/-- The commands that touch other users or the server. -/
def adminOnly : Command → Bool
  | .userCreate | .userRun | .serverNotice | .serverDebug => true
  | _ => false

/-- The command is marked for admins if it has to be. -/
def guarded (cmd : ServiceCommand) : Bool := cmd.admin || !(cmd.handle.any adminOnly)

/-- All commands meet `p`, which are at most two words deep. -/
def commandsMeet (p : ServiceCommand → Bool) : Bool :=
  serviceCommands.all fun cmd => p cmd && cmd.children.all fun child => p child && child.children.isEmpty

theorem serviceCommands_guarded : commandsMeet guarded = true := by decide

theorem lookup_mem (h : lookup cmds name = .ok cmd) : cmd ∈ cmds := by
  unfold lookup at h
  split at h
  · rename_i hfind
    cases h
    exact List.mem_of_find?_eq_some hfind
  split at h
  · cases h
  · rename_i hfilter
    cases h
    exact List.mem_of_mem_filter (hfilter ▸ List.mem_singleton_self cmd)
  · cases h

theorem getCommand_cases (h : getCommand cmds words = .ok (cmd,params)) :
    ∃ name rest, words = name :: rest ∧ ∃ found ∈ cmds,
      (cmd = found ∧ params = rest) ∨ getCommand found.children rest = .ok (cmd,params) := by
  cases words with
  | nil => cases h
  | cons name rest =>
    refine ⟨name,rest,rfl,?_⟩
    unfold getCommand at h
    split at h
    · cases h
    rename_i found hfound
    refine ⟨found,lookup_mem hfound,?_⟩
    split at h
    · cases h
      exact .inl ⟨rfl,rfl⟩
    · exact .inr h

theorem getCommand_length : ∀ {cmds params cmd},
    getCommand cmds words = .ok (cmd,params) → params.length < words.length := by
  induction words with
  | nil =>
    intro cmds params cmd h
    cases h
  | cons word words ih =>
    intro cmds params cmd h
    obtain ⟨name,rest,hwords,found,_,⟨_,rfl⟩ | hrest⟩ := getCommand_cases h
    · cases hwords
      exact Nat.lt_succ_self _
    · cases hwords
      exact (ih hrest).trans (Nat.lt_succ_self _)

theorem getCommand_meets (hp : commandsMeet p = true)
    (h : getCommand serviceCommands words = .ok (cmd,params)) : p cmd = true := by
  obtain ⟨_,rest,_,found,hfound,hcmd⟩ := getCommand_cases h
  have hall := List.all_eq_true.mp hp found hfound
  rw [Bool.and_eq_true] at hall
  rcases hcmd with ⟨rfl,_⟩ | hchild
  · exact hall.1
  obtain ⟨_,rest',_,child,hmem,hcmd⟩ := getCommand_cases hchild
  have hall' := List.all_eq_true.mp hall.2 child hmem
  rw [Bool.and_eq_true,List.isEmpty_iff] at hall'
  rcases hcmd with ⟨rfl,_⟩ | hdeeper
  · exact hall'.1
  · obtain ⟨_,_,_,_,hnone,_⟩ := getCommand_cases hdeeper
    rw [hall'.2] at hnone
    cases hnone

section Commands
variable {m : Handler Unit}

theorem withHelp_works (words params : List String) (h : Works env ctx Q m s) :
    Works env ctx Q (withHelp words params m) s := by
  obtain ⟨op,⟨s',hs,hop,hend⟩,hq⟩ := h
  refine ⟨op,⟨s',hs,hop,?_⟩,hq⟩
  have hrun : withHelp words params m s = EStateM.tryCatch m _ s := rfl
  cases hx : op.exec env ctx s' with
  | ok _ t =>
    rw [hx] at hend
    obtain ⟨t',ht',hem⟩ := hend
    exact ⟨t',by simp [hrun,EStateM.tryCatch,ht'],hem⟩
  | error _ t =>
    rw [hx] at hend
    obtain ⟨e',he'⟩ := hend
    rw [hrun,EStateM.tryCatch,he']
    cases e' <;> exact ⟨_,rfl⟩

theorem handle_works (command : Command) (params : List String) (h : adminOnly command = true → ctx.admin = true) :
    Serves env ctx s command params := by
  cases command with
  | help => exact help_works params
  | networkCreate => exact networkCreate_works params
  | networkStatus => exact networkStatus_works params
  | networkUpdate => exact networkUpdate_works params
  | networkDelete => exact networkDelete_works params
  | networkQuote => exact networkQuote_works params
  | certFPGenerate => exact certFPGenerate_works params
  | certFPFingerprints => exact certFPFingerprints_works params
  | certFPImport => exact certFPImport_works params
  | certFPRemove => exact certFPRemove_works params
  | saslStatus => exact saslStatus_works params
  | saslSetPlain => exact saslSetPlain_works params
  | saslSetExternal => exact saslSetExternal_works params
  | saslReset => exact saslReset_works params
  | userStatus => exact userStatus_works params
  | userCreate => exact userCreate_works params (h rfl)
  | userUpdate => exact userUpdate_works params
  | userDelete => exact userDelete_works params
  | userRun => exact runAsOther_works _ _ (h rfl) ⟨_,_,rfl⟩
  | channelStatus => exact channelStatus_works params
  | channelCreate => exact channelCreate_works params
  | channelUpdate => exact channelUpdate_works params
  | channelDelete => exact channelDelete_works params
  | ignoreList => exact ignoreList_works params
  | ignoreAdd => exact ignoreAdd_works params
  | ignoreDelete => exact ignoreDelete_works params
  | deviceCertificateStatus => exact deviceCertificateStatus_works params
  | deviceCertificateCreate => exact deviceCertificateCreate_works params
  | deviceCertificateDelete => exact deviceCertificateDelete_works params
  | serverStatus => exact serverStatus_works params
  | serverNotice => exact serverNotice_works params (h rfl)
  | serverDebug => exact serverDebug_works params (h rfl)

/-- The operation is that of the command that the words name. -/
def Named (env : Env) (ctx : Ctx) (s : State) (words : List String) (op : Op) : Prop :=
  ∃ command params, Names ctx.admin s.user.username words command params ∧ op.Of env ctx s command params

theorem Works.mono (h : Works env ctx Q m s) (hq : ∀ op, Q op → Q' op) : Works env ctx Q' m s := by
  obtain ⟨op,hop,hlook | hop'⟩ := h
  · exact ⟨op,hop,.inl hlook⟩
  · exact ⟨op,hop,.inr (hq op hop')⟩

/-- Whatever the words are, a service command does nothing but one operation that it is allowed, and
that the command is for. -/
theorem runCommand_works (depth : Nat) :
    ∀ words s, Works env ctx (Named env ctx s words) (runCommand env ctx depth words) s := by
  induction depth with
  | zero => exact fun _ _ => Works.throw _
  | succ depth ih =>
    intro words s
    unfold runCommand
    split
    · exact Works.throw _
    rename_i cmd params hget
    have hguard := getCommand_meets serviceCommands_guarded hget
    split
    · exact Works.throw _
    rename_i hadmin
    have hcmd : ∀ command, cmd.handle = some command → adminOnly command = true → ctx.admin = true := by
      intro command hc ho
      simp only [guarded,hc,Option.any_some,ho,Bool.not_true,Bool.or_false] at hguard
      simpa [hguard] using hadmin
    unfold runHandler
    split
    · rename_i hc
      refine failIf_bind fun hlen => get_bind ?_
      split
      · rename_i hself
        -- the words after the own name are a command of their own
        refine (ih params.tail s).mono fun op hop => ?_
        obtain ⟨command,params',hnames,hof⟩ := hop
        cases params with
        | nil => simp at hlen
        | cons self rest =>
          have hself : s.user.username = self := hself
          exact ⟨command,params',.userRun (hself ▸ hget) hc (hcmd _ hc rfl) hnames,hof⟩
      · exact runAsOther_works _ _ (hcmd _ hc rfl) ⟨.userRun,params,.command hget hc,_,_,rfl⟩
    · rename_i command _ hc
      refine withHelp_works _ _ ((handle_works command params (hcmd command hc)).mono fun op hop => ?_)
      exact ⟨command,params,.command hget hc,hop⟩
    · split
      · exact Works.throw _
      · exact Works.look (Looks.print _)

/-- The depth that a command is run with is deep enough: more of it changes nothing. -/
theorem runCommand_depth (depth : Nat) : ∀ words : List String, words.length < depth →
    runCommand env ctx depth words = handleServiceCommand env ctx words := by
  suffices h : ∀ n d words, words.length < n → words.length < d →
      runCommand env ctx n words = runCommand env ctx d words by
    exact fun words hw => h _ _ words hw (Nat.lt_succ_self _)
  intro n
  induction n with
  | zero => exact fun _ _ h => absurd h (Nat.not_lt_zero _)
  | succ n ih =>
    intro d words hn hd
    cases d with
    | zero => exact absurd hd (Nat.not_lt_zero _)
    | succ d =>
      unfold runCommand
      cases hget : getCommand serviceCommands words with
      | error e => rfl
      | ok found =>
        have hlen : found.2.length < words.length := getCommand_length hget
        have hself : runCommand env ctx n found.2.tail = runCommand env ctx d found.2.tail := by
          refine ih d _ ?_ ?_ <;> rw [List.length_tail] <;> omega
        simp [runHandler,handleUserRun,hself]

end Commands

end Sake.Proofs.Service
