import Sake.Authenticate
import Sake.Lib.Handler

namespace Sake.Proofs.Authenticate
open Sake.Downstream Sake.Authenticate Lib.Handler Lib List Meets

variable {α : Type} {dc : Conn} {lib : Library} {env : Env} {u : String}

/-- Nothing that decides who is let in has changed. -/
structure Quiet (dc t : Conn) : Prop where
  registered : t.registered = dc.registered
  exchanges : t.exchanges = dc.exchanges
  authUsername : t.registration.authUsername = dc.registration.authUsername

theorem Quiet.refl (dc : Conn) : Quiet dc dc := ⟨rfl,rfl,rfl⟩

/-- Such code judges nobody. -/
def Silent {α : Type} (m : Handler α) : Prop := ∀ dc, Keeps (Quiet dc) (fun _ => True) m

section Silent
theorem silent_pure (a : α) : Silent (pure a : Handler α) := fun _ => Keeps.pure a

theorem silent_throw (e : Fault) : Silent (throw e : Handler α) := fun _ => Keeps.throw trivial

theorem Silent.bind (hm : Silent m) (hf : ∀ a, Silent (f a)) : Silent (m >>= f) :=
  fun dc => Keeps.bind (hm dc) fun a => hf a dc

theorem Silent.get {f : Conn → Handler α} (hf : ∀ dc, Silent (f dc)) : Silent (get >>= f) :=
  fun dc => Keeps.get_bind fun s _ => hf s dc

theorem silent_modify (hf : ∀ dc, Quiet dc (f dc)) : Silent (modify f : Handler PUnit) := by
  intro dc
  refine Keeps.modify fun s hs => ?_
  have h := hf s
  exact ⟨h.registered.trans hs.registered,h.exchanges.trans hs.exchanges,h.authUsername.trans hs.authUsername⟩

theorem Silent.ite [Decidable c] (hm : Silent m) (hn : Silent n) : Silent (if c then m else n) :=
  fun dc => Keeps.ite (fun _ => hm dc) fun _ => hn dc

theorem Silent.forM {xs : List α} (hf : ∀ x, Silent (f x)) : Silent (xs.forM f) :=
  fun dc => Keeps.forM fun x _ => hf x dc

theorem Silent.tryCatch {f : Fault → Handler α} (hm : Silent m) (hf : ∀ e, Silent (f e)) : Silent (tryCatch m f) :=
  fun dc => Keeps.tryCatch (hm dc) fun e _ => hf e dc

theorem silent_send (msg : Message) : Silent (send msg) := silent_modify fun _ => ⟨rfl,rfl,rfl⟩

theorem silent_failWith (command : String) (params : List String) : Silent (failWith command params : Handler α) :=
  silent_throw _

theorem silent_failIf (c : Bool) (command : String) (params : List String) : Silent (failIf c command params) :=
  .ite (silent_failWith _ _) (silent_pure _)

theorem silent_needParams (msg : Message) (n : Nat) : Silent (needParams msg n) := silent_failIf _ _ _

end Silent

section Commands
variable (lib : Library) (env : Env) (msg : Message)

theorem silent_handleCapLS (args : List String) : Silent (handleCapLS env args) := by
  have hversion : Silent (setCapVersion args) := by
    cases args with
    | nil => exact silent_pure _
    | cons arg args =>
      rw [setCapVersion]
      cases Strings.parseInt arg with
      | none => exact silent_throw _
      | some version => exact silent_modify fun _ => ⟨rfl,rfl,rfl⟩
  refine .bind hversion fun _ => .get fun dc => .bind (silent_send _) fun _ => ?_
  exact silent_modify fun _ => ⟨rfl,rfl,rfl⟩

theorem silent_handleCapREQ (args : List String) : Silent (handleCapREQ lib env args) := by
  refine .get fun dc => ?_
  cases args with
  | nil => exact silent_failWith _ _
  | cons arg args =>
    refine .bind (silent_modify fun _ => ⟨rfl,rfl,rfl⟩) fun _ => .bind (silent_send _) fun _ => ?_
    exact silent_modify fun _ => ⟨rfl,rfl,rfl⟩

theorem silent_handleCap : Silent (handleCap lib env msg) := by
  refine .bind (silent_needParams msg 1) fun _ => .get fun dc => ?_
  split
  · exact silent_handleCapLS env _
  · exact silent_send _
  · exact silent_handleCapREQ lib env _
  · exact silent_modify fun _ => ⟨rfl,rfl,rfl⟩
  · exact silent_failWith _ _

theorem silent_subscribe (sub : Bool) (word : String) : Silent (subscribe lib sub word) :=
  .ite (.bind (silent_modify fun _ => ⟨rfl,rfl,rfl⟩) fun _ => silent_send _) (silent_send _)

theorem silent_handleMetadata : Silent (handleMetadata lib msg) := by
  have hsub : Silent (handleMetadataSub lib msg) := by
    refine .bind (silent_needParams msg 2) fun _ => ?_
    split
    · exact .bind (.forM fun _ => silent_subscribe lib _ _) fun _ => silent_pure _
    · exact .bind (.forM fun _ => silent_subscribe lib _ _) fun _ => silent_pure _
    · exact .get fun dc => .bind (.forM fun _ => silent_send _) fun _ => silent_pure _
    · exact silent_pure _
  refine .bind (silent_needParams msg 2) fun _ => .bind hsub fun handled => ?_
  exact .ite (silent_pure _) (silent_failWith _ _)

theorem silent_handleBouncer : Silent (handleBouncer lib msg) := by
  refine .bind (silent_needParams msg 1) fun _ => .ite ?_ (silent_failWith _ _)
  refine .bind (silent_needParams msg 2) fun _ => .get fun dc => .bind (silent_failIf _ _ _) fun _ => ?_
  refine .bind ?_ fun id => silent_modify fun _ => ⟨rfl,rfl,rfl⟩
  unfold parseBouncerNetID
  split
  · exact silent_failWith _ _
  · exact silent_pure _

theorem silent_serverNext (sasl : DownstreamSASL) (resp : Option (List UInt8)) : Silent (serverNext lib sasl resp) := by
  refine .bind (silent_modify fun _ => ⟨rfl,rfl,rfl⟩) fun _ => ?_
  cases (lib.next sasl.mechanism sasl.server resp).result with
  | failed => exact silent_throw _
  | done => exact silent_pure _
  | challenge data => exact .bind (silent_send _) fun _ => silent_pure _

theorem silent_receiveChunk (sasl : DownstreamSASL) (param : String) : Silent (receiveChunk sasl param) := by
  refine .get fun dc => .bind (silent_failIf _ _ _) fun _ => .ite ?_ ?_
  · exact .bind (silent_modify fun _ => ⟨rfl,rfl,rfl⟩) fun _ => silent_pure _
  · split
    · exact silent_failWith _ _
    · exact .bind (silent_modify fun _ => ⟨rfl,rfl,rfl⟩) fun _ => silent_pure _

theorem silent_beginSASL (name : String) : Silent (beginSASL lib name) := by
  refine .get fun dc => ?_
  split
  · exact silent_failWith _ _
  · exact .bind (silent_modify fun _ => ⟨rfl,rfl,rfl⟩) fun _ => silent_pure _

/-- Chunks, aborted exchanges and malformed responses judge nobody. -/
theorem silent_handleAuthenticate : Silent (handleAuthenticate lib msg) := by
  refine .tryCatch ?_ fun e => .bind (silent_modify fun _ => ⟨rfl,rfl,rfl⟩) fun _ => silent_throw _
  refine .get fun dc => .bind (silent_failIf _ _ _) fun _ => .bind (silent_failIf _ _ _) fun _ =>
    .bind (silent_failIf _ _ _) fun _ => ?_
  cases dc.sasl with
  | none => exact .bind (silent_beginSASL lib _) fun sasl => silent_serverNext lib sasl none
  | some sasl =>
    refine .bind (silent_receiveChunk sasl _) fun resp => ?_
    cases resp with
    | none => exact silent_pure _
    | some resp => exact silent_serverNext lib sasl _

theorem silent_useClientName (fallback : String) : Silent (useClientName fallback) :=
  .get fun _ => .ite (silent_modify fun _ => ⟨rfl,rfl,rfl⟩) (silent_failIf _ _ _)

theorem silent_useNetworkName (fallback : String) : Silent (useNetworkName fallback) :=
  .get fun _ => .ite (silent_modify fun _ => ⟨rfl,rfl,rfl⟩) (silent_failIf _ _ _)

end Commands

/-- What one judgement can do. -/
inductive Judged (lib : Library) (dc t : Conn) : Prop
  | nobody (exchanges : t.exchanges = dc.exchanges)
      (same : t.registration.authUsername = dc.registration.authUsername)
  | refused (e : Exchange) (exchanges : t.exchanges = dc.exchanges ++ [e])
      (no : ∀ u, ¬ Accepted lib e u) (same : t.registration.authUsername = dc.registration.authUsername)
  | accepted (e : Exchange) (exchanges : t.exchanges = dc.exchanges ++ [e])
      (yes : Accepted lib e t.registration.authUsername)

variable {t : Conn}

theorem Quiet.judged (h : Quiet dc t) : Judged lib dc t := .nobody h.exchanges h.authUsername

section Verdicts
theorem judge_login (h : judge lib env shown = .login l) : Accepted lib ⟨.sasl shown,env⟩ l.username := by
  unfold judge at h
  cases hm : shown.mechanism with
  | plain =>
    simp only [hm] at h
    cases hp : shown.plain with
    | none => simp [hp] at h
    | some plain =>
      simp only [hp,authPlain] at h
      cases ha : env.authPlain with
      | none => simp [ha] at h
      | some auth =>
        simp only [ha] at h
        cases hr : auth (unmarshalUsername plain.username).1 plain.password with
        | error e => simp [hr] at h
        | ok _ =>
          have haccepts : PlainAccepts env (unmarshalUsername plain.username).1 plain.password := ⟨auth,ha,hr⟩
          simp only [hr] at h
          by_cases hother : plain.identity ≠ "" ∧ plain.identity ≠ plain.username
          · rw [if_pos hother] at h
            cases hu : env.getUser 0 (unmarshalUsername plain.username).1 with
            | error e => simp [hu] at h
            | ok u =>
              simp only [hu] at h
              cases hadmin : u.admin with
              | false => simp [hadmin] at h
              | true =>
                simp only [hadmin,Bool.not_true,Bool.false_eq_true,if_false] at h
                cases ht : env.getUser 1 (unmarshalUsername plain.identity).1 with
                | error e => simp [ht] at h
                | ok target =>
                  simp only [ht,Verdict.login.injEq] at h
                  subst h
                  exact .impersonation env shown plain hm hp haccepts hother u hu hadmin ⟨target,ht⟩
          · rw [if_neg hother] at h
            cases h
            refine .plain env shown plain hm hp haccepts ?_
            by_contra hne
            exact hother (not_or.mp hne)
  | oauthBearer =>
    simp only [hm,authOAuthBearer] at h
    cases ha : env.authOAuthBearer with
    | none => simp [ha] at h
    | some auth =>
      cases ho : shown.oauthBearer with
      | none => simp [ha,ho] at h
      | some options =>
        simp only [ha,ho] at h
        cases hr : auth options.token with
        | error e => simp [hr] at h
        | ok username =>
          simp only [hr] at h
          by_cases hother : options.username ≠ "" ∧ options.username ≠ username
          · simp [hother] at h
          rw [if_neg hother] at h
          cases h
          refine .oauthBearer env shown options username hm ho ⟨auth,ha,hr⟩ ?_
          by_contra hne
          exact hother (not_or.mp hne)
  | external =>
    simp only [hm,authExternal] at h
    cases hc : env.config.clientCertAuth with
    | false => simp [hc] at h
    | true =>
      simp only [hc,Bool.not_true,Bool.false_eq_true,if_false] at h
      cases hp : env.peerCertificate with
      | none => simp [hp] at h
      | some cert =>
        simp only [hp] at h
        cases hd : env.getDeviceCertificate (lib.sha512 cert) with
        | error e => simp [hd] at h
        | ok found =>
          cases found with
          | none => simp [hd] at h
          | some row =>
            obtain ⟨userID,device⟩ := row
            simp only [hd] at h
            cases hu : env.getUsernameByID userID with
            | error e => simp [hu] at h
            | ok username =>
              simp only [hu] at h
              by_cases hempty : username = ""
              · rw [if_pos hempty] at h
                cases h
                subst hempty
                exact .external env shown cert userID device "" hm hc hp hd hu (.inl rfl)
              · rw [if_neg hempty] at h
                cases hs : env.storeDeviceCertificate userID (DeviceCertificate.markUsed env device) with
                | error e => simp [hs] at h
                | ok _ =>
                  simp only [hs,Verdict.login.injEq] at h
                  subst h
                  exact .external env shown cert userID device username hm hc hp hd hu (.inr hs)
  | anonymous => simp [hm] at h

theorem judge_accepted (h : Accepted lib ⟨.sasl shown,env⟩ u) : ∃ l, judge lib env shown = .login l := by
  cases h with
  | plain _ _ plain hm hp accepts same =>
    obtain ⟨auth,ha,hr⟩ := accepts
    have hother : ¬ (plain.identity ≠ "" ∧ plain.identity ≠ plain.username) := fun h => same.elim h.1 h.2
    exact ⟨_,by simp [judge,hm,hp,authPlain,ha,hr]; rw [if_neg hother]⟩
  | impersonation _ _ plain hm hp accepts other u hu hadmin target =>
    obtain ⟨auth,ha,hr⟩ := accepts
    obtain ⟨target,ht⟩ := target
    exact ⟨_,by simp [judge,hm,hp,authPlain,ha,hr]; rw [if_pos other]; simp only [hu,hadmin,ht]; rfl⟩
  | oauthBearer _ _ options u hm ho accepts same =>
    obtain ⟨auth,ha,hr⟩ := accepts
    have hother : ¬ (options.username ≠ "" ∧ options.username ≠ u) := fun h => same.elim h.1 h.2
    exact ⟨_,by simp [judge,hm,authOAuthBearer,ha,ho,hr]; rw [if_neg hother]⟩
  | external _ _ cert userID device u hm hc hp hd hu stored =>
    by_cases hempty : u = ""
    · exact ⟨_,by simp [judge,hm,authExternal,hc,hp,hd,hu]; simp [hempty]; rfl⟩
    · have hs := stored.resolve_left hempty
      exact ⟨_,by simp [judge,hm,authExternal,hc,hp,hd,hu,hempty,hs]; rfl⟩

theorem judge_refused (h : judge lib env shown = .refused e) (u : String) : ¬ Accepted lib ⟨.sasl shown,env⟩ u := by
  intro ha
  obtain ⟨l,hl⟩ := judge_accepted ha
  rw [h] at hl
  cases hl

end Verdicts

/-- The code has failed: what it was judging is left without effect. -/
structure Crashed (dc t : Conn) : Prop where
  registered : t.registered = dc.registered
  exchanges : ∃ new, t.exchanges = dc.exchanges ++ new
  authUsername : t.registration.authUsername = dc.registration.authUsername

theorem Quiet.crashed (h : Quiet dc t) : Crashed dc t :=
  ⟨h.registered,⟨[],by rw [h.exchanges,append_nil]⟩,h.authUsername⟩

theorem Quiet.trans (h : Quiet dc s) (h' : Quiet s t) : Quiet dc t :=
  ⟨h'.registered.trans h.registered,h'.exchanges.trans h.exchanges,h'.authUsername.trans h.authUsername⟩

/-- Only errors that are reported to the client leave the connection open, and these judge nobody. -/
structure Erred (dc : Conn) (e : Fault) (t : Conn) : Prop where
  crashed : Crashed dc t
  quiet : ∀ reply, e = .irc reply → Quiet dc t

structure Handled (lib : Library) (dc t : Conn) : Prop where
  registered : t.registered = dc.registered
  judged : Judged lib dc t

theorem Silent.meets (h : Silent m) (dc : Conn) : Meets m dc (fun _ => Quiet dc) (fun _ => Quiet dc) :=
  (h dc).meets (Quiet.refl dc) |>.mono (fun _ _ h => h) fun _ _ h => h.1

theorem Silent.handled (h : Silent m) (dc : Conn) : Meets m dc (fun _ => Handled lib dc) (Erred dc) :=
  (h.meets dc).mono (fun _ _ h => ⟨h.registered,h.judged⟩) fun _ _ h => ⟨h.crashed,fun _ _ => h⟩

theorem endSASL_quiet (reply : Option Message) (dc : Conn) :
    Meets (endSASL reply) dc (fun _ => Quiet dc) (fun _ _ => False) := by
  refine get_bind ?_
  cases dc.sasl with
  | none => exact Quiet.refl dc
  | some _ => exact ⟨rfl,rfl,rfl⟩

section Handled
variable {t s : Conn}

theorem handleSASL_handled : Meets (handleSASL lib env msg) dc (fun _ => Handled lib dc) (Erred dc) := by
  refine Meets.bind ((silent_handleAuthenticate lib msg).meets dc |>.mono (fun _ _ h => h)
    fun _ _ h => ⟨h.crashed,fun _ _ => h⟩) fun shown s hs => ?_
  cases shown with
  | none => exact ⟨hs.registered,hs.judged⟩
  | some shown =>
    refine modify_bind ?_
    have hcrash : ∀ p, Erred dc (.panic p) { s with exchanges := s.exchanges ++ [⟨.sasl shown,env⟩] } :=
      fun p => ⟨⟨hs.registered,⟨_,congrArg (· ++ _) hs.exchanges⟩,hs.authUsername⟩,fun _ h => by cases h⟩
    cases hj : judge lib env shown with
    | panic => exact throw (hcrash _)
    | refused e =>
      refine get_bind ((endSASL_quiet _ _).mono (fun _ t ht => ?_) fun _ _ h => h.elim)
      refine ⟨ht.registered.trans hs.registered,.refused ⟨.sasl shown,env⟩ ?_ (judge_refused hj) ?_⟩
      · rw [ht.exchanges,hs.exchanges]
      · exact ht.authUsername.trans hs.authUsername
    | login l =>
      by_cases hempty : l.username = ""
      · simp only [hempty]
        exact throw (hcrash _)
      simp only [hempty]
      refine modify_bind (modify_bind ?_)
      refine (endSASL_quiet _ _).mono (fun _ t ht => ?_) fun _ _ h => h.elim
      refine ⟨ht.registered.trans hs.registered,.accepted ⟨.sasl shown,env⟩ ?_ ?_⟩
      · rw [ht.exchanges,hs.exchanges]
      · rw [ht.authUsername]
        exact judge_login hj

theorem handleMessageUnregistered_handled :
    Meets (handleMessageUnregistered lib env msg) dc (fun _ => Handled lib dc) (Erred dc) := by
  unfold handleMessageUnregistered
  split
  · refine Silent.handled (.bind (silent_needParams msg 1) fun _ => ?_) dc
    exact silent_modify fun _ => ⟨rfl,rfl,rfl⟩
  · refine Silent.handled (.bind (silent_needParams msg 4) fun _ => ?_) dc
    exact silent_modify fun _ => ⟨rfl,rfl,rfl⟩
  · refine Silent.handled (.bind (silent_needParams msg 1) fun _ => ?_) dc
    exact silent_modify fun _ => ⟨rfl,rfl,rfl⟩
  · exact (silent_handleCap lib env msg).handled dc
  · exact handleSASL_handled
  · exact (silent_handleBouncer lib msg).handled dc
  · refine Silent.handled (.bind ?_ fun _ => silent_send _) dc
    exact silent_modify fun _ => ⟨rfl,rfl,rfl⟩
  · exact (silent_handleMetadata lib msg).handled dc
  · exact (silent_throw _).handled dc

theorem handleMessage_handled (lib : Library) (env : Env) (msg : Message) (dc : Conn) :
    Meets (handleMessage lib env msg) dc (fun _ => Handled lib dc) (fun _ => Crashed dc) := by
  have hsilent : ∀ {m : Handler Unit}, Silent m → Meets m dc (fun _ => Handled lib dc) (fun _ => Crashed dc) :=
    fun h => (h.handled dc).mono (fun _ _ h => h) fun _ _ h => h.crashed
  unfold handleMessage
  split
  · exact hsilent (silent_modify fun _ => ⟨rfl,rfl,rfl⟩)
  · exact hsilent (.get fun _ => .ite (silent_throw _) (silent_modify fun _ => ⟨rfl,rfl,rfl⟩))
  refine tryCatch handleMessageUnregistered_handled fun e s hs => ?_
  cases e with
  | irc reply =>
    have h := hs.quiet reply rfl
    exact ⟨h.registered,.nobody h.exchanges h.authUsername⟩
  | error e | panic p => exact hs.crashed

theorem authPass_judged (lib : Library) : Meets (authPass env) dc
    (fun _ t => Handled lib dc t ∧ (dc.registration.authUsername = "" →
      ∃ e, t.exchanges = dc.exchanges ++ [e] ∧ Accepted lib e t.registration.authUsername))
    (fun _ => Handled lib dc) := by
  refine get_bind (modify_bind ?_)
  by_cases hauth : dc.registration.authUsername = ""
  · simp only [if_pos hauth]
    by_cases hpass : dc.registration.pass = ""
    · simp only [if_pos hpass]
      split <;> exact ⟨rfl,.nobody rfl rfl⟩
    · simp only [if_neg hpass]
      cases ha : env.authPlain with
      | none => exact ⟨rfl,.nobody rfl rfl⟩
      | some auth =>
        refine modify_bind ?_
        cases hr : auth (unmarshalUsername dc.registration.username).1 dc.registration.pass with
        | error e =>
          refine ⟨rfl,.refused ⟨.pass dc.registration.username dc.registration.pass,env⟩ rfl ?_ rfl⟩
          intro u hu
          cases hu with
          | pass _ _ _ accepts =>
            obtain ⟨auth',ha',hr'⟩ := accepts
            rw [ha] at ha'
            cases ha'
            rw [hr] at hr'
            cases hr'
        | ok _ =>
          have hyes : Accepted lib ⟨.pass dc.registration.username dc.registration.pass,env⟩
              (unmarshalUsername dc.registration.username).1 := .pass env _ _ ⟨auth,ha,hr⟩
          exact ⟨⟨rfl,.accepted _ rfl hyes⟩,fun _ => ⟨_,rfl,hyes⟩⟩
  · simp only [if_neg hauth]
    exact ⟨⟨rfl,.nobody rfl rfl⟩,fun h => absurd h hauth⟩

theorem Judged.quiet_right (h : Judged lib dc s) (hq : Quiet s t) : Judged lib dc t := by
  cases h with
  | nobody he hu => exact .nobody (hq.exchanges.trans he) (hq.authUsername.trans hu)
  | refused e he no hu => exact .refused e (hq.exchanges.trans he) no (hq.authUsername.trans hu)
  | accepted e he yes => exact .accepted e (hq.exchanges.trans he) (hq.authUsername ▸ yes)

theorem Judged.quiet_left (hq : Quiet dc s) (h : Judged lib s t) : Judged lib dc t := by
  cases h with
  | nobody he hu => exact .nobody (he.trans hq.exchanges) (hu.trans hq.authUsername)
  | refused e he no hu => exact .refused e (hq.exchanges ▸ he) no (hu.trans hq.authUsername)
  | accepted e he yes => exact .accepted e (hq.exchanges ▸ he) yes

/-- Without an account before, one was accepted now. -/
def Passed (lib : Library) (dc t : Conn) : Prop :=
  dc.registration.authUsername = "" →
    ∃ e, t.exchanges = dc.exchanges ++ [e] ∧ Accepted lib e t.registration.authUsername

theorem register_judged (lib : Library) (env : Env) (dc : Conn) : Meets (register env) dc
    (fun _ t => t.registered = true ∧ Judged lib dc t ∧ Passed lib dc t)
    (fun _ t => t.registered = dc.registered ∧ Judged lib dc t) := by
  refine get_bind ?_
  have hpanic : Meets (panicIf dc.registered .registeredTwice) dc (fun _ => Quiet dc)
      (fun _ t => t.registered = dc.registered ∧ Judged lib dc t) := by
    cases hr : dc.registered with
    | true => exact ⟨hr,.nobody rfl rfl⟩
    | false => exact Quiet.refl dc
  refine Meets.bind hpanic fun _ s hs => ?_
  refine Meets.bind ((endSASL_quiet _ s).mono (fun _ _ h => hs.trans h) fun _ _ h => h.elim) fun _ s hs => ?_
  have hpass : Meets (authPass env) s (fun _ t => Handled lib dc t ∧ Passed lib dc t)
      (fun _ t => t.registered = dc.registered ∧ Judged lib dc t) := by
    refine (authPass_judged lib).mono (fun _ t h => ?_) fun _ t h => ?_
    · refine ⟨⟨h.1.registered.trans hs.registered,.quiet_left hs h.1.judged⟩,fun hempty => ?_⟩
      obtain ⟨e,he,yes⟩ := h.2 (hs.authUsername.trans hempty)
      exact ⟨e,hs.exchanges ▸ he,yes⟩
    · exact ⟨h.registered.trans hs.registered,.quiet_left hs h.judged⟩
  refine Meets.bind hpass fun _ s hs => ?_
  have hquiet : ∀ {s t : Conn}, Handled lib dc s ∧ Passed lib dc s → Quiet s t →
      Handled lib dc t ∧ Passed lib dc t := fun {s t} h hq =>
    ⟨⟨hq.registered.trans h.1.registered,h.1.judged.quiet_right hq⟩,fun hempty => by
      obtain ⟨e,he,yes⟩ := h.2 hempty
      exact ⟨e,hq.exchanges.trans he,hq.authUsername ▸ yes⟩⟩
  refine Meets.bind ((silent_useClientName _).meets s |>.mono (fun _ _ h => hquiet hs h)
    fun _ _ h => ⟨(hquiet hs h).1.registered,(hquiet hs h).1.judged⟩) fun _ s hs => ?_
  refine Meets.bind ((silent_useNetworkName _).meets s |>.mono (fun _ _ h => hquiet hs h)
    fun _ _ h => ⟨(hquiet hs h).1.registered,(hquiet hs h).1.judged⟩) fun _ s hs => ?_
  refine ⟨rfl,?_,hs.2⟩
  cases hs.1.judged with
  | nobody he hu => exact .nobody he hu
  | refused e he no hu => exact .refused e he no hu
  | accepted e he yes => exact .accepted e he yes

/-- The user name changes only when an exchange is accepted. -/
def Changes (lib : Library) (dc t : Conn) : Prop :=
  ∃ new, t.exchanges = dc.exchanges ++ new ∧ ((∀ e ∈ new, ∀ u, ¬ Accepted lib e u) →
    t.registration.authUsername = dc.registration.authUsername)

theorem Crashed.changes (h : Crashed dc t) : Changes lib dc t := by
  obtain ⟨new,he⟩ := h.exchanges
  exact ⟨new,he,fun _ => h.authUsername⟩

theorem Judged.changes (h : Judged lib dc t) : Changes lib dc t := by
  cases h with
  | nobody he hu => exact ⟨[],by rw [he,append_nil],fun _ => hu⟩
  | refused e he _ hu => exact ⟨[e],he,fun _ => hu⟩
  | accepted e he yes => exact ⟨[e],he,fun hno => absurd yes (hno e (mem_singleton.mpr rfl) _)⟩

theorem Changes.trans (h : Changes lib dc s) (h' : Changes lib s t) : Changes lib dc t := by
  obtain ⟨new,he,hu⟩ := h
  obtain ⟨new',he',hu'⟩ := h'
  refine ⟨new ++ new',by rw [he',he,append_assoc],fun hno => ?_⟩
  have hfirst := hu fun e h => hno e (mem_append_left _ h)
  have hsecond := hu' fun e h => hno e (mem_append_right _ h)
  exact hsecond.trans hfirst

/-- The account of an open connection: none and none accepted, or the one accepted last. -/
def Account (lib : Library) (dc : Conn) : Prop :=
  (dc.registration.authUsername = "" ∧ ∀ e ∈ dc.exchanges, ∀ u, ¬ Accepted lib e u) ∨
    LatestAccepted lib dc.exchanges dc.registration.authUsername

theorem latest_append (h : Accepted lib e u) : LatestAccepted lib (exchanges ++ [e]) u :=
  ⟨exchanges,e,[],rfl,h,fun _ h => absurd h not_mem_nil⟩

theorem Judged.account (h : Account lib dc) (hj : Judged lib dc t) : Account lib t := by
  cases hj with
  | nobody he hu =>
    rw [Account,he,hu]
    exact h
  | refused e he no hu =>
    rw [Account,he,hu]
    refine h.imp (fun h => ⟨h.1,fun e' he' => ?_⟩) fun h => ?_
    · rcases mem_append.mp he' with he' | he'
      · exact h.2 e' he'
      · exact mem_singleton.mp he' ▸ no
    · obtain ⟨before,last,after,hsplit,yes,hafter⟩ := h
      refine ⟨before,last,after ++ [e],by rw [hsplit]; simp,yes,fun e' he' => ?_⟩
      rcases mem_append.mp he' with he' | he'
      · exact hafter e' he'
      · exact mem_singleton.mp he' ▸ no
  | accepted e he yes =>
    rw [Account,he]
    exact .inr (latest_append yes)

end Handled

structure Invariant (lib : Library) (s : Session) : Prop where
  ended : s.ended.isSome = true → s.dc.registered = false
  account : s.ended = none → s.dc.registered = false → Account lib s.dc
  registered : s.dc.registered = true → LatestAccepted lib s.dc.exchanges s.dc.registration.authUsername

section Steps

theorem finishTurn_spec (lib : Library) (env : Env) (hr : dc.registered = false) :
    Changes lib dc (finishTurn env dc).dc ∧ (Account lib dc → Invariant lib (finishTurn env dc)) := by
  unfold finishTurn
  cases hready : Conn.ready dc with
  | false =>
    refine ⟨Judged.changes (.nobody rfl rfl),fun h => ⟨fun hs => ?_,fun _ _ => h,fun ht => ?_⟩⟩
    · cases hs
    · rw [if_neg Bool.false_ne_true] at ht
      rw [hr] at ht
      cases ht
  | true =>
    have h := register_judged lib env dc
    rw [if_pos rfl]
    simp only [Meets] at h
    cases hreg : register env dc with
    | ok _ t =>
      rw [hreg] at h
      obtain ⟨hregistered,hjudged,hpassed⟩ := h
      refine ⟨hjudged.changes,fun ha => ⟨fun hs => ?_,fun _ hf => ?_,fun _ => ?_⟩⟩
      · cases hs
      · rw [hregistered] at hf
        cases hf
      rcases hjudged.account ha with hnone | hlatest
      · -- an account without a name has just passed
        rcases ha with ha | ha
        · obtain ⟨e,he,yes⟩ := hpassed ha.1
          exact he ▸ latest_append yes
        by_cases hempty : dc.registration.authUsername = ""
        · obtain ⟨e,he,yes⟩ := hpassed hempty
          exact he ▸ latest_append yes
        · cases hjudged with
          | nobody _ hu | refused _ _ _ hu => exact absurd (hu.symm.trans hnone.1) hempty
          | accepted e he yes => exact he ▸ latest_append yes
      · exact hlatest
    | error e t =>
      rw [hreg] at h
      obtain ⟨hregistered,hjudged⟩ := h
      have hfalse : t.registered = false := hregistered.trans hr
      have hinv : ∀ s, s.dc.registered = false → s.ended.isSome = true → Invariant lib s := by
        refine fun s hf hended => ⟨fun _ => hf,fun hnone => ?_,fun ht => ?_⟩
        · rw [hnone] at hended
          cases hended
        · rw [hf] at ht
          cases ht
      cases e with
      | irc reply =>
        refine ⟨hjudged.changes.trans ⟨[],(append_nil _).symm,fun _ => rfl⟩,fun _ => ?_⟩
        exact hinv _ hfalse rfl
      | error e | panic p => exact ⟨hjudged.changes,fun _ => hinv _ hfalse rfl⟩

theorem step_spec {t : Session} (hs : step lib s a = some t) :
    Changes lib s.dc t.dc ∧ (Invariant lib s → Invariant lib t) := by
  unfold step at hs
  cases hr : s.dc.registered with
  | true => simp [hr] at hs
  | false =>
    cases he : s.ended with
    | some e => simp [he] at hs
    | none =>
      simp only [hr,he,Option.isSome_none,Bool.or_self,Bool.false_eq_true,if_false] at hs
      cases a with
      | readFails =>
        cases hs
        refine ⟨⟨[],(append_nil _).symm,fun _ => rfl⟩,fun h => ⟨fun _ => hr,fun hf => ?_,h.registered⟩⟩
        cases hf
      | receive msg env later =>
        have h := handleMessage_handled lib env msg s.dc
        simp only [Meets] at h
        cases hh : handleMessage lib env msg s.dc with
        | error e dc =>
          simp only [hh,Option.some.injEq] at hs h
          subst hs
          refine ⟨h.changes,fun _ => ⟨fun _ => h.registered.trans hr,fun hf => ?_,fun ht => ?_⟩⟩
          · cases hf
          · rw [h.registered,hr] at ht
            cases ht
        | ok _ dc =>
          simp only [hh,Option.some.injEq] at hs h
          subst hs
          obtain ⟨hchanges,hinv⟩ := finishTurn_spec lib later (h.registered.trans hr)
          exact ⟨h.judged.changes.trans hchanges,fun hi => hinv (h.judged.account (hi.account he hr))⟩

theorem start_invariant (env : Env) : Invariant lib (start env) where
  ended h := by cases h
  account _ _ := .inl ⟨rfl,fun _ h => absurd h not_mem_nil⟩
  registered h := by cases h

end Steps

/-- In every run a client is registered only as the user whose credentials were accepted last, and
the user name changes only by credentials that are accepted. -/
theorem registered_as_accepted (lib : Library) : (∀ env acts, Runs.AllStates (step lib)
      (fun s => s.dc.registered = true →
        LatestAccepted lib s.dc.exchanges s.dc.registration.authUsername) (start env) acts) ∧
    ∀ s a t, step lib s a = some t → ∃ new, t.dc.exchanges = s.dc.exchanges ++ new ∧
      ((∀ e ∈ new, ∀ u, ¬ Accepted lib e u) → t.dc.registration.authUsername = s.dc.registration.authUsername) := by
  refine ⟨fun env acts => ?_,fun s a t hs => (step_spec hs).1⟩
  exact Runs.AllStates.of_steps (Invariant lib) (start_invariant env)
    (fun _ h => h.registered) (fun _ _ _ h _ hs => (step_spec hs).2 h)
    (Runs.AllSteps.of_forall fun _ _ _ => trivial)

/-- The parts of a PLAIN response. -/
def plainParts (resp : List UInt8) : List String :=
  (Strings.pieces (· == '\x00') (resp.map fun b => Char.ofNat b.toNat)).map String.ofList

/-- A library that knows PLAIN only. -/
def plainLibrary : Library where
  unicode := .ascii
  sha512 cert := cert
  next _ _ resp :=
    match resp.map plainParts with
    | none => ⟨none,none,.challenge []⟩
    | some [identity,username,password] => ⟨some ⟨identity,username,password⟩,none,.done⟩
    | some _ => ⟨none,none,.failed⟩

/-- A server with one password. -/
def onePassword : Env where
  config := ⟨"irc.example","","","","",false,false⟩
  authPlain := some fun username password =>
    if username = "alice" ∧ password = "secret" then .ok () else .error (.revealed "Invalid credentials")
  authOAuthBearer := none
  getUser _ _ := .error .hidden
  peerCertificate := none
  getDeviceCertificate _ := .ok none
  getUsernameByID _ := .error .hidden
  storeDeviceCertificate _ _ := .ok ()
  now := 0
  remoteIP := ""

def receives (command : String) (params : List String) : Action :=
  .receive (message command params) onePassword onePassword

/-- A wrong response, then the right one. -/
def secondTry : List Action :=
  [receives "CAP" ["REQ","sasl"],receives "NICK" ["al"],receives "USER" ["al","0","*","Al"],
    receives "AUTHENTICATE" ["PLAIN"],receives "AUTHENTICATE" ["AGFsaWNlAHdyb25n"],
    receives "AUTHENTICATE" ["PLAIN"],receives "AUTHENTICATE" ["AGFsaWNlAHNlY3JldA=="],
    receives "CAP" ["END"]]

theorem second_try_registered : ∃ s, Runs.run (step plainLibrary) (start onePassword) secondTry = some s ∧
    s.dc.registered = true ∧ s.dc.registration.authUsername = "alice" ∧ s.dc.exchanges.length = 2 ∧
    LatestAccepted plainLibrary s.dc.exchanges s.dc.registration.authUsername := by
  have h := (registered_as_accepted plainLibrary).1 onePassword secondTry
  exact ⟨_,rfl,rfl,rfl,rfl,h.last rfl rfl⟩

end Sake.Proofs.Authenticate
