import Mathlib.Data.List.Count
import Sake.Proofs.CapRequests

namespace Sake.Proofs.CapEnd
open Sake.Negotiation Sake.Strings Lib.Handler Lib.Runs Negotiation CapRequests List Session
open Upstream (Conn Kind Fault kindOf handleKind needParams failIf upper lower handleSupportedCaps)

variable {uc : Conn} {params : List String} {s t : Session}

/-- What decides about the authentication is left as it is. -/
structure Frame (uc uc' : Conn) : Prop where
  available : uc'.capsAvailable = uc.capsAvailable
  enabled : uc'.capsEnabled = uc.capsEnabled
  mechanism : uc'.saslMechanism = uc.saslMechanism

theorem Frame.refl (uc : Conn) : Frame uc uc := ⟨rfl,rfl,rfl⟩

theorem Frame.requestSASL (h : Frame uc uc') (env : Upstream.Env) : uc'.requestSASL env = uc.requestSASL env := by
  unfold Conn.requestSASL Conn.supportsSASL
  rw [h.available,h.mechanism]

theorem Frame.configured (h : Frame uc uc') (hc : Configured uc) : Configured uc' := by
  unfold Configured
  rw [h.mechanism]
  exact hc

section Handlers
variable {env : Upstream.Env}

abbrev Frames (uc : Conn) {α : Type} (h : Upstream.Handler α) : Prop := Keeps (Frame uc) (fun _ => True) h

theorem frames_modify (h : ∀ c, Frame c (f c)) : Frames uc (modify f : Upstream.Handler PUnit) := by
  refine Keeps.modify fun c hc => ⟨?_,?_,?_⟩
  · rw [(h c).available,hc.available]
  · rw [(h c).enabled,hc.enabled]
  · rw [(h c).mechanism,hc.mechanism]

theorem frames_fail (e : Upstream.HandleError) : Frames uc (Upstream.fail e : Upstream.Handler α) :=
  Keeps.throw trivial

theorem frames_failIf (c : Prop) [Decidable c] (e : Upstream.HandleError) : Frames uc (failIf c e) :=
  Keeps.ite (fun _ => frames_fail e) fun _ => Keeps.pure _

theorem frames_dequeueCommand (cmd : String) : Frames uc (Upstream.dequeueCommand cmd) :=
  Keeps.get_bind fun _ _ => Keeps.bind (frames_modify fun _ => ⟨rfl,rfl,rfl⟩) fun _ => Keeps.pure _

theorem frames_isHighlight (msg : Message) (sender : String) : Frames uc (Upstream.isHighlight env msg sender) := by
  refine Keeps.get_bind fun c _ => Keeps.ite (fun _ => ?_) fun _ => Keeps.pure _
  by_cases hnick : (if c.connected then c.nick else c.wantNick.1) ≠ ""
  · rw [dif_pos hnick]
    exact Keeps.pure _
  · rw [dif_neg hnick]
    exact Keeps.throw trivial

theorem frames_handleText (msg : Message) : Frames uc (Upstream.handleText env msg) := by
  refine Keeps.get_bind fun c _ => ?_
  split
  · exact frames_fail _
  · exact Keeps.pure _
  · exact Keeps.pure _
  split
  · exact Keeps.pure _
  refine Keeps.ite (fun _ => ?_) fun _ => Keeps.pure _
  refine Keeps.bind (Keeps.ite (fun _ => ?_) fun _ => Keeps.pure _) fun _ => (frames_isHighlight msg _).discard
  refine Keeps.bind (frames_isHighlight msg _) fun _ => ?_
  exact Keeps.ite (fun _ => frames_modify fun _ => ⟨rfl,rfl,rfl⟩) fun _ => Keeps.pure _

theorem frames_registrationError (msg : Message) : Frames uc (Upstream.handleRegistrationError msg) :=
  Keeps.get_bind fun _ _ => frames_failIf _ _

theorem frames_nickInUse (msg : Message) : Frames uc (Upstream.handleNickInUse msg) := by
  refine Keeps.get_bind fun c _ => Keeps.ite (fun _ => frames_modify fun _ => ⟨rfl,rfl,rfl⟩) fun _ => ?_
  refine Keeps.bind (frames_failIf _ _) fun _ => ?_
  exact Keeps.ite (fun _ => frames_modify fun _ => ⟨rfl,rfl,rfl⟩) fun _ => frames_registrationError msg

theorem frames_aside (h : isAside kind = true) (msg : Message) (p : Prefix) (label : String) :
    Frames uc (handleKind env msg p label kind) := by
  cases kind with
  | text => exact frames_handleText msg
  | loggedIn | loggedOut => exact Keeps.bind (frames_failIf _ _) fun _ => frames_modify fun _ => ⟨rfl,rfl,rfl⟩
  | visibleHost =>
    refine Keeps.bind (frames_failIf _ _) fun _ => frames_modify fun c => ?_
    split <;> exact ⟨rfl,rfl,rfl⟩
  | nickInUse => exact frames_nickInUse msg
  | fail =>
    refine Keeps.bind (frames_failIf _ _) fun _ => Keeps.get_bind fun _ _ => ?_
    exact Keeps.bind (frames_failIf _ _) fun _ => (frames_dequeueCommand _).discard
  | error => exact Keeps.bind (frames_failIf _ _) fun _ => frames_fail _
  | registrationError => exact frames_registrationError msg
  | other => exact Keeps.pure _
  | _ => cases h

end Handlers

section Lines
variable {env : Env} (hu : env.upstream.unicode.Standard) (order : List String) (l : Line)

/-- What is sent after the last line of capabilities. -/
def listedMessages (env : Env) (order : List String) (uc : Conn) : List Message :=
  (if requestCaps order uc = [] then [] else [message "CAP" ["REQ"," ".intercalate (requestCaps order uc)]]) ++
    if uc.requestSASL env.upstream then [] else [capEnd]

theorem endOfCaps_eq (env : Env) (order : List String) (l : Line) :
    endOfCaps env order l = .ok () { l with sent := l.sent ++ listedMessages env order l.conn } := by
  have hend l : ((do
      let l ← get
      if l.conn.requestSASL env.upstream then pure () else send capEnd) : Handler Unit) l =
        .ok () { l with sent := l.sent ++ if l.conn.requestSASL env.upstream then [] else [capEnd] } := by
    rw [get_bind]
    split
    · rw [append_nil]
      rfl
    · rfl
  unfold endOfCaps listedMessages
  rw [bind_ok (updateCaps_eq order l),hend]
  split <;> simp

theorem handleCap_list (hsub : upper env.upstream (msg.param 1) = "LS")
    (hlen : ¬ msg.params.length < 2) (hne : msg.params.drop 2 ≠ []) :
    handleCap env order msg l = (if more msg = false then endOfCaps env order else pure ())
      { l with conn := handleSupportedCaps env.upstream l.conn ((msg.params.drop 2).getLastD "") } := by
  have hack : ¬ (upper env.upstream (msg.param 1) = "ACK" ∨ upper env.upstream (msg.param 1) = "NAK") := by
    rw [hsub]
    decide
  have hnew : upper env.upstream (msg.param 1) ≠ "NEW" := by
    rw [hsub]
    decide
  have hneed : needParams msg 2 l.conn = .ok () l.conn := by
    unfold needParams failIf
    rw [if_neg hlen]
    rfl
  have hsome : failIf (msg.params.drop 2 = []) (.needMoreParams msg.command) l.conn = .ok () l.conn := by
    unfold failIf
    rw [if_neg hne]
    rfl
  have hinner : Upstream.handleCap env.upstream msg l.conn =
      .ok () (handleSupportedCaps env.upstream l.conn ((msg.params.drop 2).getLastD "")) := by
    unfold Upstream.handleCap
    simp only [if_pos (Or.inl hsub : upper env.upstream (msg.param 1) = "LS" ∨ _),if_pos hsub]
    rw [bind_ok hneed,bind_ok hsome]
    rfl
  have hfirst : quietly (needParams msg 2) l = .ok () l := by
    unfold quietly
    rw [hneed]
  have hsecond : quietly (Upstream.handleCap env.upstream msg) l = .ok ()
      { l with conn := handleSupportedCaps env.upstream l.conn ((msg.params.drop 2).getLastD "") } := by
    unfold quietly
    rw [hinner]
  unfold handleCap
  simp only [if_neg hack]
  rw [bind_ok hfirst,bind_ok hsecond]
  simp [hsub]

include hu in
theorem handleMessage_list (first : String) (hp : params ≠ []) :
    handleMessage env order (message "CAP" (first :: "LS" :: params)) l =
      (if more (message "CAP" (first :: "LS" :: params)) = false then endOfCaps env order else pure ())
        { l with conn := handleSupportedCaps env.upstream l.conn (params.getLastD "") } :=
  (handleMessage_plain order "CAP" _ l).trans (handleCap_list order l
    (upper_self hu (show ("LS".toList.all _) = true from rfl)) (by simp [message]) (by simpa [message] using hp))

/-- The capabilities are listed, and nothing else of the connection changes that matters here. -/
theorem handleSupportedCaps_frame (uc : Conn) (caps : String) :
    (handleSupportedCaps env.upstream uc caps).capsEnabled = uc.capsEnabled ∧
      (handleSupportedCaps env.upstream uc caps).saslMechanism = uc.saslMechanism := by
  unfold handleSupportedCaps
  induction fieldsFunc env.upstream.unicode.isSpace caps generalizing uc with
  | nil => exact ⟨rfl,rfl⟩
  | cons word words ih => exact ih (Upstream.addSupportedCap env.upstream uc word)

theorem sasl_requested {order : List String} (horder : order.Perm permanentUpstreamCaps)
    (hs : uc.requestSASL env.upstream = true) (hnone : uc.capsEnabled = []) : "sasl" ∈ requestCaps order uc := by
  have havail : isAvailable uc "sasl" = true := by
    unfold Conn.requestSASL Conn.supportsSASL at hs
    cases hlook : uc.capsAvailable.lookup "sasl" with
    | none => simp [hlook] at hs
    | some v =>
      obtain ⟨before,after,heq,-⟩ := lookup_eq_some_iff.mp hlook
      exact any_eq_true.mpr ⟨("sasl",v),by simp [heq],beq_self_eq_true _⟩
  have hoff : isEnabled uc "sasl" = false := by
    unfold isEnabled
    rw [hnone]
    rfl
  exact mem_append_left _ ((mem_permanents horder).mpr ⟨by decide,havail,hoff⟩)

theorem handleMessage_saslEnd (env : Env) (outcome : SaslOutcome) (first info : String)
    (hr : l.conn.registered = false) :
    ∃ line, handleMessage env order (message outcome.numeric [first,info]) l = .ok () line ∧
      line.sent = l.sent ++ [capEnd] ∧ Frame l.conn line.conn := by
  have hkind : kindOf outcome.numeric = .saslEnd := by cases outcome <;> rfl
  let uc : Conn := { l.conn with
    saslClient := false
    saslStarted := false
    pendingCmds := fun c => if c = "AUTHENTICATE" then (l.conn.pendingCmds c).tail else l.conn.pendingCmds c }
  have hquiet : quietly (Upstream.handleSASLEnd (message outcome.numeric [first,info])) l = .ok () { l with conn := uc } := rfl
  have hend : handleSASLEnd (message outcome.numeric [first,info]) l =
      .ok () { conn := uc, sent := l.sent ++ [capEnd] } := by
    have hreg : uc.registered = false := hr
    unfold handleSASLEnd
    rw [bind_ok hquiet,get_bind]
    simp only [hreg]
    rfl
  refine ⟨{ conn := uc, sent := l.sent ++ [capEnd] },?_,rfl,⟨rfl,rfl,rfl⟩⟩
  rw [handleMessage_plain,hkind]
  exact hend

/-- Only answers of the SASL client are sent in an exchange. -/
theorem handleMessage_challenge (env : Env) (text : String) :
    ∃ (conn : Conn) (params : List String), Frame l.conn conn ∧
      (handleMessage env order (message "AUTHENTICATE" [text]) l =
          .ok () { conn, sent := l.sent ++ params.map authenticate } ∨
        ∃ e, handleMessage env order (message "AUTHENTICATE" [text]) l =
          .error e { conn, sent := l.sent ++ params.map authenticate }) := by
  set msg := message "AUTHENTICATE" [text]
  have hframe : Frames l.conn (Upstream.handleAuthenticate env.upstream msg) := by
    refine Keeps.get_bind fun _ _ => Keeps.bind (frames_failIf _ _) fun _ => Keeps.bind (frames_failIf _ _) fun _ => ?_
    refine Keeps.bind (frames_failIf _ _) fun _ => Keeps.bind (frames_modify fun _ => ⟨rfl,rfl,rfl⟩) fun _ => ?_
    exact frames_failIf _ _
  have hsafe := hframe l.conn (Frame.refl _)
  rw [Safe] at hsafe
  have heq : handleMessage env order msg l = handleAuthenticate env msg l := rfl
  rw [heq]
  unfold handleAuthenticate
  rw [get_bind]
  cases hr : Upstream.handleAuthenticate env.upstream msg l.conn with
  | ok a conn =>
    rw [hr] at hsafe
    exact ⟨conn,_,hsafe,.inl rfl⟩
  | error e conn =>
    rw [hr] at hsafe
    refine ⟨conn,if l.conn.saslClient then ["*"] else [],hsafe.1,.inr ⟨e,?_⟩⟩
    cases l.conn.saslClient <;> rfl

end Lines

section Sent
variable {msgs : List Message}

theorem unanswered_append (hsent : t.line.sent = s.line.sent ++ msgs) (ha : t.answered = s.answered)
    (hc : s.answered ≤ (s.line.sent.filterMap request).length) :
    t.unanswered = s.unanswered ++ msgs.filterMap request := by
  unfold unanswered
  rw [hsent,ha,filterMap_append,drop_append_of_le_length hc]

theorem counted_of_unanswered (h : s.unanswered ≠ []) : s.answered + 1 ≤ (s.line.sent.filterMap request).length := by
  by_contra hlt
  exact h (drop_eq_nil_of_le (by omega))

section
variable (hsent : t.line.sent = s.line.sent ++ msgs)
include hsent

theorem unanswered_next (ha : t.answered = s.answered + 1)
    (h : s.unanswered ≠ []) : t.unanswered = s.unanswered.tail ++ msgs.filterMap request := by
  unfold unanswered
  rw [hsent,ha,filterMap_append,drop_append_of_le_length (counted_of_unanswered h),tail_drop]

theorem counted_append
    (h : n ≤ (s.line.sent.filterMap request).length) : n ≤ (t.line.sent.filterMap request).length := by
  rw [hsent,filterMap_append,length_append]
  omega

theorem ends_append : t.ends = s.ends + msgs.count capEnd := by
  unfold ends
  rw [hsent,count_append]

end

theorem authenticates_requests : (params.map authenticate).filterMap request = [] := by
  rw [filterMap_map,filterMap_eq_nil_iff]
  exact fun _ _ => rfl

theorem authenticates_ends : (params.map authenticate).count capEnd = 0 := by
  refine count_eq_zero.mpr fun h => ?_
  obtain ⟨param,-,heq⟩ := mem_map.mp h
  exact absurd (congrArg Message.command heq) (show ("AUTHENTICATE") ≠ "CAP" by decide)

end Sent

section Acks

theorem acked_sent (env : Env) (ok : Bool) (l : Line) (word : String) :
    ∃ params, (acked env ok l word).sent = l.sent ++ params.map authenticate ∧
      (l.conn.requestSASL env.upstream = false → params = []) ∧
      (l.conn.requestSASL env.upstream = true → ok = true → word = "sasl" → params ≠ []) := by
  by_cases hs : (cutFirst '-' word).1 = "sasl" ∧ l.conn.requestSASL env.upstream ∧ (ok && !(cutFirst '-' word).2)
  · refine ⟨[l.conn.saslMechanism],?_,fun h => ?_,fun _ _ _ => cons_ne_nil _ _⟩
    · unfold acked
      simp only [hs]
      rfl
    · rw [hs.2.1] at h
      cases h
  · refine ⟨[],?_,fun _ => rfl,fun hr hok hw => ?_⟩
    · unfold acked
      simp only [hs,if_false,map_nil]
    · rw [hw,hok] at hs
      exact absurd ⟨by decide,hr,by decide⟩ hs

/-- With a mechanism that the server supports, an acknowledgement starts the exchange. -/
theorem acks_sent (env : Env) (ok : Bool) (words : List String) (l : Line) :
    ∃ params, (words.foldl (acked env ok) l).sent = l.sent ++ params.map authenticate ∧
      (l.conn.requestSASL env.upstream = false → params = []) ∧
      (l.conn.requestSASL env.upstream = true → ok = true → "sasl" ∈ words → params ≠ []) := by
  induction words generalizing l with
  | nil => exact ⟨[],by simp,fun _ => rfl,fun _ _ h => absurd h not_mem_nil⟩
  | cons word words ih =>
    obtain ⟨params,hsent,hoff,hon⟩ := acked_sent env ok l word
    obtain ⟨params',hsent',hoff',hon'⟩ := ih (acked env ok l word)
    refine ⟨params ++ params',?_,fun hr => ?_,fun hr hok hmem => ?_⟩
    · rw [foldl_cons,hsent',hsent,map_append,append_assoc]
    · rw [hoff hr,hoff' hr,append_nil]
    · rcases mem_cons.mp hmem with hw | hmem
      · exact fun h => hon hr hok hw.symm (append_eq_nil_iff.mp h).1
      · exact fun h => hon' hr hok hmem (append_eq_nil_iff.mp h).2

theorem acks_mechanism (env : Env) (ok : Bool) (words : List String) (l : Line) :
    (words.foldl (acked env ok) l).conn.saslMechanism = l.conn.saslMechanism := by
  induction words generalizing l with
  | nil => rfl
  | cons word words ih => exact ih _

end Acks

/-- Where the negotiation stands: capabilities are listed, SASL is asked for, an exchange is running, or
the end has been sent. -/
inductive Phase (env : Env) (s : Session) : Prop
  | listing (listed : s.listed = false) (enabled : s.line.conn.capsEnabled = []) (unanswered : s.unanswered = [])
      (exchange : s.exchange = false) (ends : s.ends = 0)
  | asking (words : List String) (plain : ∀ word ∈ words, Plain word) (sasl : "sasl" ∈ words)
      (listed : s.listed = true) (wanted : s.line.conn.requestSASL env.upstream = true)
      (unanswered : s.unanswered = [" ".intercalate words]) (exchange : s.exchange = false) (ends : s.ends = 0)
  | exchanging (listed : s.listed = true) (unanswered : s.unanswered = []) (exchange : s.exchange = true)
      (ends : s.ends = 0)
  | done (listed : s.listed = true)
      (plain : ∀ text ∈ s.unanswered, ∃ words, (∀ word ∈ words, Plain word) ∧ text = " ".intercalate words)
      (answered : s.line.conn.requestSASL env.upstream = true → s.unanswered = []) (exchange : s.exchange = false)
      (ends : s.ends = 1)

structure Inv (env : Env) (s : Session) : Prop where
  configured : Configured s.line.conn
  counted : s.answered ≤ (s.line.sent.filterMap Session.request).length
  phase : Phase env s

section Steps
variable {env : Env} {e : List String × ServerMessage}

theorem Inv.quiet (h : Inv env s) (hlisted : t.listed = s.listed) (hanswered : t.answered = s.answered)
    (hexchange : t.exchange = s.exchange)
    (hsent : t.line.sent = s.line.sent ++ params.map authenticate) (hframe : Frame s.line.conn t.line.conn) :
    Inv env t := by
  have hun : t.unanswered = s.unanswered := by
    rw [unanswered_append hsent hanswered h.counted,authenticates_requests,append_nil]
  have hends : t.ends = s.ends := by rw [ends_append hsent,authenticates_ends,Nat.add_zero]
  have hsasl := hframe.requestSASL env.upstream
  refine ⟨hframe.configured h.configured,hanswered ▸ counted_append hsent h.counted,?_⟩
  rcases h.phase with ⟨hl,he,hu,hx,hn⟩ | ⟨words,hp,hw,hl,hr,hu,hx,hn⟩ | ⟨hl,hu,hx,hn⟩ | ⟨hl,hp,ha,hx,hn⟩
  · exact .listing (hlisted.trans hl) (hframe.enabled.trans he) (hun.trans hu) (hexchange.trans hx) (hends.trans hn)
  · exact .asking words hp hw (hlisted.trans hl) (hsasl.trans hr) (hun.trans hu) (hexchange.trans hx) (hends.trans hn)
  · exact .exchanging (hlisted.trans hl) (hun.trans hu) (hexchange.trans hx) (hends.trans hn)
  · refine .done (hlisted.trans hl) (hun ▸ hp) (fun hr => ?_) (hexchange.trans hx) (hends.trans hn)
    exact hun.trans (ha (hsasl.symm.trans hr))

theorem handleMessage_quiet (order : List String)
    (hframe : ∀ label, Frames l.conn (handleKind env.upstream msg (l.conn.source msg) label (kindOf msg.command)))
    (hcap : kindOf msg.command ≠ .cap) (hauth : kindOf msg.command ≠ .authenticate)
    (hend : kindOf msg.command ≠ .saslEnd) :
    ∃ conn : Conn, Frame l.conn conn ∧ (handleMessage env order msg l = .ok () { l with conn } ∨
      ∃ e, handleMessage env order msg l = .error e { l with conn }) := by
  unfold handleMessage
  rw [get_bind]
  cases l.conn.messageLabel msg with
  | error e => exact ⟨l.conn,Frame.refl _,.inr ⟨_,rfl⟩⟩
  | ok label =>
    dsimp only
    cases Upstream.parseLabel label with
    | error e => exact ⟨l.conn,Frame.refl _,.inr ⟨_,rfl⟩⟩
    | ok _ =>
      have hquiet : ∃ conn : Conn, Frame l.conn conn ∧
          (quietly (handleKind env.upstream msg (l.conn.source msg) label (kindOf msg.command)) l =
              .ok () { l with conn } ∨
            ∃ e, quietly (handleKind env.upstream msg (l.conn.source msg) label (kindOf msg.command)) l =
              .error e { l with conn }) := by
        have hsafe := hframe label l.conn (Frame.refl _)
        rw [Safe] at hsafe
        unfold quietly
        cases hr : handleKind env.upstream msg (l.conn.source msg) label (kindOf msg.command) l.conn with
        | ok a conn =>
          rw [hr] at hsafe
          exact ⟨conn,hsafe,.inl rfl⟩
        | error e conn =>
          rw [hr] at hsafe
          exact ⟨conn,hsafe.1,.inr ⟨e,rfl⟩⟩
      generalize kindOf msg.command = kind at hcap hauth hend hquiet
      cases kind with
      | cap => exact absurd rfl hcap
      | authenticate => exact absurd rfl hauth
      | saslEnd => exact absurd rfl hend
      | _ => exact hquiet

/-- The server puts a star first where there are more lines, takes a request if SASL is to follow, and
does not refuse the command `AUTHENTICATE`. -/
def Orderly (env : Env) (s : Session) : List String × ServerMessage → Prop
  | (_,.capLS first true _) => first = "*"
  | (_,.answer _ false) => s.line.conn.requestSASL env.upstream = false
  | (_,.commandError _ _ _) => False
  | _ => True

theorem step_some (h : step env s e = some t) :
    e.1.Perm permanentUpstreamCaps ∧ s.line.conn.registered = false ∧ e.2.Possible s ∧
      ∃ line failed, t = s.advance line failed e.2 ∧ (handleMessage env e.1 (s.received e.2) s.line = .ok () line ∨
          ∃ fault, handleMessage env e.1 (s.received e.2) s.line = .error fault line) := by
  unfold step at h
  split at h
  · rename_i hp
    refine ⟨isPerm_iff.mp hp.1,hp.2.2.1,hp.2.2.2,?_⟩
    split at h
    · rename_i line hr
      cases h
      exact ⟨line,false,rfl,.inl hr⟩
    · rename_i fault line hr
      cases h
      exact ⟨line,true,rfl,.inr ⟨fault,hr⟩⟩
  · cases h

theorem Inv.listing (h : Inv env s) (hl : s.listed = false) :
    s.line.conn.capsEnabled = [] ∧ s.unanswered = [] ∧ s.exchange = false ∧ s.ends = 0 := by
  rcases h.phase with ⟨-,he,hu,hx,hn⟩ | ⟨-,-,-,hl',-⟩ | ⟨hl',-⟩ | ⟨hl',-⟩
  · exact ⟨he,hu,hx,hn⟩
  all_goals exact nomatch hl.symm.trans hl'

theorem listed_configured (env : Env) (h : Configured uc) (caps : String) :
    Configured (handleSupportedCaps env.upstream uc caps) := by
  unfold Configured
  rw [(handleSupportedCaps_frame uc caps).2]
  exact h

theorem Inv.more (h : Inv env s) (hl : s.listed = false) (caps : String) (failed : Bool) (first : String) :
    Inv env (s.advance { s.line with conn := handleSupportedCaps env.upstream s.line.conn caps } failed
      (.capLS first true caps)) := by
  obtain ⟨he,hu,hx,hn⟩ := h.listing hl
  exact ⟨listed_configured env h.configured caps,h.counted,
    .listing rfl ((handleSupportedCaps_frame _ caps).1.trans he) hu hx hn⟩

theorem request_messages (order : List String) (uc : Conn) :
    (if requestCaps order uc = [] then [] else [message "CAP" ["REQ"," ".intercalate (requestCaps order uc)]]).filterMap
        request = (if requestCaps order uc = [] then [] else [" ".intercalate (requestCaps order uc)]) ∧
      (if requestCaps order uc = [] then [] else [message "CAP" ["REQ"," ".intercalate (requestCaps order uc)]]).count
        capEnd = 0 := by
  split
  · exact ⟨rfl,rfl⟩
  · refine ⟨rfl,count_eq_zero.mpr fun h => ?_⟩
    have hparams := congrArg (fun msg => msg.params.length) (mem_singleton.mp h)
    exact absurd hparams (by simp [capEnd,message])

/-- After the last line the request goes out, and the end unless SASL is to follow. -/
theorem Inv.last (h : Inv env s) (horder : order.Perm permanentUpstreamCaps) (hl : s.listed = false)
    (hc : Configured uc) (he : uc.capsEnabled = []) (failed : Bool) (first caps : String) :
    Inv env (s.advance { conn := uc, sent := s.line.sent ++ listedMessages env order uc } failed
      (.capLS first false caps)) := by
  obtain ⟨-,hu,hx,hn⟩ := h.listing hl
  obtain ⟨hreq,hnone⟩ := request_messages order uc
  set t := s.advance { conn := uc, sent := s.line.sent ++ listedMessages env order uc } failed (.capLS first false caps)
  have hsent : t.line.sent = s.line.sent ++ listedMessages env order uc := rfl
  have hun : t.unanswered = (listedMessages env order uc).filterMap request := by
    rw [unanswered_append hsent rfl h.counted,hu,nil_append]
  have hends : t.ends = (listedMessages env order uc).count capEnd := by rw [ends_append hsent,hn,Nat.zero_add]
  have hplain := requestCaps_plain horder uc
  refine ⟨hc,counted_append hsent h.counted,?_⟩
  cases hsasl : uc.requestSASL env.upstream with
  | true =>
    have hmem := sasl_requested horder hsasl he
    have hne : requestCaps order uc ≠ [] := ne_nil_of_mem hmem
    have hmsgs : listedMessages env order uc = [message "CAP" ["REQ"," ".intercalate (requestCaps order uc)]] := by
      unfold listedMessages
      rw [if_neg hne,hsasl,if_pos rfl,append_nil]
    rw [if_neg hne,if_neg hne] at hreq
    rw [if_neg hne] at hnone
    rw [hmsgs] at hun hends
    exact .asking _ hplain hmem rfl hsasl (hun.trans hreq) hx (hends.trans hnone)
  | false =>
    have hmsgs : listedMessages env order uc =
        (if requestCaps order uc = [] then [] else [message "CAP" ["REQ"," ".intercalate (requestCaps order uc)]]) ++
          [capEnd] := by
      unfold listedMessages
      rw [hsasl,if_neg Bool.false_ne_true]
    have hend : [capEnd].filterMap request = [] := rfl
    rw [hmsgs,filterMap_append,hend] at hun
    rw [hmsgs,count_append,hnone] at hends
    refine .done rfl (fun text htext => ?_) (fun hr => nomatch hsasl.symm.trans hr) hx hends
    rw [hun] at htext
    split at htext
    · cases htext
    · exact ⟨_,hplain,mem_singleton.mp htext⟩

theorem Inv.still (h : Inv env s) (hlisted : t.listed = s.listed) (hanswered : t.answered = s.answered)
    (hexchange : t.exchange = s.exchange) (hsent : t.line.sent = s.line.sent)
    (hframe : Frame s.line.conn t.line.conn) : Inv env t := by
  have hsent' : t.line.sent = s.line.sent ++ ([]).map authenticate := by rw [hsent,map_nil,append_nil]
  exact h.quiet hlisted hanswered hexchange hsent' hframe

theorem Inv.saslEnd (h : Inv env s) (hx : s.exchange = true) {line : Line} (hsent : line.sent = s.line.sent ++ [capEnd])
    (hframe : Frame s.line.conn line.conn) {failed : Bool} :
    Inv env (s.advance line failed (.saslEnd outcome first info)) := by
  rcases h.phase with ⟨-,-,-,hx',-⟩ | ⟨-,-,-,-,-,-,hx',-⟩ | ⟨hlisted,hun,-,hn⟩ | ⟨-,-,-,hx',-⟩
  · exact nomatch hx.symm.trans hx'
  · exact nomatch hx.symm.trans hx'
  · set t := s.advance line failed (.saslEnd outcome first info)
    have hsent' : t.line.sent = s.line.sent ++ [capEnd] := hsent
    have hun' : t.unanswered = [] := by
      rw [unanswered_append hsent' rfl h.counted,hun]
      rfl
    refine ⟨hframe.configured h.configured,counted_append hsent' h.counted,.done hlisted ?_ (fun _ => hun') rfl ?_⟩
    · rw [hun']
      exact fun text htext => absurd htext not_mem_nil
    · rw [ends_append hsent',hn,count_singleton_self]
  · exact nomatch hx.symm.trans hx'

variable (hu : env.upstream.unicode.Standard) (hl : env.upstream.unicode.LowersAscii)
include hu hl

/-- The answer to the request that SASL waits for starts the exchange; others are only noted. -/
theorem Inv.answer (h : Inv env s) (order : List String) (hne : s.unanswered ≠ []) (first : String) (ack : Bool)
    (hg : ack = false → s.line.conn.requestSASL env.upstream = false) :
    ∃ line, handleMessage env order (s.received (.answer first ack)) s.line = .ok () line ∧
      ∀ failed, Inv env (s.advance line failed (.answer first ack)) := by
  have hrun {words : List String} (hplain : ∀ word ∈ words, Plain word)
      (hhead : s.unanswered.headD "" = " ".intercalate words) :
      handleMessage env order (s.received (.answer first ack)) s.line = .ok () (words.foldl (acked env ack) s.line) := by
    unfold received
    rw [hhead]
    exact handleMessage_answer hu hl order hplain first ack h.configured
  have hconf (words : List String) : Configured (words.foldl (acked env ack) s.line).conn := by
    unfold Configured
    rw [acks_mechanism]
    exact h.configured
  have hcount := counted_of_unanswered hne
  rcases h.phase with ⟨-,-,hun,-,-⟩ | ⟨words,hp,hw,hlisted,hr,hun,hx,hn⟩ | ⟨-,hun,-⟩ | ⟨hlisted,hp,ha,hx,hn⟩
  · exact absurd hun hne
  · -- SASL waits for this request
    obtain ⟨params,hsent,-,hstart⟩ := acks_sent env ack words s.line
    have hack : ack = true := by
      by_contra hnak
      exact nomatch hr.symm.trans (hg (Bool.eq_false_iff.mpr hnak))
    refine ⟨_,hrun hp (by rw [hun]; rfl),fun failed => ?_⟩
    set t := s.advance (words.foldl (acked env ack) s.line) failed (.answer first ack)
    have hsent' : t.line.sent = s.line.sent ++ params.map authenticate := hsent
    refine ⟨hconf words,counted_append hsent' hcount,.exchanging hlisted ?_ ?_ ?_⟩
    · rw [unanswered_next hsent' rfl hne,hun,authenticates_requests]
      rfl
    · change (s.exchange || ((words.foldl (acked env ack) s.line).sent.drop s.line.sent.length).any
        fun msg => msg.command == "AUTHENTICATE") = true
      rw [hsent,drop_left,hx,any_map]
      obtain ⟨param,hparam⟩ := exists_mem_of_ne_nil params (hstart hr hack hw)
      exact any_eq_true.mpr ⟨param,hparam,rfl⟩
    · rw [ends_append hsent',hn,authenticates_ends]
  · exact absurd hun hne
  · have hoff : s.line.conn.requestSASL env.upstream = false := by
      by_contra hon
      exact hne (ha (by simpa using hon))
    obtain ⟨text,rest,hun⟩ := exists_cons_of_ne_nil hne
    obtain ⟨words,hplain,htext⟩ := hp text (by rw [hun]; exact mem_cons_self)
    obtain ⟨params,hsent,hnone,-⟩ := acks_sent env ack words s.line
    rw [hnone hoff,map_nil,append_nil] at hsent
    refine ⟨_,hrun hplain (by rw [hun,htext]; rfl),fun failed => ?_⟩
    set t := s.advance (words.foldl (acked env ack) s.line) failed (.answer first ack)
    have hsent' : t.line.sent = s.line.sent ++ [] := by
      rw [append_nil]
      exact hsent
    have hun' : t.unanswered = s.unanswered.tail := by rw [unanswered_next hsent' rfl hne,filterMap_nil,append_nil]
    have hsasl : t.line.conn.requestSASL env.upstream = s.line.conn.requestSASL env.upstream := by
      change (words.foldl (acked env ack) s.line).conn.requestSASL env.upstream = _
      unfold Conn.requestSASL Conn.supportsSASL
      rw [acks_available,acks_mechanism]
    refine ⟨hconf words,counted_append hsent' hcount,.done hlisted (fun x hx' => ?_) (fun hr => ?_) ?_ ?_⟩
    · exact hp x (mem_of_mem_tail (hun' ▸ hx'))
    · exact nomatch hoff.symm.trans (hsasl.symm.trans hr)
    · change (s.exchange || ((words.foldl (acked env ack) s.line).sent.drop s.line.sent.length).any
        fun msg => msg.command == "AUTHENTICATE") = false
      rw [hsent,drop_length,hx]
      rfl
    · rw [ends_append hsent',hn]
      rfl

theorem step_inv (h : Inv env s) (hg : Orderly env s e) (ht : step env s e = some t) : Inv env t := by
  obtain ⟨order,m⟩ := e
  obtain ⟨horder,hreg,hp,line,failed,rfl,hrun⟩ := step_some ht
  -- the handler has one result
  have hline {line' : Line} (h' : handleMessage env order (s.received m) s.line = .ok () line' ∨
      ∃ fault, handleMessage env order (s.received m) s.line = .error fault line') : line = line' := by
    rcases hrun with hr | ⟨f,hr⟩ <;> rcases h' with hr' | ⟨f',hr'⟩ <;> cases hr.symm.trans hr' <;> rfl
  cases m with
  | capLS first more caps =>
    cases more with
    | true =>
      have hfirst : first = "*" := hg
      rw [hline (.inl (by rw [hfirst]; exact handleMessage_list hu order s.line "*" (cons_ne_nil "*" [caps])))]
      exact h.more hp caps failed first
    | false =>
      have hmsg := (handleMessage_list hu order s.line first (cons_ne_nil caps [])).trans (endOfCaps_eq env order _)
      rw [hline (.inl hmsg)]
      refine h.last horder hp (listed_configured env h.configured caps) ?_ failed first caps
      exact (handleSupportedCaps_frame _ caps).1.trans (h.listing hp).1
  | answer first ack =>
    obtain ⟨line',hr,hinv⟩ := h.answer hu hl order hp first ack fun hnak => by
      subst hnak
      exact hg
    rw [hline (.inl hr)]
    exact hinv failed
  | challenge text =>
    obtain ⟨conn,params,hframe,hr⟩ := handleMessage_challenge order s.line env text
    rw [hline hr]
    exact h.quiet rfl rfl rfl rfl hframe
  | saslEnd outcome first info =>
    obtain ⟨line',hr,hsent,hframe⟩ := handleMessage_saslEnd order s.line env outcome first info hreg
    rw [hline (.inl hr)]
    exact h.saslEnd hp hsent hframe
  | commandError error first reason => exact hg.elim
  | welcome first =>
    have hframe label : Frames s.line.conn (handleKind env.upstream (message "001" [first])
        (s.line.conn.source (message "001" [first])) label .welcome) :=
      Keeps.bind (frames_failIf _ _) fun _ => frames_modify fun _ => ⟨rfl,rfl,rfl⟩
    obtain ⟨conn,hconn,hr⟩ := handleMessage_quiet order hframe (show Kind.welcome ≠ .cap by decide)
      (show Kind.welcome ≠ .authenticate by decide) (show Kind.welcome ≠ .saslEnd by decide)
    rw [hline hr]
    exact h.still rfl rfl rfl rfl hconn
  | aside msg =>
    have haside : isAside (kindOf msg.command) = true := hp
    have hkind kind (hk : isAside kind = false) : kindOf msg.command ≠ kind := fun heq => by
      rw [heq,hk] at haside
      cases haside
    obtain ⟨conn,hconn,hr⟩ := handleMessage_quiet order (frames_aside haside msg _)
      (hkind .cap rfl) (hkind .authenticate rfl) (hkind .saslEnd rfl)
    rw [hline hr]
    exact h.still rfl rfl rfl rfl hconn

end Steps

section Runs
variable {env : Env}

theorem register_inv (env : Env) (hc : Configured uc) (he : uc.capsEnabled = []) (pass : String) :
    Inv env (register uc pass) := by
  have hreq : (register uc pass).line.sent.filterMap request = [] := by
    unfold register
    split <;> rfl
  have hends : (register uc pass).ends = 0 := by
    refine count_eq_zero.mpr fun h => ?_
    unfold register at h
    split at h <;> simp [capEnd,message] at h
  refine ⟨hc,Nat.zero_le _,.listing rfl he ?_ rfl hends⟩
  unfold unanswered
  rw [hreq]
  rfl

/-- What holds of every state: the end is sent when the lines have come and no exchange is running. -/
theorem Inv.ended (h : Inv env s) (hends : 0 < s.ends) : s.listed = true ∧ s.exchange = false := by
  rcases h.phase with ⟨-,-,-,-,hn⟩ | ⟨-,-,-,-,-,-,-,hn⟩ | ⟨-,-,-,hn⟩ | ⟨hl,-,-,hx,-⟩
  · omega
  · omega
  · omega
  · exact ⟨hl,hx⟩

theorem Inv.settled (h : Inv env s) (hs : Settled s) : s.ends = 1 := by
  obtain ⟨hl,hun,hx,-⟩ := hs
  rcases h.phase with ⟨hl',-⟩ | ⟨words,-,-,-,-,hun',-⟩ | ⟨-,-,hx',-⟩ | ⟨-,-,-,-,hn⟩
  · exact nomatch hl.symm.trans hl'
  · exact nomatch hun.symm.trans hun'
  · exact nomatch hx.symm.trans hx'
  · exact hn

/-- With an orderly server the end of the negotiation is sent once, in time. -/
theorem ends_once (hu : env.upstream.unicode.Standard) (hl : env.upstream.unicode.LowersAscii) {uc : Conn}
    (hc : Configured uc) (he : uc.capsEnabled = []) (pass : String) {events : List (List String × ServerMessage)}
    {s : Session} (hg : AllSteps (step env) (Orderly env) (register uc pass) events)
    (hrun : run (step env) (register uc pass) events = some s) :
    (∀ e t, Orderly env s e → step env s e = some t → s.ends < t.ends → t.listed = true ∧ t.exchange = false) ∧
      (Settled s → s.ends = 1) := by
  have hinv : Inv env s := AllStates.last (AllStates.of_steps (Inv env) (register_inv env hc he pass) (fun _ h => h)
    (fun _ _ _ h hg ht => step_inv hu hl h hg ht) hg) hrun
  refine ⟨fun e t hge ht hlt => ?_,hinv.settled⟩
  exact (step_inv hu hl hinv hge ht).ended (by omega)

end Runs

section Sample

def sends (m : ServerMessage) : List String × ServerMessage := (permanentUpstreamCaps,m)

/-- A server that lists capabilities on two lines and lets bob log in. -/
def login : List (List String × ServerMessage) :=
  [sends (.capLS "*" true "batch"),sends (.capLS "*" false "sasl=PLAIN"),sends (.answer "*" true),
    sends (.challenge "+"),sends (.saslEnd .success "bob" "welcome")]

theorem login_orderly (s : Session) : AllSteps (step plainEnv) (Orderly plainEnv) s login :=
  ⟨rfl,fun _ _ => ⟨trivial,fun _ _ => ⟨trivial,fun _ _ => ⟨trivial,fun _ _ => ⟨trivial,fun _ _ => trivial⟩⟩⟩⟩⟩

theorem ends_once_bob :
    ∃ s, run (step plainEnv) (register (bob "PLAIN") "") login = some s ∧ Settled s ∧ (Settled s → s.ends = 1) := by
  have hrun : (run (step plainEnv) (register (bob "PLAIN") "") login).any (fun s => decide (Settled s)) = true := by
    decide +kernel
  obtain ⟨s,hs,hsettled⟩ := (Option.any_eq_true _ _).mp hrun
  have hconf : Configured (bob "PLAIN") := by decide
  have honce := ends_once Unicode.standard_ascii (fun _ _ => rfl) hconf rfl "" (login_orderly _) hs
  exact ⟨s,hs,of_decide_eq_true hsettled,honce.2⟩

/-- A server that knows the nick puts it first, and the line is taken for the last one. A request that
is refused leaves the authentication out, and nothing ends the negotiation. The same holds for a server
that does not know `AUTHENTICATE`. -/
theorem end_early_or_never :
    ((run (step plainEnv) (register (bob "") "") [sends (.capLS "bob" true "batch")]).any fun s =>
      s.ends == 1 && !s.listed) = true ∧
    ((run (step plainEnv) (register (bob "PLAIN") "") [sends (.capLS "*" false "sasl"),sends (.answer "*" false)]).any
      fun s => decide (Settled s) && s.ends == 0) = true ∧
    ((run (step plainEnv) (register (bob "PLAIN") "") [sends (.capLS "*" false "sasl"),sends (.answer "*" true),
      sends (.commandError .unknownCommand "*" "Unknown command")]).any
      fun s => decide (Settled s) && !s.failed && s.ends == 0) = true := by
  decide +kernel

end Sample

end Sake.Proofs.CapEnd
