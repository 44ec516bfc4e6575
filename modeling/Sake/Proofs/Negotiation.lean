import Sake.Lib.Handler
import Sake.Negotiation
import Sake.Proofs.Strings

namespace Sake.Proofs.Negotiation
open Sake.Negotiation Sake.Strings Lib.Handler List
open Upstream (Conn Fault kindOf handleKind needParams failIf upper lower)

variable {env : Env} {l : Line} {words : List String}

section Mirrors
variable (env : Env) (order : List String)

end Mirrors

section Acks

/-- The mechanism of a network, as the service sets it. -/
def Configured (uc : Conn) : Prop := uc.saslMechanism ∈ ["","PLAIN","EXTERNAL"]

instance (uc : Conn) : Decidable (Configured uc) := inferInstanceAs (Decidable (_ ∈ _))

/-- What a word of an acknowledgement does; a refusal turns everything off. -/
def acked (env : Env) (ok : Bool) (l : Line) (word : String) : Line :=
  let (name,negated) := cutFirst '-' word
  let enable := ok && !negated
  let starts := name = "sasl" ∧ l.conn.requestSASL env.upstream ∧ enable
  { conn := { l.conn with
      capsEnabled := if enable then name :: l.conn.capsEnabled.erase name else l.conn.capsEnabled.erase name
      saslClient := l.conn.saslClient || starts }
    sent := l.sent ++ if starts then [authenticate l.conn.saslMechanism] else [] }

theorem startSASL_eq (env : Upstream.Env) (h : Configured uc) (name : String) (ok : Bool) : ((do
      let uc ← get
      if name = "sasl" ∧ uc.requestSASL env ∧ ok then do
        failIf (uc.saslMechanism ≠ "PLAIN" ∧ uc.saslMechanism ≠ "EXTERNAL") (.unsupportedMechanism name)
        modify fun uc => { uc with saslClient := true }
      else pure ()) : Upstream.Handler Unit) uc =
        .ok () { uc with saslClient := uc.saslClient || (name = "sasl" ∧ uc.requestSASL env ∧ ok) } := by
  rw [get_bind]
  by_cases hs : name = "sasl" ∧ uc.requestSASL env ∧ ok
  · have hmech : ¬ (uc.saslMechanism ≠ "PLAIN" ∧ uc.saslMechanism ≠ "EXTERNAL") := by
      rintro ⟨hp,he⟩
      have hnone : uc.saslMechanism = "" := by
        unfold Configured at h
        simpa [hp,he] using h
      have hoff : uc.requestSASL env = false := by simp [Conn.requestSASL,hnone]
      exact Bool.false_ne_true (hoff.symm.trans hs.2.1)
    have hfail : failIf (uc.saslMechanism ≠ "PLAIN" ∧ uc.saslMechanism ≠ "EXTERNAL")
        (.unsupportedMechanism name) uc = .ok () uc := by
      unfold failIf
      rw [if_neg hmech]
      rfl
    rw [if_pos hs,bind_ok hfail,decide_eq_true hs,Bool.or_true]
    rfl
  · rw [if_neg hs,decide_eq_false hs,Bool.or_false]
    rfl

theorem handleCapAck_eq (env : Env) (h : Configured l.conn) (name : String) (ok : Bool) :
    handleCapAck env name ok l = .ok ()
      { conn := { l.conn with
          capsEnabled := if ok then name :: l.conn.capsEnabled.erase name else l.conn.capsEnabled.erase name
          saslClient := l.conn.saslClient || (name = "sasl" ∧ l.conn.requestSASL env.upstream ∧ ok) }
        sent := l.sent ++ if name = "sasl" ∧ l.conn.requestSASL env.upstream ∧ ok then
          [authenticate l.conn.saslMechanism] else [] } := by
  let enabled := if ok then name :: l.conn.capsEnabled.erase name else l.conn.capsEnabled.erase name
  have hconf : Configured { l.conn with
        capsEnabled := enabled } := h
  have hack : Upstream.handleCapAck env.upstream name ok l.conn = .ok () { l.conn with
        capsEnabled := enabled
        saslClient := l.conn.saslClient || (name = "sasl" ∧ l.conn.requestSASL env.upstream ∧ ok) } :=
    startSASL_eq env.upstream hconf name ok
  have hquiet : quietly (Upstream.handleCapAck env.upstream name ok) l = .ok () { l with conn := { l.conn with
          capsEnabled := enabled
          saslClient := l.conn.saslClient || (name = "sasl" ∧ l.conn.requestSASL env.upstream ∧ ok) } } := by
    unfold quietly
    rw [hack]
  have hsend l : ((do
      let l ← get
      if name = "sasl" ∧ l.conn.requestSASL env.upstream ∧ ok then send (authenticate l.conn.saslMechanism)
      else pure ()) : Handler Unit) l = .ok () { l with
        sent := l.sent ++ if name = "sasl" ∧ l.conn.requestSASL env.upstream ∧ ok then
          [authenticate l.conn.saslMechanism] else [] } := by
    rw [get_bind]
    by_cases hs : name = "sasl" ∧ l.conn.requestSASL env.upstream ∧ ok
    · rw [if_pos hs,if_pos hs]
      rfl
    · rw [if_neg hs,if_neg hs,append_nil]
      rfl
  unfold handleCapAck
  rw [bind_ok hquiet]
  exact hsend _

/-- The word is spelled as the code spells it. -/
def Spelled (env : Env) (word : String) : Prop :=
  lower env.upstream (cutFirst '-' word).1 = (cutFirst '-' word).1

theorem acks_eq (hwords : ∀ word ∈ words, Spelled env word) (ok : Bool) : ∀ {l : Line}, Configured l.conn →
      (words.forM fun word =>
        handleCapAck env (lower env.upstream (cutFirst '-' word).1) (ok && !(cutFirst '-' word).2)) l =
          .ok () (words.foldl (acked env ok) l) := by
  induction words with
  | nil => exact fun _ => rfl
  | cons word words ih =>
    intro l h
    have hword : lower env.upstream (cutFirst '-' word).1 = (cutFirst '-' word).1 := hwords word mem_cons_self
    have hack := handleCapAck_eq env h (cutFirst '-' word).1 (ok && !(cutFirst '-' word).2)
    have hrest := ih (fun w hw => hwords w (mem_cons_of_mem _ hw)) (l := acked env ok l word) h
    refine Eq.trans ?_ hrest
    change (handleCapAck env _ _ >>= fun _ => _) l = _
    rw [hword]
    exact bind_ok hack _

end Acks

section Answers
variable (hu : env.upstream.unicode.Standard) (hl : env.upstream.unicode.LowersAscii) {order : List String}
  {word : String}

/-- The word is visible ASCII without capital letters. -/
def Plain (word : String) : Prop := word ≠ "" ∧ ∀ c ∈ word.toList, 33 ≤ c.toNat ∧ c.toNat < 127 ∧ c.toLower = c

instance (word : String) : Decidable (Plain word) :=
  @instDecidableAnd _ _ _ (List.decidableBAll _ _)

theorem requestCaps_mem (horder : order.Perm permanentUpstreamCaps)
    (h : word ∈ requestCaps order uc) : word ∈ permanentUpstreamCaps ∨ word = "-echo-message" := by
  rcases mem_append.mp h with h | h
  · exact .inl (horder.subset (mem_of_mem_filter h))
  split at h
  · rw [mem_singleton.mp h]
    exact .inl (by decide)
  · split at h
    · exact .inr (mem_singleton.mp h)
    · cases h

theorem requestCaps_plain (horder : order.Perm permanentUpstreamCaps) (uc : Conn) :
    ∀ word ∈ requestCaps order uc, Plain word := by
  have hall : ∀ word ∈ permanentUpstreamCaps, Plain word := by decide
  intro word hword
  rcases requestCaps_mem horder hword with h | rfl
  · exact hall word h
  · decide

include hl in
theorem Plain.spelled (h : Plain word) : Spelled env word := by
  refine Strings.mapChars_self fun c hc => ?_
  have hmem : c ∈ word.toList := by
    unfold cutFirst at hc
    split at hc
    · rw [String.toList_ofList] at hc
      exact mem_of_mem_tail hc
    · exact hc
  obtain ⟨-,hlt,hlow⟩ := h.2 c hmem
  exact (hl c (by omega)).trans hlow

include hu

theorem upper_self (h : s.toList.all fun c => c.toNat < 128 && c.toUpper == c) : upper env.upstream s = s := by
  refine Strings.mapChars_self fun c hc => ?_
  have hc := all_eq_true.mp h c hc
  rw [Bool.and_eq_true,decide_eq_true_iff,beq_iff_eq] at hc
  exact (hu.toUpper_ascii c hc.1).trans hc.2

theorem fields_join (h : ∀ word ∈ words, Plain word) :
    fieldsFunc env.upstream.unicode.isSpace (" ".intercalate words) = words := by
  have hclean : ∀ word ∈ words, word ≠ "" ∧ ∀ c ∈ word.toList, env.upstream.unicode.isSpace c = false := by
    intro word hword
    obtain ⟨hne,hplain⟩ := h word hword
    exact ⟨hne,fun c hc => hu.isSpace_visible c (hplain c hc).1 (hplain c hc).2.1⟩
  have hjoin := Strings.fieldsFunc_intercalate hu.isSpace_blank hclean
  exact hjoin

omit hu in
theorem handleMessage_plain (order : List String) (command : String) (params : List String) (l : Line) :
    handleMessage env order (message command params) l = (match kindOf command with
      | .cap => handleCap env order (message command params)
      | .authenticate => handleAuthenticate env (message command params)
      | .saslEnd => handleSASLEnd (message command params)
      | kind => quietly (handleKind env.upstream (message command params) (l.conn.source (message command params))
          "" kind)) l := rfl

omit hu in
theorem handleCap_answer (order : List String)
    (hsub : upper env.upstream (msg.param 1) = if ok then "ACK" else "NAK") (hlen : ¬ msg.params.length < 2)
    (hne : msg.params.drop 2 ≠ [])
    (hwords : fieldsFunc env.upstream.unicode.isSpace ((msg.params.drop 2).headD "") = words)
    (hspelled : ∀ word ∈ words, Spelled env word) (hc : Configured l.conn) :
    handleCap env order msg l = .ok () (words.foldl (acked env ok) l) := by
  have hack : upper env.upstream (msg.param 1) = "ACK" ∨ upper env.upstream (msg.param 1) = "NAK" := by
    rw [hsub]
    cases ok <;> simp
  have hbeq : (upper env.upstream (msg.param 1) == "ACK") = ok := by
    rw [hsub]
    cases ok <;> rfl
  have hneed : quietly (needParams msg 2) l = .ok () l := by
    unfold quietly needParams failIf
    rw [if_neg hlen]
    rfl
  have hsome : quietly (failIf (msg.params.drop 2 = []) (.needMoreParams msg.command)) l = .ok () l := by
    unfold quietly failIf
    rw [if_neg hne]
    rfl
  unfold handleCap
  simp only [if_pos hack,hbeq,hwords]
  rw [bind_ok hneed,bind_ok hsome]
  exact acks_eq hspelled ok hc

include hl

/-- The answer of the server to a request: all of it is taken, or refused. -/
theorem handleMessage_answer (order : List String) (h : ∀ word ∈ words, Plain word)
    (first : String) (ok : Bool) (hc : Configured l.conn) :
    handleMessage env order (message "CAP" [first,if ok then "ACK" else "NAK"," ".intercalate words]) l =
      .ok () (words.foldl (acked env ok) l) := by
  refine (handleMessage_plain order "CAP" _ l).trans
    (handleCap_answer order ?_ (by simp [message]) (by simp [message]) ?_ ?_ hc)
  · change upper env.upstream (if ok then "ACK" else "NAK") = if ok then "ACK" else "NAK"
    cases ok <;> exact upper_self hu rfl
  · exact fields_join hu h
  · exact fun word hw => (h word hw).spelled hl

end Answers

section Sample

def plainEnv : Env where
  upstream := ⟨.ascii,fun name => ⟨name,"",""⟩,fun _ => true,fun _ _ => true⟩
  respond _ _ := ["+"]

theorem bob_named : "bob" ≠ "" := by decide

/-- A new connection of a network with this mechanism. -/
def bob (mechanism : String) : Conn :=
  .start .rfc1459 ⟨"bob",bob_named⟩ ⟨[]⟩ mechanism "bob" "bob"

end Sample

end Sake.Proofs.Negotiation
