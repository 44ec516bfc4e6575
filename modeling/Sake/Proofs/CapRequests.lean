import Mathlib.Data.List.Nodup
import Sake.Proofs.Negotiation

namespace Sake.Proofs.CapRequests
open Sake.Negotiation Sake.Strings Lib.Handler Negotiation List
open Upstream (Conn)

variable {env : Env} {l : Line} {order : List String} {uc : Conn} {c : String}

/-- The words of a request name no capability twice, ask only for what can be had and is not there yet,
and turn off only what is on. -/
structure WellFormed (uc : Conn) (words : List String) : Prop where
  distinct : (words.map fun word => (cutFirst '-' word).1).Nodup
  enables : ∀ word ∈ words, startsWith '-' word = false → isAvailable uc word = true ∧ isEnabled uc word = false
  disables : ∀ word ∈ words, startsWith '-' word = true → isEnabled uc (cutFirst '-' word).1 = true

/-- A request that is sent is well formed, and once the server has taken it as it is there is nothing
more to ask for. -/
def Sound (env : Env) (order : List String) (uc : Conn) : Prop :=
  ∀ sent text, updateCaps order ⟨uc,sent⟩ = .ok () ⟨uc,sent ++ [message "CAP" ["REQ",text]]⟩ →
    WellFormed uc (fieldsFunc env.upstream.unicode.isSpace text) ∧
      ∀ first, ∃ l, handleMessage env order (message "CAP" [first,"ACK",text])
          ⟨uc,sent ++ [message "CAP" ["REQ",text]]⟩ = .ok () l ∧
        ∀ next, next.Perm permanentUpstreamCaps → updateCaps next l = .ok () l

/-- Echoes are on where they can be told from other messages, and are not offered elsewhere. -/
def EchoSettled (uc : Conn) : Prop :=
  if isAvailable uc "labeled-response" then isEnabled uc "echo-message" = true
  else isAvailable uc "echo-message" = false

instance (uc : Conn) : Decidable (EchoSettled uc) := by
  unfold EchoSettled
  infer_instance

section Acked
variable {words : List String}

theorem acks_available (env : Env) (ok : Bool) (words : List String) (l : Line) :
    (words.foldl (acked env ok) l).conn.capsAvailable = l.conn.capsAvailable := by
  induction words generalizing l with
  | nil => rfl
  | cons word words ih => exact ih _

theorem acked_nodup (h : l.conn.capsEnabled.Nodup) (ok : Bool) (word : String) :
    (acked env ok l word).conn.capsEnabled.Nodup := by
  unfold acked
  dsimp only
  split
  · exact nodup_cons.mpr ⟨fun hmem => (h.mem_erase_iff.mp hmem).1 rfl,h.erase _⟩
  · exact h.erase _

theorem acks_nodup (h : l.conn.capsEnabled.Nodup) (ok : Bool) :
    (words.foldl (acked env ok) l).conn.capsEnabled.Nodup := by
  induction words generalizing l with
  | nil => exact h
  | cons word words ih => exact ih (acked_nodup h ok word)

theorem mem_acked (h : startsWith '-' word = false) (c : String) :
    c ∈ (acked env true l word).conn.capsEnabled ↔ c = word ∨ c ∈ l.conn.capsEnabled := by
  unfold acked
  rw [Strings.cutFirst_of_not h]
  by_cases hc : c = word <;> simp [hc]

theorem mem_acks (h : ∀ word ∈ words, startsWith '-' word = false) (c : String) :
    c ∈ (words.foldl (acked env true) l).conn.capsEnabled ↔ c ∈ words ∨ c ∈ l.conn.capsEnabled := by
  induction words generalizing l with
  | nil => simp
  | cons word words ih =>
    rw [foldl_cons,ih fun w hw => h w (mem_cons_of_mem _ hw),mem_acked (h word mem_cons_self),mem_cons]
    tauto

theorem mem_acked_echo (h : l.conn.capsEnabled.Nodup) (c : String) :
    c ∈ (acked env true l "-echo-message").conn.capsEnabled ↔ c ≠ "echo-message" ∧ c ∈ l.conn.capsEnabled :=
  h.mem_erase_iff

end Acked

section Requests

/-- The first part of the request. -/
def permanents (order : List String) (uc : Conn) : List String :=
  order.filter fun c => isAvailable uc c && !isEnabled uc c

theorem requestCaps_eq : requestCaps order uc = permanents order uc ++
      if isAvailable uc "labeled-response" then
        if isEnabled uc "echo-message" then [] else ["echo-message"]
      else if isEnabled uc "echo-message" then ["-echo-message"] else [] := by
  unfold requestCaps permanents
  cases isAvailable uc "labeled-response" <;> cases isEnabled uc "echo-message" <;> rfl

section
variable (horder : order.Perm permanentUpstreamCaps)
include horder

theorem mem_permanents :
    c ∈ permanents order uc ↔ c ∈ permanentUpstreamCaps ∧ isAvailable uc c = true ∧ isEnabled uc c = false := by
  unfold permanents
  rw [mem_filter,horder.mem_iff,Bool.and_eq_true,Bool.not_eq_true']

theorem permanents_undashed : ∀ word ∈ permanents order uc, startsWith '-' word = false := by
  have hall : ∀ word ∈ permanentUpstreamCaps, startsWith '-' word = false := by decide
  exact fun word hword => hall word ((mem_permanents horder).mp hword).1

theorem permanents_nodup : (permanents order uc).Nodup := (horder.nodup_iff.mpr (by decide)).filter _

theorem permanents_names : ((permanents order uc).map fun word => (cutFirst '-' word).1) = permanents order uc := by
  refine (map_congr_left fun word hword => ?_).trans (map_id _)
  rw [Strings.cutFirst_of_not (permanents_undashed horder word hword)]
  rfl

/-- Well formed is a request unless it asks for echoes on account of labels. -/
theorem requestCaps_wellFormed_iff : WellFormed uc (requestCaps order uc) ↔
      (isAvailable uc "labeled-response" = true → isEnabled uc "echo-message" = true) := by
  have hperm : ∀ word ∈ permanents order uc, startsWith '-' word = false →
      isAvailable uc word = true ∧ isEnabled uc word = false := fun word hword _ => ((mem_permanents horder).mp hword).2
  have hdash : ∀ word ∈ permanents order uc, startsWith '-' word = true →
      isEnabled uc (cutFirst '-' word).1 = true := fun word hword hd =>
    nomatch (permanents_undashed horder word hword).symm.trans hd
  rw [requestCaps_eq]
  cases hlabel : isAvailable uc "labeled-response" with
  | true =>
    cases hecho : isEnabled uc "echo-message" with
    | true =>
      refine iff_of_true ⟨?_,?_,?_⟩ fun _ => rfl
      · simpa [permanents_names horder] using permanents_nodup horder
      · simpa using hperm
      · simpa using hdash
    | false =>
      refine iff_of_false (fun h => ?_) (by simp)
      have hlast : "echo-message" ∈ permanents order uc ++ ["echo-message"] := by simp
      have hasked := h.enables "echo-message" (by simp) (by decide)
      -- it is available, so it is there already
      have hfirst : "echo-message" ∈ permanents order uc := (mem_permanents horder).mpr ⟨by decide,hasked⟩
      have hdistinct := h.distinct
      rw [if_pos rfl,map_append,permanents_names horder] at hdistinct
      exact (nodup_append.mp hdistinct).2.2 _ hfirst _ (mem_singleton.mpr rfl) rfl
  | false =>
    refine iff_of_true ?_ (by simp)
    cases hecho : isEnabled uc "echo-message" with
    | false =>
      refine ⟨?_,?_,?_⟩
      · simpa [permanents_names horder] using permanents_nodup horder
      · simpa using hperm
      · simpa using hdash
    | true =>
      refine ⟨?_,?_,?_⟩
      · rw [map_append,permanents_names horder]
        refine nodup_append.mpr ⟨permanents_nodup horder,nodup_singleton _,fun a ha b hb heq => ?_⟩
        have hb : b = "echo-message" := mem_singleton.mp hb
        rw [heq,hb] at ha
        exact nomatch hecho.symm.trans ((mem_permanents horder).mp ha).2.2
      · intro word hword hd
        rcases mem_append.mp hword with h | h
        · exact hperm word h hd
        · rw [mem_singleton.mp h] at hd
          exact absurd hd (by decide)
      · intro word hword hd
        rcases mem_append.mp hword with h | h
        · exact hdash word h hd
        · rw [mem_singleton.mp h]
          exact hecho

end

end Requests

section Settled

section
variable (horder : order.Perm permanentUpstreamCaps)
include horder

theorem requestCaps_acked (hn : uc.capsEnabled.Nodup) (sent : List Message) (hc : c ≠ "echo-message") :
    isEnabled ((requestCaps order uc).foldl (acked env true) ⟨uc,sent⟩).conn c = true ↔
      c ∈ permanents order uc ∨ isEnabled uc c = true := by
  have hfirst : c ∈ ((permanents order uc).foldl (acked env true) ⟨uc,sent⟩).conn.capsEnabled ↔
      c ∈ permanents order uc ∨ c ∈ uc.capsEnabled := mem_acks (permanents_undashed horder) c
  unfold isEnabled
  rw [requestCaps_eq,foldl_append,contains_iff_mem,contains_iff_mem]
  split
  · split
    · exact hfirst
    · rw [foldl_cons,foldl_nil,mem_acked (by decide),hfirst]
      exact or_iff_right hc
  · split
    · rw [foldl_cons,foldl_nil,mem_acked_echo (acks_nodup hn true),hfirst]
      exact and_iff_right hc
    · exact hfirst

theorem requestCaps_acked_echo (hn : uc.capsEnabled.Nodup) (sent : List Message) :
    isEnabled ((requestCaps order uc).foldl (acked env true) ⟨uc,sent⟩).conn "echo-message" =
      (isAvailable uc "labeled-response" || (!isEnabled uc "echo-message" && isAvailable uc "echo-message")) := by
  have hfirst : "echo-message" ∈ ((permanents order uc).foldl (acked env true) ⟨uc,sent⟩).conn.capsEnabled ↔
      "echo-message" ∈ permanents order uc ∨ "echo-message" ∈ uc.capsEnabled :=
    mem_acks (permanents_undashed horder) "echo-message"
  have hperm : "echo-message" ∈ permanents order uc ↔
      isAvailable uc "echo-message" = true ∧ isEnabled uc "echo-message" = false :=
    (mem_permanents horder).trans (and_iff_right (by decide))
  have hold : "echo-message" ∈ uc.capsEnabled ↔ isEnabled uc "echo-message" = true := contains_iff_mem.symm
  have hnodup : ((permanents order uc).foldl (acked env true) ⟨uc,sent⟩).conn.capsEnabled.Nodup := acks_nodup hn true
  rw [Bool.eq_iff_iff,isEnabled,requestCaps_eq]
  cases hlabel : isAvailable uc "labeled-response" <;> cases hecho : isEnabled uc "echo-message"
  · simp [hfirst,hperm,hold,hecho]
  · simp [mem_acked_echo hnodup]
  · simp [mem_acked (show startsWith '-' "echo-message" = false by decide)]
  · simp [hfirst,hold,hecho]

theorem requestCaps_eq_nil : requestCaps order uc = [] ↔
      (∀ c ∈ permanentUpstreamCaps, isAvailable uc c = true → isEnabled uc c = true) ∧
        isEnabled uc "echo-message" = isAvailable uc "labeled-response" := by
  rw [requestCaps_eq,append_eq_nil_iff]
  refine and_congr ?_ ?_
  · rw [eq_nil_iff_forall_not_mem]
    refine ⟨fun h c hc ha => ?_,fun h c hc => ?_⟩
    · by_contra hne
      exact h c ((mem_permanents horder).mpr ⟨hc,ha,Bool.eq_false_iff.mpr hne⟩)
    · obtain ⟨hc,ha,hne⟩ := (mem_permanents horder).mp hc
      exact nomatch hne.symm.trans (h c hc ha)
  · cases isAvailable uc "labeled-response" <;> cases isEnabled uc "echo-message" <;> simp

/-- The next call has nothing to ask for unless echoes are offered without labels. -/
theorem next_requestCaps_iff {next : List String}
    (hnext : next.Perm permanentUpstreamCaps) (hn : uc.capsEnabled.Nodup) (sent : List Message) :
    requestCaps next ((requestCaps order uc).foldl (acked env true) ⟨uc,sent⟩).conn = [] ↔
      (isAvailable uc "labeled-response" = true ∨ isAvailable uc "echo-message" = false) := by
  have havail : ∀ c, isAvailable ((requestCaps order uc).foldl (acked env true) ⟨uc,sent⟩).conn c =
      isAvailable uc c := fun c => by
    unfold isAvailable
    rw [acks_available]
  rw [requestCaps_eq_nil hnext,havail,requestCaps_acked_echo horder hn]
  constructor
  · rintro ⟨hall,hlabel⟩
    have hecho := hall "echo-message" (by decide)
    rw [havail,requestCaps_acked_echo horder hn] at hecho
    revert hecho hlabel
    cases isAvailable uc "labeled-response" <;> cases isEnabled uc "echo-message" <;>
      cases isAvailable uc "echo-message" <;> simp
  · intro h
    refine ⟨fun c hc ha => ?_,?_⟩
    · rw [havail] at ha
      by_cases hc' : c = "echo-message"
      · rw [hc'] at ha ⊢
        rw [requestCaps_acked_echo horder hn]
        rcases h with h | h
        · rw [h,Bool.true_or]
        · exact nomatch h.symm.trans ha
      · rw [requestCaps_acked horder hn sent hc',mem_permanents horder]
        cases he : isEnabled uc c with
        | true => exact .inr rfl
        | false => exact .inl ⟨hc,ha,rfl⟩
    · rcases h with h | h
      · rw [h,Bool.true_or]
      · rw [h,Bool.and_false,Bool.or_false]

end

theorem updateCaps_eq (order : List String) (l : Line) : updateCaps order l =
    .ok () (if requestCaps order l.conn = [] then l
      else { l with sent := l.sent ++ [message "CAP" ["REQ"," ".intercalate (requestCaps order l.conn)]] }) := by
  unfold updateCaps
  rw [get_bind]
  split <;> rfl

theorem updateCaps_silent_iff : updateCaps order l = .ok () l ↔ requestCaps order l.conn = [] := by
  rw [updateCaps_eq]
  constructor
  · intro h
    by_contra hne
    rw [if_neg hne] at h
    injection h with _ h
    have hsent := congrArg (fun l => l.sent.length) h
    simp at hsent
  · intro h
    rw [if_pos h]

theorem updateCaps_sent (h : updateCaps order ⟨uc,sent⟩ = .ok () ⟨uc,sent ++ [message "CAP" ["REQ",text]]⟩) :
    text = " ".intercalate (requestCaps order uc) := by
  rw [updateCaps_eq] at h
  injection h with _ h
  split at h
  · have hsent := congrArg (fun l => l.sent.length) h
    simp at hsent
  · have hsent := congrArg Line.sent h
    simpa [message] using hsent.symm

/-- Requests are sound exactly where echoes are settled. -/
theorem requests_sound_iff (hu : env.upstream.unicode.Standard) (hl : env.upstream.unicode.LowersAscii)
    (hn : uc.capsEnabled.Nodup) (hc : Configured uc) (horder : order.Perm permanentUpstreamCaps) :
    Sound env order uc ↔ EchoSettled uc := by
  have hplain := requestCaps_plain horder uc
  have hfields := fields_join hu hplain
  have hanswer first sent :
      handleMessage env order (message "CAP" [first,"ACK"," ".intercalate (requestCaps order uc)]) ⟨uc,sent⟩ =
        .ok () ((requestCaps order uc).foldl (acked env true) ⟨uc,sent⟩) :=
    handleMessage_answer hu hl order hplain first true hc
  have hsettled : EchoSettled uc ↔ (isAvailable uc "labeled-response" = true → isEnabled uc "echo-message" = true) ∧
        (isAvailable uc "labeled-response" = true ∨ isAvailable uc "echo-message" = false) := by
    unfold EchoSettled
    cases isAvailable uc "labeled-response" <;> simp
  rw [hsettled]
  constructor
  · intro h
    by_cases hnil : requestCaps order uc = []
    · -- nothing to ask for: echoes are as they should be
      obtain ⟨hall,hecho⟩ := (requestCaps_eq_nil horder).mp hnil
      have havail := hall "echo-message" (by decide)
      rw [hecho] at havail ⊢
      refine ⟨id,?_⟩
      revert havail
      cases isAvailable uc "labeled-response" <;> cases isAvailable uc "echo-message" <;> simp
    · have hsent : updateCaps order ⟨uc,[]⟩ =
          .ok () ⟨uc,[] ++ [message "CAP" ["REQ"," ".intercalate (requestCaps order uc)]]⟩ := by
        rw [updateCaps_eq,if_neg hnil]
      obtain ⟨hwell,hack⟩ := h [] _ hsent
      rw [hfields] at hwell
      obtain ⟨l,hl',hnext⟩ := hack ""
      cases (hanswer "" _).symm.trans hl'
      refine ⟨(requestCaps_wellFormed_iff horder).mp hwell,?_⟩
      exact (next_requestCaps_iff horder horder hn _).mp (updateCaps_silent_iff.mp (hnext order horder))
  · rintro ⟨hwell,hnext⟩ sent text hsent
    rw [updateCaps_sent hsent,hfields]
    refine ⟨(requestCaps_wellFormed_iff horder).mpr hwell,fun first => ⟨_,hanswer first _,fun next hp => ?_⟩⟩
    exact updateCaps_silent_iff.mpr ((next_requestCaps_iff horder hp hn _).mpr hnext)

end Settled

section Sample

/-- The server offers these capabilities. -/
def offered (caps : List String) : Conn := { bob "" with capsAvailable := caps.map fun name => (name,"") }

theorem requests_sound_batch :
    (offered ["batch","setname"]).capsEnabled.Nodup ∧ EchoSettled (offered ["batch","setname"]) ∧
      requestCaps permanentUpstreamCaps (offered ["batch","setname"]) = ["batch","setname"] ∧
      Sound plainEnv permanentUpstreamCaps (offered ["batch","setname"]) :=
  ⟨nodup_nil,by decide,by decide,
    (requests_sound_iff Unicode.standard_ascii (fun _ _ => rfl) nodup_nil (by decide) (List.Perm.refl _)).mpr
      (by decide)⟩

/-- With labels on offer echoes are asked for twice, and even where the server does not have them. Without
labels they are turned off again, once the server has turned them on. -/
theorem echo_is_not_settled : requestCaps permanentUpstreamCaps (offered ["echo-message","labeled-response"]) =
        ["echo-message","labeled-response","echo-message"] ∧
      requestCaps permanentUpstreamCaps (offered ["labeled-response"]) = ["labeled-response","echo-message"] ∧
      isAvailable (offered ["labeled-response"]) "echo-message" = false ∧
      requestCaps permanentUpstreamCaps (offered ["echo-message"]) = ["echo-message"] ∧
      ∃ l, handleMessage plainEnv permanentUpstreamCaps
          (message "CAP" ["bob","ACK"," ".intercalate ["echo-message"]]) ⟨offered ["echo-message"],[]⟩ = .ok () l ∧
        requestCaps permanentUpstreamCaps l.conn = ["-echo-message"] := by
  refine ⟨by decide,by decide,by decide,by decide,
    ["echo-message"].foldl (acked plainEnv true) ⟨offered ["echo-message"],[]⟩,?_,by decide⟩
  exact handleMessage_answer Unicode.standard_ascii (fun _ _ => rfl) _ (by decide) "bob" true (by decide)

end Sample

end Sake.Proofs.CapRequests
