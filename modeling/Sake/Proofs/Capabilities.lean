import Sake.Capabilities
import Sake.Proofs.Authenticate
import Sake.Proofs.Negotiation

namespace Sake.Proofs.Capabilities
open Sake.Capabilities Sake.Downstream Sake.Strings Lib.Handler Lib.Runs Option CapRegistry Keeps State
open Negotiation (Configured startSASL_eq)

variable {cr : CapRegistry} {name : String}

section Unregistered
variable {dc : Conn}

theorem setCapVersion_cases (args : List String) (dc : Conn) :
    (∃ version, setCapVersion args dc = .ok () { dc with capVersion := version }) ∨
      ∃ e, setCapVersion args dc = .error e dc := by
  cases args with
  | nil => exact .inl ⟨dc.capVersion,rfl⟩
  | cons arg args =>
    cases hp : parseInt arg with
    | none => exact .inr ⟨.error (.invalidNumber arg),by simp [setCapVersion,hp]; rfl⟩
    | some version => exact .inl ⟨version,by simp [setCapVersion,hp]; rfl⟩

end Unregistered

section Registry

theorem isAvailable_setAvailable (cr : CapRegistry) (kv : String × String) (name : String) :
    (cr.setAvailable kv).isAvailable name = (name == kv.1 || cr.isAvailable name) := by
  unfold setAvailable isAvailable
  by_cases hk : name = kv.1
  · simp [hk]
  rw [List.any_cons,List.any_filter,beq_eq_false_iff_ne.mpr hk,beq_eq_false_iff_ne.mpr (Ne.symm hk)]
  refine congrArg (cr.available.any ·) (funext fun old => ?_)
  by_cases ho : old.1 = name
  · simp [ho,hk]
  · simp [ho]

theorem isAvailable_del (cr : CapRegistry) (name name' : String) :
    (del cr name).isAvailable name' = (name' != name && cr.isAvailable name') := by
  unfold del isAvailable
  rw [List.any_filter]
  by_cases hk : name' = name
  · simp [hk]
  rw [bne_iff_ne.mpr hk]
  refine congrArg (cr.available.any ·) (funext fun old => ?_)
  by_cases ho : old.1 = name'
  · simp [ho,hk]
  · simp [ho]

theorem isEnabled_del : (del cr name).isEnabled name' = (name' != name && cr.isEnabled name') := by
  unfold del isEnabled
  rw [Bool.eq_iff_iff]
  simp [and_comm]

theorem isEnabled_setEnabled (cr : CapRegistry) (name : String) (on : Bool) (name' : String)
    (h : (cr.setEnabled name on).isEnabled name' = true) : (name' = name ∧ on = true) ∨ cr.isEnabled name' = true := by
  unfold setEnabled isEnabled at h
  cases on with
  | true => simpa [isEnabled,or_and_left] using h
  | false =>
    refine .inr ?_
    simp at h
    simp [isEnabled,h.1]

/-- What is enabled is available, and the notifications about capabilities are always available. -/
structure Sound (cr : CapRegistry) : Prop where
  available : ∀ name, cr.isEnabled name = true → cr.isAvailable name = true
  notify : cr.isAvailable "cap-notify" = true

theorem Sound.setAvailable (h : Sound cr) (kv : String × String) : Sound (cr.setAvailable kv) := by
  refine ⟨fun name hn => ?_,?_⟩
  · rw [isAvailable_setAvailable,h.available name hn,Bool.or_true]
  · rw [isAvailable_setAvailable,h.notify,Bool.or_true]

theorem Sound.del (h : Sound cr) (hname : name ≠ "cap-notify") : Sound (del cr name) := by
  refine ⟨fun name' hn => ?_,?_⟩
  · rw [isEnabled_del,Bool.and_eq_true] at hn
    rw [isAvailable_del,hn.1,h.available name' hn.2,Bool.and_true]
  · rw [isAvailable_del,h.notify,Bool.and_true]
    exact bne_iff_ne.mpr hname.symm

theorem Sound.setEnabled (h : Sound cr) (hon : on = true → cr.isAvailable name = true) :
    Sound (cr.setEnabled name on) := by
  refine ⟨fun name' hn => ?_,h.notify⟩
  rcases isEnabled_setEnabled cr name on name' hn with ⟨rfl,ht⟩ | hn
  · exact hon ht
  · exact h.available name' hn

end Registry

section Client
variable {env : Downstream.Env} {dc : Conn}

/-- What is kept by the commands of a client: a registered one is not offered anything new. -/
structure Kept (dc dc' : Conn) : Prop where
  registered : dc'.registered = dc.registered
  sound : Sound dc'.caps
  offered : dc.registered = true → ∀ name, dc'.caps.isAvailable name = dc.caps.isAvailable name

theorem Kept.caps_eq (h : Kept dc dc₁) (hr : dc₂.registered = dc₁.registered)
    (hc : dc₂.caps = dc₁.caps) : Kept dc dc₂ := by
  refine ⟨hr.trans h.registered,hc ▸ h.sound,fun hreg name => ?_⟩
  rw [hc]
  exact h.offered hreg name

theorem Kept.negotiating {dc' : Conn} (h : Kept dc dc') (b : Bool) : Kept dc (negotiating b dc') := by
  unfold Capabilities.negotiating
  split
  · exact h
  · exact h.caps_eq rfl rfl

abbrev Keeping (dc : Conn) (h : Handler Unit) : Prop := Keeps (Kept dc) (fun _ => True) h

theorem keeping_send (msg : Message) : Keeping dc (send msg) := modify fun _ h => h.caps_eq rfl rfl

theorem keeping_setCapVersion (args : List String) : Keeping dc (setCapVersion args) := by
  intro dc' h
  rcases setCapVersion_cases args dc' with ⟨version,hv⟩ | ⟨e,hv⟩
  · rw [Safe,hv]
    exact h.caps_eq rfl rfl
  · rw [Safe,hv]
    exact ⟨h,trivial⟩

theorem Sound.passthrough (h : Sound cr) (kvs : List (String × String)) :
    Sound (kvs.foldl CapRegistry.setAvailable cr) := by
  induction kvs generalizing cr with
  | nil => exact h
  | cons kv kvs ih => exact ih (h.setAvailable kv)

theorem keeping_handleCapLS (args : List String) : Keeping dc (Capabilities.handleCapLS env args) := by
  refine Keeps.bind (keeping_setCapVersion args) fun _ => get_bind fun dc₁ h₁ => ?_
  refine Keeps.bind (keeping_send _) fun _ => modify fun dc₂ h₂ => ?_
  -- only a connection that is not registered is offered what an upstream connection may have
  have hcaps : Kept dc { dc₂ with
      caps := if !dc₁.registered && 302 ≤ dc₁.capVersion then
          passthroughDownstreamCaps.foldl setAvailable dc₁.caps
        else dc₁.caps } := by
    split
    · rename_i hnew
      refine ⟨h₂.registered,h₁.sound.passthrough _,fun hr => ?_⟩
      rw [h₁.registered,hr] at hnew
      cases hnew
    · exact ⟨h₂.registered,h₁.sound,h₁.offered⟩
  refine Kept.negotiating ?_ true
  split
  · exact ⟨hcaps.registered,hcaps.sound.setEnabled fun _ => hcaps.sound.notify,hcaps.offered⟩
  · exact hcaps

theorem requestedCaps_available
    (h : requestedCaps lib dc words = some requested) : ∀ kv ∈ requested, dc.caps.isAvailable kv.1 = true := by
  induction words generalizing requested with
  | nil =>
    cases h
    exact fun kv hkv => nomatch hkv
  | cons word words ih =>
    unfold requestedCaps at h
    dsimp only at h
    split at h
    · exact ih h
    split at h
    · cases h
    rename_i havail
    split at h
    · cases h
    split at h
    · cases h
    obtain ⟨rest,hrest,rfl⟩ := map_eq_some_iff.mp h
    intro kv hkv
    rcases List.mem_cons.mp hkv with rfl | hkv
    · simpa using havail
    · exact ih hrest kv hkv

theorem Sound.setEnabled_all (h : Sound cr) {kvs : List (String × Bool)}
    (hkvs : ∀ kv ∈ kvs, cr.isAvailable kv.1 = true) :
    Sound (kvs.foldl (fun caps kv => caps.setEnabled kv.1 kv.2) cr) ∧
      (kvs.foldl (fun caps kv => caps.setEnabled kv.1 kv.2) cr).available = cr.available := by
  induction kvs generalizing cr with
  | nil => exact ⟨h,rfl⟩
  | cons kv kvs ih =>
    have hkv := hkvs kv List.mem_cons_self
    exact ih (h.setEnabled fun _ => hkv) fun kv' hkv' => hkvs kv' (List.mem_cons_of_mem kv hkv')

theorem keeping_handleCapREQ (args : List String) : Keeping dc (Capabilities.handleCapREQ lib env args) := by
  refine get_bind fun dc₁ h₁ => ?_
  cases args with
  | nil => exact throw trivial
  | cons arg args =>
    have havail : ∀ kv ∈ (requestedCaps lib dc₁ (fieldsFunc lib.unicode.isSpace arg)).getD [],
        dc₁.caps.isAvailable kv.1 = true := by
      cases hreq : requestedCaps lib dc₁ (fieldsFunc lib.unicode.isSpace arg) with
      | none => exact fun kv hkv => nomatch hkv
      | some kvs => exact requestedCaps_available hreq
    obtain ⟨hsound,hsame⟩ := h₁.sound.setEnabled_all havail
    refine Keeps.bind (modify fun dc₂ h₂ => ⟨h₂.registered,hsound,fun hr name => ?_⟩) fun _ => ?_
    · rw [← h₁.offered hr name]
      exact congrArg (List.any · fun kv => kv.1 == name) hsame
    · exact Keeps.bind (keeping_send _) fun _ => modify fun dc₂ h₂ => h₂.negotiating true

theorem keeping_handleCap (msg : Message) : Keeping dc (Capabilities.handleCap lib env msg) := by
  refine Keeps.bind (ite (fun _ => throw trivial) fun _ => Keeps.pure _) fun _ => get_bind fun dc₁ _ => ?_
  split
  · exact keeping_handleCapLS _
  · exact keeping_send _
  · exact keeping_handleCapREQ _
  · exact modify fun dc₂ h₂ => h₂.negotiating false
  · exact throw trivial

theorem kept_handleCap (h : Sound dc.caps) (msg : Message) :
    Kept dc (after (Capabilities.handleCap lib env msg) dc) := by
  have hsafe : Safe (Kept dc) (fun _ => True) (Capabilities.handleCap lib env msg) dc :=
    keeping_handleCap msg dc ⟨rfl,h,fun _ _ => rfl⟩
  unfold after
  unfold Safe at hsafe
  split
  · rename_i hr
    rw [hr] at hsafe
    exact hsafe
  · rename_i hr
    rw [hr] at hsafe
    exact hsafe.1

end Client

section Supported
variable {env : Downstream.Env} {dc : Conn}

theorem offerCap_available : (offerCap env name offer dc).caps.isAvailable name' =
      if name' = name then offer.isSome else dc.caps.isAvailable name' := by
  cases offer with
  | some value =>
    refine (isAvailable_setAvailable dc.caps (name,value) name').trans ?_
    split <;> simp_all
  | none =>
    refine (isAvailable_del dc.caps name name').trans ?_
    split <;> simp_all

theorem offerCap_sound (h : Sound dc.caps) (hname : name ≠ "cap-notify") (offer : Option String) :
    Sound (offerCap env name offer dc).caps := by
  cases offer with
  | some value => exact h.setAvailable (name,value)
  | none => exact h.del hname

theorem offerCap_registered (env : Downstream.Env) (name : String) (offer : Option String) (dc : Conn) :
    (offerCap env name offer dc).registered = dc.registered := by
  cases offer with
  | some value => rfl
  | none => rfl

/-- What the upstream connection of a client has, of the capabilities that are passed through. -/
def Offers (uc : Option Upstream.Conn) (cr : CapRegistry) : Prop :=
  ∀ uc', uc = some uc' → ∀ kv ∈ passthroughDownstreamCaps, cr.isAvailable kv.1 = true →
    uc'.capsEnabled.contains kv.1 = true

def others : List String := ["sasl","draft/account-registration","draft/event-playback"]

theorem passthrough_others (h : kv ∈ passthroughDownstreamCaps) :
    kv.1 ≠ "cap-notify" ∧ ∀ name ∈ others, kv.1 ≠ name := by
  revert kv
  decide

theorem offerCap_offers (h : Offers uc dc.caps) (hname : name ∈ others)
    (offer : Option String) : Offers uc (offerCap env name offer dc).caps := by
  intro uc' huc kv hkv havail
  rw [offerCap_available,if_neg ((passthrough_others hkv).2 name hname)] at havail
  exact h uc' huc kv hkv havail

variable (env) (uc : Option Upstream.Conn)

/-- After the loop over some of the capabilities, these are available as the upstream connection says. -/
theorem offers_passthrough (kvs : List (String × String)) (dc : Conn) (name : String) :
    (kvs.foldl (fun dc kv => offerCap env kv.1 (passthroughOffer uc kv) dc) dc).caps.isAvailable name =
      if name ∈ kvs.map Prod.fst then uc.all fun uc => uc.capsEnabled.contains name else dc.caps.isAvailable name := by
  induction kvs generalizing dc with
  | nil => rfl
  | cons kv kvs ih =>
    rw [List.foldl_cons,ih,offerCap_available,List.map_cons]
    by_cases hin : name ∈ kvs.map Prod.fst
    · rw [if_pos hin,if_pos (List.mem_cons_of_mem _ hin)]
    rw [if_neg hin]
    by_cases hk : name = kv.1
    · subst hk
      rw [if_pos rfl]
      unfold passthroughOffer
      split <;> simp_all
    · rw [if_neg hk,if_neg]
      simpa [hk] using hin

theorem passthrough_sound {kvs : List (String × String)}
    (hkvs : ∀ kv ∈ kvs, kv.1 ≠ "cap-notify") (h : Sound dc.caps) :
    Sound (kvs.foldl (fun dc kv => offerCap env kv.1 (passthroughOffer uc kv) dc) dc).caps := by
  induction kvs generalizing dc with
  | nil => exact h
  | cons kv kvs ih =>
    exact ih (fun kv' hkv' => hkvs kv' (List.mem_cons_of_mem kv hkv'))
      (offerCap_sound h (hkvs kv List.mem_cons_self) _)

theorem passthrough_registered (kvs : List (String × String)) (dc : Conn) :
    (kvs.foldl (fun dc kv => offerCap env kv.1 (passthroughOffer uc kv) dc) dc).registered = dc.registered := by
  induction kvs generalizing dc with
  | nil => rfl
  | cons kv kvs ih => exact (ih _).trans (offerCap_registered env kv.1 _ dc)

/-- Offering the mechanism or not is like any other offer, unless nothing changes. -/
theorem updateSASL_eq (upstream : Upstream.Env) (bound : Bool) (dc : Conn) :
    updateSASL env upstream uc bound dc = dc ∨ ∃ offer, updateSASL env upstream uc bound dc = offerCap env "sasl" offer dc := by
  unfold updateSASL
  split
  · exact .inr ⟨some "PLAIN,ANONYMOUS",rfl⟩
  · split
    · exact .inr ⟨none,rfl⟩
    · exact .inl rfl

theorem updateSupportedCaps_kept (upstream : Upstream.Env) (history : Bool) (bound : Bool) (h : Sound dc.caps) :
    (updateSupportedCaps env upstream history uc bound dc).registered = dc.registered ∧
      Sound (updateSupportedCaps env upstream history uc bound dc).caps ∧
        Offers uc (updateSupportedCaps env upstream history uc bound dc).caps := by
  let dc₁ := passthroughDownstreamCaps.foldl (fun dc kv => offerCap env kv.1 (passthroughOffer uc kv) dc) dc
  let dc₂ := updateSASL env upstream uc bound dc₁
  have h₁ : dc₁.registered = dc.registered ∧ Sound dc₁.caps ∧ Offers uc dc₁.caps := by
    refine ⟨passthrough_registered env uc _ dc,passthrough_sound env uc (fun kv hkv => (passthrough_others hkv).1) h,?_⟩
    intro uc' huc kv hkv havail
    rw [offers_passthrough,if_pos (List.mem_map_of_mem hkv),huc] at havail
    exact havail
  have h₂ : dc₂.registered = dc.registered ∧ Sound dc₂.caps ∧ Offers uc dc₂.caps := by
    rcases updateSASL_eq env uc upstream bound dc₁ with heq | ⟨offer,heq⟩
    · unfold dc₂
      rw [heq]
      exact h₁
    · unfold dc₂
      rw [heq]
      exact ⟨(offerCap_registered env _ _ _).trans h₁.1,offerCap_sound h₁.2.1 (by decide) _,
        offerCap_offers h₁.2.2 (by decide) _⟩
  refine ⟨?_,?_,?_⟩
  · exact (offerCap_registered env _ _ _).trans ((offerCap_registered env _ _ _).trans h₂.1)
  · exact offerCap_sound (offerCap_sound h₂.2.1 (by decide) _) (by decide) _
  · exact offerCap_offers (offerCap_offers h₂.2.2 (by decide) _) (by decide) _

end Supported

section Server
variable {env : Upstream.Env} {uc : Upstream.Conn}

/-- The connection is registered as before, and its mechanism is the same. -/
def Same (uc uc' : Upstream.Conn) : Prop := uc'.registered = uc.registered ∧ uc'.saslMechanism = uc.saslMechanism

theorem handleSupportedCaps_same (env : Upstream.Env) (uc : Upstream.Conn) (caps : String) :
    Same uc (Upstream.handleSupportedCaps env uc caps) ∧
      (Upstream.handleSupportedCaps env uc caps).capsEnabled = uc.capsEnabled := by
  unfold Upstream.handleSupportedCaps
  induction fieldsFunc env.unicode.isSpace caps generalizing uc with
  | nil => exact ⟨⟨rfl,rfl⟩,rfl⟩
  | cons word words ih => exact ih (Upstream.addSupportedCap env uc word)

theorem Same.configured (h : Same uc uc') (hc : Configured uc) : Configured uc' := by
  unfold Configured
  rw [h.2]
  exact hc

theorem acks_same (env : Upstream.Env) (h : Configured uc) (ack : Bool) (words : List String) :
    Meets (words.forM fun name =>
      Upstream.handleCapAck env (Upstream.lower env (cutFirst '-' name).1) (ack && !(cutFirst '-' name).2)) uc
      (fun _ uc' => Same uc uc') fun _ _ => False := by
  have hkeeps : Keeps (Same uc) (fun _ => False) (words.forM fun name =>
      Upstream.handleCapAck env (Upstream.lower env (cutFirst '-' name).1) (ack && !(cutFirst '-' name).2)) := by
    refine forM fun word _ uc' hs => ?_
    unfold Safe Upstream.handleCapAck
    rw [modify_bind,startSASL_eq env (by exact hs.configured h)]
    exact hs
  exact (hkeeps.meets ⟨rfl,rfl⟩).mono (fun _ _ hs => hs) fun _ _ hf => hf.2

theorem failIf_meets (c : Prop) [Decidable c] (e : Upstream.HandleError) (uc : Upstream.Conn) :
    Meets (Upstream.failIf c e) uc (fun _ uc' => uc' = uc) fun _ uc' => uc' = uc := by
  unfold Upstream.failIf
  split
  · exact Meets.throw rfl
  · exact Meets.pure rfl

/-- A message that fails changes nothing; unless clients are told, the same capabilities are enabled. -/
theorem serverCap_meets (env : Capabilities.Env) (hc : Configured uc) (msg : Message) :
    Meets (Upstream.handleCap env.upstream msg) uc
      (fun _ uc' => Same uc uc' ∧ (tellsClients env msg = true ∨ uc'.capsEnabled = uc.capsEnabled))
      fun _ uc' => uc' = uc := by
  unfold Upstream.handleCap tellsClients
  refine Meets.bind (failIf_meets _ _ uc) ?_
  intro _ uc' huc'
  subst huc'
  dsimp only
  split
  · refine Meets.bind (failIf_meets _ _ _) ?_
    intro _ uc hsame
    subst hsame
    have hsame := handleSupportedCaps_same env.upstream uc (if Upstream.upper env.upstream (msg.param 1) = "LS"
      then (msg.params.drop 2).getLastD "" else (msg.params.drop 2).headD "")
    exact ⟨hsame.1,.inr hsame.2⟩
  · split
    · rename_i hsub
      refine Meets.bind (failIf_meets _ _ _) ?_
      rintro ⟨⟩ _ rfl
      refine (acks_same env.upstream hc _ _).mono (fun _ _ hs => ⟨hs,.inl ?_⟩) fun _ _ hf => hf.elim
      rcases hsub with hsub | hsub <;> simp [hsub]
    · split
      · rename_i hsub
        refine Meets.bind (failIf_meets _ _ _) ?_
        rintro ⟨⟩ _ rfl
        exact ⟨⟨rfl,rfl⟩,.inl (by simp [hsub])⟩
      · exact ⟨⟨rfl,rfl⟩,.inr rfl⟩

end Server

section State
variable {env : Capabilities.Env} {s : State} {c r : Nat} {server server' : Server} {n : Option Nat}

structure Inv (s : State) : Prop where
  arriving : ∀ dc ∈ s.arriving, Sound dc.2.caps
  clients : ∀ dc ∈ s.clients, dc.conn.registered = true ∧ Sound dc.conn.caps ∧ Offers (s.upstream dc.network) dc.conn.caps
  current : ∀ r c, s.network r = some c → ∃ server, s.servers c = some server ∧ server.network = r ∧
    server.conn.registered = true
  configured : ∀ c server, s.servers c = some server → Configured server.conn

theorem updateClients_clients (hreg : ∀ dc ∈ s.clients, dc.conn.registered = true ∧ Sound dc.conn.caps)
    (hoff : ∀ dc ∈ s.clients, dc.network ≠ some r → Offers (s.upstream dc.network) dc.conn.caps) :
    ∀ dc ∈ (s.updateClients env r).clients,
      dc.conn.registered = true ∧ Sound dc.conn.caps ∧ Offers ((s.updateClients env r).upstream dc.network) dc.conn.caps := by
  intro dc hdc
  obtain ⟨dc₀,hdc₀,rfl⟩ := List.mem_map.mp hdc
  obtain ⟨hr,hs⟩ := hreg dc₀ hdc₀
  split
  · obtain ⟨hr',hs',ho'⟩ := updateSupportedCaps_kept env.downstream
      (s.upstream dc₀.network) env.upstream env.history dc₀.network.isSome hs
    exact ⟨hr'.trans hr,hs',ho'⟩
  · rename_i hne
    exact ⟨hr,hs,hoff dc₀ hdc₀ hne⟩

theorem upstream_setNetwork (hn : n ≠ some r) (c : Option Nat) : (s.setNetwork r c).upstream n = s.upstream n := by
  cases n with
  | none => rfl
  | some r' =>
    have hne : r' ≠ r := fun h => hn (congrArg some h)
    simp [upstream,setNetwork,Function.update_of_ne hne]

theorem upstream_setServer (hn : ∀ r, n = some r → s.network r ≠ some c) (server : Server) :
    (s.setServer c server).upstream n = s.upstream n := by
  cases n with
  | none => rfl
  | some r =>
    cases hr : s.network r with
    | none => simp [upstream,setServer,hr]
    | some c' =>
      have hne : c' ≠ c := fun h => hn r rfl (h ▸ hr)
      simp [upstream,setServer,hr,Function.update_of_ne hne]

theorem Offers.setServer (h : Offers (s.upstream n) cr)
    (hc : s.servers c = some server) (henabled : server'.conn.capsEnabled = server.conn.capsEnabled) :
    Offers ((s.setServer c server').upstream n) cr := by
  by_cases hn : ∃ r, n = some r ∧ s.network r = some c
  · obtain ⟨r,rfl,hr⟩ := hn
    have hold : s.upstream (some r) = some server.conn := by simp [upstream,hr,hc]
    have hnew : (s.setServer c server').upstream (some r) = some server'.conn := by simp [upstream,setServer,hr]
    intro uc huc kv hkv havail
    cases hnew.symm.trans huc
    rw [henabled]
    exact h server.conn hold kv hkv havail
  · rw [upstream_setServer fun r hr hcur => hn ⟨r,hr,hcur⟩]
    exact h

theorem Inv.setServer_current (h : Inv s) (hc : s.servers c = some server) (hnet : server'.network = server.network)
    (hreg : server.conn.registered = true → server'.conn.registered = true) :
    ∀ r c', (s.setServer c server').network r = some c' → ∃ found, (s.setServer c server').servers c' = some found ∧
      found.network = r ∧ found.conn.registered = true := by
  intro r c' hr
  obtain ⟨found,hfound,hfr,hfreg⟩ := h.current r c' hr
  by_cases heq : c' = c
  · subst heq
    cases hc.symm.trans hfound
    exact ⟨server',Function.update_self ..,hnet.trans hfr,hreg hfreg⟩
  · exact ⟨found,(Function.update_of_ne heq ..).trans hfound,hfr,hfreg⟩

theorem Inv.setServer_configured (h : Inv s) (hconf : Configured server'.conn) :
    ∀ c' found, (s.setServer c server').servers c' = some found → Configured found.conn := by
  intro c' found hfound
  by_cases heq : c' = c
  · subst heq
    have hself : (s.setServer c' server').servers c' = some server' := Function.update_self ..
    cases hself.symm.trans hfound
    exact hconf
  · have hother : (s.setServer c server').servers c' = s.servers c' := Function.update_of_ne heq ..
    exact h.configured c' found (hother.symm.trans hfound)

section
variable (h : Inv s) (hc : s.servers c = some server) (hnet : server'.network = server.network)
  (hconf : Configured server'.conn) (hreg : server.conn.registered = true → server'.conn.registered = true)
include h hc hnet hconf hreg

theorem Inv.setServer (hoff : server'.conn.capsEnabled = server.conn.capsEnabled ∨ server.conn.registered = false) :
    Inv (s.setServer c server') := by
  refine ⟨h.arriving,fun dc hdc => ?_,h.setServer_current hc hnet hreg,h.setServer_configured hconf⟩
  obtain ⟨hr,hs,ho⟩ := h.clients dc hdc
  refine ⟨hr,hs,?_⟩
  rcases hoff with henabled | hnot
  · exact ho.setServer hc henabled
  rw [upstream_setServer]
  · exact ho
  intro r _ hcur
  obtain ⟨found,hfound,-,hfreg⟩ := h.current r c hcur
  cases hc.symm.trans hfound
  exact nomatch hnot.symm.trans hfreg

/-- A connection changes, and the clients of its network are told. -/
theorem Inv.tellClients : Inv ((s.setServer c server').updateClients env server.network) := by
  refine ⟨h.arriving,?_,h.setServer_current hc hnet hreg,h.setServer_configured hconf⟩
  refine updateClients_clients (fun dc hdc => ⟨(h.clients dc hdc).1,(h.clients dc hdc).2.1⟩) fun dc hdc hne => ?_
  rw [upstream_setServer]
  · exact (h.clients dc hdc).2.2
  intro r hr hcur
  obtain ⟨found,hfound,hfr,-⟩ := h.current r c hcur
  cases hc.symm.trans hfound
  exact hne (hr.trans (congrArg some hfr.symm))

end

/-- The network gets or loses its connection, and its clients are told. -/
theorem Inv.setNetwork (h : Inv s) {c : Option Nat}
    (hc : ∀ c', c = some c' → ∃ server, s.servers c' = some server ∧ server.network = r ∧ server.conn.registered = true) :
    Inv ((s.setNetwork r c).updateClients env r) := by
  refine ⟨h.arriving,?_,fun r' c' hr' => ?_,h.configured⟩
  · refine updateClients_clients (fun dc hdc => ⟨(h.clients dc hdc).1,(h.clients dc hdc).2.1⟩) fun dc hdc hne => ?_
    rw [upstream_setNetwork hne]
    exact (h.clients dc hdc).2.2
  by_cases heq : r' = r
  · subst heq
    have hself : (s.setNetwork r' c).network r' = c := Function.update_self ..
    exact hc c' (hself.symm.trans hr')
  · have hother : (s.setNetwork r c).network r' = s.network r' := Function.update_of_ne heq ..
    exact h.current r' c' (hother.symm.trans hr')

theorem start_inv : Inv start :=
  ⟨fun _ h => (nomatch h),fun _ h => (nomatch h),fun _ _ h => (nomatch h),fun _ _ h => (nomatch h)⟩

theorem newDownstreamConn_sound (env : Downstream.Env) : Sound (newDownstreamConn env).caps := by
  refine ⟨fun name h => (nomatch h),?_⟩
  unfold newDownstreamConn isAvailable permanentDownstreamCaps
  simp

theorem Inv.clientMessage (h : Inv s) (id : Nat) (msg : Message) : Inv { s with
      arriving := s.arriving.map fun dc =>
        if dc.1 = id then (id,after (Capabilities.handleCap env.lib env.downstream msg) dc.2) else dc
      clients := s.clients.map fun dc =>
        if dc.id = id then { dc with conn := after (Capabilities.handleCap env.lib env.downstream msg) dc.conn } else dc } := by
  refine ⟨fun dc hdc => ?_,fun dc hdc => ?_,h.current,h.configured⟩
  · obtain ⟨dc₀,hdc₀,rfl⟩ := List.mem_map.mp hdc
    split
    · exact (kept_handleCap (h.arriving dc₀ hdc₀) msg).sound
    · exact h.arriving dc₀ hdc₀
  · obtain ⟨dc₀,hdc₀,rfl⟩ := List.mem_map.mp hdc
    obtain ⟨hr,hs,ho⟩ := h.clients dc₀ hdc₀
    split
    · have hkept : Kept dc₀.conn (after (Capabilities.handleCap env.lib env.downstream msg) dc₀.conn) :=
        kept_handleCap hs msg
      refine ⟨hkept.registered.trans hr,hkept.sound,fun uc huc kv hkv havail => ?_⟩
      exact ho uc huc kv hkv ((hkept.offered hr kv.1).symm.trans havail)
    · exact ⟨hr,hs,ho⟩

theorem Inv.welcome (h : Inv s) {id : Nat} (hdc : s.arriving.lookup id = some dc) (network : Option Nat) :
    Inv { s with
      arriving := s.arriving.filter fun dc => dc.1 != id
      clients := s.clients ++ [Capabilities.welcome env s id network dc] } := by
  refine ⟨fun dc' hdc' => h.arriving dc' (List.mem_filter.mp hdc').1,fun dc' hdc' => ?_,h.current,h.configured⟩
  rcases List.mem_append.mp hdc' with hold | hnew
  · exact h.clients dc' hold
  cases List.mem_singleton.mp hnew
  obtain ⟨before,rest,heq,-⟩ := List.lookup_eq_some_iff.mp hdc
  have hsound : Sound ({ dc with registered := true }).caps := h.arriving (id,dc) (by simp [heq])
  exact updateSupportedCaps_kept env.downstream (s.upstream network) env.upstream env.history network.isSome hsound

theorem Inv.dial (h : Inv s) (hnew : s.servers c = none) (hconf : Configured uc) : Inv (s.setServer c ⟨uc,r⟩) := by
  -- no network is on a connection that does not exist
  have hunused : ∀ r', s.network r' ≠ some c := by
    intro r' hr'
    obtain ⟨found,hfound,-⟩ := h.current r' c hr'
    exact nomatch hnew.symm.trans hfound
  refine ⟨h.arriving,fun dc hdc => ?_,fun r' c' hr' => ?_,h.setServer_configured hconf⟩
  · rw [upstream_setServer fun r' _ => hunused r']
    exact h.clients dc hdc
  · obtain ⟨found,hfound,hrest⟩ := h.current r' c' hr'
    have hne : c' ≠ c := fun heq => hunused r' (heq ▸ hr')
    exact ⟨found,(Function.update_of_ne hne ..).trans hfound,hrest⟩

theorem Inv.serverCap (h : Inv s) (hc : s.servers c = some server) (msg : Message) :
    Inv (handleServerCap env s c server msg) := by
  have hconf := h.configured c server hc
  have hmeets := serverCap_meets env hconf msg
  unfold Meets at hmeets
  unfold handleServerCap
  cases hr : Upstream.handleCap env.upstream msg server.conn with
  | error e uc =>
    rw [hr] at hmeets
    subst hmeets
    exact h.setServer hc rfl hconf id (.inl rfl)
  | ok u uc =>
    rw [hr] at hmeets
    obtain ⟨hsame,htold⟩ := hmeets
    have hreg : server.conn.registered = true → uc.registered = true := hsame.1.trans
    dsimp only
    split
    · exact h.tellClients hc rfl (hsame.configured hconf) hreg
    rename_i hnot
    refine h.setServer hc rfl (hsame.configured hconf) hreg ?_
    rcases htold with htold | henabled
    · rw [htold,Bool.not_eq_true,hsame.1] at hnot
      exact .inr hnot
    · exact .inl henabled

theorem handleWelcome_after (msg : Message) (uc : Upstream.Conn) :
    (after (Upstream.handleWelcome msg) uc).capsEnabled = uc.capsEnabled ∧
      (after (Upstream.handleWelcome msg) uc).saslMechanism = uc.saslMechanism ∧
      (uc.registered = true → (after (Upstream.handleWelcome msg) uc).registered = true) := by
  have hmeets : Meets (Upstream.handleWelcome msg) uc
      (fun _ uc' => uc'.capsEnabled = uc.capsEnabled ∧ uc'.saslMechanism = uc.saslMechanism ∧
        (uc.registered = true → uc'.registered = true)) fun _ uc' => uc' = uc := by
    refine Meets.bind (failIf_meets _ _ uc) ?_
    intro _ uc' heq
    subst heq
    exact ⟨rfl,rfl,fun _ => rfl⟩
  unfold after
  unfold Meets at hmeets
  split
  · rename_i hr
    rw [hr] at hmeets
    exact hmeets
  · rename_i hr
    rw [hr] at hmeets
    subst hmeets
    exact ⟨rfl,rfl,id⟩

theorem Inv.replace (h : Inv s) (hnew : s.network new = none) : Inv (replaceNetwork env s old new) := by
  -- clients are told that the old network has lost its connection, and the new one has none
  let t := if (s.network old).isSome then handleUpstreamDisconnected env s old else s
  have ht : Inv t ∧ t.network new = none := by
    unfold t
    split
    · refine ⟨h.setNetwork fun c' hc' => (nomatch hc'),?_⟩
      by_cases heq : new = old
      · subst heq
        exact Function.update_self ..
      · exact (Function.update_of_ne heq ..).trans hnew
    · exact ⟨h,hnew⟩
  refine ⟨ht.1.arriving,fun dc hdc => ?_,ht.1.current,ht.1.configured⟩
  obtain ⟨dc₀,hdc₀,rfl⟩ := List.mem_map.mp hdc
  obtain ⟨hr,hs,ho⟩ := ht.1.clients dc₀ hdc₀
  split
  · refine ⟨hr,hs,fun uc huc => ?_⟩
    have hnone : t.upstream (some new) = none := by simp [upstream,ht.2]
    exact nomatch hnone.symm.trans huc
  · exact ⟨hr,hs,ho⟩

theorem step_inv (h : Inv s) (ht : step env s e = some t) : Inv t := by
  cases e with
  | accept id =>
    dsimp only [step] at ht
    split at ht
    · cases ht
    cases ht
    refine ⟨fun dc hdc => ?_,h.clients,h.current,h.configured⟩
    rcases List.mem_append.mp hdc with hold | hnew
    · exact h.arriving dc hold
    · cases List.mem_singleton.mp hnew
      exact newDownstreamConn_sound env.downstream
  | clientMessage id msg =>
    cases ht
    exact h.clientMessage id msg
  | welcome id network =>
    obtain ⟨dc,hdc,rfl⟩ := map_eq_some_iff.mp ht
    exact h.welcome hdc network
  | clientGone id =>
    cases ht
    exact ⟨fun dc hdc => h.arriving dc (List.mem_filter.mp hdc).1,fun dc hdc => h.clients dc (List.mem_filter.mp hdc).1,
      h.current,h.configured⟩
  | dial c r uc =>
    dsimp only [step] at ht
    split at ht
    · rename_i hnew
      cases ht
      exact h.dial (isNone_iff_eq_none.mp hnew.1) hnew.2.2.2
    · cases ht
  | serverCap c msg =>
    obtain ⟨server,hc,rfl⟩ := map_eq_some_iff.mp ht
    exact h.serverCap hc msg
  | serverWelcome c msg =>
    obtain ⟨server,hc,rfl⟩ := map_eq_some_iff.mp ht
    obtain ⟨henabled,hmech,hreg⟩ := handleWelcome_after msg server.conn
    refine h.setServer hc rfl ?_ hreg (.inl henabled)
    unfold Configured
    rw [hmech]
    exact h.configured c server hc
  | connected c =>
    obtain ⟨server,hc,hserver⟩ := bind_eq_some_iff.mp ht
    split at hserver
    · rename_i hreg
      cases hserver
      refine h.setNetwork fun c' hc' => ?_
      cases hc'
      exact ⟨server,hc,rfl,hreg⟩
    · cases hserver
  | disconnected c =>
    obtain ⟨server,hc,rfl⟩ := map_eq_some_iff.mp ht
    exact h.setNetwork fun c' hc' => nomatch hc'
  | replace old new =>
    dsimp only [step] at ht
    split at ht
    · rename_i hnew
      cases ht
      exact h.replace (isNone_iff_eq_none.mp hnew)
    · cases ht

/-- A welcomed client has enabled only what is available to it and, of the capabilities that are passed
through, only what its upstream connection has enabled. -/
theorem passthrough_enabled_upstream (env : Capabilities.Env) {events : List Event}
    (hrun : run (step env) State.start events = some s) {dc : Client} (hdc : dc ∈ s.clients) :
    (∀ name, dc.conn.caps.isEnabled name = true → dc.conn.caps.isAvailable name = true) ∧
      ∀ uc, s.upstream dc.network = some uc → ∀ kv ∈ passthroughDownstreamCaps,
        dc.conn.caps.isEnabled kv.1 = true → uc.capsEnabled.contains kv.1 = true := by
  have hinv : Inv s := run_invariant Inv start_inv (fun _ _ _ h ht => step_inv h ht) hrun
  obtain ⟨-,hsound,hoff⟩ := hinv.clients dc hdc
  exact ⟨hsound.available,fun uc huc kv hkv henabled => hoff uc huc kv hkv (hsound.available kv.1 henabled)⟩

end State

section Sample

def sampleEnv : Capabilities.Env :=
  ⟨Authenticate.plainLibrary,Authenticate.onePassword,Negotiation.plainEnv.upstream,false⟩

/-- A client enables two capabilities before it is bound to a network, and the server has one of them. -/
def away : List Event :=
  [.accept 1,.clientMessage 1 (message "CAP" ["LS","302"]),
    .clientMessage 1 (message "CAP" ["REQ","away-notify chghost"]),.dial 0 7 (Negotiation.bob ""),
    .serverCap 0 (message "CAP" ["*","LS","away-notify"]),.serverCap 0 (message "CAP" ["*","ACK","away-notify"]),
    .serverWelcome 0 (message "001" ["bob"]),.connected 0,.welcome 1 (some 7)]

theorem passthrough_enabled_away : ∃ s, run (step sampleEnv) State.start away = some s ∧ ∃ dc ∈ s.clients,
      dc.conn.caps.enabled = ["away-notify","cap-notify"] ∧
      (∀ name, dc.conn.caps.isEnabled name = true → dc.conn.caps.isAvailable name = true) ∧
      ∀ uc, s.upstream dc.network = some uc → ∀ kv ∈ passthroughDownstreamCaps,
        dc.conn.caps.isEnabled kv.1 = true → uc.capsEnabled.contains kv.1 = true := by
  have hrun : (run (step sampleEnv) State.start away).any
      (fun s => s.clients.any fun dc => dc.conn.caps.enabled == ["away-notify","cap-notify"]) = true := by
    decide +kernel
  obtain ⟨s,hs,hany⟩ := (any_eq_true _ _).mp hrun
  obtain ⟨dc,hdc,henabled⟩ := List.any_eq_true.mp hany
  exact ⟨s,hs,dc,hdc,beq_iff_eq.mp henabled,passthrough_enabled_upstream sampleEnv hs hdc⟩

end Sample

end Sake.Proofs.Capabilities
