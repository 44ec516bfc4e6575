import Sake.Proofs.ServiceOps

namespace Sake.Proofs.ClientCerts
open Lib.Handler Lib.Runs Networks Goroutine Sake.Service UserNetworks ServiceOps

variable {user : Database.User} {record : Network} {env : Env} {s : State}

/-- A network that logs in with SASL EXTERNAL has a certificate to do so. -/
def HasCert (user : Database.User) (record : Network) : Prop :=
  record.sasl.mechanism = .external → clientCert user record ≠ []

def Certified (s : State) : Prop := ∀ r ∈ s.networks, HasCert s.user (s.heap r).record

/-- The network uses its own certificate if it logs in with one. -/
def OwnCert (record : Network) : Prop := record.sasl.mechanism = .external → record.sasl.externalCert ≠ []

theorem clientCert_ne : clientCert user record ≠ [] ↔
    record.sasl.externalCert ≠ [] ∨ (record.noDefaultCert = false ∧ user.saslExternalCert ≠ []) := by
  unfold clientCert
  split
  · rename_i h
    exact ⟨fun _ => .inl h,fun _ => h⟩
  · rename_i h
    cases record.noDefaultCert <;> by_cases hu : user.saslExternalCert = [] <;> simp [h]

theorem OwnCert.hasCert (h : OwnCert record) : HasCert user record := fun he => clientCert_ne.mpr (.inl (h he))

section Updates
theorem HasCert.mono (h : HasCert user record) (hu : user'.saslExternalCert ≠ []) : HasCert user' record :=
  fun he => clientCert_ne.mpr ((clientCert_ne.mp (h he)).imp id fun ⟨hn,_⟩ => ⟨hn,hu⟩)

theorem HasCert.of_user (h : HasCert user record)
    (hu : user'.saslExternalCert = user.saslExternalCert) : HasCert user' record := by
  intro he
  rw [clientCert_ne,hu]
  exact clientCert_ne.mp (h he)

theorem apply_externalCert {fs : UserUpdateFlags}
    (h : fs.apply env ctx user = .ok user') : user'.saslExternalCert = user.saslExternalCert := by
  unfold UserUpdateFlags.apply at h
  split at h
  · cases h
  · cases h
    rfl

theorem HasCert.apply (env : Env) {fs : NetworkFlags} (h : HasCert user record)
    (hfs : fs.defaultCert = some false → OwnCert record) : HasCert user (fs.apply env record) := by
  intro he
  rw [clientCert_ne]
  rcases clientCert_ne.mp (h he) with hown | ⟨hn,hu⟩
  · exact .inl hown
  cases hd : fs.defaultCert with
  | none => exact .inr ⟨by simp [NetworkFlags.apply,hd,hn],hu⟩
  | some b =>
    cases b with
    | true => exact .inr ⟨by simp [NetworkFlags.apply,hd],hu⟩
    | false => exact .inl (hfs hd he)

theorem SASLEdit.hasCert (h : SASLEdit user record edit) : HasCert user (edit record) := by
  cases h with
  | setCert cert key hc => exact fun _ => clientCert_ne.mpr (.inl hc)
  | removeCert =>
    unfold removeCert
    dsimp only
    split
    · exact fun he => nomatch he
    · rename_i hn
      exact fun he hc => hn ⟨he,hc⟩
  | setPlain username password | resetSASL => exact fun he => nomatch he
  | setExternal hc => exact fun _ => clientCert_ne.mpr (clientCert_ne.mp hc)

end Updates

section Operations

theorem mutateNetwork_certified (r : Nat)
    (hf : r ∈ s.networks → HasCert s.user (f (s.heap r).record)) (hs : Certified s) :
    Lands Certified (mutateNetwork r f) s := by
  have hset : Certified (s.setRecord r f) := by
    intro x hx
    rw [setRecord_record]
    split
    · rename_i hxr
      exact hf (hxr ▸ hx)
    · exact hs x hx
  rcases mutateNetwork_cases r f s with ⟨e,answers,he⟩ | ⟨newID,answers,db,id,-,hok⟩
  · exact safe_of_error he hset
  · exact safe_of_ok hok hset

/-- The networks that are updated with the user are those there were. -/
theorem updateUser_certified
    (hup : ∀ user, update s.user = .ok user → ∀ r ∈ s.networks, HasCert user (s.heap r).record) (hs : Certified s) :
    Lands Certified (updateUser env update) s := by
  rcases updateUser_cases env update s with ⟨e,t,he,ht⟩ | ⟨user,newID,answers,db,id,hu,-,hrest⟩
  · exact safe_of_error he (Each.refused hs ht)
  refine (hrest (fun t => t.user = user ∧ Certified t) ?_ ⟨rfl,hup user hu⟩).mono fun _ => And.right
  refine ⟨fun _ _ h => h,fun _ h => h,?_⟩
  intro record hrec t ht
  obtain ⟨r,hr,rfl⟩ := List.mem_map.mp hrec
  have hcert : HasCert t.user (s.heap r).record := ht.1 ▸ hup user hu r hr
  exact ((updateNetwork_user _ _ t).mono fun _ h => h.trans ht.1).and (updateNetwork_each ht.2 _ fun _ => hcert)

end Operations

section Commands
/-- No certificate is taken from a network that needs it. -/
def Spares (s : State) : Op → Prop
  | .updateNetwork _ record _ => HasCert s.user record
  | .updateUser update => ∀ user, update s.user = .ok user → ∀ r ∈ s.networks, HasCert user (s.heap r).record
  | _ => True

theorem certified_indifferent : Indifferent Certified where
  channels {r s t} h hs x hx := by
    rw [h.networks] at hx
    rw [h.user,h.record]
    exact hs x hx
  rows {s t} h hs x hx := by
    rw [h.networks] at hx
    rw [h.user,h.heap]
    exact hs x hx

theorem exec_certified (hall : op.Allowed env ctx s) (hop : Spares s op)
    (hs : Certified s) : Lands Certified (op.exec env ctx) s := by
  refine certified_indifferent.exec hall hs ?_ ?_ (fun id _ => deleteNetwork_each hs id) ?_ ?_
  · rintro record lim rfl
    obtain ⟨fs,addr,-,rfl,-,-⟩ := hall
    have hmech : (fs.apply env (newNetwork addr)).sasl.mechanism = .none := rfl
    exact createNetwork_each hs lim fun _ _ he => nomatch hmech.symm.trans he
  · rintro r record lim rfl
    exact updateNetwork_each hs lim fun _ => hop
  · rintro update rfl
    exact updateUser_certified hop hs
  · rintro r edit rfl
    exact mutateNetwork_certified r (fun _ => SASLEdit.hasCert hall.2) hs

/-- The command does not remove the default certificate from under a network that logs in with it, nor
turn it off for one. -/
def KeepsCerts (s : State) (i : Invocation) : Prop :=
  (∀ params fs, Names i.ctx.admin s.user.username i.words .certFPRemove params →
    Lib.Flags.parse certFlagSet params {} = .ok (fs,[]) → fs.isDefault = true →
      ∀ r ∈ s.networks, OwnCert (s.heap r).record) ∧
  ∀ params fs r, Names i.ctx.admin s.user.username i.words .networkUpdate params →
    Lib.Flags.parse networkFlagSet (popArg params).2 {} = .ok (fs,[]) → Picks i.ctx s (popArg params).1 r →
      fs.defaultCert = some false → OwnCert (s.heap r).record

theorem named_spares (hop : Service.Named env i.ctx s i.words op) (hg : KeepsCerts s i)
    (hctx : i.ctx.network.all (· ∈ s.networks) = true) (hs : Certified s) : Spares s op := by
  obtain ⟨command,params,hn,hof⟩ := hop
  cases op with
  | updateNetwork r record lim =>
    obtain ⟨rfl,fs,hfs,hr,rfl⟩ := of_updateNetwork hof
    have hlisted : r ∈ s.networks := selected_listed (Service.Picks.selected hr) hctx
    exact (hs r hlisted).apply env (hg.2 params fs r hn hfs hr)
  | updateUser update =>
    rcases of_updateUser hof with ⟨cert,key,hne,rfl⟩ | ⟨rfl,rfl,fs,hfs,hd⟩ | ⟨fs,rfl⟩
    · rintro user ⟨⟩ r hr
      exact (hs r hr).mono hne
    · rintro user ⟨⟩ r hr
      exact (hg.1 params fs hn hfs hd r hr).hasCert
    · intro user hu r hr
      exact (hs r hr).of_user (apply_externalCert hu)
  | _ => trivial

theorem serviceStep_certified (hs : Certified s) (hg : KeepsCerts s i)
    (ht : serviceStep env s i = some t) : Certified t := by
  refine serviceStep_safe ht fun hctx => ?_
  refine handleServiceCommand_safe (fun _ _ h => h) fun op es hnamed hall => exec_certified hall ?_ hs
  rcases hnamed with ⟨m,rfl⟩ | hnamed
  · trivial
  · exact named_spares hnamed hg hctx hs

/-- Starting from a state in which every network that logs in with SASL EXTERNAL has a certificate, so does
every state that commands lead to which do not take it away. -/
theorem certified_of_keepsCerts (env : Env) (s : State) (commands : List Invocation) (hs : Certified s)
    (hg : AllSteps (serviceStep env) KeepsCerts s commands) : AllStates (serviceStep env) Certified s commands :=
  AllStates.of_steps Certified hs (fun _ h => h) (fun _ _ _ h hg ht => serviceStep_certified h hg ht) hg

end Commands

section Sample

instance (user : Database.User) (record : Network) : Decidable (HasCert user record) :=
  inferInstanceAs (Decidable (_ → _))

instance (s : State) : Decidable (Certified s) := inferInstanceAs (Decidable (∀ r ∈ s.networks, _))

/-- A user with a default certificate, and a network that logs in with SASL EXTERNAL. -/
def jane : Database.User :=
  { Database.newUser "jane" with id := 1, nick := "jane", saslExternalCert := [1], saslExternalKey := [1] }

def janeNetwork (cert : List UInt8) : Network :=
  { newNetwork "irc.example.org" with id := 1, sasl := ⟨.external,"","",cert,cert⟩ }

def janeDB (cert : List UInt8) : DB where
  users := .single jane (by decide)
  networks := .single ⟨1,janeNetwork cert⟩ Int.one_pos
  channels := .empty
  ignores := .empty
  certs := .empty

def janeState (cert : List UInt8) : State := State.load jane (janeDB cert) [⟨none,0⟩,⟨none,0⟩] []

def janeRuns (words : List String) : Invocation := ⟨⟨"jane",none,false,none,"",0⟩,words⟩

def removeDefault : Invocation := janeRuns ["certfp","remove","-default"]

def turnDefaultOff : Invocation := janeRuns ["network","update","irc.example.org","-default-cert","false"]

/-- Neither command looks at the networks that use the default certificate. -/
theorem certified_not_kept : Certified (janeState []) ∧
    ¬ AllStates (serviceStep Env.sample) Certified (janeState []) [removeDefault] ∧
    ¬ AllStates (serviceStep Env.sample) Certified (janeState []) [turnDefaultOff] :=
  ⟨by decide,not_allStates_of_run (fun _ => decide_eq_true) (by decide),
    not_allStates_of_run (fun _ => decide_eq_true) (by decide)⟩

/-- With certificates of their own, networks stand both commands. -/
theorem own_keepsCerts (hctx : i.ctx.network.all (· ∈ s.networks) = true)
    (h : ∀ r ∈ s.networks, OwnCert (s.heap r).record) : KeepsCerts s i :=
  ⟨fun _ _ _ _ _ r hr => h r hr,fun _ _ r _ _ hr _ => h r (selected_listed (Service.Picks.selected hr) hctx)⟩

instance (record : Network) : Decidable (OwnCert record) := inferInstanceAs (Decidable (_ → _))

def ownCerts (s : State) : Bool := s.networks.all fun r => OwnCert (s.heap r).record

theorem certified_of_keepsCerts_jane :
    (run (serviceStep Env.sample) (janeState [2]) [removeDefault,turnDefaultOff]).isSome = true ∧
      AllStates (serviceStep Env.sample) Certified (janeState [2]) [removeDefault,turnDefaultOff] := by
  have first : ownCerts (janeState [2]) = true := by decide
  have second : (serviceStep Env.sample (janeState [2]) removeDefault).all ownCerts = true := by decide
  refine ⟨by decide,certified_of_keepsCerts Env.sample (janeState [2]) _ (by decide) ?_⟩
  refine ⟨own_keepsCerts rfl (by simpa [ownCerts] using first),fun t ht => ⟨own_keepsCerts rfl ?_,fun _ _ => trivial⟩⟩
  rw [ht] at second
  simpa [ownCerts] using second

end Sample

end Sake.Proofs.ClientCerts
