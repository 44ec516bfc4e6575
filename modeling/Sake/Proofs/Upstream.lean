import Sake.HandleMessage
import Sake.Lib.Handler

namespace Sake.Proofs.Upstream
open Sake.Upstream Lib.Handler List

variable {users : CasedMap User} {nick : String} {uc : Conn} {α : Type}

/-- Errors are fine, panics are not. -/
def NoPanic (f : Fault) : Prop := ∀ what, f ≠ .panic what

/-- No user is filed under the empty nick. -/
def UsersNamed (users : CasedMap User) : Prop := ∀ e ∈ users.map.entries, e.1 ≠ ""

structure Invariant (uc : Conn) : Prop where
  nick : uc.nick ≠ ""
  users : UsersNamed uc.users
  timer : uc.gotMotd = false → uc.regainNickTimer = false ∧ uc.regainNickBackoff = false

section Maps
variable {V : Type} {m : CasedMap V} {name : String} {e : String × V}

theorem apply_ne_empty (cm : CaseMapping) (h : s ≠ "") : cm.apply s ≠ "" := by
  intro he
  apply h
  have hl : (s.toList.map cm.mapChar) = [] := by
    have := congrArg String.toList he
    simpa [CaseMapping.apply] using this
  exact String.toList_inj.mp (by simpa using hl)

theorem mem_set (h : e ∈ (m.set name v).map.entries) : (∃ f ∈ m.map.entries, f.1 = e.1) ∨ e.1 = name := by
  unfold CasedMap.set CaseMappingMap.set at h
  split at h
  · obtain ⟨f,hf,rfl⟩ := mem_map.mp h
    left
    refine ⟨f,hf,?_⟩
    split <;> rfl
  · rcases mem_append.mp h with hold | hnew
    · exact .inl ⟨e,hold,rfl⟩
    · cases mem_singleton.mp hnew
      exact .inr rfl

theorem mem_setCaseMapping (h : e ∈ (m.setCaseMapping cm).map.entries) : e ∈ m.map.entries := by
  have hfold : ∀ (es acc : List (String × V)),
      e ∈ es.foldl (fun es e => es.filter (fun f => cm.apply f.1 != cm.apply e.1) ++ [e]) acc → e ∈ acc ∨ e ∈ es := by
    intro es
    induction es with
    | nil => exact fun acc hacc => .inl hacc
    | cons x xs ih =>
      intro acc hmem
      rcases ih _ hmem with hacc | hxs
      · rcases mem_append.mp hacc with hold | hnew
        · exact .inl (mem_filter.mp hold).1
        · exact .inr (mem_singleton.mp hnew ▸ mem_cons_self)
      · exact .inr (mem_cons_of_mem _ hxs)
  rcases hfold _ _ h with hnil | hmem
  · cases hnil
  · exact hmem

section
variable (h : UsersNamed users)
include h

theorem UsersNamed.del (nick : String) : UsersNamed (users.del nick) := fun e he => h e (mem_filter.mp he).1

theorem UsersNamed.set (hn : nick ≠ "") (uu : User) : UsersNamed (users.set nick uu) := by
  intro e he
  rcases mem_set he with ⟨f,hf,hname⟩ | hname
  · exact hname ▸ h f hf
  · exact hname ▸ hn

theorem UsersNamed.setCaseMapping (cm : CaseMapping) : UsersNamed (users.setCaseMapping cm) :=
  fun e he => h e (mem_setCaseMapping he)

theorem UsersNamed.name_of_get (hg : users.get nick = some uu) : nick ≠ "" := by
  intro hn
  obtain ⟨e,he,-⟩ := Option.map_eq_some_iff.mp hg
  have hk := CaseMappingMap.key_of_find he
  apply apply_ne_empty users.casemap (h e (mem_of_find?_eq_some he))
  rw [hk,hn]
  rfl

theorem UsersNamed.update (hn : nick ≠ "") (info : User) : UsersNamed (updateUsers users nick info) := by
  unfold updateUsers
  split
  · split
    · rename_i hi
      exact h.set hi _
    · exact h.set hn _
  · split
    · rename_i hi
      apply (h.del nick).set
      simp only [User.updateFrom,if_pos hi.1]
      exact hi.1
    · exact h.set hn _

end

end Maps

section Conns

theorem Invariant.withUsers (h : Invariant uc) (hu : UsersNamed users) :
    Invariant { uc with users } := ⟨h.nick,hu,h.timer⟩

theorem Invariant.forgetUser (h : Invariant uc) (nick : String) : Invariant (uc.forgetUser nick) := by
  unfold Conn.forgetUser
  split
  · exact h
  · exact h.withUsers (h.users.del nick)

theorem Invariant.foldl (hf : ∀ uc a, Invariant uc → Invariant (f uc a))
    (as : List α) (h : Invariant uc) : Invariant (as.foldl f uc) := by
  induction as generalizing uc with
  | nil => exact h
  | cons a as ih => exact ih (hf uc a h)

section
variable (h : Invariant uc)
include h

theorem Invariant.leftChannel (name : String) : Invariant (uc.leftChannel name) := by
  unfold Conn.leftChannel
  split
  · exact h
  · apply Invariant.foldl fun _ nick huc => huc.forgetUser nick
    exact ⟨h.nick,h.users,h.timer⟩

theorem Invariant.unmonitor (target : String) : Invariant (uc.unmonitor target) := by
  apply Invariant.forgetUser
  exact ⟨h.nick,h.users,h.timer⟩

theorem Invariant.updateMonitor : Invariant uc.updateMonitor := by
  unfold Conn.updateMonitor
  split
  · exact Invariant.foldl (fun _ target huc => huc.unmonitor target) _ h
  · exact h

theorem Invariant.updateCasemapping (cm : CaseMapping) : Invariant (uc.updateCasemapping cm) := by
  unfold Conn.updateCasemapping
  split
  · exact ⟨h.nick,h.users.setCaseMapping cm,h.timer⟩
  · exact ⟨h.nick,h.users,h.timer⟩

theorem Invariant.stopRegainNickTimer : Invariant uc.stopRegainNickTimer := ⟨h.nick,h.users,fun _ => ⟨rfl,rfl⟩⟩

theorem Invariant.renamed (hn : newNick ≠ "") : Invariant (uc.renamed newNick) := by
  refine ⟨hn,h.users,?_⟩
  intro hm
  obtain ⟨ht,hb⟩ := h.timer hm
  simp [Conn.renamed,ht,hb]

theorem Invariant.tryRegainNick (nick : String) : Invariant (uc.tryRegainNick nick) := by
  unfold Conn.tryRegainNick
  split_ifs
  · exact h
  · exact h.stopRegainNickTimer
  · exact h
  · exact ⟨h.nick,h.users,h.timer⟩

theorem Invariant.handleSupportedCaps (env : Env) (caps : String) : Invariant (handleSupportedCaps env uc caps) :=
  Invariant.foldl (f := addSupportedCap env) (fun _ _ huc => ⟨huc.nick,huc.users,huc.timer⟩) _ h

end

end Conns

/-- What the invariant is about. -/
def core (uc : Conn) : String × CasedMap User × Bool × Bool × Bool :=
  (uc.nick,uc.users,uc.gotMotd,uc.regainNickTimer,uc.regainNickBackoff)

theorem core_updateCasemapping (uc : Conn) (cm : CaseMapping) :
    (uc.updateCasemapping cm).regainNickTimer = uc.regainNickTimer ∧
      (uc.updateCasemapping cm).regainNickBackoff = uc.regainNickBackoff := by
  unfold Conn.updateCasemapping
  split <;> exact ⟨rfl,rfl⟩

theorem Invariant.afterMotd (h : Invariant uc) : Invariant uc.afterMotd ∧ uc.afterMotd.gotMotd = true ∧
      uc.afterMotd.regainNickTimer = uc.regainNickTimer ∧
      uc.afterMotd.regainNickBackoff = uc.regainNickBackoff := by
  have hm : ∀ uc', Invariant uc' → Invariant { uc' with gotMotd := true } := fun uc' h' => ⟨h'.nick,h'.users,by nofun⟩
  simp only [Conn.afterMotd]
  split
  · exact ⟨hm uc h,trivial,rfl,rfl⟩
  · obtain ⟨ht,hb⟩ := core_updateCasemapping uc .rfc1459
    exact ⟨hm _ (h.updateCasemapping .rfc1459),trivial,ht,hb⟩

/-- Once the message of the day was there, the timer may run. -/
theorem Invariant.withTimer (h : Invariant uc) (hm : uc.gotMotd = true) (timer backoff : Bool) :
    Invariant { uc with regainNickTimer := timer, regainNickBackoff := backoff } :=
  ⟨h.nick,h.users,fun hf => by rw [hm] at hf; cases hf⟩

/-- A handler that keeps the invariant and never panics. -/
abbrev Fine {α : Type} (m : Handler α) : Prop := Keeps Invariant NoPanic m

section Rules
variable {f : Conn → Conn}

theorem fine_fail (e : HandleError) : Fine (fail e : Handler α) := Keeps.throw fun _ h => by cases h

theorem fine_failIf (c : Prop) [Decidable c] (e : HandleError) : Fine (failIf c e) :=
  Keeps.ite (fun _ => fine_fail e) fun _ => Keeps.pure _

theorem fine_needParams (msg : Message) (n : Nat) : Fine (needParams msg n) := fine_failIf _ _

theorem safe_needParams_bind {f : Unit → Handler β}
    (h : Invariant uc) (hf : n ≤ msg.params.length → Safe Invariant NoPanic (f ()) uc) :
    Safe Invariant NoPanic (needParams msg n >>= f) uc := by
  by_cases hc : msg.params.length < n
  · simp only [needParams,failIf,if_pos hc]
    exact ⟨h,fun _ he => by cases he⟩
  · simp only [needParams,failIf,if_neg hc]
    exact hf (not_lt.mp hc)

/-- A change that leaves alone what the invariant is about. -/
theorem fine_frame (hf : ∀ uc, core (f uc) = core uc) : Fine (modify f : Handler PUnit) := by
  apply Keeps.modify
  intro uc h
  have hc := hf uc
  simp only [core,Prod.mk.injEq] at hc
  obtain ⟨hnick,husers,hmotd,htimer,hbackoff⟩ := hc
  refine ⟨?_,?_,?_⟩
  · rw [hnick]
    exact h.nick
  · rw [husers]
    exact h.users
  · rw [hmotd,htimer,hbackoff]
    exact h.timer

theorem fine_params_frame (msg : Message) (n : Nat)
    (hf : ∀ uc, core (f uc) = core uc) : Fine (needParams msg n >>= fun _ => modify f) :=
  Keeps.bind (fine_needParams msg n) fun _ => fine_frame hf

theorem fine_setChannel (ch : Channel) (name : String) :
    Fine (modify fun uc => uc.setChannel ch name : Handler PUnit) :=
  fine_frame fun _ => rfl

theorem fine_getChannel (name : String) : Fine (getChannel name) := by
  apply Keeps.get_bind
  intro uc _
  split
  · exact fine_fail _
  · exact Keeps.pure _

theorem fine_dequeueCommand (cmd : String) : Fine (dequeueCommand cmd) := by
  apply Keeps.get_bind
  intro uc _
  apply Keeps.bind
  · exact fine_frame fun _ => rfl
  · intro _
    exact Keeps.pure _

theorem fine_cacheUserInfo (hn : nick ≠ "") (info : User) : Fine (cacheUserInfo nick info) := by
  unfold cacheUserInfo panicIf
  rw [if_neg hn]
  apply Keeps.modify
  intro uc h
  exact h.withUsers (h.users.update hn info)

end Rules

end Sake.Proofs.Upstream
