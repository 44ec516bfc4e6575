import Sake.Login

namespace Sake.Proofs.Login
open Sake.Lib Sake.Database Sake.Login List

variable {row : Copy} {b : Bcrypt} {user : User} {salt : Nat}

theorem value_storeUser (f : Field) (row user : User) : f.value (storeUser row user) = f.value user := by
  cases f <;> rfl

theorem value_of_ne {f : Field} (hf : f ≠ .password) (u : User) (h : String) :
    f.value { u with password := h } = f.value u := by
  cases f <;> first | rfl | exact absurd rfl hf

theorem older_self (a : Age) : a.older a = false := by simp [Age.older]

theorem regresses_eq_false {c : Copy} (h : ∀ f, (c.age f).older (row.age f) = false ∨
    f.value c.user = f.value row.user) : c.regresses row = false := by
  rw [Copy.regresses,any_eq_false]
  intro f _
  rcases h f with h | h <;> simp [h]

/-- The hash is due for an upgrade. -/
def low (b : Bcrypt) (hash : String) : Bool := (b.cost hash).any (· < defaultCost)

theorem upgrades_eq (b : Bcrypt) (a : Attempt) : a.upgrades b =
    (a.upgraded || b.compareHashAndPassword a.copy.user.password a.password && low b a.copy.user.password) := rfl

theorem checkPassword_upgraded (h : checkPassword b u password salt = .ok (user,true)) :
    b.compareHashAndPassword u.password password = true ∧ low b u.password = true ∧
      ∃ hash, user = { u with password := hash } ∧ low b hash = false := by
  simp only [checkPassword] at h
  split at h
  · cases h
  split at h
  · cases h
  case isFalse _ hcompare =>
    cases hcost : b.cost u.password with
    | none => simp [hcost] at h
    | some cost =>
      rw [hcost] at h
      by_cases hlow : cost < defaultCost
      · simp only [hlow,if_true,setPassword] at h
        cases hgen : b.generateFromPassword password salt with
        | none => simp [hgen] at h
        | some hash =>
          simp only [hgen,Except.ok.injEq,Prod.mk.injEq,and_true] at h
          refine ⟨by simpa using hcompare,by simp [low,hcost,hlow],hash,h.symm,?_⟩
          simp [low,b.cost_generated _ _ _ hgen]
      · simp [hlow] at h

/-- The copy of a login that is going to store it: as new as the row, its hash the same or one
rehash ahead. -/
structure Fresh (b : Bcrypt) (row : Copy) (a : Attempt) : Prop where
  age : ∀ f, f ≠ .password → a.copy.age f = row.age f
  value : ∀ f : Field, f ≠ .password → f.value a.copy.user = f.value row.user
  update : (a.copy.age .password).update = (row.age .password).update
  rehash : (a.copy.age .password).rehash = if a.upgraded then 1 else 0
  notLow : a.upgraded = true → low b a.copy.user.password = false

/-- Once rehashed, a password is not rehashed again. -/
def Settled (b : Bcrypt) (c : Copy) : Prop :=
  (c.age .password).rehash = 0 ∨ (c.age .password).rehash = 1 ∧ low b c.user.password = false

structure Invariant (b : Bcrypt) (s : State) : Prop where
  calm : s.regressed = false
  age : ∀ f, f ≠ .password → s.memory.age f = s.row.age f
  value : ∀ f : Field, f ≠ .password → f.value s.memory.user = f.value s.row.user
  update : (s.memory.age .password).update = (s.row.age .password).update
  past : ∀ f, (s.row.age f).update ≤ s.updates
  row : Settled b s.row
  memory : Settled b s.memory
  fresh : ∀ a ∈ s.attempts, a.upgrades b = true → Fresh b s.row a

section
variable {s : State} {a : Attempt} {login : Nat}

theorem start_invariant (user : User) : Invariant b (start user) where
  calm := rfl
  age _ _ := rfl
  value _ _ := rfl
  update := rfl
  past _ := Nat.le_refl 0
  row := .inl rfl
  memory := .inl rfl
  fresh _ ha := absurd ha not_mem_nil

theorem attempt_mem (h : s.attempt login = some a) : a ∈ s.attempts := mem_of_find?_eq_some h

/-- Only the logins differ, and those that are left are fresh. -/
theorem Invariant.withAttempts (h : Invariant b s)
    (hf : ∀ a ∈ attempts, a.upgrades b = true → Fresh b s.row a) : Invariant b { s with attempts := attempts } :=
  ⟨h.calm,h.age,h.value,h.update,h.past,h.row,h.memory,hf⟩

theorem Invariant.drop (h : Invariant b s) (login : Nat) : Invariant b (s.drop login) :=
  h.withAttempts fun a ha => h.fresh a (mem_filter.mp ha).1

theorem read_invariant (h : Invariant b s) (login : Nat) (password : String) :
    Invariant b { s with attempts := s.attempts ++ [⟨login,password,s.row,false⟩] } := by
  refine h.withAttempts fun a ha hu => ?_
  rcases mem_append.mp ha with ha | ha
  · exact h.fresh a ha hu
  cases mem_singleton.mp ha
  refine ⟨fun _ _ => rfl,fun _ _ => rfl,rfl,?_,fun hup => absurd hup (by simp)⟩
  -- a rehashed row is not rehashed again, so the login would not upgrade it
  rw [upgrades_eq,Bool.false_or,Bool.and_eq_true] at hu
  refine h.row.resolve_right fun hr => ?_
  rw [hr.2] at hu
  cases hu.2

theorem check_invariant (h : Invariant b s) (ha : s.attempt login = some a)
    (hup : a.upgraded = false) (hc : checkPassword b a.copy.user a.password salt = .ok (user,true)) :
    Invariant b { s.drop login with
      attempts := (s.drop login).attempts ++ [{ a with copy := a.copy.rehashed user, upgraded := true }] } := by
  obtain ⟨hcompare,hlow,hash,rfl,hnew⟩ := checkPassword_upgraded hc
  have hfresh : Fresh b s.row a := by
    refine h.fresh a (attempt_mem ha) ?_
    rw [upgrades_eq,hcompare,hlow,Bool.and_true,Bool.or_true]
  refine (h.drop login).withAttempts fun a' ha' hu => ?_
  rcases mem_append.mp ha' with ha' | ha'
  · exact (h.drop login).fresh a' ha' hu
  cases mem_singleton.mp ha'
  have hrehash := hfresh.rehash
  rw [hup] at hrehash
  refine ⟨fun f hf => ?_,fun f hf => ?_,hfresh.update,?_,fun _ => hnew⟩
  · simp only [Copy.rehashed,hf]
    exact hfresh.age f hf
  · exact (value_of_ne hf _ _).trans (hfresh.value f hf)
  · simp [Copy.rehashed,hrehash]

theorem Fresh.not_regresses (hr : Settled b row) (h : Fresh b row a)
    (hup : a.upgraded = true) : a.copy.regresses row = false := by
  refine regresses_eq_false fun f => .inl ?_
  by_cases hf : f = .password
  · subst hf
    have hrehash := h.rehash
    rw [hup] at hrehash
    have hle : (row.age .password).rehash ≤ 1 := by
      rcases hr with hr | hr <;> omega
    simp [Age.older,h.update,hrehash,hle]
  · rw [h.age f hf,older_self]

theorem store_invariant (h : Invariant b s) (ha : s.attempt login = some a) (hup : a.upgraded = true) :
    Invariant b ((s.drop login).write a.copy) := by
  have hfresh : Fresh b s.row a := h.fresh a (attempt_mem ha) (by rw [upgrades_eq,hup,Bool.true_or])
  have hrehash := hfresh.rehash
  rw [hup] at hrehash
  have hvalue : ∀ f : Field, f ≠ .password → f.value (storeUser s.row.user a.copy.user) = f.value s.row.user := by
    intro f hf
    rw [value_storeUser,hfresh.value f hf]
  refine ⟨?_,fun f hf => ?_,fun f hf => ?_,?_,fun f => ?_,?_,h.memory,fun a' ha' hu => ?_⟩
  · change (s.regressed || a.copy.regresses s.row) = false
    rw [h.calm,hfresh.not_regresses h.row hup,Bool.false_or]
  · exact (h.age f hf).trans (hfresh.age f hf).symm
  · exact (h.value f hf).trans (hvalue f hf).symm
  · exact h.update.trans hfresh.update.symm
  · by_cases hf : f = .password
    · subst hf
      exact hfresh.update ▸ h.past .password
    · exact (hfresh.age f hf) ▸ h.past f
  · exact .inr ⟨hrehash,hfresh.notLow hup⟩
  · have hold := h.fresh a' (mem_filter.mp ha').1 hu
    exact ⟨fun f hf => (hold.age f hf).trans (hfresh.age f hf).symm,
      fun f hf => (hold.value f hf).trans (hvalue f hf).symm,
      hold.update.trans hfresh.update.symm,hold.rehash,hold.notLow⟩

theorem Invariant.memory_past (h : Invariant b s) (f : Field) : (s.memory.age f).update ≤ s.updates := by
  by_cases hf : f = .password
  · subst hf
    exact h.update ▸ h.past .password
  · exact h.age f hf ▸ h.past f

theorem updated_not_regresses (h : Invariant b s)
    (hp : record.password ≠ s.memory.user.password ∨ s.memory.user.password = s.row.user.password) :
    (s.memory.updated record (s.updates + 1)).regresses s.row = false := by
  refine regresses_eq_false fun f => ?_
  by_cases hsame : f.value record = f.value s.memory.user
  · by_cases hf : f = .password
    · subst hf
      have hpass : record.password = s.memory.user.password := by simpa [Field.value] using hsame
      refine .inr ?_
      simp [Copy.updated,Field.value,hpass,hp.resolve_left (not_not.mpr hpass)]
    · refine .inl ?_
      simp [Copy.updated,hsame,h.age f hf,older_self]
  · refine .inl ?_
    have := h.past f
    simp only [Copy.updated,hsame,if_false,Age.older]
    simp only [Bool.or_eq_false_iff,decide_eq_false_iff_not,Bool.and_eq_false_imp,decide_eq_true_eq]
    omega

theorem save_invariant (h : Invariant b s) (hlogins : ∀ a ∈ s.attempts, a.upgrades b = false)
    (hp : record.password ≠ s.memory.user.password ∨ s.memory.user.password = s.row.user.password) :
    Invariant b { s.write (s.memory.updated record (s.updates + 1)) with
      memory := s.memory.updated record (s.updates + 1), saving := none, updates := s.updates + 1 } := by
  have hsettled : Settled b (s.memory.updated record (s.updates + 1)) := by
    by_cases hsame : record.password = s.memory.user.password
    · have hage : (s.memory.updated record (s.updates + 1)).age .password = s.memory.age .password := by
        simp [Copy.updated,Field.value,hsame]
      refine h.memory.imp (fun hr => hage ▸ hr) fun hr => ⟨hage ▸ hr.1,?_⟩
      rw [← hr.2,← hsame]
      rfl
    · refine .inl ?_
      simp [Copy.updated,Field.value,hsame]
  refine ⟨?_,fun _ _ => rfl,fun f _ => ?_,rfl,fun f => ?_,hsettled,hsettled,fun a ha hu => ?_⟩
  · change (s.regressed || (s.memory.updated record (s.updates + 1)).regresses s.row) = false
    rw [h.calm,updated_not_regresses h hp,Bool.false_or]
  · exact (value_storeUser f _ _).symm
  · have := h.memory_past f
    change (if f.value record = f.value s.memory.user then s.memory.age f else ⟨s.updates + 1,0⟩).update ≤ _
    split
    · exact Nat.le_succ_of_le this
    · exact Nat.le_refl _
  · rw [hlogins a ha] at hu
    cases hu

theorem step_invariant (h : Invariant b s) (hg : Prudent b s act) (hs : step b s act = some t) : Invariant b t := by
  cases act with
  | read login password =>
    simp only [step] at hs
    cases ha : s.attempt login with
    | some a => simp [ha] at hs
    | none =>
      simp only [ha,Option.some.injEq] at hs
      exact hs ▸ read_invariant h login password
  | check login salt =>
    simp only [step] at hs
    cases ha : s.attempt login with
    | none => simp [ha] at hs
    | some a =>
      simp only [ha] at hs
      cases hup : a.upgraded with
      | true => simp [hup] at hs
      | false =>
        simp only [hup,Bool.false_eq_true,if_false] at hs
        split at hs
        · rename_i hc
          cases hs
          exact check_invariant h ha hup hc
        all_goals
          cases hs
          exact h.drop login
  | store login succeeds =>
    simp only [step] at hs
    cases ha : s.attempt login with
    | none => simp [ha] at hs
    | some a =>
      simp only [ha] at hs
      cases hup : a.upgraded with
      | false => simp [hup] at hs
      | true =>
        cases succeeds with
        | false =>
          simp only [hup,Bool.true_eq_false,Bool.false_eq_true,if_false,Option.some.injEq] at hs
          exact hs ▸ h.drop login
        | true =>
          simp only [hup,Bool.true_eq_false,if_false,if_true,Option.some.injEq] at hs
          exact hs ▸ store_invariant h ha hup
  | copy update =>
    simp only [step] at hs
    cases hsave : s.saving with
    | some record => simp [hsave] at hs
    | none =>
      simp only [hsave] at hs
      cases hu : update s.memory.user with
      | none =>
        simp only [hu,Option.some.injEq] at hs
        exact hs ▸ h
      | some record =>
        simp only [hu,Option.some.injEq] at hs
        subst hs
        exact ⟨h.calm,h.age,h.value,h.update,h.past,h.row,h.memory,h.fresh⟩
  | save succeeds =>
    obtain ⟨hlogins,hp⟩ := hg
    simp only [step] at hs
    cases hsave : s.saving with
    | none => simp [hsave] at hs
    | some record =>
      cases succeeds with
      | false =>
        simp only [hsave,Bool.false_eq_true,if_false,Option.some.injEq] at hs
        subst hs
        exact ⟨h.calm,h.age,h.value,h.update,h.past,h.row,h.memory,h.fresh⟩
      | true =>
        simp only [hsave,if_true,Option.some.injEq] at hs
        exact hs ▸ save_invariant h hlogins (hp record hsave)

end

theorem prudent_runs_never_regress (b : Bcrypt) (user : User) (acts : List Action)
    (hg : Runs.AllSteps (step b) (Prudent b) (start user) acts) :
    Runs.AllStates (step b) (fun s => s.regressed = false) (start user) acts :=
  Runs.AllStates.of_steps (Invariant b) (start_invariant user) (fun _ h => h.calm)
    (fun _ _ _ h hg hs => step_invariant h hg hs) hg

/-- Passwords in the clear after their cost, in the place of hashes. -/
def clearBcrypt : Bcrypt where
  compareHashAndPassword hash password := hash = "04$" ++ password || hash = "10$" ++ password
  cost hash :=
    match hash.toList with
    | '0' :: '4' :: _ => some 4
    | '1' :: '0' :: _ => some 10
    | _ => none
  generateFromPassword password _ := some ("10$" ++ password)
  cost_generated password salt hash h := by
    cases h
    simp [String.toList_append,defaultCost]

def alice : User := { newUser "alice" with id := 1, password := "04$old" }

/-- A password change after the login that upgraded the old hash. -/
theorem login_then_password_change : Runs.AllStates (step clearBcrypt) (fun s => s.regressed = false) (start alice)
      [.read 0 "old",.check 0 0,.store 0 true,.copy fun u => some { u with password := "10$new" },.save true] := by
  refine prudent_runs_never_regress clearBcrypt alice _ ?_
  refine .cons_some trivial rfl (.cons_some trivial rfl (.cons_some trivial rfl
    (.cons_some trivial rfl (.cons_some ⟨fun _ ha => absurd ha not_mem_nil,?_⟩ rfl trivial))))
  intro record hr
  cases hr
  exact .inl (by decide)

/-- A login that read the record before a password change puts the old password back, and an
update of the interaction time after a login puts the old hash back. -/
theorem login_and_update_undo_each_other : (Runs.run (step clearBcrypt) (start alice)
      [.read 0 "old",.copy fun u => some { u with password := "10$new" },.check 0 0,.save true]).map
        (fun s => (s.row.user.password,s.regressed)) = some ("10$new",false) ∧
    (Runs.run (step clearBcrypt) (start alice)
      [.read 0 "old",.copy fun u => some { u with password := "10$new" },.check 0 0,.save true,.store 0 true]).map
        (fun s => (s.row.user.password,s.regressed)) = some ("10$old",true) ∧
    (Runs.run (step clearBcrypt) (start alice) [.read 0 "old",.check 0 0,.store 0 true]).map
        (fun s => (s.row.user.password,s.regressed)) = some ("10$old",false) ∧
    (Runs.run (step clearBcrypt) (start alice) [.read 0 "old",.check 0 0,.store 0 true,
        .copy fun u => some { u with downstreamInteractedAt := 1 },.save true]).map
        (fun s => (s.row.user.password,s.regressed)) = some ("04$old",true) :=
  ⟨rfl,rfl,rfl,rfl⟩

end Sake.Proofs.Login
