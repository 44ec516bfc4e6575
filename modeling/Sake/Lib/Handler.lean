import Mathlib.Data.List.Basic

namespace Sake.Lib.Handler

variable {σ ε α β : Type} {s : σ} {a : α} {e : ε}

/-- Run from `s`, the code ends in a state that meets `inv`, whether it fails or not, and
if it fails then with an error that `ok` allows. -/
def Safe (inv : σ → Prop) (ok : ε → Prop) (m : EStateM ε σ α) (s : σ) : Prop :=
  match m s with
  | .ok _ t => inv t
  | .error e t => inv t ∧ ok e

/-- The code is safe from every state that meets the invariant. -/
def Keeps (inv : σ → Prop) (ok : ε → Prop) (m : EStateM ε σ α) : Prop :=
  ∀ s, inv s → Safe inv ok m s

/-- The code ends in a state that meets `inv`, whatever error it ends with. -/
abbrev Lands (inv : σ → Prop) (m : EStateM ε σ α) (s : σ) : Prop := Safe inv (fun _ => True) m s

abbrev Stays (inv : σ → Prop) (m : EStateM ε σ α) : Prop := Keeps inv (fun _ => True) m

/-- Run from `s`, the code ends as `post` says, or fails as `err` says. -/
def Meets (m : EStateM ε σ α) (s : σ) (post : α → σ → Prop) (err : ε → σ → Prop) : Prop :=
  match m s with
  | .ok a t => post a t
  | .error e t => err e t

section Meets
variable {post mid : α → σ → Prop} {post' : β → σ → Prop} {m : EStateM ε σ α}

theorem Meets.bind (hm : Meets m s mid err)
    (hf : ∀ a t, mid a t → Meets (f a) t post' err) : Meets (m >>= f) s post' err := by
  simp only [Meets,Bind.bind,EStateM.bind] at hm ⊢
  cases hr : m s with
  | ok a t =>
    rw [hr] at hm
    exact hf a t hm
  | error e t =>
    rw [hr] at hm
    exact hm

theorem Meets.mono (hm : Meets m s mid err') (hp : ∀ a t, mid a t → post a t)
    (he : ∀ e t, err' e t → err e t) : Meets m s post err := by
  simp only [Meets] at hm ⊢
  cases hr : m s with
  | ok a t =>
    rw [hr] at hm
    exact hp a t hm
  | error e t =>
    rw [hr] at hm
    exact he e t hm

theorem Meets.tryCatch {f : ε → EStateM ε σ α} (hm : Meets m s post err')
    (hf : ∀ e t, err' e t → Meets (f e) t post err) : Meets (tryCatch m f) s post err := by
  change match EStateM.tryCatch m f s with
    | .ok a t => post a t
    | .error e t => err e t
  simp only [Meets] at hm
  simp only [EStateM.tryCatch]
  cases hr : m s with
  | ok a t =>
    rw [hr] at hm
    exact hm
  | error e t =>
    rw [hr] at hm
    exact hf e t hm

theorem Meets.pure (h : post a s) : Meets (Pure.pure a : EStateM ε σ α) s post err := h

theorem Meets.throw (h : err e s) : Meets (throw e : EStateM ε σ α) s post err := h

theorem Meets.get_bind (h : Meets (f s) s post' err) : Meets (get >>= f) s post' err := h

theorem Meets.modify_bind {m : PUnit → EStateM ε σ β} (h : Meets (m ⟨⟩) (f s) post' err) :
    Meets (modify f >>= m) s post' err := h

end Meets

variable {m : EStateM ε σ α}

theorem Safe.modify_bind {f : σ → σ} {m : PUnit → EStateM ε σ β}
    (h : Safe inv ok (m ⟨⟩) (f s)) : Safe inv ok (modify f >>= m) s := h

theorem Safe.get_bind {f : σ → EStateM ε σ β} (h : Safe inv ok (f s) s) : Safe inv ok (get >>= f) s := h

theorem Keeps.meets (hm : Keeps inv ok m) (hs : inv s) : Meets m s (fun _ => inv) (fun e t => inv t ∧ ok e) := hm s hs

theorem Safe.mono (h : Safe inv ok m s) (hi : ∀ t, inv t → inv' t) : Safe inv' ok m s :=
  Meets.mono h (fun _ => hi) fun _ t he => ⟨hi t he.1,he.2⟩

theorem Safe.and (h : Safe inv ok m s) (h' : Safe inv' ok m s) : Safe (fun t => inv t ∧ inv' t) ok m s := by
  simp only [Safe] at h h' ⊢
  cases hr : m s with
  | ok a t =>
    rw [hr] at h h'
    exact ⟨h,h'⟩
  | error e t =>
    rw [hr] at h h'
    exact ⟨⟨h.1,h'.1⟩,h.2⟩

theorem Keeps.pure (a : α) : Keeps inv ok (Pure.pure a : EStateM ε σ α) := fun _ h => h

theorem Keeps.throw (he : ok e) : Keeps inv ok (throw e : EStateM ε σ α) := fun _ h => ⟨h,he⟩

theorem get_bind (f : σ → EStateM ε σ β) (s : σ) : (get >>= f) s = f s s := rfl

theorem modify_bind (f : σ → σ) (m : PUnit → EStateM ε σ β) (s : σ) : (modify f >>= m) s = m ⟨⟩ (f s) := rfl

theorem bind_ok (h : m s = .ok a t) (f : α → EStateM ε σ β) : (m >>= f) s = f a t := by
  simp [Bind.bind,EStateM.bind,h]

theorem bind_error (h : m s = .error e t) (f : α → EStateM ε σ β) : (m >>= f) s = .error e t := by
  simp [Bind.bind,EStateM.bind,h]

theorem Safe.bind_ok (h : m s = .ok a t) (hf : Safe inv ok (f a) t) : Safe inv ok (m >>= f) s := by
  rw [Safe,Handler.bind_ok h]
  exact hf

theorem Safe.bind (hm : Safe inv ok m s) (hf : ∀ a, Keeps inv ok (f a)) : Safe inv ok (m >>= f) s := Meets.bind hm hf

theorem Keeps.bind (hm : Keeps inv ok m) (hf : ∀ a, Keeps inv ok (f a)) : Keeps inv ok (m >>= f) :=
  fun s hs => Safe.bind (hm s hs) hf

theorem Keeps.seq {m : EStateM ε σ PUnit} {f : PUnit → EStateM ε σ β} (hm : Keeps inv ok m)
    (hf : Keeps inv ok (f ⟨⟩)) : Keeps inv ok (m >>= f) :=
  Keeps.bind hm fun _ => hf

theorem discard_eq_bind : (discard m : EStateM ε σ PUnit) = (m >>= fun _ => Pure.pure ⟨⟩) := by
  funext s
  change EStateM.map _ m s = EStateM.bind m _ s
  cases m s <;> rfl

theorem error_of_discard (h : (discard m : EStateM ε σ PUnit) s = .error e t) : m s = .error e t := by
  rw [discard_eq_bind] at h
  cases hm : m s with
  | ok a u =>
    rw [bind_ok hm] at h
    cases h
  | error e' u =>
    rw [bind_error hm] at h
    cases h
    rfl

theorem Keeps.discard (h : Keeps inv ok m) : Keeps inv ok (discard m : EStateM ε σ PUnit) := by
  rw [discard_eq_bind]
  exact Keeps.bind h fun _ => Keeps.pure _

/-- What the code reads off the state comes from a state that meets the invariant. -/
theorem Keeps.get_bind {f : σ → EStateM ε σ β} (hf : ∀ s, inv s → Keeps inv ok (f s)) : Keeps inv ok (get >>= f) :=
  fun s hs => hf s hs s hs

theorem Keeps.modify {f : σ → σ} (hf : ∀ s, inv s → inv (f s)) : Keeps inv ok (modify f : EStateM ε σ PUnit) := hf

theorem Keeps.ite [Decidable c] (hm : c → Keeps inv ok m)
    (hn : ¬ c → Keeps inv ok n) : Keeps inv ok (if c then m else n) := by
  split
  · rename_i h
    exact hm h
  · rename_i h
    exact hn h

theorem Keeps.either [Decidable c] (hm : Keeps inv ok m) (hn : Keeps inv ok n) : Keeps inv ok (if c then m else n) :=
  Keeps.ite (fun _ => hm) fun _ => hn

theorem Safe.tryCatch {f : ε → EStateM ε σ α} (h : Safe inv ok' m s) (hf : ∀ e, ok' e → Keeps inv ok (f e)) :
    Safe inv ok (tryCatch m f) s :=
  Meets.tryCatch h fun e t he => hf e he.2 t he.1

theorem Keeps.tryCatch {f : ε → EStateM ε σ α} (hm : Keeps inv ok' m) (hf : ∀ e, ok' e → Keeps inv ok (f e)) :
    Keeps inv ok (tryCatch m f) :=
  fun s hs => (hm s hs).tryCatch hf

theorem Keeps.forM {xs : List α} {f : α → EStateM ε σ PUnit} (hf : ∀ x ∈ xs, Keeps inv ok (f x)) :
    Keeps inv ok (xs.forM f) := by
  induction xs with
  | nil => exact Keeps.pure _
  | cons x xs ih =>
    apply Keeps.bind (hf x List.mem_cons_self)
    intro _
    exact ih fun y hy => hf y (List.mem_cons_of_mem _ hy)

/-- The code only looks at the state: it ends in it, with a value that `post` says more of, or
with an error. -/
def Checks (m : EStateM ε σ α) (s : σ) (post : α → Prop) : Prop :=
  (∃ a, m s = .ok a s ∧ post a) ∨ ∃ e, m s = .error e s

section Checks
theorem Checks.pure (h : post a) : Checks (Pure.pure a : EStateM ε σ α) s post := .inl ⟨a,rfl,h⟩

theorem Checks.throw (e : ε) : Checks (throw e : EStateM ε σ α) s post := .inr ⟨e,rfl⟩

theorem Checks.get_bind {f : σ → EStateM ε σ β} (h : Checks (f s) s post') : Checks (get >>= f) s post' := h

theorem Checks.bind (hm : Checks m s mid) (hf : ∀ a, mid a → Checks (f a) s post') : Checks (m >>= f) s post' := by
  simp only [Checks,Bind.bind,EStateM.bind] at *
  rcases hm with ⟨a,ha,hmid⟩ | ⟨e,he⟩
  · rw [ha]
    exact hf a hmid
  · rw [he]
    exact .inr ⟨e,rfl⟩

theorem Checks.mono (hm : Checks m s mid) (h : ∀ a, mid a → post a) : Checks m s post :=
  hm.imp (fun ⟨a,ha,hmid⟩ => ⟨a,ha,h a hmid⟩) id

end Checks

end Sake.Lib.Handler
