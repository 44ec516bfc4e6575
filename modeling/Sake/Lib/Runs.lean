import Mathlib.Data.List.Basic

namespace Sake.Lib.Runs

variable {S A : Type*} {step : S → A → Option S} {s : S} {as : List A}

/-- Runs a partial machine; `none` means an action was not enabled. -/
def run (step : S → A → Option S) : S → List A → Option S
  | s, [] => some s
  | s, a :: as => (step s a).bind fun t => run step t as

theorem run_append : run step s (as ++ bs) = (run step s as).bind fun t => run step t bs := by
  induction as generalizing s with
  | nil => rfl
  | cons a as ih =>
    cases h : step s a with
    | none => simp [run,h]
    | some u => simp [run,h,ih]

/-- `p` holds in the first state and in every state the run passes through. -/
def AllStates (step : S → A → Option S) (p : S → Prop) : S → List A → Prop
  | s, [] => p s
  | s, a :: as => p s ∧ ∀ t, step s a = some t → AllStates step p t as

/-- Every action of the run is taken from a state that meets `g`. -/
def AllSteps (step : S → A → Option S) (g : S → A → Prop) : S → List A → Prop
  | _, [] => True
  | s, a :: as => g s a ∧ ∀ t, step s a = some t → AllSteps step g t as

section
variable {p inv : S → Prop} {g : S → A → Prop} {t : S}

theorem AllStates.head (h : AllStates step p s as) : p s := by
  cases as with
  | nil => exact h
  | cons a as => exact h.1

theorem AllSteps.cons_some (ha : g s a) (hs : step s a = some t)
    (h : AllSteps step g t as) : AllSteps step g s (a :: as) := by
  refine ⟨ha,?_⟩
  intro u hu
  cases hs.symm.trans hu
  exact h

theorem AllSteps.of_forall (h : ∀ a ∈ as, ∀ s, g s a) : AllSteps step g s as := by
  induction as generalizing s with
  | nil => trivial
  | cons a as ih =>
    refine ⟨h a List.mem_cons_self s,?_⟩
    intro t _
    exact ih fun b hb => h b (List.mem_cons_of_mem _ hb)

/-- A run that is given can be checked step by step. -/
def AllSteps.decide (step : S → A → Option S) (g : S → A → Prop) [∀ s a, Decidable (g s a)] :
    ∀ s as, Decidable (AllSteps step g s as)
  | _, [] => isTrue trivial
  | s, a :: as =>
    match h : step s a with
    | none => decidable_of_iff (g s a) ⟨fun hg => ⟨hg,fun _ ht => nomatch h.symm.trans ht⟩,And.left⟩
    | some t =>
      have := AllSteps.decide step g t as
      decidable_of_iff (g s a ∧ AllSteps step g t as)
        ⟨fun hg => AllSteps.cons_some hg.1 h hg.2,fun hg => ⟨hg.1,hg.2 t h⟩⟩

instance [∀ s a, Decidable (g s a)] (s : S) (as : List A) : Decidable (AllSteps step g s as) :=
  AllSteps.decide step g s as

theorem AllStates.last (h : AllStates step p s as) (hr : run step s as = some t) : p t := by
  induction as generalizing s with
  | nil =>
    simp only [run,Option.some.injEq] at hr
    exact hr ▸ h
  | cons a as ih =>
    obtain ⟨u,hu,hr⟩ := Option.bind_eq_some_iff.mp hr
    exact ih (h.2 u hu) hr

/-- A run that ends where a test of `p` fails. -/
theorem not_allStates_of_run {test : S → Bool} (htest : ∀ t, p t → test t = true)
    (h : (run step s as).any (fun t => !test t) = true) : ¬ AllStates step p s as := by
  intro hall
  obtain ⟨t,ht,hn⟩ := (Option.any_eq_true _ _).mp h
  rw [htest t (hall.last ht)] at hn
  cases hn

/-- The invariant rule for runs whose steps all meet a guard. -/
theorem AllStates.of_steps (inv : S → Prop) (h0 : inv s) (hp : ∀ s, inv s → p s)
    (hstep : ∀ s a t, inv s → g s a → step s a = some t → inv t)
    (hg : AllSteps step g s as) : AllStates step p s as := by
  induction as generalizing s with
  | nil => exact hp s h0
  | cons a as ih =>
    refine ⟨hp s h0,?_⟩
    intro t ht
    exact ih (hstep s a t h0 hg.1 ht) (hg.2 t ht)

/-- What every step keeps holds wherever a run ends. -/
theorem run_invariant (inv : S → Prop) (h0 : inv s)
    (hstep : ∀ s a t, inv s → step s a = some t → inv t) (hr : run step s as = some t) : inv t := by
  induction as generalizing s with
  | nil =>
    cases hr
    exact h0
  | cons a as ih =>
    obtain ⟨u,hu,hrest⟩ := Option.bind_eq_some_iff.mp hr
    exact ih (hstep s a u h0 hu) hrest

/-- When each unguarded step leaves `p`, keeping `p` along a run is the same as
meeting the guard at each of its steps. -/
theorem allStates_iff_allSteps (h0 : inv s) (hp : ∀ s, inv s → p s)
    (hstep : ∀ s a t, inv s → g s a → step s a = some t → inv t)
    (hbad : ∀ s a, inv s → ¬ g s a → ∃ t, step s a = some t ∧ ¬ p t) :
    AllStates step p s as ↔ AllSteps step g s as := by
  refine ⟨?_,AllStates.of_steps inv h0 hp hstep⟩
  intro h
  induction as generalizing s with
  | nil => trivial
  | cons a as ih =>
    have hga : g s a := by
      by_contra hn
      obtain ⟨t,ht,hnp⟩ := hbad s a h0 hn
      exact hnp (h.2 t ht).head
    exact ⟨hga,fun t ht => ih (hstep s a t h0 hga ht) (h.2 t ht)⟩

end

end Sake.Lib.Runs
