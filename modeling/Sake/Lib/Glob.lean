import Mathlib.Data.List.Basic

namespace Sake.Lib.Glob
open List

variable {α : Type*}

/-- One element of a glob: any sequence, any one symbol, or a symbol itself. -/
inductive Tok (α : Type*) where
  | star
  | any
  | lit (a : α)
deriving Repr, DecidableEq

/-- A glob matches a word. The wildcards only cover symbols that are `ok`. -/
inductive Matches {α : Type*} (ok : α → Prop) : List (Tok α) → List α → Prop where
  | nil : Matches ok [] []
  | lit {a : α} {p : List (Tok α)} {s : List α} :
      Matches ok p s → Matches ok (.lit a :: p) (a :: s)
  | any {c : α} {p : List (Tok α)} {s : List α} :
      ok c → Matches ok p s → Matches ok (.any :: p) (c :: s)
  | star {w : List α} {p : List (Tok α)} {s : List α} :
      (∀ c ∈ w, ok c) → Matches ok p s → Matches ok (.star :: p) (w ++ s)

section
variable {ok : α → Prop} {p : List (Tok α)} {s w : List α}

theorem Matches.mono (h : ∀ c, ok c → ok' c) (hm : Matches ok p s) : Matches ok' p s := by
  induction hm with
  | nil => exact .nil
  | lit _ ih => exact .lit ih
  | any hc _ ih => exact .any (h _ hc) ih
  | star hw _ ih => exact .star (fun c hc => h c (hw c hc)) ih

theorem matches_nil_iff : Matches ok [] s ↔ s = [] := ⟨fun h => by cases h; rfl,fun h => h ▸ .nil⟩

theorem matches_star_iff : Matches ok (.star :: p) s ↔ ∃ w t, s = w ++ t ∧ (∀ c ∈ w, ok c) ∧ Matches ok p t := by
  constructor
  · intro h
    cases h with
    | star hw ht => exact ⟨_,_,rfl,hw,ht⟩
  · rintro ⟨w,t,rfl,hw,ht⟩
    exact .star hw ht

theorem Matches.extend (h : Matches ok (.star :: p) s) (hw : ∀ c ∈ w, ok c) : Matches ok (.star :: p) (w ++ s) := by
  obtain ⟨v,t,rfl,hv,ht⟩ := matches_star_iff.mp h
  rw [← append_assoc]
  refine .star ?_ ht
  intro c hc
  rcases mem_append.mp hc with hc | hc
  · exact hw c hc
  · exact hv c hc

theorem matches_star_star : Matches ok (.star :: .star :: p) s ↔ Matches ok (.star :: p) s := by
  constructor
  · intro h
    obtain ⟨w,t,rfl,hw,ht⟩ := matches_star_iff.mp h
    exact ht.extend hw
  · intro h
    exact .star (w := []) (by simp) h

theorem matches_append_iff : Matches ok (p ++ q) s ↔ ∃ w t, s = w ++ t ∧ Matches ok p w ∧ Matches ok q t := by
  constructor
  · intro h
    induction p generalizing s with
    | nil => exact ⟨[],s,rfl,.nil,h⟩
    | cons k p ih =>
      cases h with
      | lit h =>
        obtain ⟨w,t,rfl,hw,ht⟩ := ih h
        exact ⟨_ :: w,t,rfl,.lit hw,ht⟩
      | any hc h =>
        obtain ⟨w,t,rfl,hw,ht⟩ := ih h
        exact ⟨_ :: w,t,rfl,.any hc hw,ht⟩
      | star hv h =>
        obtain ⟨w,t,rfl,hw,ht⟩ := ih h
        exact ⟨_ ++ w,t,(append_assoc _ _ _).symm,.star hv hw,ht⟩
  · rintro ⟨w,t,rfl,hw,ht⟩
    induction hw with
    | nil => exact ht
    | lit _ ih => exact .lit ih
    | any hc _ ih => exact .any hc ih
    | star hv _ ih =>
      rw [append_assoc]
      exact .star hv ih

theorem Matches.length_eq (h : Matches ok p s) (hp : .star ∉ p) : s.length = p.length := by
  induction h with
  | nil => rfl
  | lit _ ih | any _ _ ih => simp [ih (fun hm => hp (mem_cons_of_mem _ hm))]
  | star _ _ _ => exact absurd mem_cons_self hp

/-- Without a star and without a literal that is not `ok`, only `ok` symbols match. -/
theorem Matches.all_ok (h : Matches ok p s) (hp : .star ∉ p) (hl : ∀ a, .lit a ∈ p → ok a) : ∀ c ∈ s, ok c := by
  induction h with
  | nil => simp
  | lit _ ih =>
    intro c hc
    rcases mem_cons.mp hc with rfl | hc
    · exact hl _ mem_cons_self
    · exact ih (fun hm => hp (mem_cons_of_mem _ hm))
        (fun a ha => hl a (mem_cons_of_mem _ ha)) c hc
  | any hok _ ih =>
    intro c hc
    rcases mem_cons.mp hc with rfl | hc
    · exact hok
    · exact ih (fun hm => hp (mem_cons_of_mem _ hm))
        (fun a ha => hl a (mem_cons_of_mem _ ha)) c hc
  | star _ _ _ => exact absurd mem_cons_self hp

/-- The first literal of a glob that is not `ok`, if there is one. -/
theorem first_bad (ok : α → Prop) (p : List (Tok α)) : (∀ a, .lit a ∈ p → ok a) ∨
      ∃ p₁ a p₂, p = p₁ ++ .lit a :: p₂ ∧ (∀ b, .lit b ∈ p₁ → ok b) ∧ ¬ ok a := by
  induction p with
  | nil => left; simp
  | cons k p ih =>
    by_cases hk : ∃ a, k = .lit a ∧ ¬ ok a
    · obtain ⟨a,rfl,ha⟩ := hk
      exact Or.inr ⟨[],a,p,rfl,by simp,ha⟩
    have hok : ∀ a, k = .lit a → ok a := fun a he => by
      by_contra hn
      exact hk ⟨a,he,hn⟩
    rcases ih with hall | ⟨p₁,a,p₂,rfl,hp₁,ha⟩
    · left
      intro a hm
      rcases mem_cons.mp hm with he | hm
      · exact hok a he.symm
      · exact hall a hm
    · refine Or.inr ⟨k :: p₁,a,p₂,rfl,?_,ha⟩
      intro b hm
      rcases mem_cons.mp hm with he | hm
      · exact hok b he.symm
      · exact hp₁ b hm

/-- Two occurrences of a star-free glob in one word, the second behind a nonempty
front of `ok` symbols: then the second consists of `ok` symbols as well. Otherwise
the first literal that is not `ok` would stand, in the first occurrence, where the
second has only `ok` symbols. -/
theorem second_fit_ok (hp : .star ∉ p) (he : w ++ t = u ++ (w' ++ t')) (hu : ∀ c ∈ u, ok c)
    (hne : u ≠ []) (h : Matches ok p w) (h' : Matches ok p w') : ∀ c ∈ w', ok c := by
  rcases first_bad ok p with hall | ⟨p₁,a,p₂,rfl,hp₁,ha⟩
  · exact h'.all_ok hp hall
  exfalso
  have hs : .star ∉ p₁ := fun hm => hp (mem_append_left _ hm)
  obtain ⟨v,x,rfl,hv,hx⟩ := matches_append_iff.mp h
  obtain ⟨v',x',rfl,hv',hx'⟩ := matches_append_iff.mp h'
  have hlen : v.length = v'.length := (hv.length_eq hs).trans (hv'.length_eq hs).symm
  have hpos := length_pos_of_ne_nil hne
  cases hx with
  | lit hx =>
    have hg := congrArg (fun l => l[v.length]?) he
    simp only [append_assoc,cons_append,List.getElem?_append_right (Nat.le_refl _), Nat.sub_self] at hg
    rw [← append_assoc u v',List.getElem?_append_left (by simp; omega)] at hg
    have hm := mem_of_getElem? hg.symm
    rcases mem_append.mp hm with hm | hm
    · exact ha (hu a hm)
    · exact ha (hv'.all_ok hs hp₁ a hm)

/-- The leftmost occurrence of a star-free glob is as good as any other one when a
star follows. -/
theorem leftmost_fit (hp : .star ∉ p) (h : Matches ok p w)
    (hm : Matches ok (.star :: p ++ .star :: q) (w ++ t)) : Matches ok (.star :: q) t := by
  obtain ⟨u,r,he,hu,hr⟩ := matches_star_iff.mp hm
  obtain ⟨w',t',rfl,hw',ht'⟩ := matches_append_iff.mp hr
  have hlen : w.length = w'.length := (h.length_eq hp).trans (hw'.length_eq hp).symm
  by_cases hne : u = []
  · subst u
    rw [nil_append] at he
    exact (append_inj he hlen).2 ▸ ht'
  have hok := second_fit_ok hp he hu hne h hw'
  have hsplit : t = (u ++ w').drop w.length ++ t' := by
    have hd := congrArg (List.drop w.length) he
    rw [drop_left,← append_assoc,drop_append_of_le_length (by simp; omega)] at hd
    exact hd
  rw [hsplit]
  apply ht'.extend
  intro c hc
  rcases mem_append.mp (mem_of_mem_drop hc) with hc | hc
  · exact hu c hc
  · exact hok c hc

end

section
variable [DecidableEq α] {x : α} {p : List (Tok α)} {s : List α}

/-- How often a symbol is written out in a glob. -/
def literals (x : α) (p : List (Tok α)) : Nat := p.count (.lit x)

/-- Wildcards that never cover `x` leave every `x` to the literals. -/
theorem Matches.count_eq (h : Matches (· ≠ x) p s) : s.count x = literals x p := by
  induction h with
  | nil => rfl
  | @lit a p s _ ih => by_cases ha : a = x <;> simp [literals,ha,ih]
  | @any c p s hc _ ih => simpa [literals,hc] using ih
  | @star w p s hw _ ih =>
    have hz : w.count x = 0 := count_eq_zero.mpr fun hm => hw x hm rfl
    simpa [literals,hz] using ih

theorem Matches.literals_le (h : Matches (fun _ => True) p s) : literals x p ≤ s.count x := by
  induction h with
  | nil => exact Nat.le_refl _
  | @lit a p s _ ih => by_cases ha : a = x <;> simpa [literals,ha] using ih
  | @any c p s _ _ ih =>
    have : s.count x ≤ (c :: s).count x := count_le_count_cons
    simp only [literals,count_cons] at ih ⊢
    simp only [beq_iff_eq,reduceCtorEq,↓reduceIte]
    omega
  | @star w p s _ _ ih =>
    simp only [literals,count_cons,beq_iff_eq,reduceCtorEq,↓reduceIte,count_append] at ih ⊢
    omega

/-- When the word has no more `x` than the glob spells out, no wildcard covers one. -/
theorem Matches.restrict (h : Matches (fun _ => True) p s) (hc : s.count x = literals x p) : Matches (· ≠ x) p s := by
  induction h with
  | nil => exact .nil
  | @lit a p s hm ih =>
    apply Matches.lit
    apply ih
    by_cases ha : a = x <;> simpa [literals,ha] using hc
  | @any c p s _ hm ih =>
    have hle := hm.literals_le (x := x)
    simp only [literals,count_cons,beq_iff_eq,reduceCtorEq]
      at hc hle
    have hcx : c ≠ x := by
      intro he
      simp only [he,↓reduceIte] at hc
      omega
    exact .any hcx (ih (by simpa [literals,hcx] using hc))
  | @star w p s _ hm ih =>
    have hle := hm.literals_le (x := x)
    simp only [literals,count_cons,beq_iff_eq,reduceCtorEq,↓reduceIte,count_append] at hc hle
    refine .star ?_ (ih (by simp [literals]; omega))
    intro c hcw he
    have : 0 < w.count x := count_pos_iff.mpr (he ▸ hcw)
    omega

end

end Sake.Lib.Glob
