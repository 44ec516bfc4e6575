import Mathlib.Data.List.TakeDrop
import Mathlib.Data.List.TakeWhile
import Sake.Highlight

namespace Sake.Proofs.Highlight
open Sake.Highlight List

variable {nick before text gap right : List Char}

/-- The places where the nick stands, from left to right without overlap: what the text
has up to the end of the one before, what stands between the two, and what comes after. -/
inductive Occurs (nick : List Char) : (before text : List Char) → List Char → List Char → List Char → Prop
  | here {before text left right : List Char} : cut nick text = some (left,right) →
      Occurs nick before text before left right
  | next {before text left right b gap r : List Char} : cut nick text = some (left,right) →
      Occurs nick (before ++ left ++ nick) right b gap r → Occurs nick before text b gap r

variable (u : Unicode)

/-- A nick between these two parts of a text is meant. -/
def Meant (left right : List Char) : Prop :=
  (left = [] ∨ isWordBoundary u (left.getLastD runeError) = true) ∧
    (right = [] ∨ isWordBoundary u (right.headD runeError) = true) ∧ isURIPrefix u left = false

/-- An occurrence does not touch the one before, and whitespace stands between them where the text has `://`. -/
def Parted (before gap : List Char) : Prop :=
  before ≠ [] → gap ≠ [] ∧ ((∃ c ∈ gap, u.isSpace c = true) ∨ ¬ "://".toList <:+: before ++ gap)

def Spaced (nick text : List Char) : Prop :=
  ∀ before gap right, Occurs nick [] text before gap right → Parted u before gap

variable {u}

theorem not_occurs (h : cut nick text = none) : ¬ Occurs nick before text b gap r := by
  intro ho
  cases ho with
  | here hc | next hc => cases h.symm.trans hc

theorem cut_none (h : ¬ pat <:+: text) : cut pat text = none := by
  induction text with
  | nil =>
    cases pat with
    | nil => exact absurd infix_rfl h
    | cons => rfl
  | cons c text ih =>
    have hp : pat.isPrefixOf (c :: text) = false := by
      by_contra hp
      exact h (List.isPrefixOf_iff_prefix.mp (Bool.not_eq_false _ ▸ hp)).isInfix
    simp [cut,hp,ih fun hi => h (hi.trans (infix_cons infix_rfl))]

theorem length_of_cut (h : cut pat text = some (left,right)) :
    text.length = left.length + pat.length + right.length := by
  induction text generalizing left with
  | nil =>
    obtain ⟨hp,he⟩ := Option.ite_none_right_eq_some.mp h
    cases he
    simp [isEmpty_iff.mp hp]
  | cons c text ih =>
    rw [cut] at h
    split at h
    · next hp =>
      cases h
      have := (List.isPrefixOf_iff_prefix.mp hp).length_le
      simp at this ⊢
      omega
    · obtain ⟨⟨l,r⟩,hc,he⟩ := Option.map_eq_some_iff.mp h
      cases he
      simp [ih hc]
      omega

theorem span_append (xs : List Char) (h : ∃ x ∈ xs, p x = false) (ys : List Char) :
    ∃ w c r, xs.span p = (w,c :: r) ∧ (xs ++ ys).span p = (w,c :: (r ++ ys)) := by
  simp only [span_eq_takeWhile_dropWhile,Prod.mk.injEq]
  induction xs with
  | nil => simp at h
  | cons x xs ih =>
    cases hx : p x with
    | false => simp [hx]
    | true =>
      obtain ⟨w,c,r,⟨hw,hr⟩,hw',hr'⟩ := ih (by simpa [hx] using h)
      exact ⟨x :: w,c,r,by simp [hx,hw,hr],by simp [hx,hw',hr']⟩

theorem lastField_append (h : ∃ c ∈ gap, u.isSpace c = true) : lastField u (before ++ gap) = lastField u gap := by
  obtain ⟨w,c,r,hg,hb⟩ := span_append (p := fun c => !u.isSpace c) gap.reverse (by simpa using h)
    before.reverse
  rw [lastField,reverse_append,hb,lastField,hg]

theorem lastField_part (text : List Char) : lastField u text <:+: text := by
  have h := congrArg List.reverse (takeWhile_append_dropWhile (p := fun c => !u.isSpace c) (l := text.reverse))
  unfold lastField
  rw [span_eq_takeWhile_dropWhile]
  split
  · next hs =>
    obtain ⟨rfl,hd⟩ := Prod.mk.inj hs
    rw [hd] at h
    exact ⟨[],[],by simpa using h⟩
  · next word c rest hs =>
    obtain ⟨rfl,hd⟩ := Prod.mk.inj hs
    rw [hd] at h
    exact ⟨rest.reverse,[],by simpa using h⟩

theorem isURIPrefix_append (h : (∃ c ∈ gap, u.isSpace c = true) ∨ ¬ "://".toList <:+: before ++ gap) :
    isURIPrefix u (before ++ gap) = isURIPrefix u gap := by
  obtain h | h := h
  · rw [isURIPrefix,lastField_append h,isURIPrefix]
  · have hgap : ¬ "://".toList <:+: gap := fun hi => h (hi.trans (suffix_append _ _).isInfix)
    rw [isURIPrefix,cut_none fun hi => h (hi.trans (lastField_part _)),isURIPrefix,
      cut_none fun hi => hgap (hi.trans (lastField_part _))]

theorem getLastD_append (h : gap ≠ []) (d : Char) : (before ++ gap).getLastD d = gap.getLastD d := by
  simp [List.getLast?_append_of_ne_nil _ h]

/-- The check of the loop, with the text cut off after the occurrence before. -/
theorem check_iff (hr : isWordBoundary u runeError = true) (h : Parted u before gap) :
    (isWordBoundary u (gap.getLastD runeError) && isWordBoundary u (right.headD runeError) &&
      !isURIPrefix u gap) = true ↔ Meant u (before ++ gap) right := by
  have hl : ∀ {text : List Char}, (text = [] ∨ isWordBoundary u (text.getLastD runeError) = true) ↔
      isWordBoundary u (text.getLastD runeError) = true := fun {text} =>
    or_iff_right_of_imp fun ht => ht ▸ hr
  have hh : (right = [] ∨ isWordBoundary u (right.headD runeError) = true) ↔
      isWordBoundary u (right.headD runeError) = true := or_iff_right_of_imp fun ht => ht ▸ hr
  rw [Meant,hl,hh]
  cases before with
  | nil => simp [and_assoc]
  | cons c before =>
    obtain ⟨hg,hu⟩ := h (cons_ne_nil _ _)
    rw [getLastD_append hg,isURIPrefix_append hu]
    simp [and_assoc]

theorem highlightLoop_iff (hr : isWordBoundary u runeError = true) (hn : nick ≠ [])
    (before : List Char) (hf : text.length < fuel)
    (h : ∀ b gap r, Occurs nick before text b gap r → Parted u b gap) :
    highlightLoop u nick fuel text = true ↔ ∃ b gap r, Occurs nick before text b gap r ∧ Meant u (b ++ gap) r := by
  induction fuel generalizing before text with
  | zero => exact absurd hf (Nat.not_lt_zero _)
  | succ fuel ih =>
    unfold highlightLoop
    split
    · next hc =>
      refine iff_of_false Bool.false_ne_true ?_
      rintro ⟨b,gap,r,ho,-⟩
      exact not_occurs hc ho
    · next left right hc =>
      have hlen := length_of_cut hc
      have := length_pos_iff.mpr hn
      rw [Bool.or_eq_true,check_iff hr (h _ _ _ (.here hc)),
        ih (before ++ left ++ nick) (by omega) fun b gap r ho => h b gap r (.next hc ho)]
      constructor
      · rintro (hm | ⟨b,gap,r,ho,hm⟩)
        · exact ⟨_,_,_,.here hc,hm⟩
        · exact ⟨b,gap,r,.next hc ho,hm⟩
      rintro ⟨b,gap,r,ho,hm⟩
      cases ho with
      | here hc' =>
        cases hc.symm.trans hc'
        exact .inl hm
      | next hc' ho =>
        cases hc.symm.trans hc'
        exact .inr ⟨b,gap,r,ho,hm⟩

def bob : Nick := ⟨"bob",by decide⟩

end Sake.Proofs.Highlight
