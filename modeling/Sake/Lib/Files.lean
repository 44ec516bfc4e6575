import Mathlib.Data.List.Basic
import Mathlib.Data.List.Infix

namespace Sake.Lib.Files
open List

variable {ν α : Type} [DecidableEq ν]

/-- What stands at a path: a directory, or a file, known by its number. -/
inductive Node where
  | dir
  | file (inode : Nat)
deriving Repr, DecidableEq

/-- A tree of directories, and what the files hold. A file may be open under a name it no
longer has, so that its content goes with its number. -/
structure Disk (ν α : Type) where
  node : List ν → Option Node
  content : Nat → List α
  fresh : Nat
  inDir : ∀ p n, (node (p ++ [n])).isSome = true → node p = some .dir
  known : ∀ p i, node p = some (.file i) → i < fresh
  single : ∀ p q i, node p = some (.file i) → node q = some (.file i) → p = q

namespace Disk

/-- Nothing is there, not even the root. -/
def empty : Disk ν α where
  node _ := none
  content _ := []
  fresh := 0
  inDir _ _ h := by simp at h
  known _ _ h := by simp at h
  single _ _ _ h := by simp at h

/-- The content of the file at a path. -/
def read (d : Disk ν α) (p : List ν) : Option (List α) :=
  match d.node p with
  | some (.file i) => some (d.content i)
  | _ => none

def append (d : Disk ν α) (i : Nat) (x : α) : Disk ν α :=
  { d with content := fun j => if j = i then d.content i ++ [x] else d.content j }

/-- A directory and all those above it, unless a file is in the way. -/
def mkdirAll (d : Disk ν α) (p : List ν) : Option (Disk ν α) :=
  if h : ∀ q ∈ p.inits, d.node q = none ∨ d.node q = some .dir then
    some { d with
      node := fun q => if q <+: p then some .dir else d.node q
      inDir := by
        intro q n hq
        by_cases hp : q <+: p
        · simp only [if_pos hp]
        · have hpn : ¬ q ++ [n] <+: p := fun hn => hp ((prefix_append q [n]).trans hn)
          simp only [if_neg hpn] at hq
          simp only [if_neg hp,d.inDir q n hq]
      known := by
        intro q i hq
        split at hq
        · cases hq
        · exact d.known q i hq
      single := by
        intro q r i hq hr
        split at hq
        · cases hq
        · split at hr
          · cases hr
          · exact d.single q r i hq hr }
  else none

/-- A new file in a directory. -/
def create (d : Disk ν α) (p : List ν) (hp : p ≠ []) (hdir : d.node p.dropLast = some .dir)
    (hnone : d.node p = none) : Disk ν α where
  node q := if q = p then some (.file d.fresh) else d.node q
  content i := if i = d.fresh then [] else d.content i
  fresh := d.fresh + 1
  inDir := by
    intro q m hq
    by_cases hqp : q = p
    · subst hqp
      have hne : q ++ [m] ≠ q := by simp
      simp only [if_neg hne] at hq
      rw [d.inDir _ _ hq] at hnone
      cases hnone
    · simp only [if_neg hqp]
      by_cases hnew : q ++ [m] = p
      · rw [← hdir,← hnew,dropLast_concat]
      · simp only [if_neg hnew] at hq
        exact d.inDir q m hq
  known := by
    intro q i hq
    split at hq
    · cases hq
      exact Nat.lt_succ_self _
    · exact Nat.lt_succ_of_lt (d.known q i hq)
  single := by
    intro q r i hq hr
    split at hq
    · split at hr
      · simp_all
      · cases hq
        exact absurd (d.known r _ hr) (Nat.lt_irrefl _)
    · split at hr
      · cases hr
        exact absurd (d.known q _ hq) (Nat.lt_irrefl _)
      · exact d.single q r i hq hr

/-- Opens a file to write at its end. It is created if there is none. -/
def openAppend (d : Disk ν α) (p : List ν) : Option (Disk ν α × Nat) :=
  match h : d.node p with
  | some (.file i) => some (d,i)
  | some .dir => none
  | none =>
    if hdir : p ≠ [] ∧ d.node p.dropLast = some .dir then
      some (d.create p hdir.1 hdir.2 h,d.fresh)
    else none

/-- What stands at a path once `old` and all below it are at `new`. -/
def movedNode (d : Disk ν α) (old new q : List ν) : Option Node :=
  if new <+: q then d.node (old ++ q.drop new.length)
  else if old <+: q then none
  else d.node q

theorem movedNode_below (d : Disk ν α) (old new rest : List ν) :
    d.movedNode old new (new ++ rest) = d.node (old ++ rest) := by
  simp [movedNode]

variable {d d' : Disk ν α} {new old q : List ν} {i : Nat}

theorem movedNode_other (d : Disk ν α) (hn : ¬ new <+: q) (ho : ¬ old <+: q) : d.movedNode old new q = d.node q := by
  simp [movedNode,hn,ho]

/-- Whatever is there now was there before, or below the old path. -/
theorem movedNode_cases (h : d.movedNode old new q = some x) :
    (∃ rest, q = new ++ rest ∧ d.node (old ++ rest) = some x) ∨ (¬ new <+: q ∧ ¬ old <+: q ∧ d.node q = some x) := by
  by_cases hn : new <+: q
  · obtain ⟨rest,rfl⟩ := hn
    exact Or.inl ⟨rest,rfl,by rwa [movedNode_below] at h⟩
  · by_cases ho : old <+: q
    · simp [movedNode,hn,ho] at h
    · exact Or.inr ⟨hn,ho,by rwa [movedNode_other d hn ho] at h⟩

theorem movedNode_inDir (d : Disk ν α) (hdir : d.node new.dropLast = some .dir) (hself : ¬ old <+: new)
    (h : (d.movedNode old new (q ++ [n])).isSome = true) : d.movedNode old new q = some .dir := by
  obtain ⟨x,hx⟩ := Option.isSome_iff_exists.mp h
  rcases movedNode_cases hx with ⟨rest,hq,hnode⟩ | ⟨hn,ho,hnode⟩
  · rcases eq_nil_or_concat rest with rfl | ⟨rest,m,rfl⟩
    · rw [append_nil] at hq
      rw [← hq,dropLast_concat] at hdir
      have hn : ¬ new <+: q := fun hp => by
        have := hp.length_le
        rw [← hq,length_append,length_singleton] at this
        omega
      have ho : ¬ old <+: q := fun hp => hself (hq ▸ hp.trans (prefix_append q [n]))
      rw [movedNode_other d hn ho,hdir]
    · rw [concat_eq_append,← append_assoc] at hq hnode
      obtain ⟨rfl,-⟩ := append_inj' hq rfl
      rw [movedNode_below]
      exact d.inDir _ _ (by rw [hnode]; rfl)
  · have hn' : ¬ new <+: q := fun hp => hn (hp.trans (prefix_append q [n]))
    have ho' : ¬ old <+: q := fun hp => ho (hp.trans (prefix_append q [n]))
    rw [movedNode_other d hn' ho']
    exact d.inDir _ _ (by rw [hnode]; rfl)

/-- Moves what stands at `old`, with all below it, to a place where nothing is. A directory
cannot be moved below itself. -/
def move (d : Disk ν α) (old new : List ν) : Option (Disk ν α) :=
  if h : d.node new.dropLast = some .dir ∧ ¬ old <+: new ∧ d.node new = none ∧ d.node old ≠ none then
    some { d with
      node := d.movedNode old new
      inDir := fun _ _ => d.movedNode_inDir h.1 h.2.1
      known := by
        intro q i hq
        rcases movedNode_cases hq with ⟨rest,-,hnode⟩ | ⟨-,-,hnode⟩ <;> exact d.known _ i hnode
      single := by
        intro q r i hq hr
        rcases movedNode_cases hq with ⟨x,rfl,hx⟩ | ⟨-,hoq,hq⟩
        · rcases movedNode_cases hr with ⟨y,rfl,hy⟩ | ⟨-,hor,hr⟩
          · rw [append_cancel_left (d.single _ _ i hx hy)]
          · exact absurd (d.single _ _ i hx hr ▸ prefix_append old x) hor
        · rcases movedNode_cases hr with ⟨y,rfl,hy⟩ | ⟨-,-,hr⟩
          · exact absurd (d.single _ _ i hy hq ▸ prefix_append old y) hoq
          · exact d.single q r i hq hr }
  else none

omit [DecidableEq ν] in
theorem read_eq_some_iff : d.read p = some l ↔ ∃ i, d.node p = some (.file i) ∧ d.content i = l := by
  unfold read
  split
  · rename_i h
    simp [h]
  · rename_i h
    refine iff_of_false (by simp) ?_
    rintro ⟨i,hi,-⟩
    exact h i hi

/-- A file that is written to keeps its place, and the others their content. -/
theorem read_append (h : d.node p = some (.file i)) (x : α) (q : List ν) :
    (d.append i x).read q = if q = p then some (d.content i ++ [x]) else d.read q := by
  by_cases hq : q = p
  · subst hq
    simp [read,append,h]
  rw [if_neg hq]
  simp only [read,append]
  split
  · rename_i j hj
    have hji : j ≠ i := fun he => hq (d.single q p i (he ▸ hj) h)
    simp [hji]
  · rfl

theorem read_mkdirAll (h : d.mkdirAll p = some d') (q : List ν) : d'.read q = d.read q := by
  unfold mkdirAll at h
  split at h
  · rename_i hfree
    cases h
    by_cases hq : q <+: p
    · have hnone := hfree q ((mem_inits q p).mpr hq)
      rcases hnone with hnone | hnone <;> simp [read,hnone]
    · simp [read,hq]
  · cases h

theorem mkdirAll_spec (h : ∀ q i, q <+: p → d.node q ≠ some (.file i)) :
    ∃ d', d.mkdirAll p = some d' ∧ ∀ q, d'.node q = if q <+: p then some .dir else d.node q := by
  have hfree : ∀ q ∈ p.inits, d.node q = none ∨ d.node q = some .dir := by
    intro q hq
    cases hn : d.node q with
    | none => exact Or.inl rfl
    | some x =>
      cases x with
      | dir => exact Or.inr rfl
      | file i => exact absurd hn (h q i ((mem_inits q p).mp hq))
  rw [mkdirAll,dif_pos hfree]
  exact ⟨_,rfl,fun _ => rfl⟩

/-- A file can be opened in a directory, unless it is a directory itself. -/
theorem openAppend_exists (hp : p ≠ []) (hdir : d.node p.dropLast = some .dir) (hfile : d.node p ≠ some .dir) :
    ∃ d' i, d.openAppend p = some (d',i) ∧ ∀ q, q ≠ p → d'.node q = d.node q := by
  unfold openAppend
  split
  · exact ⟨_,_,rfl,fun _ _ => rfl⟩
  · rename_i h
    exact absurd h hfile
  · rw [dif_pos ⟨hp,hdir⟩]
    exact ⟨_,_,rfl,fun q hq => if_neg hq⟩

theorem openAppend_spec (h : d.openAppend p = some (d',i)) :
    d'.node p = some (.file i) ∧ d'.read p = some ((d.read p).getD []) ∧ ∀ q, q ≠ p → d'.read q = d.read q := by
  unfold openAppend at h
  split at h
  · rename_i hj
    cases h
    exact ⟨hj,by simp [read,hj],fun q _ => rfl⟩
  · cases h
  rename_i hnone
  split at h
  · cases h
    refine ⟨by simp [create],by simp [read,create,hnone],?_⟩
    intro q hq
    simp only [read,create,if_neg hq]
    split
    · rename_i j hj
      have hlt := d.known q j hj
      simp [Nat.ne_of_lt hlt]
    · rfl
  · cases h

section
variable (h : d.move old new = some d')
include h

theorem move_eq : (∀ q, d'.node q = d.movedNode old new q) ∧ d'.content = d.content ∧ ¬ old <+: new := by
  unfold move at h
  split at h
  · rename_i hc
    cases h
    exact ⟨fun _ => rfl,rfl,hc.2.1⟩
  · cases h

theorem read_move_below (rest : List ν) : d'.read (new ++ rest) = d.read (old ++ rest) := by
  obtain ⟨hnode,hcontent,-⟩ := move_eq h
  simp [read,hnode,movedNode_below,hcontent]

theorem read_move_other (hn : ¬ new <+: q) (ho : ¬ old <+: q) : d'.read q = d.read q := by
  obtain ⟨hnode,hcontent,-⟩ := move_eq h
  simp [read,hnode,movedNode_other d hn ho,hcontent]

theorem read_move_left (hn : ¬ new <+: q) (ho : old <+: q) : d'.read q = none := by
  obtain ⟨hnode,-,-⟩ := move_eq h
  simp [read,hnode,movedNode,hn,ho]

end

end Disk

end Sake.Lib.Files
