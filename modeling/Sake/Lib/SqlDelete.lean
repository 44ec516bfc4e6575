import Mathlib.Data.List.Pairwise
import Sake.Lib.Sql

namespace Sake.Lib.Sql
open List

variable {T C I : Type} {q r : Row C} {rs : List (Row C)} {p : Row C → Prop} {d : TableDef T C} {rows : Rows T C}
  {links : List (Link T C)} {t table : T} {db db' : State T C I}

/-- The rows of `table` that meet `p`, the rows that refer to one of them, and so on. -/
inductive Depends (links : List (Link T C)) (rows : Rows T C) (table : T) (p : Row C → Prop) :
    T → Row C → Prop
  | root {r : Row C} : r ∈ rows table → p r → Depends links rows table p table r
  | child {l : Link T C} {r q : Row C} : l ∈ links → r ∈ rows l.child →
      Depends links rows table p l.parent q → l.refers r q → Depends links rows table p l.child r

theorem Depends.mem (h : Depends links rows table p t r) : r ∈ rows t := by
  cases h with
  | root hr _ => exact hr
  | child _ hr _ _ => exact hr

theorem depends_iff : Depends links rows table p t r ↔ r ∈ rows t ∧ (t = table ∧ p r ∨
      ∃ l ∈ links, l.child = t ∧ ∃ q, Depends links rows table p l.parent q ∧ l.refers r q) := by
  constructor
  · intro h
    refine ⟨h.mem,?_⟩
    cases h with
    | root _ hp => exact .inl ⟨rfl,hp⟩
    | child hl _ hd href => exact .inr ⟨_,hl,rfl,_,hd,href⟩
  · rintro ⟨hr,⟨rfl,hp⟩ | ⟨l,hl,rfl,q,hd,href⟩⟩
    · exact .root hr hp
    · exact .child hl hr hd href

theorem Depends.mono (hl : links ⊆ links') (h : Depends links rows table p t r) :
    Depends links' rows table p t r := by
  induction h with
  | root hr hp => exact .root hr hp
  | child hmem hr _ href ih => exact .child (hl hmem) hr ih href

theorem Link.Holds.refers {l : Link T C} (h : l.Holds rows)
    (hr : r ∈ rows l.child) (hn : r l.column ≠ .null) : ∃ q ∈ rows l.parent, l.refers r q := by
  obtain ⟨q,hq,he⟩ := h r hr hn
  exact ⟨q,hq,hn,he⟩

/-- The constraints inside a table survive the loss of some of its rows. -/
theorem TableDef.Accepts.sublist (h : d.Accepts rs) (hs : qs.Sublist rs) : d.Accepts qs := by
  obtain ⟨hnull,hkey,huniq⟩ := h
  refine ⟨?_,?_,?_⟩
  · intro c hc hn r hr
    exact hnull c hc hn r (hs.subset hr)
  · intro r hr
    exact hkey r (hs.subset hr)
  · intro u hu
    exact (huniq u hu).sublist hs

/-- Rows may go when whatever refers to one of them goes as well. -/
theorem Valid.filter (h : Valid s rows) (keep : T → Row C → Bool)
    (hclosed : ∀ l ∈ s.links, ∀ r ∈ rows l.child, ∀ q ∈ rows l.parent, l.refers r q →
      keep l.child r = true → keep l.parent q = true) : Valid s fun t => (rows t).filter (keep t) := by
  refine ⟨?_,?_⟩
  · intro d hd
    exact (h.1 d hd).sublist filter_sublist
  · intro l hl r hr hn
    obtain ⟨hr,hk⟩ := mem_filter.mp hr
    obtain ⟨q,hq,href⟩ := (h.2 l hl).refers hr hn
    exact ⟨q,mem_filter.mpr ⟨hq,hclosed l hl r hr q hq href hk⟩,href.2⟩

theorem Schema.cascades_subset (s : Schema T C I) : s.cascades ⊆ s.links := by
  intro l hl
  obtain ⟨d,hd,hl⟩ := mem_flatMap.mp hl
  obtain ⟨k,hk,rfl⟩ := mem_map.mp hl
  exact mem_flatMap.mpr ⟨d,hd,mem_map.mpr ⟨k,(mem_filter.mp hk).1,rfl⟩⟩

theorem Clash.symm (h : Clash u r q) : Clash u q r := fun c hc => ⟨(h c hc).2 ▸ (h c hc).1,(h c hc).2.symm⟩

theorem Value.ne_null_of_isInt {v : Value} (h : v.isInt = true) : v ≠ .null := by
  rintro rfl
  cases h

theorem eq_of_not_clash (h : rs.Pairwise fun r q => ¬ Clash [c] r q) (hr : r ∈ rs) (hq : q ∈ rs)
    (hn : r c ≠ .null) (he : r c = q c) : r = q := by
  by_contra hne
  have : Std.Symm fun a b : Row C => ¬ Clash [c] a b := ⟨fun _ _ hab hba => hab hba.symm⟩
  refine h.forall hr hq hne fun c' hc => ?_
  cases mem_singleton.mp hc
  exact ⟨hn,he⟩

theorem TableDef.Accepts.eq_of_key (h : d.Accepts rs) (hr : r ∈ rs) (hq : q ∈ rs) (he : r d.key = q d.key) : r = q := by
  obtain ⟨-,hkey,huniq⟩ := h
  exact eq_of_not_clash (huniq _ mem_cons_self) hr hq (Value.ne_null_of_isInt (hkey r hr)) he

variable [DecidableEq T]

theorem State.exec_eq_some [DecidableEq C] [DecidableEq I] :
    db.exec stmt = some db' ↔ db.schema.alter stmt = some db'.schema ∧ db'.rows = db.schema.move db.rows stmt ∧
      Valid (stmt.checked db.schema db'.schema) db'.rows := by
  constructor
  · intro h
    obtain ⟨schema,hs,h⟩ := Option.bind_eq_some_iff.mp h
    split at h
    case isTrue hv =>
      cases h
      exact ⟨hs,rfl,hv⟩
    case isFalse => cases h
  · rintro ⟨hs,hr,hv⟩
    refine Option.bind_eq_some_iff.mpr ⟨db'.schema,hs,?_⟩
    rw [← hr,if_pos hv]

section Cascade
variable {p : Row C → Bool} {n : Nat}

theorem doomed_mono (h : n ≤ m)
    (hd : doomed links rows table p n t r = true) : doomed links rows table p m t r = true := by
  induction h with
  | refl => exact hd
  | step _ ih => rw [doomed,ih,Bool.true_or]

theorem Depends.of_doomed (hr : r ∈ rows t) (h : doomed links rows table p n t r = true) :
    Depends links rows table (fun r => p r = true) t r := by
  induction n generalizing t r with
  | zero =>
    simp only [doomed,Bool.and_eq_true,decide_eq_true_eq] at h
    obtain ⟨rfl,hp⟩ := h
    exact .root hr hp
  | succ n ih =>
    simp only [doomed,Bool.or_eq_true,any_eq_true,Bool.and_eq_true,decide_eq_true_eq] at h
    rcases h with h | ⟨l,hl,rfl,q,hq,hd,href⟩
    · exact ih hr h
    · exact .child hl hr (ih hq hd) href

/-- Where every link leads from a rank to a lower one, the rank is enough rounds. -/
theorem Depends.doomed (rank : T → Nat) (hrank : ∀ l ∈ links, rank l.parent < rank l.child)
    (h : Depends links rows table (fun r => p r = true) t r) : doomed links rows table p (rank t) t r = true := by
  induction h with
  | root _ hp =>
    refine doomed_mono (Nat.zero_le _) ?_
    simp [Sql.doomed,hp]
  | child hl hr hd href ih =>
    refine doomed_mono (Nat.succ_le_of_lt (hrank _ hl)) ?_
    rw [Sql.doomed,Bool.or_eq_true,any_eq_true]
    refine .inr ⟨_,hl,?_⟩
    simp only [decide_true,Bool.true_and,any_eq_true,Bool.and_eq_true,decide_eq_true_eq]
    exact ⟨_,hd.mem,ih,href⟩

theorem doomed_nil : doomed [] rows table p n t r = (decide (t = table) && p r) := by
  induction n with
  | zero => rfl
  | succ n ih => rw [doomed,ih,any_nil,Bool.or_false]

open Classical in
theorem filter_doomed (rank : T → Nat) (hrank : ∀ l ∈ links, rank l.parent < rank l.child) (hn : rank t ≤ n) :
    (rows t).filter (fun r => !doomed links rows table p n t r) =
      (rows t).filter fun r => ¬ Depends links rows table (fun r => p r = true) t r := by
  refine filter_congr ?_
  intro r hr
  rw [Bool.eq_iff_iff,Bool.not_eq_true',Bool.eq_false_iff,decide_eq_true_eq]
  exact not_congr ⟨Depends.of_doomed hr,fun h => doomed_mono hn (h.doomed rank hrank)⟩

open Classical in
/-- Where every reference cascades, a delete succeeds and takes all that depends on its rows. -/
theorem cascade_succeeds [DecidableEq C] [DecidableEq I] (hv : Valid db.schema db.rows)
    (hhas : db.schema.has table = true) (hall : db.schema.links ⊆ db.schema.cascades) (rank : T → Nat)
    (hrank : ∀ l ∈ db.schema.links, rank l.parent < rank l.child) (hle : ∀ t, rank t ≤ db.schema.tables.length)
    (condition : Rows T C → Row C → Bool) :
    ∃ db', db.exec (.delete table condition) = some db' ∧ db'.schema = db.schema ∧
      ∀ t, db'.rows t = (db.rows t).filter fun r =>
        ¬ Depends db.schema.links db.rows table (fun r => condition db.rows r = true) t r := by
  have hmove : db.schema.move db.rows (.delete table condition) = fun t => (db.rows t).filter fun r =>
      ¬ Depends db.schema.links db.rows table (fun r => condition db.rows r = true) t r := by
    funext t
    refine (filter_doomed rank (fun l hl => hrank l (db.schema.cascades_subset hl)) (hle t)).trans ?_
    refine filter_congr fun r _ => ?_
    rw [decide_eq_decide]
    exact not_congr ⟨Depends.mono db.schema.cascades_subset,Depends.mono hall⟩
  refine ⟨⟨db.schema,_⟩,State.exec_eq_some.mpr ⟨?_,hmove.symm,?_⟩,rfl,fun _ => rfl⟩
  · rw [Schema.alter,if_pos hhas]
  refine hv.filter _ ?_
  intro l hl r hr q _ href hkeep
  simp only [decide_eq_true_eq] at hkeep ⊢
  exact fun hd => hkeep (.child hl hr hd href)

end Cascade

section Sequence

/-- One `DELETE FROM table WHERE condition`. -/
structure Delete (T C : Type) where
  table : T
  condition : Rows T C → Row C → Bool

def Delete.stmt (d : Delete T C) : Stmt T C I := .delete d.table d.condition

/-- The rows left once the tables of `done` have lost the rows that are to go. -/
def strip (gone : T → Row C → Bool) (rows : Rows T C) (done : List T) : Rows T C :=
  fun t => (rows t).filter fun r => !(decide (t ∈ done) && gone t r)

/-- Each table comes after those that refer to it, up to the tables of `spared`. -/
def inOrder (links : List (Link T C)) (spared : List T) : List T → List T → Bool
  | _, [] => true
  | done, t :: ts =>
    links.all (fun l => l.parent ≠ t || l.child ∈ t :: done || l.child ∈ spared) && inOrder links spared (t :: done) ts

variable (s : Schema T C I) (gone : T → Row C → Bool) (rows : Rows T C)

/-- What refers to a table of `done` was stripped before it, or loses nothing. -/
def Settled (done : List T) : Prop :=
  ∀ l ∈ s.links, l.parent ∈ done → l.child ∈ done ∨ ∀ r ∈ rows l.child, gone l.child r = false

/-- Each delete names the rows of its table that are to go. -/
def Clears : List T → List (Delete T C) → Prop
  | _, [] => True
  | done, d :: ds =>
    (∀ r ∈ rows d.table, d.condition (strip gone rows done) r = gone d.table r) ∧ Clears (d.table :: done) ds

variable {s gone rows} {done spared : List T} {ds : List (Delete T C)}

theorem strip_nil : strip gone rows [] = rows := by
  funext t
  simp [strip]

theorem strip_cons : strip gone rows (t :: done) u =
      (strip gone rows done u).filter fun r => !(decide (u = t) && gone u r) := by
  rw [strip,strip,filter_filter]
  congr 1
  funext r
  by_cases h : u = t
  · simp only [h]
    cases gone t r <;> simp
  · simp [h]

theorem strip_of_not_mem (h : t ∉ done) : strip gone rows done t = rows t := by simp [strip,h]

theorem Settled.cons (h : Settled s gone rows done)
    (ht : s.links.all (fun l => l.parent ≠ t || l.child ∈ t :: done || l.child ∈ spared) = true)
    (hs : ∀ u ∈ spared, ∀ r ∈ rows u, gone u r = false) : Settled s gone rows (t :: done) := by
  intro l hl hp
  rcases mem_cons.mp hp with hp | hp
  · have := all_eq_true.mp ht l hl
    simp only [hp,ne_eq,not_true_eq_false,decide_false,Bool.false_or,Bool.or_eq_true,decide_eq_true_eq] at this
    exact this.imp_right (hs l.child)
  · exact (h l hl hp).imp_left (mem_cons_of_mem _)

theorem Valid.strip (hv : Valid s rows)
    (hclosed : ∀ l ∈ s.links, ∀ r ∈ rows l.child, ∀ q ∈ rows l.parent, l.refers r q →
      gone l.parent q = true → gone l.child r = true) (hdone : Settled s gone rows done) :
    Valid s (strip gone rows done) := by
  refine hv.filter _ ?_
  intro l hl r hr q hq href hkeep
  by_contra hn
  simp only [Bool.not_eq_true,Bool.not_eq_false',Bool.and_eq_true,decide_eq_true_eq] at hn
  have hgone := hclosed l hl r hr q hq href hn.2
  rcases hdone l hl hn.1 with hchild | hnone
  · simp [hchild,hgone] at hkeep
  · rw [hnone r hr] at hgone
    cases hgone

variable [DecidableEq C]

theorem move_delete (hc : s.cascades = []) (d : Delete T C) (t : T) : s.move rows d.stmt t =
      (rows t).filter fun r => !(decide (t = d.table) && d.condition rows r) := by
  rw [Delete.stmt,Schema.move,hc]
  simp [doomed_nil]

theorem deletes_succeed [DecidableEq I] (hc : s.cascades = []) (hv : Valid s rows)
    (hclosed : ∀ l ∈ s.links, ∀ r ∈ rows l.child, ∀ q ∈ rows l.parent, l.refers r q →
      gone l.parent q = true → gone l.child r = true) (hs : ∀ u ∈ spared, ∀ r ∈ rows u, gone u r = false)
    (hdone : Settled s gone rows done) (hhas : ∀ d ∈ ds, s.has d.table = true)
    (horder : inOrder s.links spared done (ds.map (·.table)) = true) (h : Clears gone rows done ds) :
    State.transaction ⟨s,strip gone rows done⟩ (ds.map Delete.stmt) =
      some ⟨s,strip gone rows ((ds.map (·.table)).reverse ++ done)⟩ := by
  induction ds generalizing done with
  | nil => rfl
  | cons d ds ih =>
    obtain ⟨hcond,hrest⟩ := h
    rw [map_cons,inOrder,Bool.and_eq_true] at horder
    have hset := hdone.cons horder.1 hs
    have hmove : s.move (strip gone rows done) d.stmt = strip gone rows (d.table :: done) := by
      funext t
      rw [move_delete hc,strip_cons]
      refine filter_congr ?_
      intro r hr
      by_cases ht : t = d.table
      · subst ht
        rw [hcond r (mem_filter.mp hr).1]
      · simp [ht]
    have hexec : State.exec ⟨s,strip gone rows done⟩ d.stmt = some ⟨s,strip gone rows (d.table :: done)⟩ := by
      refine State.exec_eq_some.mpr ⟨?_,hmove.symm,hv.strip hclosed hset⟩
      simp [Delete.stmt,Schema.alter,hhas d mem_cons_self]
    have hrun := ih hset (fun e he => hhas e (mem_cons_of_mem _ he)) horder.2 hrest
    rw [State.transaction] at hrun ⊢
    rw [map_cons,Runs.run,hexec,Option.bind_some,hrun]
    simp

theorem deletes_keep [DecidableEq I] (hc : db.schema.cascades = [])
    (h : db.transaction (ds.map Delete.stmt) = some db') (hr : r ∈ db.rows t)
    (hkeep : ∀ d ∈ ds, d.table = t → ∀ rows, d.condition rows r = false) : r ∈ db'.rows t := by
  induction ds generalizing db with
  | nil =>
    cases h
    exact hr
  | cons d ds ih =>
    obtain ⟨u,hu,hrest⟩ := Option.bind_eq_some_iff.mp h
    obtain ⟨ha,hm,-⟩ := State.exec_eq_some.mp hu
    have hschema : db.schema = u.schema := by
      simp only [Delete.stmt,Schema.alter,Option.ite_none_right_eq_some,Option.some.injEq] at ha
      exact ha.2
    refine ih (hschema ▸ hc) hrest ?_ fun e he => hkeep e (mem_cons_of_mem _ he)
    rw [hm,move_delete hc]
    refine mem_filter.mpr ⟨hr,?_⟩
    by_cases ht : t = d.table
    · simp [hkeep d mem_cons_self ht.symm]
    · simp [ht]

end Sequence

end Sake.Lib.Sql
