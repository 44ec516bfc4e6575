import Sake.Lib.SqlDelete

namespace Sake.Lib.Sql
open List Schema Schema Function

variable {T C I : Type} {s' s : Schema T C I} {t : T} {stmt : Stmt T C I} {rows : Rows T C}

theorem Schema.mem_links : l ∈ s.links ↔ ∃ d ∈ s.tables, ∃ k ∈ d.foreignKeys, k.link d.name = l := by
  simp [links,TableDef.links]

theorem Valid.mono (h : Valid s rows) (hs : s'.tables ⊆ s.tables) : Valid s' rows := by
  refine ⟨fun d hd => h.1 d (hs hd),?_⟩
  intro l hl
  obtain ⟨d,hd,k,hk,rfl⟩ := mem_links.mp hl
  exact h.2 _ (mem_links.mpr ⟨d,hs hd,k,hk,rfl⟩)

variable [DecidableEq T]

theorem Schema.has_eq_true : s.has t = true ↔ ∃ d ∈ s.tables, d.name = t := by simp [has]

theorem Schema.has_eq_false : s.has t = false ↔ ∀ d ∈ s.tables, d.name ≠ t := by simp [has]

theorem Schema.ne_of_has (ht : s.has t = false) (hu : s.has u = true) : t ≠ u := by
  rintro rfl
  rw [hu] at ht
  cases ht

/-- The schema with one more column. -/
def Schema.extended (s : Schema T C I) (table : T) (c : Column C) (k : Option (ForeignKey T C)) : Schema T C I :=
  { s with tables := s.tables.map fun d => if d.name = table then d.addColumn c k else d }

variable [DecidableEq C] [DecidableEq I]

/-- What a statement makes of a schema, and what has to hold for it. -/
inductive Schema.Altered (s : Schema T C I) : Stmt T C I → Schema T C I → Prop
  | createTable {d} (fresh : s.has d.name = false) : Altered s (.createTable d) { s with tables := s.tables ++ [d] }
  | addColumn {table c k} (may : s.mayAdd table c k = true) : Altered s (.addColumn table c k) (s.extended table c k)
  | dropTable {table} : Altered s (.dropTable table) { s with
      tables := s.tables.filter fun d => d.name ≠ table
      indexes := s.indexes.filter fun i => i.table ≠ table }
  | renameTable {table new} (has : s.has table = true) (fresh : s.has new = false) :
      Altered s (.renameTable table new) { s with
        tables := s.tables.map (·.rename table new)
        indexes := s.indexes.map fun i => if i.table = table then { i with table := new } else i }
  | createIndex {i} : Altered s (.createIndex i) { s with indexes := s.indexes ++ [i] }
  | createSearch {f} : Altered s (.createSearch f) { s with searches := s.searches ++ [f] }
  | insert {table query} (has : s.has table = true) : Altered s (.insert table query) s
  | update {table c value} (has : s.has table = true) : Altered s (.update table c value) s
  | delete {table condition} : Altered s (.delete table condition) s

theorem Schema.altered (h : s.alter stmt = some s') : s.Altered stmt s' := by
  cases stmt with
  | createTable | createSearch =>
    obtain ⟨hc,he⟩ := Option.ite_none_left_eq_some.mp h
    cases he
    constructor <;> exact Bool.not_eq_true _ ▸ hc
  | renameTable =>
    obtain ⟨hc,he⟩ := Option.ite_none_right_eq_some.mp h
    cases he
    exact .renameTable (Bool.and_eq_true_iff.mp hc).1 (Bool.not_eq_true' _ ▸ (Bool.and_eq_true_iff.mp hc).2)
  | _ =>
    obtain ⟨hc,he⟩ := Option.ite_none_right_eq_some.mp h
    cases he
    constructor <;> exact hc

theorem move_absent (habs : ∀ t, s.has t = false → rows t = []) (ha : s.alter stmt = some s') (ht : s'.has t = false) :
    s.move rows stmt t = [] := by
  cases altered ha with
  | createTable =>
    refine habs t (has_eq_false.mpr fun d hd => ?_)
    exact has_eq_false.mp ht d (mem_append_left _ hd)
  | @addColumn table c k =>
    have hrows : rows t = [] := by
      refine habs t (has_eq_false.mpr fun d hd => ?_)
      have := has_eq_false.mp ht _ (mem_map_of_mem hd)
      split at this <;> exact this
    by_cases he : t = table
    · subst he
      simp [move,hrows]
    · simp [move,he,hrows]
  | @dropTable table =>
    by_cases he : t = table
    · subst he
      simp [move]
    · have hrows : rows t = [] := by
        refine habs t (has_eq_false.mpr fun d hd hn => ?_)
        exact has_eq_false.mp ht d (mem_filter.mpr ⟨hd,by simp [hn,he]⟩) hn
      simp [move,he,hrows]
  | @renameTable table new hhas =>
    by_cases he : t = table
    · subst he
      simp [move]
    have hnew : t ≠ new := by
      rintro rfl
      obtain ⟨d,hd,rfl⟩ := has_eq_true.mp hhas
      exact has_eq_false.mp ht _ (mem_map_of_mem hd) (by simp [TableDef.rename])
    have hrows : rows t = [] := by
      refine habs t (has_eq_false.mpr fun d hd hn => ?_)
      refine has_eq_false.mp ht _ (mem_map_of_mem hd) ?_
      simp [TableDef.rename,hn,he]
    simp [move,he,hnew,hrows]
  | createIndex | createSearch => exact habs t ht
  | insert hhas | update hhas => simp [move,ne_of_has ht hhas,habs t ht]
  | delete => simp [move,habs t ht]

theorem State.exec_sound {db : State T C I} (h : db.Sound) (he : db.exec stmt = some db') : db'.Sound := by
  obtain ⟨ha,hr,hv⟩ := State.exec_eq_some.mp he
  refine ⟨?_,?_⟩
  · generalize db'.schema = s' at ha hv
    cases altered ha with
    | dropTable =>
      -- checked while the table was there
      exact Valid.mono hv (filter_subset_self _)
    | _ => exact hv
  · intro t ht
    rw [hr]
    exact move_absent h.absent ha ht

section Rewrite
variable {table : T} {c : C} {f : Row C → Row C}

omit [DecidableEq I] in
/-- The rows of one table, changed in one column that is no key. -/
theorem Valid.rewrite (h : Valid s rows) (hf : ∀ r c', c' ≠ c → f r c' = r c')
    (hkey : ∀ d ∈ s.tables, d.name = table → d.key ≠ c ∧ ∀ u ∈ d.unique, c ∉ u)
    (hparent : ∀ l ∈ s.links, l.parent = table → l.key ≠ c)
    (hnull : ∀ d ∈ s.tables, d.name = table → ∀ k ∈ d.columns, k.name = c → k.notNull = true →
      ∀ r ∈ rows table, f r c ≠ .null)
    (hrefer : ∀ l ∈ s.links, l.child = table → l.column = c → ∀ r ∈ rows table, f r c ≠ .null →
      ∃ q ∈ rows l.parent, f r c = q l.key) : Valid s (update rows table ((rows table).map f)) := by
  have hsame : ∀ t ≠ table, update rows table ((rows table).map f) t = rows t := fun t ht => update_of_ne ht _ _
  refine ⟨fun d hd => ?_,fun l hl => ?_⟩
  · by_cases ht : d.name = table
    · obtain ⟨hn,hk,hu⟩ := h.1 d hd
      rw [ht,update_self]
      rw [ht] at hn hk hu
      refine ⟨?_,?_,?_⟩
      · intro k hkc hreq r hr
        obtain ⟨q,hq,rfl⟩ := mem_map.mp hr
        by_cases hc : k.name = c
        · exact hc ▸ hnull d hd ht k hkc hc hreq q hq
        · rw [hf q _ hc]
          exact hn k hkc hreq q hq
      · intro r hr
        obtain ⟨q,hq,rfl⟩ := mem_map.mp hr
        rw [hf q _ (hkey d hd ht).1]
        exact hk q hq
      · intro u hmem
        have hcu : ∀ c' ∈ u, c' ≠ c := by
          intro c' hc' he
          rcases mem_cons.mp hmem with rfl | hmem
          · exact (hkey d hd ht).1 (mem_singleton.mp hc' ▸ he)
          · exact (hkey d hd ht).2 u hmem (he ▸ hc')
        refine pairwise_map.mpr ((hu u hmem).imp fun {a b} hab hclash => hab fun c' hc' => ?_)
        have := hclash c' hc'
        rwa [hf a _ (hcu c' hc'),hf b _ (hcu c' hc')] at this
    · rw [hsame _ ht]
      exact h.1 d hd
  · have hpar : ∀ q ∈ rows l.parent,
        ∃ q' ∈ update rows table ((rows table).map f) l.parent, q l.key = q' l.key := by
      intro q hq
      by_cases hp : l.parent = table
      · refine ⟨f q,?_,(hf q _ (hparent l hl hp)).symm⟩
        rw [hp,update_self]
        exact mem_map_of_mem (hp ▸ hq)
      · exact ⟨q,by rwa [hsame _ hp],rfl⟩
    intro r hr hn
    suffices hold : ∃ q ∈ rows l.parent, r l.column = q l.key by
      obtain ⟨q,hq,he⟩ := hold
      obtain ⟨q',hq',he'⟩ := hpar q hq
      exact ⟨q',hq',he.trans he'⟩
    by_cases ht : l.child = table
    · rw [ht,update_self] at hr
      obtain ⟨q,hq,rfl⟩ := mem_map.mp hr
      by_cases hc : l.column = c
      · exact hc ▸ hrefer l hl ht hc q hq (hc ▸ hn)
      · rw [hf q _ hc] at hn ⊢
        exact h.2 l hl q (ht ▸ hq) hn
    · rw [hsame _ ht] at hr
      exact h.2 l hl r hr hn

end Rewrite

end Sake.Lib.Sql
