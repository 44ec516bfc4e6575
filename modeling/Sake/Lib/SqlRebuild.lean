import Sake.Lib.SqlMigrate

namespace Sake.Lib.Sql
open List Option Function Schema State TableDef Schema ForeignKey Function

variable {T C I : Type} {table new t : T} {s s' : Schema T C I} {db db' : State T C I}
  {d : TableDef T C}

/-- The rows of a rebuilt table meet its constraints because the old ones met theirs. -/
theorem TableDef.accepts_of_forall₂ (h : List.Forall₂ R rs rs')
    (hnull : ∀ c ∈ d.columns, c.notNull = true → ∀ r ∈ rs, ∀ r', R r r' → r' c.name ≠ .null)
    (hkey : ∀ r ∈ rs, ∀ r', R r r' → (r' d.key).isInt = true)
    (huniq : ∀ u ∈ [d.key] :: d.unique, ∃ v, rs.Pairwise (fun r q => ¬ Clash v r q) ∧
      ∀ r ∈ rs, ∀ q ∈ rs, ∀ r' q', R r r' → R q q' → Clash u r' q' → Clash v r q) : d.Accepts rs' := by
  have hback : ∀ r' ∈ rs', ∃ r ∈ rs, R r r' := by
    intro r' hr'
    obtain ⟨i,hi,rfl⟩ := mem_iff_getElem.mp hr'
    have hi' : i < rs.length := h.length_eq ▸ hi
    exact ⟨rs[i],getElem_mem hi',h.get hi' hi⟩
  refine ⟨?_,?_,?_⟩
  · intro c hc hn r' hr'
    obtain ⟨r,hr,hrr⟩ := hback r' hr'
    exact hnull c hc hn r hr r' hrr
  · intro r' hr'
    obtain ⟨r,hr,hrr⟩ := hback r' hr'
    exact hkey r hr r' hrr
  intro u hu
  obtain ⟨v,hv,hclash⟩ := huniq u hu
  rw [pairwise_iff_getElem] at hv ⊢
  intro i j hi hj hij hc
  have hi' : i < rs.length := h.length_eq ▸ hi
  have hj' : j < rs.length := h.length_eq ▸ hj
  exact hv i j hi' hj' hij (hclash _ (getElem_mem hi') _ (getElem_mem hj') _ _ (h.get hi' hi) (h.get hj' hj) hc)

variable [DecidableEq T]

variable [DecidableEq C]

theorem move_rename {rows : Rows T C} (hne : table ≠ new) (ht : t ≠ new) :
    s.move rows (.renameTable table new) (if t = table then new else t) = rows t := by
  by_cases he : t = table
  · rw [he]
    simp [move,hne.symm]
  · simp [move,he,ht]

theorem valid_rename (h : db.Sound) (hhas : db.schema.has table = true) (hnew : db.schema.has new = false)
    (indexes : List (Index T C I)) (searches : List (Search T C)) :
    Valid ⟨db.schema.tables.map (·.rename table new),indexes,searches⟩
      (db.schema.move db.rows (.renameTable table new)) := by
  have hne : table ≠ new := (ne_of_has hnew hhas).symm
  have hnames : ∀ d ∈ db.schema.tables, d.name ≠ new := has_eq_false.mp hnew
  refine ⟨fun d' hd' => ?_,fun l hl => ?_⟩
  · obtain ⟨d,hd,rfl⟩ := mem_map.mp hd'
    rw [TableDef.rename,move_rename hne (hnames d hd)]
    exact h.valid.1 d hd
  obtain ⟨d',hd',k',hk',rfl⟩ := mem_links.mp hl
  obtain ⟨d,hd,rfl⟩ := mem_map.mp hd'
  obtain ⟨k,hk,rfl⟩ := mem_map.mp hk'
  intro r hr hn
  have hcol : ((k.rename table new).link (d.rename table new).name).column = k.column := by
    rw [ForeignKey.rename]
    split <;> rfl
  have hkey : ((k.rename table new).link (d.rename table new).name).key = k.key := by
    rw [ForeignKey.rename]
    split <;> rfl
  have hpar : ((k.rename table new).link (d.rename table new).name).parent =
      if k.parent = table then new else k.parent := by
    rw [ForeignKey.rename]
    split <;> rfl
  have hrows : db.schema.move db.rows (.renameTable table new) (d.rename table new).name =
      db.rows d.name := move_rename hne (hnames d hd)
  have hr : r ∈ db.rows d.name := hrows ▸ hr
  rw [hcol] at hn ⊢
  rw [hkey,hpar]
  obtain ⟨q,hq,he⟩ := h.valid.2 _ (mem_links.mpr ⟨d,hd,k,hk,rfl⟩) r hr hn
  have hkp : k.parent ≠ new := by
    intro hp
    rw [ForeignKey.link,hp,h.absent new hnew] at hq
    exact absurd hq not_mem_nil
  rw [move_rename hne hkp]
  exact ⟨q,hq,he⟩

theorem State.exec_rename [DecidableEq I] (h : db.Sound) (ha : db.schema.alter (.renameTable table new) = some s) :
    db.exec (.renameTable table new) = some ⟨s,db.schema.move db.rows (.renameTable table new)⟩ := by
  refine exec_eq_some.mpr ⟨ha,rfl,?_⟩
  cases altered ha with
  | renameTable hhas hnew => exact valid_rename h hhas hnew _ _

theorem Schema.has_drop [DecidableEq I]
    (ha : s.alter (.dropTable table) = some s') : s'.has t = true ↔ s.has t = true ∧ t ≠ table := by
  cases altered ha
  simp only [has_eq_true,mem_filter,decide_eq_true_eq,and_assoc]
  constructor
  · rintro ⟨d,hd,hne,rfl⟩
    exact ⟨⟨d,hd,rfl⟩,hne⟩
  · rintro ⟨⟨d,hd,rfl⟩,hne⟩
    exact ⟨d,hd,hne,rfl⟩

/-- The new table can take the place of the old one, as far as references from it go. -/
structure Rebuildable (db : State T C I) (table : T) (d : TableDef T C)
    (query : Rows T C → List (Row C)) : Prop where
  has : db.schema.has table = true
  fresh : db.schema.has d.name = false
  apart : ∀ l ∈ db.schema.links, l.parent ≠ d.name ∧ (l.parent = table → l.child ≠ table)
  outward : ∀ k ∈ d.foreignKeys, k.parent ≠ table ∧ k.parent ≠ d.name
  accepts : d.Accepts (query db.rows)
  holds : ∀ k ∈ d.foreignKeys, ∀ r ∈ query db.rows, r k.column ≠ .null → ∃ q ∈ db.rows k.parent, r k.column = q k.key

section Rebuild
variable {query : Rows T C → List (Row C)} {l : Link T C}

/-- The schema with both tables. -/
def Schema.both (s : Schema T C I) (d : TableDef T C) : Schema T C I := { s with tables := s.tables ++ [d] }

omit [DecidableEq T] [DecidableEq C] in
theorem mem_links_both : l ∈ (s.both d).links ↔ l ∈ s.links ∨ ∃ k ∈ d.foreignKeys, k.link d.name = l := by
  simp [mem_links,both,mem_append,mem_singleton,or_and_right,exists_or,exists_eq_left]

omit [DecidableEq C] in
theorem child_ne (ht : s.has t = false) (hl : l ∈ s.links) : l.child ≠ t := by
  obtain ⟨e,he,k,-,rfl⟩ := mem_links.mp hl
  exact has_eq_false.mp ht e he

omit [DecidableEq C] in
theorem valid_filled (h : db.Sound) (hr : Rebuildable db table d query) :
    Valid (db.schema.both d) (update db.rows d.name (query db.rows)) := by
  refine ⟨fun e he => ?_,fun l hl => ?_⟩
  · rcases mem_append.mp he with he | he
    · rw [update_of_ne (has_eq_false.mp hr.fresh e he)]
      exact h.valid.1 e he
    · cases mem_singleton.mp he
      rw [update_self]
      exact hr.accepts
  · rcases mem_links_both.mp hl with hl | ⟨k,hk,rfl⟩
    · intro r hmem hn
      rw [update_of_ne (child_ne hr.fresh hl)] at hmem
      rw [update_of_ne (hr.apart l hl).1]
      exact h.valid.2 l hl r hmem hn
    · intro r hmem hn
      rw [link,update_self] at hmem
      rw [link,update_of_ne (hr.outward k hk).2]
      exact hr.holds k hk r hmem hn

omit [DecidableEq C] in
/-- The old table can be emptied if nothing refers to it. -/
theorem valid_emptied (h : db.Sound) (hr : Rebuildable db table d query) (hu : db.Unreferenced table) :
    Valid (db.schema.both d)
      (update (update db.rows d.name (query db.rows)) table []) := by
  have hfilled := valid_filled h hr
  refine ⟨fun e he => ?_,fun l hl r hmem hn => ?_⟩
  · by_cases ht : e.name = table
    · rw [ht,update_self]
      exact e.accepts_nil
    · rw [update_of_ne ht]
      exact hfilled.1 e he
  · have hchild : l.child ≠ table := by
      intro hc
      rw [hc,update_self] at hmem
      exact absurd hmem not_mem_nil
    rw [update_of_ne hchild] at hmem
    have hparent : l.parent ≠ table := by
      intro hp
      rcases mem_links_both.mp hl with hl | ⟨k,hk,rfl⟩
      · rw [update_of_ne (child_ne hr.fresh hl)] at hmem
        exact hn (hu l hl hp r hmem)
      · exact (hr.outward k hk).1 hp
    rw [update_of_ne hparent]
    exact hfilled.2 l hl r hmem hn

variable [DecidableEq I]

theorem rebuild_succeeds (h : db.Sound) (hr : Rebuildable db table d query) (hu : db.Unreferenced table) :
    ∃ db', db.transaction (rebuild table d query) = some db' ∧
      db.schema.alters (rebuild table d query) = some db'.schema ∧ db'.Sound ∧
      db'.rows table = query db.rows ∧ ∀ t, t ≠ table → t ≠ d.name → db'.rows t = db.rows t := by
  have hne : d.name ≠ table := ne_of_has hr.fresh hr.has
  have hmem : d ∈ (db.schema.both d).tables := mem_append_right _ (mem_singleton_self d)
  have hboth : (db.schema.both d).has d.name = true := has_eq_true.mpr ⟨d,hmem,rfl⟩
  have hhas : (db.schema.both d).has table = true := by
    obtain ⟨e,he,hn⟩ := has_eq_true.mp hr.has
    exact has_eq_true.mpr ⟨e,mem_append_left _ he,hn⟩
  have hrows : db.rows d.name ++ query db.rows = query db.rows := by rw [h.absent _ hr.fresh,nil_append]
  have h₁ : db.exec (.createTable d) = some ⟨db.schema.both d,db.rows⟩ :=
    exec_grows h rfl (by simp [alter,hr.fresh,both])
  have h₂ : State.exec ⟨db.schema.both d,db.rows⟩ (.insert d.name query) =
      some ⟨db.schema.both d,update db.rows d.name (query db.rows)⟩ := by
    refine exec_eq_some.mpr ⟨by simp [alter,hboth],?_,valid_filled h hr⟩
    simp [move,hrows]
  obtain ⟨s₃,hs₃⟩ : ∃ s₃, (db.schema.both d).alter (.dropTable table) = some s₃ := by simp [alter,hhas]
  have h₃ : State.exec ⟨db.schema.both d,update db.rows d.name (query db.rows)⟩ (.dropTable table) =
        some ⟨s₃,update (update db.rows d.name (query db.rows)) table []⟩ :=
    exec_eq_some.mpr ⟨hs₃,rfl,valid_emptied h hr hu⟩
  have hsound := exec_sound (exec_sound (exec_sound h h₁) h₂) h₃
  obtain ⟨s₄,hs₄⟩ : ∃ s₄, s₃.alter (.renameTable d.name table) = some s₄ := by
    have hd : s₃.has d.name = true := (has_drop hs₃).mpr ⟨hboth,hne⟩
    have ht : s₃.has table = false := Bool.eq_false_iff.mpr fun ht => ((has_drop hs₃).mp ht).2 rfl
    simp [alter,hd,ht]
  have h₄ := exec_rename hsound hs₄
  refine ⟨_,?_,?_,exec_sound hsound h₄,?_,?_⟩
  · simp [State.transaction,rebuild,Runs.run,h₁,h₂,h₃,h₄]
  · have ha₁ : db.schema.alter (.createTable d) = some (db.schema.both d) := (exec_eq_some.mp h₁).1
    have ha₂ : (db.schema.both d).alter (.insert d.name query) = some (db.schema.both d) := (exec_eq_some.mp h₂).1
    simp [alters,rebuild,Runs.run,ha₁,ha₂,hs₃,hs₄]
  · simp [move,hne,hne.symm]
  · intro t ht hd
    simp [move,ht,hd]

/-- A rebuild that succeeds shows that nothing referred to the old table. -/
theorem unreferenced_of_rebuild (hr : Rebuildable db table d query)
    (hrun : db.transaction (rebuild table d query) = some db') : db.Unreferenced table := by
  obtain ⟨db₁,h₁,hrun⟩ := bind_eq_some_iff.mp hrun
  obtain ⟨db₂,h₂,hrun⟩ := bind_eq_some_iff.mp hrun
  obtain ⟨db₃,h₃,-⟩ := bind_eq_some_iff.mp hrun
  obtain ⟨ha₁,hr₁,-⟩ := exec_eq_some.mp h₁
  obtain ⟨ha₂,hr₂,-⟩ := exec_eq_some.mp h₂
  obtain ⟨-,hr₃,hv₃⟩ := exec_eq_some.mp h₃
  intro l hl hp r hmem
  by_contra hn
  have hlink : l ∈ db₂.schema.links := by
    generalize db₁.schema = s₁, db₂.schema = s₂ at ha₁ ha₂
    cases altered ha₁
    cases altered ha₂
    exact mem_links_both.mpr (.inl hl)
  have hrows : db₃.rows l.child = db.rows l.child := by
    rw [hr₃,hr₂,hr₁]
    simp [move,(hr.apart l hl).2 hp,child_ne hr.fresh hl]
  obtain ⟨q,hq,-⟩ := hv₃.2 l hlink r (hrows ▸ hmem) hn
  rw [hp,hr₃,move,update_self] at hq
  exact absurd hq not_mem_nil

theorem tables_rebuild (ha : s.alters (rebuild table d query) = some s') :
    s'.tables = ((s.tables ++ [d]).filter fun e => e.name ≠ table).map (·.rename d.name table) := by
  obtain ⟨s₁,h₁,ha⟩ := bind_eq_some_iff.mp ha
  obtain ⟨s₂,h₂,ha⟩ := bind_eq_some_iff.mp ha
  obtain ⟨s₃,h₃,ha⟩ := bind_eq_some_iff.mp ha
  obtain ⟨s₄,h₄,ha⟩ := bind_eq_some_iff.mp ha
  cases ha
  cases altered h₁
  cases altered h₂
  cases altered h₃
  cases altered h₄
  rfl

omit [DecidableEq C] [DecidableEq I] in
theorem TableDef.rename_of_name {e : TableDef T C} (h : e.name ≠ table) : (e.rename table new).name = e.name := if_neg h

omit [DecidableEq C] [DecidableEq I] in
theorem ForeignKey.rename_of_parent {k : ForeignKey T C} (h : k.parent ≠ table) : k.rename table new = k := if_neg h

variable (hr : Rebuildable db table d query) (ha : db.schema.alters (rebuild table d query) = some db'.schema)
  (hothers : ∀ t, t ≠ table → t ≠ d.name → db'.rows t = db.rows t)
include hr ha hothers

theorem unreferenced_rebuild (ht : t ≠ d.name) (hout : ∀ k ∈ d.foreignKeys, k.parent ≠ t)
    (hin : ∀ l ∈ db.schema.links, l.parent = t → l.child ≠ table) : db'.Unreferenced t ↔ db.Unreferenced t := by
  have htables := tables_rebuild ha
  refine ⟨fun hu l hl hp r hmem => ?_,fun hu l hl hp r hmem => ?_⟩
  · have hchild := child_ne hr.fresh hl
    have hold := hin l hl hp
    obtain ⟨e,he,k,hk,rfl⟩ := mem_links.mp hl
    refine hu (k.link e.name) (mem_links.mpr ⟨e.rename d.name table,?_,k,?_,?_⟩) hp r ?_
    · rw [htables]
      exact mem_map_of_mem (mem_filter.mpr ⟨mem_append_left _ he,decide_eq_true hold⟩)
    · refine mem_map.mpr ⟨k,hk,rename_of_parent ?_⟩
      exact fun h => ht (hp.symm.trans h)
    · rw [rename_of_name hchild]
    · rwa [hothers _ hold hchild]
  · obtain ⟨e',he',k',hk',rfl⟩ := mem_links.mp hl
    rw [htables] at he'
    obtain ⟨e,he,rfl⟩ := mem_map.mp he'
    obtain ⟨k,hk,rfl⟩ := mem_map.mp hk'
    obtain ⟨he,hold⟩ := mem_filter.mp he
    rcases mem_append.mp he with he | he
    · have hlink : k.link e.name ∈ db.schema.links := mem_links.mpr ⟨e,he,k,hk,rfl⟩
      have hchild := child_ne hr.fresh hlink
      rw [rename_of_parent (hr.apart _ hlink).1,rename_of_name hchild] at hp hmem ⊢
      have hsame : db'.rows e.name = db.rows e.name := hothers _ (of_decide_eq_true hold) hchild
      exact hu _ hlink hp r (hsame ▸ hmem)
    · cases mem_singleton.mp he
      rw [rename_of_parent (hr.outward k hk).2] at hp
      exact absurd hp (hout k hk)

theorem keeps_rebuild (hkeep : ∀ e ∈ db.schema.tables, e.name = table → table ∉ others →
      e.columns.map (·.name) ⊆ d.columns.map (·.name) ∧
        Carried (e.columns.map (·.name)) (db.rows table) (db'.rows table)) : Keeps others db db' := by
  have htables := tables_rebuild ha
  intro e he ho
  have hfresh : e.name ≠ d.name := has_eq_false.mp hr.fresh e he
  by_cases ht : e.name = table
  · obtain ⟨hcols,hrows⟩ := hkeep e he ht (ht ▸ ho)
    have hne : d.name ≠ table := fun h => hfresh (ht.trans h.symm)
    refine ⟨⟨d.rename d.name table,?_,(if_pos rfl).trans ht.symm,hcols⟩,ht ▸ hrows⟩
    rw [htables]
    refine mem_map_of_mem (mem_filter.mpr ⟨?_,by simpa using hne⟩)
    exact mem_append_right _ (mem_singleton_self d)
  · refine ⟨⟨e.rename d.name table,?_,rename_of_name hfresh,List.Subset.refl _⟩,?_⟩
    · rw [htables]
      exact mem_map_of_mem (mem_filter.mpr ⟨mem_append_left _ he,by simpa using ht⟩)
    · rw [hothers _ ht hfresh]
      exact Carried.refl _ _

end Rebuild

end Sake.Lib.Sql
