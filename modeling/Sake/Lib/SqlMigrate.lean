import Mathlib.Data.List.Forall2
import Sake.Lib.SqlStmts

namespace Sake.Lib.Sql
open List Function Schema State Schema TableDef List.Subset List

variable {T C I : Type} {db' db'' db : State T C I} {columns : List C} {c : Column C} {rs rs' : List (Row C)}
  {others : List T} {stmt : Stmt T C I} {s : Schema T C I} {k : Option (ForeignKey T C)} {table t : T}
  {d : TableDef T C} {rows : Rows T C} {l : Link T C}

theorem TableDef.accepts_nil (d : TableDef T C) : d.Accepts [] := by
  refine ⟨fun _ _ _ _ hr => absurd hr not_mem_nil,fun _ hr => absurd hr not_mem_nil,?_⟩
  exact fun _ _ => Pairwise.nil

/-- Statements that only add to the schema. -/
def Stmt.grows : Stmt T C I → Bool
  | .createTable _ | .addColumn _ _ _ | .createIndex _ | .createSearch _ => true
  | _ => false

theorem TableDef.mem_mentions {c : C} : c ∈ d.mentions ↔
    c = d.key ∨ (∃ k ∈ d.columns, k.name = c) ∨ (∃ k ∈ d.foreignKeys, k.column = c) ∨ ∃ u ∈ d.unique, c ∈ u := by
  simp [mentions]

/-- What a column that may be added meets. -/
structure Schema.Addable (s : Schema T C I) (table : T) (c : Column C) (k : Option (ForeignKey T C)) :
    Prop where
  fresh : ∀ d ∈ s.tables, d.name = table → c.name ∉ d.mentions
  unreferred : ∀ l ∈ s.links, l.parent = table → l.key ≠ c.name
  filled : c.notNull = true → c.default ≠ .null
  empty : ∀ k' ∈ k, k'.column = c.name ∧ c.default = .null

theorem Schema.Addable.not_key (h : s.Addable table c k) (hd : d ∈ s.tables)
    (ht : d.name = table) : d.key ≠ c.name ∧ ∀ u ∈ d.unique, c.name ∉ u := by
  have hm := mt mem_mentions.mpr (h.fresh d hd ht)
  exact ⟨fun he => hm (.inl he.symm),fun u hu hc => hm (.inr (.inr (.inr ⟨u,hu,hc⟩)))⟩

/-- No row refers to a row of `t`. -/
def State.Unreferenced (db : State T C I) (t : T) : Prop :=
  ∀ l ∈ db.schema.links, l.parent = t → ∀ r ∈ db.rows l.child, r l.column = .null

/-- The same rows in the same order, with the same values in these columns. -/
def Carried (columns : List C) (rs rs' : List (Row C)) : Prop :=
  List.Forall₂ (fun r r' => ∀ c ∈ columns, r' c = r c) rs rs'

/-- The tables outside `others` are still there, with their columns and the values in them. -/
def Keeps (others : List T) (db db' : State T C I) : Prop :=
  ∀ d ∈ db.schema.tables, d.name ∉ others → (∃ d' ∈ db'.schema.tables, d'.name = d.name ∧
      d.columns.map (·.name) ⊆ d'.columns.map (·.name)) ∧
    Carried (d.columns.map (·.name)) (db.rows d.name) (db'.rows d.name)

theorem Carried.refl (columns : List C) (rs : List (Row C)) : Carried columns rs rs :=
  forall₂_same.mpr fun _ _ _ _ => rfl

theorem forall₂_comp {R : α → β → Prop} {S : β → γ → Prop} {Q : α → γ → Prop}
    (h : ∀ a b c, R a b → S b c → Q a c) {as : List α} {bs : List β} {cs : List γ}
    (hr : Forall₂ R as bs) (hs : Forall₂ S bs cs) : Forall₂ Q as cs := by
  induction hr generalizing cs with
  | nil =>
    cases hs
    exact .nil
  | cons hab _ ih =>
    cases hs with
    | cons hbc hrest => exact .cons (h _ _ _ hab hbc) (ih hrest)

theorem Carried.trans (hc : columns ⊆ columns') (h : Carried columns rs rs')
    (h' : Carried columns' rs' rs'') : Carried columns rs rs'' :=
  forall₂_comp (fun _ _ _ hab hbc c hm => (hbc c (hc hm)).trans (hab c hm)) h h'

theorem Carried.exists_of_mem (h : Carried columns rs rs') (hr : r ∈ rs) : ∃ r' ∈ rs', ∀ c ∈ columns, r' c = r c := by
  induction h with
  | nil => cases hr
  | cons hab _ ih =>
    rcases mem_cons.mp hr with rfl | hr
    · exact ⟨_,mem_cons_self,hab⟩
    · obtain ⟨r',hr',he⟩ := ih hr
      exact ⟨r',mem_cons_of_mem _ hr',he⟩

theorem Carried.filter (h : Carried columns rs rs')
    (hpq : ∀ r r', (∀ c ∈ columns, r' c = r c) → q r' = p r) : Carried columns (rs.filter p) (rs'.filter q) := by
  induction h with
  | nil => exact .nil
  | cons hab _ ih =>
    rw [filter_cons,filter_cons,hpq _ _ hab]
    split
    · exact .cons hab ih
    · exact ih

theorem Carried.forall_iff (h : Carried columns rs rs')
    {c : C} (hc : c ∈ columns) (p : Value → Prop) : (∀ r ∈ rs', p (r c)) ↔ ∀ r ∈ rs, p (r c) := by
  induction h with
  | nil => simp
  | cons hr _ ih => simp [ih,hr c hc]

theorem carried_map (h : ∀ r, ∀ c ∈ columns, f r c = r c) (rs : List (Row C)) : Carried columns rs (rs.map f) :=
  forall₂_map_right_iff.mpr (forall₂_same.mpr fun r _ => h r)

theorem Keeps.refl (others : List T) (db : State T C I) : Keeps others db db :=
  fun d hd _ => ⟨⟨d,hd,rfl,Subset.refl _⟩,Carried.refl _ _⟩

theorem Keeps.mono (ho : others ⊆ others') (h : Keeps others db db') : Keeps others' db db' :=
  fun d hd hn => h d hd fun hm => hn (ho hm)

theorem Keeps.trans (h : Keeps others db db') (h' : Keeps others db' db'') : Keeps others db db'' := by
  intro d hd ho
  obtain ⟨⟨d',hd',hn',hc'⟩,hrows⟩ := h d hd ho
  obtain ⟨⟨d'',hd'',hn'',hc''⟩,hrows'⟩ := h' d' hd' (hn' ▸ ho)
  rw [hn'] at hn'' hrows'
  exact ⟨⟨d'',hd'',hn'',Subset.trans hc' hc''⟩,hrows.trans hc' hrows'⟩

variable [DecidableEq T]

theorem valid_createTable (h : db.Sound) (hd : db.schema.has d.name = false) :
    Valid { db.schema with tables := db.schema.tables ++ [d] } db.rows := by
  refine ⟨fun d' hd' => ?_,fun l hl => ?_⟩
  · rcases mem_append.mp hd' with hd' | hd'
    · exact h.valid.1 d' hd'
    · cases mem_singleton.mp hd'
      rw [h.absent _ hd]
      exact d.accepts_nil
  · obtain ⟨d',hd',k,hk,rfl⟩ := mem_links.mp hl
    rcases mem_append.mp hd' with hd' | hd'
    · exact h.valid.2 _ (mem_links.mpr ⟨d',hd',k,hk,rfl⟩)
    cases mem_singleton.mp hd'
    intro r hr
    rw [ForeignKey.link,h.absent _ hd] at hr
    exact absurd hr not_mem_nil

theorem mem_links_extended (hl : l ∈ (s.extended table c k).links) : l ∈ s.links ∨ ∃ k' ∈ k, l = k'.link table := by
  obtain ⟨d',hd',k',hk',rfl⟩ := mem_links.mp hl
  obtain ⟨d,hd,rfl⟩ := mem_map.mp hd'
  by_cases ht : d.name = table
  · rw [if_pos ht] at hk' ⊢
    rcases mem_append.mp hk' with hk' | hk'
    · exact .inl (mem_links.mpr ⟨d,hd,k',hk',rfl⟩)
    · exact .inr ⟨k',Option.mem_toList.mp hk',by rw [← ht]; rfl⟩
  · rw [if_neg ht] at hk' ⊢
    exact .inl (mem_links.mpr ⟨d,hd,k',hk',rfl⟩)

variable [DecidableEq C]

theorem Schema.addable (h : s.mayAdd table c k = true) : s.Addable table c k := by
  simp only [mayAdd,Bool.and_eq_true,all_eq_true,Bool.or_eq_true,decide_eq_true_eq] at h
  obtain ⟨⟨⟨⟨⟨-,hfresh⟩,hunref⟩,hfill⟩,hnull⟩,hcol⟩ := h
  refine ⟨fun d hd ht => (hfresh d hd).resolve_left (not_not.mpr ht),
    fun l hl hp => (hunref l hl).resolve_left (not_not.mpr hp),fun hn => ?_,?_⟩
  · exact hfill.resolve_left (by simp [hn])
  · rintro k' rfl
    simp only [Option.isNone_some,Bool.false_eq_true,false_or,Option.all_some,decide_eq_true_eq] at hnull hcol
    exact ⟨hcol,hnull⟩

theorem valid_addColumn (h : Valid s rows) (ha : s.Addable table c k) :
    Valid (s.extended table c k) (s.move rows (.addColumn table c k)) := by
  have hold : Valid s (s.move rows (.addColumn table c k)) := by
    refine h.rewrite (fun r c' hc => update_of_ne hc _ _)
      (fun d hd ht => ha.not_key hd ht) ha.unreferred ?_ ?_
    · intro d hd ht k' hk' hn
      exact absurd (mem_mentions.mpr (.inr (.inl ⟨k',hk',hn⟩))) (ha.fresh d hd ht)
    · intro l hl ht hc
      obtain ⟨d,hd,k',hk',rfl⟩ := mem_links.mp hl
      exact absurd (mem_mentions.mpr (.inr (.inr (.inl ⟨k',hk',hc⟩)))) (ha.fresh d hd ht)
  -- what is left is the new column itself, which has its default in every row
  have hnew : ∀ r ∈ s.move rows (.addColumn table c k) table, r c.name = c.default := by
    intro r hr
    simp only [move,update_self] at hr
    obtain ⟨q,-,rfl⟩ := mem_map.mp hr
    exact update_self _ _ _
  refine ⟨fun d' hd' => ?_,fun l hl => ?_⟩
  · obtain ⟨d,hd,rfl⟩ := mem_map.mp hd'
    by_cases ht : d.name = table
    · obtain ⟨hn,hk,hu⟩ := hold.1 d hd
      rw [if_pos ht]
      refine ⟨fun k' hk' hreq r hr => ?_,hk,hu⟩
      rcases mem_append.mp hk' with hk' | hk'
      · exact hn k' hk' hreq r hr
      · cases mem_singleton.mp hk'
        rw [hnew r (ht ▸ hr)]
        exact ha.filled hreq
    · rw [if_neg ht]
      exact hold.1 d hd
  · rcases mem_links_extended hl with hl | ⟨k',hk',rfl⟩
    · exact hold.2 l hl
    · obtain ⟨hcol,hnull⟩ := ha.empty k' hk'
      intro r hr hn
      refine absurd ?_ hn
      rw [ForeignKey.link,hcol,hnew r hr,hnull]

variable [DecidableEq I]

theorem State.exec_grows (h : db.Sound) (hg : stmt.grows = true) (ha : db.schema.alter stmt = some s) :
    db.exec stmt = some ⟨s,db.schema.move db.rows stmt⟩ := by
  refine exec_eq_some.mpr ⟨ha,rfl,?_⟩
  cases altered ha with
  | createTable hhas => exact valid_createTable h hhas
  | addColumn hadd => exact valid_addColumn h.valid (addable hadd)
  | createIndex | createSearch => exact h.valid.mono (refl _)
  | _ => cases hg

omit [DecidableEq I] in
variable (s) in
theorem carried_update (columns : List C) (hc : t = table → a ∉ columns) :
    Carried columns (rows t) (s.move rows (.update table a f) t) := by
  by_cases ht : t = table
  · subst ht
    simp only [move,update_self]
    refine carried_map (fun r c' hc' => update_of_ne ?_ _ _) _
    rintro rfl
    exact hc rfl hc'
  · simp only [move,update_of_ne ht]
    exact Carried.refl _ _

omit [DecidableEq I] in
theorem carried_addColumn (columns : List C) (hc : t = table → c.name ∉ columns) :
    Carried columns (rows t) (s.move rows (.addColumn table c k) t) :=
  carried_update s (f := fun _ _ => c.default) columns hc

theorem keeps_grows (hg : stmt.grows = true)
    (he : db.exec stmt = some db') (others : List T) : Keeps others db db' := by
  obtain ⟨ha,hr,-⟩ := exec_eq_some.mp he
  obtain ⟨s',rows'⟩ := db'
  subst hr
  intro d hd _
  cases altered ha with
  | createTable => exact ⟨⟨d,mem_append_left _ hd,rfl,refl _⟩,Carried.refl _ _⟩
  | @addColumn table c k hadd =>
    refine ⟨⟨_,mem_map_of_mem hd,?_,?_⟩,carried_addColumn (s := db.schema) (k := k) _ fun ht hc => ?_⟩
    · split <;> rfl
    · split
      · simp [addColumn]
      · exact refl _
    · refine (addable hadd).fresh d hd ht (mem_mentions.mpr (.inr (.inl ?_)))
      simpa using hc
  | createIndex | createSearch => exact ⟨⟨d,hd,rfl,refl _⟩,Carried.refl _ _⟩
  | _ => cases hg

theorem unreferenced_grows (h : db.Sound) (hg : stmt.grows = true) (he : db.exec stmt = some db') (t : T) :
    db'.Unreferenced t ↔ db.Unreferenced t := by
  obtain ⟨ha,hr,-⟩ := exec_eq_some.mp he
  obtain ⟨s',rows'⟩ := db'
  subst hr
  cases altered ha with
  | createTable hhas =>
    refine ⟨fun hu l hl => hu l ?_,fun hu l hl hp r hr => ?_⟩
    · obtain ⟨d',hd',hk⟩ := mem_links.mp hl
      exact mem_links.mpr ⟨d',mem_append_left _ hd',hk⟩
    · obtain ⟨d',hd',k,hk,rfl⟩ := mem_links.mp hl
      rcases mem_append.mp hd' with hd' | hd'
      · exact hu _ (mem_links.mpr ⟨d',hd',k,hk,rfl⟩) hp r hr
      · cases mem_singleton.mp hd'
        simp [ForeignKey.link,move,h.absent _ hhas] at hr
  | @addColumn table c k hadd =>
    have hadd := addable hadd
    -- an old link says the same of the rows before and after
    have hold : ∀ d ∈ db.schema.tables, ∀ k' ∈ d.foreignKeys,
        (∀ r ∈ db.schema.move db.rows (.addColumn table c k) d.name, r k'.column = .null) ↔
          ∀ r ∈ db.rows d.name, r k'.column = .null := by
      intro d hd k' hk'
      refine (carried_addColumn [k'.column] fun ht hc => ?_).forall_iff
        (mem_singleton_self _) (· = .null)
      refine hadd.fresh d hd ht (mem_mentions.mpr (.inr (.inr (.inl ⟨k',hk',?_⟩))))
      exact (mem_singleton.mp hc).symm
    refine ⟨fun hu l hl hp => ?_,fun hu l hl hp => ?_⟩
    · obtain ⟨d,hd,k',hk',rfl⟩ := mem_links.mp hl
      refine (hold d hd k' hk').mp (hu (k'.link d.name) (mem_links.mpr ?_) hp)
      refine ⟨_,mem_map_of_mem hd,k',?_,?_⟩
      · split
        · exact mem_append_left _ hk'
        · exact hk'
      · split <;> rfl
    · rcases mem_links_extended hl with hl | ⟨k',hk',rfl⟩
      · obtain ⟨d,hd,k',hk',rfl⟩ := mem_links.mp hl
        exact (hold d hd k' hk').mpr (hu (k'.link d.name) (mem_links.mpr ⟨d,hd,k',hk',rfl⟩) hp)
      · obtain ⟨hcol,hnull⟩ := hadd.empty k' hk'
        intro r hr
        simp only [ForeignKey.link,move,update_self] at hr
        obtain ⟨q,-,rfl⟩ := mem_map.mp hr
        rw [ForeignKey.link,hcol,update_self,hnull]
  | createIndex | createSearch => exact Iff.rfl
  | _ => cases hg

/-- What a migration does that keeps the rows: it changes nothing about references to `t`. -/
structure Advances (others : List T) (t : T) (db db' : State T C I) : Prop where
  sound : db'.Sound
  keeps : Keeps others db db'
  unreferenced : db'.Unreferenced t ↔ db.Unreferenced t

omit [DecidableEq C] [DecidableEq I] in
theorem Advances.trans (h : Advances others t db db') (h' : Advances others t db' db'') : Advances others t db db'' :=
  ⟨h'.sound,h.keeps.trans h'.keeps,h'.unreferenced.trans h.unreferenced⟩

/-- A list of statements that only add to the schema succeeds wherever the schema admits it. -/
theorem transaction_grows (h : db.Sound) (hg : m.all Stmt.grows = true)
    (ha : db.schema.alters m = some s) (others : List T) (t : T) :
    ∃ db', db.transaction m = some db' ∧ db'.schema = s ∧ Advances others t db db' := by
  induction m generalizing db with
  | nil =>
    cases ha
    exact ⟨db,rfl,rfl,h,Keeps.refl _ _,Iff.rfl⟩
  | cons stmt m ih =>
    rw [all_cons,Bool.and_eq_true] at hg
    obtain ⟨s₁,hs₁,ha⟩ := Option.bind_eq_some_iff.mp ha
    have hexec := exec_grows h hg.1 hs₁
    have hstep : Advances others t db ⟨s₁,db.schema.move db.rows stmt⟩ :=
      ⟨exec_sound h hexec,keeps_grows hg.1 hexec others,unreferenced_grows h hg.1 hexec t⟩
    obtain ⟨db',hrun,hschema,hrest⟩ := ih hstep.sound hg.2 ha
    refine ⟨db',?_,hschema,hstep.trans hrest⟩
    rw [State.transaction,Runs.run,hexec]
    exact hrun

section AddUpdate
variable {c : Column C} {value : Rows T C → Row C → Value}

omit [DecidableEq C] [DecidableEq I]

theorem Schema.Addable.link_is_new (ha : s.Addable table c k) (hl : l ∈ (s.extended table c k).links)
    (ht : l.child = table) (hc : l.column = c.name) : ∃ k' ∈ k, l = k'.link table := by
  refine (mem_links_extended hl).resolve_left fun hold => ?_
  obtain ⟨d,hd,k',hk',rfl⟩ := mem_links.mp hold
  exact ha.fresh d hd ht (mem_mentions.mpr (.inr (.inr (.inl ⟨k',hk',hc⟩))))

/-- Where the new column stands in its table. -/
theorem Schema.Addable.column_is_new (ha : s.Addable table c k)
    (hd : d ∈ (s.extended table c k).tables) (ht : d.name = table) :
    d.key ≠ c.name ∧ (∀ u ∈ d.unique, c.name ∉ u) ∧ ∀ k' ∈ d.columns, k'.name = c.name → k' = c := by
  obtain ⟨e,he,rfl⟩ := mem_map.mp hd
  have hname : e.name = table := by
    split at ht
    · assumption
    · exact ht
  rw [if_pos hname]
  obtain ⟨hkey,huniq⟩ := ha.not_key he hname
  refine ⟨hkey,huniq,fun k' hk' hn => ?_⟩
  rcases mem_append.mp hk' with hk' | hk'
  · exact absurd (mem_mentions.mpr (.inr (.inl ⟨k',hk',hn⟩))) (ha.fresh e he hname)
  · exact mem_singleton.mp hk'

variable [DecidableEq C]

theorem valid_fills (hv : Valid (s.extended table c k) rows) (ha : s.Addable table c k)
    (hk : ∀ k' ∈ k, k'.parent ≠ table) (hnull : c.notNull = true → ∀ r, value rows r ≠ .null)
    (hrefer : ∀ k' ∈ k, ∀ r ∈ rows table, value rows r ≠ .null → ∃ q ∈ rows k'.parent, value rows r = q k'.key) :
    Valid (s.extended table c k) (s.move rows (.update table c.name value)) := by
  refine hv.rewrite (fun r c' hc => update_of_ne hc _ _) ?_ ?_ ?_ ?_
  · intro d hd ht
    exact ⟨(ha.column_is_new hd ht).1,(ha.column_is_new hd ht).2.1⟩
  · intro l hl hp
    rcases mem_links_extended hl with hl | ⟨k',hk',rfl⟩
    · exact ha.unreferred l hl hp
    · exact absurd hp (hk k' hk')
  · intro d hd ht k' hk' hn hreq r _
    rw [update_self]
    exact hnull ((ha.column_is_new hd ht).2.2 k' hk' hn ▸ hreq) r
  · intro l hl ht hc r hr hn
    rw [update_self] at hn ⊢
    obtain ⟨k',hk',rfl⟩ := ha.link_is_new hl ht hc
    exact hrefer k' hk' r hr hn

variable [DecidableEq I]

/-- A new column that is filled at once. -/
theorem transaction_fills (h : db.Sound) (value : Rows T C → Row C → Value)
    (hadd : db.schema.mayAdd table c k = true) (others : List T) (hk : ∀ k' ∈ k, k'.parent ≠ table ∧ k'.parent ≠ t)
    (hnull : c.notNull = true → ∀ rows r, value rows r ≠ .null)
    (hrefer : ∀ k' ∈ k, ∀ r ∈ db.schema.move db.rows (.addColumn table c k) table,
      value (db.schema.move db.rows (.addColumn table c k)) r ≠ .null →
      ∃ q ∈ db.schema.move db.rows (.addColumn table c k) k'.parent,
        value (db.schema.move db.rows (.addColumn table c k)) r = q k'.key) :
    ∃ db', db.transaction [.addColumn table c k,.update table c.name value] = some db' ∧
      db.schema.alters [.addColumn table c k,.update table c.name value] = some db'.schema ∧
      Advances others t db db' := by
  have ha := addable hadd
  have hs₁ : db.schema.alter (.addColumn table c k) = some (db.schema.extended table c k) := by
    simp [alter,hadd,extended]
  have h₁ := exec_grows h (by rfl) hs₁
  have hsound := exec_sound h h₁
  have hhas : (db.schema.extended table c k).has table = true := by
    simp only [mayAdd,Bool.and_eq_true] at hadd
    obtain ⟨d,hd,rfl⟩ := has_eq_true.mp hadd.1.1.1.1.1
    exact has_eq_true.mpr ⟨d.addColumn c k,mem_map.mpr ⟨d,hd,if_pos rfl⟩,rfl⟩
  have hs₂ : (db.schema.extended table c k).alter (.update table c.name value) =
      some (db.schema.extended table c k) := by
    simp [alter,hhas]
  have h₂ : State.exec ⟨db.schema.extended table c k,db.schema.move db.rows (.addColumn table c k)⟩
      (.update table c.name value) = some ⟨db.schema.extended table c k,
        db.schema.move (db.schema.move db.rows (.addColumn table c k)) (.update table c.name value)⟩ :=
    exec_eq_some.mpr ⟨hs₂,rfl,valid_fills hsound.valid ha (fun k' hk' => (hk k' hk').1) (fun hn => hnull hn _) hrefer⟩
  refine ⟨_,?_,?_,exec_sound hsound h₂,?_,?_⟩
  · simp [State.transaction,Runs.run,h₁,h₂]
  · simp [alters,Runs.run,hs₁,hs₂]
  · -- the columns that were there are not the new one
    intro d hd ho
    obtain ⟨hd',hrows⟩ := keeps_grows (by rfl) h₁ others d hd ho
    refine ⟨hd',hrows.trans (refl _) (carried_update db.schema _ fun ht hc => ?_)⟩
    refine ha.fresh d hd ht (mem_mentions.mpr (.inr (.inl ?_)))
    simpa using hc
  · refine Iff.trans ?_ (unreferenced_grows h (by rfl) h₁ t)
    refine forall_congr' fun l => forall_congr' fun hl => forall_congr' fun hp => ?_
    refine (carried_update db.schema [l.column] fun ht hc => ?_).forall_iff (mem_singleton_self _) (· = .null)
    obtain ⟨k',hk',rfl⟩ := ha.link_is_new hl ht (mem_singleton.mp hc).symm
    exact (hk k' hk').2 hp

end AddUpdate

end Sake.Lib.Sql
