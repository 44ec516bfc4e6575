import Mathlib.Tactic.FinCases
import Sake.Proofs.Rebuilds

namespace Sake.Proofs.Migrations
open Sake.Lib Sake.Lib.Sql Sake.Schema Sake.Migrations Sake.Proofs.Rebuilds List

variable {now : String} {i : Nat} {db db' : State Table Col IndexName}

def migration (now : String) (i : Nat) : List Statement := (sqliteMigrations now).getD i []

theorem drop_migration (hi : i < 35) :
    (sqliteMigrations now).drop i = migration now i :: (sqliteMigrations now).drop (i + 1) := by
  have hi : i < (sqliteMigrations now).length := hi
  rw [drop_eq_getElem_cons hi,migration,getD_eq_getElem?_getD,List.getElem?_eq_getElem hi,Option.getD_some]

theorem schemaAt_succ : schemaAt now (i + 1) = (schemaAt now i).bind fun s => s.alters (migration now i) := by
  rw [schemaAt,schemaAt,take_add_one,flatten_append,Schema.alters,Runs.run_append, migration,getD_eq_getElem?_getD]
  cases (sqliteMigrations now)[i]? with
  | none => rfl
  | some m => simp [Schema.alters]

variable (now) in
/-- Every version has a schema, since the last one has. -/
theorem schemaAt_isSome (hi : i ≤ 35) : (schemaAt now i).isSome = true := by
  induction hi using Nat.decreasingInduction with
  | self => rfl
  | of_succ k _ ih =>
    rw [schemaAt_succ] at ih
    cases h : schemaAt now k with
    | none =>
      rw [h] at ih
      cases ih
    | some s => rfl

section
theorem check (h : AtVersion now i db) (hp : (schemaAt now i).any p = true) : p db.schema = true := by
  rwa [h.schema] at hp

/-- What a migration that succeeds has done. -/
structure Moved (now : String) (i : Nat) (db db' : State Table Col IndexName) : Prop where
  version : AtVersion now (i + 1) db'
  keeps : Keeps (if i = 7 then [.network] else []) db db'
  unreferenced : db'.Unreferenced .network ↔ db.Unreferenced .network

theorem schemaAt_next (h : AtVersion now i db)
    (ha : db.schema.alters (migration now i) = some s) : schemaAt now (i + 1) = some s := by
  rw [schemaAt_succ,h.schema]
  exact ha

theorem step_grows (hi : i < 35) (h : AtVersion now i db) (hg : (migration now i).all Stmt.grows = true) :
    ∃ db', db.transaction (migration now i) = some db' ∧ Moved now i db db' := by
  obtain ⟨s,hs⟩ := Option.isSome_iff_exists.mp (schemaAt_isSome now (Nat.succ_le_of_lt hi))
  have ha := hs
  rw [schemaAt_succ,h.schema] at ha
  obtain ⟨db',hrun,rfl,hadv⟩ := transaction_grows h.sound hg ha (if i = 7 then [.network] else []) .network
  exact ⟨db',hrun,⟨hadv.sound,hs⟩,hadv.keeps,hadv.unreferenced⟩

/-- What a schema has to offer for a rebuild of one of its tables with these columns. -/
def rebuildable (s : Schema Table Col IndexName) (table : Table) (d : TableDef Table Col) (columns : List Col) : Bool :=
  s.has table && !s.has d.name && s.links.all (fun l => l.parent ≠ d.name &&
      (l.child ≠ table || l.parent ≠ table && l.parent ≠ .network)) &&
    s.tables.all (fun e => e.name ≠ table || e.columns.all fun c => c.name ∈ columns)

theorem rebuildable_spec (h : rebuildable s table d columns = true) : s.has table = true ∧ s.has d.name = false ∧
      (∀ l ∈ s.links, l.parent ≠ d.name ∧ (l.parent = table → l.child ≠ table)) ∧
      (∀ l ∈ s.links, l.parent = .network → l.child ≠ table) ∧
      ∀ e ∈ s.tables, e.name = table → e.columns.map (·.name) ⊆ columns := by
  simp only [rebuildable,Bool.and_eq_true,Bool.not_eq_true',all_eq_true,Bool.or_eq_true,decide_eq_true_eq] at h
  obtain ⟨⟨⟨hhas,hfresh⟩,hlinks⟩,hcols⟩ := h
  refine ⟨hhas,hfresh,fun l hl => ⟨(hlinks l hl).1,fun hp hc => ?_⟩,fun l hl hp hc => ?_,?_⟩
  · exact ((hlinks l hl).2.resolve_left (not_not.mpr hc)).1 hp
  · exact ((hlinks l hl).2.resolve_left (not_not.mpr hc)).2 hp
  · intro e he hn c hc
    obtain ⟨k,hk,rfl⟩ := mem_map.mp hc
    exact (hcols e he).resolve_left (not_not.mpr hn) k hk

theorem step_rebuild (h : AtVersion now i db)
    (hm : migration now i = rebuild table d query) (hs : rebuildable db.schema table d columns = true)
    (hout : ∀ k ∈ d.foreignKeys, k.parent ≠ table ∧ k.parent ≠ d.name ∧ k.parent ≠ .network)
    (hname : .network ≠ d.name) (haccepts : d.Accepts (query db.rows))
    (hholds : ∀ k ∈ d.foreignKeys, ∀ r ∈ query db.rows, r k.column ≠ .null →
      ∃ q ∈ db.rows k.parent, r k.column = q k.key) (hcols : columns ⊆ d.columns.map (·.name))
    (hcarried : i ≠ 7 → Carried columns (db.rows table) (query db.rows)) (h7 : i = 7 → table = .network) :
    (db.Unreferenced table → ∃ db', db.transaction (migration now i) = some db' ∧ Moved now i db db' ∧
      db'.rows table = query db.rows ∧ ∀ t, t ≠ table → t ≠ d.name → db'.rows t = db.rows t) ∧
      ∀ db', db.transaction (migration now i) = some db' → db.Unreferenced table := by
  obtain ⟨hhas,hfresh,hapart,hin,hwithin⟩ := rebuildable_spec hs
  have hr : Rebuildable db table d query :=
    ⟨hhas,hfresh,hapart,fun k hk => ⟨(hout k hk).1,(hout k hk).2.1⟩,haccepts,hholds⟩
  rw [hm]
  refine ⟨fun hu => ?_,fun db' => unreferenced_of_rebuild hr⟩
  obtain ⟨db',hrun,ha,hsound,hrows,hothers⟩ := rebuild_succeeds h.sound hr hu
  refine ⟨db',hrun,⟨⟨hsound,schemaAt_next h (hm ▸ ha)⟩,?_,?_⟩,hrows,hothers⟩
  · refine keeps_rebuild hr ha hothers fun e he hn ho => ?_
    have h7' : i ≠ 7 := by
      intro hi
      rw [if_pos hi,h7 hi] at ho
      exact ho (mem_singleton_self _)
    refine ⟨List.Subset.trans (hwithin e he hn) hcols,?_⟩
    rw [hrows]
    exact (Carried.refl _ _).trans (hwithin e he hn) (hcarried h7')
  · exact unreferenced_rebuild hr ha hothers hname (fun k hk => (hout k hk).2.2) hin

/-- The references of networks to users hold, from the version on that has them. -/
theorem user_found (h : AtVersion now i db)
    (hl : (schemaAt now i).any (fun s => (⟨.network,.user,.user,.id⟩ : Link Table Col) ∈ s.links) = true) (hn : n ∈ db.rows .network) (hu : n .user ≠ .null) : ∃ u ∈ db.rows .user, n .user = u .id :=
  h.sound.valid.2 _ (of_decide_eq_true (check h hl)) n hn hu

theorem step6 (h : AtVersion now 6 db) : ∃ db', db.transaction (migration now 6) = some db' ∧ Moved now 6 db db' := by
  have hfit : Fitted (db.rows .user) .rowid [[.username]] [.username,.admin] :=
    fitted h.sound.valid (check h (p := fun s => fits s .user .rowid _ _) rfl)
  have hu : db.Unreferenced .user := by
    intro l hl hp
    have hnone := check h (p := fun s => s.links.all fun l => l.parent ≠ .user) rfl
    exact absurd hp (of_decide_eq_true (all_eq_true.mp hnone l hl))
  obtain ⟨db',hrun,hmoved,-⟩ := (step_rebuild h rfl
    (check h (p := fun s => rebuildable s .user userNew [.username,.password,.admin]) rfl)
    (fun k hk => absurd hk not_mem_nil) (by simp [userNew]) (selectUsers_accepts hfit)
    (fun k hk => absurd hk not_mem_nil) (by decide)
    (fun _ => carried_map (fun r c hc => by fin_cases hc <;> rfl) _) (by simp)).1 hu
  exact ⟨db',hrun,hmoved⟩

theorem step7 (h : AtVersion now 7 db) :
    (db.Unreferenced .network → ∃ db', db.transaction (migration now 7) = some db' ∧
      Moved now 7 db db' ∧ db'.rows .network = joinUsers db.rows ∧ db'.rows .user = db.rows .user) ∧
      ∀ db', db.transaction (migration now 7) = some db' → db.Unreferenced .network := by
  have hn : Fitted (db.rows .network) .id [[.user,.addr,.nick],[.user,.name]] [.user,.addr,.nick] :=
    fitted h.sound.valid (check h (p := fun s => fits s .network .id _ _) rfl)
  have hu : Fitted (db.rows .user) .id [[.username]] [] :=
    fitted h.sound.valid (check h (p := fun s => fits s .user .id _ _) rfl)
  obtain ⟨hsucc,hfail⟩ := step_rebuild h rfl
    (check h (p := fun s => rebuildable s .network networkNew7 (networkNew7.columns.map (·.name))) rfl)
    (by simp [networkNew7,references]) (by simp [networkNew7]) (joinUsers_accepts hn hu)
    (by
      intro k hk r hr _
      cases mem_singleton.mp hk
      obtain ⟨n,-,u,hmu,-,rfl⟩ := mem_joinUsers hr
      exact ⟨u,hmu,rfl⟩)
    (List.Subset.refl _) (absurd rfl) (fun _ => rfl)
  refine ⟨fun hu => ?_,hfail⟩
  obtain ⟨db',hrun,hmoved,hrows,hothers⟩ := hsucc hu
  exact ⟨db',hrun,hmoved,hrows,hothers .user (by simp) (by simp [networkNew7])⟩

theorem step13 (h : AtVersion now 13 db) :
    (db.Unreferenced .network → ∃ db', db.transaction (migration now 13) = some db' ∧ Moved now 13 db db') ∧
      ∀ db', db.transaction (migration now 13) = some db' → db.Unreferenced .network := by
  have hn : Fitted (db.rows .network) .id [[.user,.addr,.nick],[.user,.name]] [.user,.addr,.enabled] :=
    fitted h.sound.valid (check h (p := fun s => fits s .network .id _ _) rfl)
  obtain ⟨hsucc,hfail⟩ := step_rebuild h rfl
    (check h (p := fun s => rebuildable s .network networkNew13 (networkNew13.columns.map (·.name))) rfl)
    (by simp [networkNew13,references]) (by simp [networkNew13]) (selectNetworks13_accepts hn)
    (by
      intro k hk r hr hnull
      cases mem_singleton.mp hk
      obtain ⟨n,hmem,rfl⟩ := mem_map.mp hr
      exact (user_found h rfl hmem hnull :))
    (List.Subset.refl _)
    (fun _ => carried_map (fun r c hc => by fin_cases hc <;> rfl) _) (by simp)
  refine ⟨fun hu => ?_,hfail⟩
  obtain ⟨db',hrun,hmoved,-⟩ := hsucc hu
  exact ⟨db',hrun,hmoved⟩

theorem step31 (h : AtVersion now 31 db) :
    (db.Unreferenced .network → ∃ db', db.transaction (migration now 31) = some db' ∧ Moved now 31 db db') ∧
      ∀ db', db.transaction (migration now 31) = some db' → db.Unreferenced .network := by
  have hn : Fitted (db.rows .network) .id [[.user,.name]] [.user,.addr,.autoAway,.enabled] :=
    fitted h.sound.valid (check h (p := fun s => fits s .network .id _ _) rfl)
  obtain ⟨hsucc,hfail⟩ := step_rebuild h rfl
    (check h (p := fun s => rebuildable s .network networkNew31
      [.id,.name,.user,.addr,.nick,.username,.realname,.certfp,.pass,.connectCommands,
        .saslMechanism,.saslPlainUsername,.saslPlainPassword,.saslExternalCert,.saslExternalKey,
        .autoAway,.enabled]) rfl)
    (by simp [networkNew31,references]) (by simp [networkNew31]) (selectNetworks31_accepts hn)
    (by
      intro k hk r hr hnull
      cases mem_singleton.mp hk
      obtain ⟨n,hmem,rfl⟩ := mem_map.mp hr
      exact (user_found h rfl hmem hnull :))
    (by decide)
    (fun _ => carried_map (fun r c hc => by fin_cases hc <;> rfl) _) (by simp)
  refine ⟨fun hu => ?_,hfail⟩
  obtain ⟨db',hrun,hmoved,-⟩ := hsucc hu
  exact ⟨db',hrun,hmoved⟩

/-- The new column names the user of the subscription's network, who is there. -/
theorem step16 (h : AtVersion now 16 db) :
    ∃ db', db.transaction (migration now 16) = some db' ∧ Moved now 16 db db' := by
  obtain ⟨db',hrun,ha,hadv⟩ := transaction_fills h.sound networkUser
    (check h (p := fun s => s.mayAdd .webPushSubscription (integer .user)
      (some (references .user .user))) rfl) (t := .network) []
    (by simp [references]) (fun hn => absurd hn (by simp [column]))
    (by
      intro k hk r _ hn
      cases hk
      have hnetwork : db.schema.move db.rows (.addColumn .webPushSubscription (integer .user)
          (some (references .user .user))) .network = db.rows .network := rfl
      rw [networkUser,hnetwork] at hn ⊢
      cases hfind : (db.rows .network).find? fun n => n .id ≠ .null && n .id = r .network with
      | none =>
        rw [hfind] at hn
        exact absurd rfl hn
      | some n =>
        rw [hfind] at hn
        exact user_found h rfl (mem_of_find?_eq_some hfind) hn)
  exact ⟨db',hrun,⟨hadv.sound,schemaAt_next h ha⟩,hadv.keeps,hadv.unreferenced⟩

theorem step20 (h : AtVersion now 20 db) :
    ∃ db', db.transaction (migration now 20) = some db' ∧ Moved now 20 db db' := by
  obtain ⟨db',hrun,ha,hadv⟩ := transaction_fills h.sound (fun _ _ => .text now)
    (check h (p := fun s => s.mayAdd .user ((text .createdAt).required.defaulting (.text "")) none) rfl)
    [] (fun k hk => absurd hk (by simp)) (fun _ _ _ => Value.noConfusion)
    (fun k hk => absurd hk (by simp))
  exact ⟨db',hrun,⟨hadv.sound,schemaAt_next h ha⟩,hadv.keeps,hadv.unreferenced⟩

theorem grows_of_ne (hi : i < 35) (h6 : i ≠ 6) (h7 : i ≠ 7) (h13 : i ≠ 13) (h16 : i ≠ 16) (h20 : i ≠ 20)
    (h31 : i ≠ 31) : (migration now i).all Stmt.grows = true := by
  have hall : (List.range 35).all (fun i => i ∈ [6,7,13,16,20,31] || (migration now i).all Stmt.grows) = true := rfl
  have := all_eq_true.mp hall i (mem_range.mpr hi)
  simpa [h6,h7,h13,h16,h20,h31] using this

theorem step_spec (hi : i < 35) (h : AtVersion now i db) : ((i = 7 ∨ i = 13 ∨ i = 31 → db.Unreferenced .network) →
      ∃ db', db.transaction (migration now i) = some db' ∧ Moved now i db db') ∧
      ∀ db', db.transaction (migration now i) = some db' → i = 7 ∨ i = 13 ∨ i = 31 → db.Unreferenced .network := by
  by_cases h7 : i = 7
  · subst h7
    obtain ⟨hsucc,hfail⟩ := step7 h
    refine ⟨fun hu => ?_,fun db' hrun _ => hfail db' hrun⟩
    obtain ⟨db',hrun,hmoved,-⟩ := hsucc (hu (.inl rfl))
    exact ⟨db',hrun,hmoved⟩
  by_cases h13 : i = 13
  · subst h13
    obtain ⟨hsucc,hfail⟩ := step13 h
    exact ⟨fun hu => hsucc (hu (.inr (.inl rfl))),fun db' hrun _ => hfail db' hrun⟩
  by_cases h31 : i = 31
  · subst h31
    obtain ⟨hsucc,hfail⟩ := step31 h
    exact ⟨fun hu => hsucc (hu (.inr (.inr rfl))),fun db' hrun _ => hfail db' hrun⟩
  refine ⟨fun _ => ?_,fun db' _ hi => absurd hi (by simp [h7,h13,h31])⟩
  by_cases h6 : i = 6
  · subst h6
    exact step6 h
  by_cases h16 : i = 16
  · subst h16
    exact step16 h
  by_cases h20 : i = 20
  · subst h20
    exact step20 h
  exact step_grows hi h (grows_of_ne hi h6 h7 h13 h16 h20 h31)

theorem step_moved (hi : i < 35) (h : AtVersion now i db)
    (hrun : db.transaction (migration now i) = some db') : Moved now i db db' := by
  obtain ⟨hsucc,hfail⟩ := step_spec hi h
  obtain ⟨db'',hrun',hmoved⟩ := hsucc (hfail db' hrun)
  rw [hrun,Option.some.injEq] at hrun'
  exact hrun' ▸ hmoved

theorem migrate_ok (hi : i < 35) (hm : migrate i db ((sqliteMigrations now).drop i) = .ok db') :
    ∃ db₁, db.transaction (migration now i) = some db₁ ∧
      migrate (i + 1) db₁ ((sqliteMigrations now).drop (i + 1)) = .ok db' := by
  rw [drop_migration hi,migrate] at hm
  cases hrun : db.transaction (migration now i) with
  | none =>
    rw [hrun] at hm
    cases hm
  | some db₁ =>
    rw [hrun] at hm
    exact ⟨db₁,rfl,hm⟩

theorem migrate_last (hm : migrate 35 db ((sqliteMigrations now).drop 35) = .ok db') : db = db' := by
  cases hm
  rfl

end

theorem migrate_succeeds (hi : i ≤ 35) (h : AtVersion now i db) (hu : i ≤ 31 → db.Unreferenced .network) :
    ∃ db', migrate i db ((sqliteMigrations now).drop i) = .ok db' := by
  induction hi using Nat.decreasingInduction generalizing db with
  | self => exact ⟨db,by rw [drop_of_length_le (by exact Nat.le_refl 35)]; rfl⟩
  | of_succ i hi ih =>
    obtain ⟨db₁,hrun,hmoved⟩ := (step_spec hi h).1 fun hi => hu (by omega)
    obtain ⟨db',hm⟩ := ih hmoved.version fun hi => hmoved.unreferenced.mpr (hu (by omega))
    refine ⟨db',?_⟩
    rw [drop_migration hi,migrate,hrun]
    exact hm

section
variable (hi : i ≤ 35) (h : AtVersion now i db) (hm : migrate i db ((sqliteMigrations now).drop i) = .ok db')
include hi h hm

theorem unreferenced_of_migrate (hle : i ≤ 31) : db.Unreferenced .network := by
  induction hi using Nat.decreasingInduction generalizing db with
  | self => omega
  | of_succ i hi ih =>
    obtain ⟨db₁,hrun,hm⟩ := migrate_ok hi hm
    have hmoved := step_moved hi h hrun
    by_cases h31 : i = 31
    · exact (step_spec hi h).2 db₁ hrun (.inr (.inr h31))
    · exact hmoved.unreferenced.mp (ih hmoved.version hm (by omega))

theorem migrate_version : AtVersion now 35 db' := by
  induction hi using Nat.decreasingInduction generalizing db with
  | self => exact migrate_last hm ▸ h
  | of_succ i hi ih =>
    obtain ⟨db₁,hrun,hm⟩ := migrate_ok hi hm
    exact ih (step_moved hi h hrun).version hm

theorem migrate_keeps : Keeps (if i ≤ 7 then [.network] else []) db db' := by
  induction hi using Nat.decreasingInduction generalizing db with
  | self => exact migrate_last hm ▸ Keeps.refl _ _
  | of_succ i hi ih =>
    obtain ⟨db₁,hrun,hm⟩ := migrate_ok hi hm
    have hmoved := step_moved hi h hrun
    refine (hmoved.keeps.mono ?_).trans ((ih hmoved.version hm).mono ?_)
    all_goals
      split
      · rw [if_pos (by omega)]
        exact List.Subset.refl _
      · exact nil_subset _

end

/-- An upgrade from before the join passes through it, keeping all rows on both sides of it. -/
theorem migrate_joins (hi : i ≤ 7)
    (h : AtVersion now i db) (hm : migrate i db ((sqliteMigrations now).drop i) = .ok db') :
    ∃ db₇ db₈, AtVersion now 7 db₇ ∧ Keeps [] db db₇ ∧ AtVersion now 8 db₈ ∧
      db₈.rows .network = joinUsers db₇.rows ∧ db₈.rows .user = db₇.rows .user ∧
      Keeps [] db₈ db' := by
  induction hi using Nat.decreasingInduction generalizing db with
  | self =>
    obtain ⟨db₈,hrun,hm⟩ := migrate_ok (by omega) hm
    obtain ⟨hsucc,hfail⟩ := step7 h
    obtain ⟨db₈',hrun',hmoved,hnetwork,huser⟩ := hsucc (hfail db₈ hrun)
    rw [hrun,Option.some.injEq] at hrun'
    subst hrun'
    exact ⟨db,db₈,h,Keeps.refl _ _,hmoved.version,hnetwork,huser,migrate_keeps (by omega) hmoved.version hm⟩
  | of_succ i hi ih =>
    obtain ⟨db₁,hrun,hm⟩ := migrate_ok (by omega) hm
    have hmoved := step_moved (by omega) h hrun
    obtain ⟨db₇,db₈,h₇,hkeeps,hrest⟩ := ih hmoved.version hm
    have hfirst := hmoved.keeps
    rw [if_neg (by omega)] at hfirst
    exact ⟨db₇,db₈,h₇,hfirst.trans hkeeps,hrest⟩

theorem any_ownedBy (hn : n' .user = n .user)
    (h : Carried columns us us') (hc : .username ∈ columns) : us'.any (ownedBy n') = us.any (ownedBy n) := by
  have hiff := h.forall_iff hc fun v => ¬ (n .user ≠ .null ∧ n .user = v)
  rw [Bool.eq_iff_iff,any_eq_true,any_eq_true,← not_iff_not]
  simpa only [ownedBy_iff,hn,not_exists,not_and] using hiff

/-- The tables the join needs, in every version up to it. -/
theorem join_columns (hi : i ≤ 7) (h : AtVersion now i db) :
    (∃ d ∈ db.schema.tables, d.name = .user ∧ .username ∈ d.columns.map (·.name)) ∧
      ∀ d ∈ db.schema.tables, d.name = .network → .user ∈ d.columns.map (·.name) := by
  have hall : (List.range 8).all (fun i => (schemaAt now i).any fun s =>
      s.tables.any (fun d => d.name = .user && .username ∈ d.columns.map (·.name)) &&
      s.tables.all fun d => d.name ≠ .network || .user ∈ d.columns.map (·.name)) = true := rfl
  have := check h (all_eq_true.mp hall i (mem_range.mpr (by omega)))
  simp only [Bool.and_eq_true,any_eq_true,all_eq_true,Bool.or_eq_true,decide_eq_true_eq] at this
  exact ⟨this.1,fun d hd hn => (this.2 d hd).resolve_left (not_not.mpr hn)⟩

theorem joinedRow_apply (hc : c ∈ networkNew7.columns.map (·.name)) (hne : c ≠ .user)
    (n u : Row Col) : joinedRow n u c = n c := by
  fin_cases hc <;> first | rfl | exact absurd rfl hne

/-- What the join has made, as it is found after tables that keep their rows. -/
theorem join_carried {rows' : Rows Table Col}
    (hunique : Fitted (rows .user) .id [[.username]] []) (hnetwork : Carried cn (joinUsers rows) (rows' .network))
    (hcn : networkNew7.columns.map (·.name) ⊆ cn) (huser : Carried cu (rows .user) (rows' .user)) (hid : .id ∈ cu)
    (hname : .username ∈ cu) :
    List.Forall₂
      (fun n n' => (∀ c ∈ networkNew7.columns.map (·.name), c ≠ .user → n' c = n c) ∧
        ∃ u ∈ rows' .user, n .user = u .username ∧ n' .user = u .id)
      ((rows .network).filter fun n => (rows .user).any (ownedBy n)) (rows' .network) := by
  refine forall₂_comp ?_ (join_forall₂ (hunique.unique [.username] (by simp)) (rows .network)) hnetwork
  rintro n _ n' ⟨u,hu,ho,rfl⟩ hn'
  obtain ⟨u',hu',hsame⟩ := huser.exists_of_mem hu
  refine ⟨fun c hc hne => (hn' c (hcn hc)).trans (joinedRow_apply hc hne n u),u',hu',?_,?_⟩
  · rw [hsame .username hname,(ownedBy_iff.mp ho).2]
  · rw [hsame .id hid]
    exact hn' .user (hcn (by decide))

theorem networks_joined (hi : i ≤ 7) (h : AtVersion now i db)
    (hm : migrate i db ((sqliteMigrations now).drop i) = .ok db') : NetworksJoined db db' := by
  obtain ⟨db₇,db₈,h₇,hto,h₈,hnetwork,huser,hfrom⟩ := migrate_joins hi h hm
  obtain ⟨⟨du,hdu,hnu,hcu⟩,hcols⟩ := join_columns hi h
  intro d hd hn
  -- up to the join both tables keep their rows
  obtain ⟨⟨d₇,hd₇,hn₇,hsub₇⟩,hrows₇⟩ := hto d hd not_mem_nil
  have husers₇ := (hto du hdu not_mem_nil).2
  rw [hn] at hn₇ hrows₇
  rw [hnu] at husers₇
  have hwithin : d.columns.map (·.name) ⊆ networkNew7.columns.map (·.name) := by
    have hs := check h₇ (p := fun s => rebuildable s .network networkNew7 (networkNew7.columns.map (·.name))) rfl
    exact List.Subset.trans hsub₇ ((rebuildable_spec hs).2.2.2.2 d₇ hd₇ hn₇)
  have hfilter := hrows₇.filter fun n n' he => any_ownedBy (he .user (hcols d hd hn)) husers₇ hcu
  have hunique : Fitted (db₇.rows .user) .id [[.username]] [] :=
    fitted h₇.sound.valid (check h₇ (p := fun s => fits s .user .id _ _) rfl)
  -- after it they keep them again
  have hcheck := check h₈ (p := fun s =>
    s.tables.any (fun e => e.name = .network && (networkNew7.columns.map (·.name)).all (· ∈ e.columns.map (·.name))) &&
    s.tables.any fun e => e.name = .user && .id ∈ e.columns.map (·.name) && .username ∈ e.columns.map (·.name)) rfl
  simp only [Bool.and_eq_true,any_eq_true,all_eq_true,decide_eq_true_eq,and_assoc] at hcheck
  obtain ⟨⟨dn,hdn,hnn,hcn⟩,de,hde,hne,hid,hname⟩ := hcheck
  have hrows₈ := (hfrom dn hdn not_mem_nil).2
  have husers₈ := (hfrom de hde not_mem_nil).2
  rw [hnn,hnetwork] at hrows₈
  rw [hne,huser] at husers₈
  refine forall₂_comp ?_ hfilter (join_carried hunique hrows₈ hcn husers₈ hid hname)
  rintro n n₇ n' hn₇ ⟨hsame,u,hu,howner,hid⟩
  refine ⟨fun c hc hne => (hsame c (hwithin hc) hne).trans (hn₇ c hc),u,hu,?_,hid⟩
  rw [← howner,hn₇ .user (hcols d hd hn)]

theorem empty_sound : emptyState.Sound :=
  ⟨⟨fun _ hd => absurd hd not_mem_nil,fun _ hl => absurd hl not_mem_nil⟩,fun _ _ => rfl⟩

variable (now) in
theorem upgrade_empty : ∃ g, upgrade now ⟨emptyState,0⟩ = .ok g ∧ g.db.schema = Sqlite.schema := by
  obtain ⟨db,hrun,hschema,-⟩ := transaction_grows empty_sound (m := sqliteSchema) rfl
    rfl [] .network
  refine ⟨⟨db,(sqliteMigrations now).length⟩,?_,hschema⟩
  rw [upgrade,if_neg fun h => Nat.succ_ne_zero _ h.symm,if_neg (Nat.not_lt_zero _),if_pos rfl,hrun]

/-- Where every upgrade ends, next to a new file. -/
theorem alike_fresh (h : AtVersion now 35 db) :
    ∃ g, upgrade now ⟨emptyState,0⟩ = .ok g ∧ alike (mended db.schema) g.db.schema = true := by
  obtain ⟨g,hg,hschema⟩ := upgrade_empty now
  refine ⟨g,hg,?_⟩
  rw [hschema]
  exact check h (p := fun s => alike (mended s) Sqlite.schema) rfl

theorem upgrade_eq (h1 : 1 ≤ v) (h35 : v < (sqliteMigrations now).length)
    (db : State Table Col IndexName) : upgrade now ⟨db,v⟩ =
      (migrate v db ((sqliteMigrations now).drop v)).map fun db => ⟨db,(sqliteMigrations now).length⟩ := by
  simp only [upgrade,Nat.ne_of_lt h35,Nat.not_lt.mpr h35.le,Nat.ne_of_gt h1]
  cases migrate v db ((sqliteMigrations now).drop v) <;> rfl

/-- One user with one network, before users had ids. -/
def oldest : State Table Col IndexName where
  schema := v0Schema
  rows
    | .user => [Row.of [.rowid,.username] [.int 4,.text "ana"]]
    | .network => [Row.of [.id,.user,.addr,.nick] [.int 1,.text "ana",.text "irc",.text "ana"]]
    | _ => []

theorem oldest_version : AtVersion "" 1 oldest := by
  refine ⟨⟨by decide,?_⟩,rfl⟩
  intro t ht
  cases t <;> first | rfl | cases ht

/-- One user with one network and one channel, as the version before the last rebuild has them. -/
def joined31 : State Table Col IndexName where
  schema := (schemaAt "" 31).getD v0Schema
  rows
    | .user => [Row.of [.id,.username,.admin,.createdAt,.enabled,.maxNetworks]
        [.int 1,.text "ana",.int 0,.text "",.int 1,.int (-1)]]
    | .network => [Row.of [.id,.user,.addr,.enabled,.autoAway]
        [.int 1,.int 1,.text "irc",.int 1,.int 1]]
    | .channel => [Row.of [.id,.network,.name,.detached,.relayDetached,.reattachOn,.detachAfter,
        .detachOn] [.int 1,.int 1,.text "c",.int 0,.int 0,.int 0,.int 0,.int 0]]
    | _ => []

end Sake.Proofs.Migrations
