import Sake.Lib.SqlRebuild
import Sake.Migrations

namespace Sake.Proofs.Rebuilds
open Sake.Lib Sake.Lib.Sql Sake.Schema Sake.Migrations List

variable {rows : Rows Table Col}

/-- The schema has this table, with at least these constraints. -/
def fits (s : Schema Table Col IndexName) (table : Table) (pk : Col) (uniques : List (List Col))
    (required : List Col) : Bool :=
  s.tables.any fun d => d.name = table && d.key = pk && uniques.all (· ∈ d.unique) &&
    required.all fun c => d.columns.any fun k => k.name = c && k.notNull

/-- The rows of a table under such constraints. -/
structure Fitted (rs : List (Row Col)) (pk : Col) (uniques : List (List Col)) (required : List Col) :
    Prop where
  isInt : ∀ r ∈ rs, (r pk).isInt = true
  notNull : ∀ c ∈ required, ∀ r ∈ rs, r c ≠ .null
  unique : ∀ u ∈ [pk] :: uniques, rs.Pairwise fun r q => ¬ Clash u r q

theorem fitted (hv : Valid s rows)
    (h : fits s table pk uniques required = true) : Fitted (rows table) pk uniques required := by
  simp only [fits,any_eq_true,Bool.and_eq_true,decide_eq_true_eq,all_eq_true] at h
  obtain ⟨d,hd,⟨⟨rfl,rfl⟩,huniq⟩,hreq⟩ := h
  obtain ⟨hnull,hint,hpair⟩ := hv.1 d hd
  refine ⟨hint,?_,?_⟩
  · intro c hc
    obtain ⟨k,hk,rfl,hn⟩ := hreq c hc
    exact hnull k hk hn
  · intro u hu
    rcases mem_cons.mp hu with rfl | hu
    · exact hpair _ mem_cons_self
    · exact hpair u (mem_cons_of_mem _ (huniq u hu))

/-- A copy of a table, under constraints that the table had. -/
theorem copy_accepts {d : TableDef Table Col}
    (h : Fitted rs pk uniques required) (hpk : d.key = pk) (huniq : ∀ u ∈ d.unique, u ∈ uniques)
    (hnull : ∀ c ∈ d.columns, c.notNull = true → c.name ∈ required ∨ ∀ r, f r c.name ≠ .null)
    (hf : ∀ c ∈ pk :: required ++ uniques.flatten, ∀ r, f r c = r c) : d.Accepts (rs.map f) := by
  have hrel : List.Forall₂ (fun r r' => r' = f r) rs (rs.map f) :=
    forall₂_map_right_iff.mpr (forall₂_same.mpr fun _ _ => rfl)
  refine TableDef.accepts_of_forall₂ hrel ?_ ?_ ?_
  · rintro c hc hn r hr _ rfl
    rcases hnull c hc hn with hreq | hall
    · rw [hf _ (by simp [hreq])]
      exact h.notNull _ hreq r hr
    · exact hall r
  · rintro r hr _ rfl
    rw [hpk,hf pk (by simp)]
    exact h.isInt r hr
  · intro u hu
    have hmem : u ∈ [pk] :: uniques := by
      rcases mem_cons.mp hu with rfl | hu
      · rw [hpk]
        exact mem_cons_self
      · exact mem_cons_of_mem _ (huniq u hu)
    refine ⟨u,h.unique u hmem,?_⟩
    rintro r - q - _ _ rfl rfl hclash c hc
    have hsame : ∀ r, f r c = r c := by
      refine hf c ?_
      rcases mem_cons.mp hmem with rfl | hmem
      · simp [mem_singleton.mp hc]
      · exact mem_append_right _ (mem_flatten.mpr ⟨u,hmem,hc⟩)
    have := hclash c hc
    rwa [hsame,hsame] at this

theorem selectUsers_accepts (h : Fitted (rows .user) .rowid [[.username]] [.username,.admin]) :
    userNew.Accepts (selectUsers rows) := by
  have hrel : List.Forall₂ (fun r r' => r' = TableDef.row userNew [r .rowid,r .username,r .password,
      r .admin]) (rows .user) (selectUsers rows) :=
    forall₂_map_right_iff.mpr (forall₂_same.mpr fun _ _ => rfl)
  refine TableDef.accepts_of_forall₂ hrel ?_ ?_ ?_
  · rintro c hc hn r hr _ rfl
    simp only [userNew,mem_cons,not_mem_nil,or_false] at hc
    rcases hc with rfl | rfl | rfl | rfl
    · cases hn
    · exact h.notNull .username (by simp) r hr
    · cases hn
    · exact h.notNull .admin (by simp) r hr
  · rintro r hr _ rfl
    exact h.isInt r hr
  · intro u hu
    simp only [userNew,mem_cons,not_mem_nil,or_false] at hu
    rcases hu with rfl | rfl
    · refine ⟨[.rowid],h.unique _ mem_cons_self,?_⟩
      rintro r - q - _ _ rfl rfl hclash c hc
      cases mem_singleton.mp hc
      exact hclash .id (mem_singleton_self _)
    · refine ⟨[.username],h.unique _ (by simp),?_⟩
      rintro r - q - _ _ rfl rfl hclash c hc
      cases mem_singleton.mp hc
      exact hclash .username (mem_singleton_self _)

theorem selectNetworks13_accepts
    (h : Fitted (rows .network) .id [[.user,.addr,.nick],[.user,.name]] [.user,.addr,.enabled]) :
    networkNew13.Accepts (selectNetworks13 rows) := by
  refine copy_accepts h rfl (fun u hu => hu) ?_ ?_
  · intro c hc hn
    have hreq : ∀ c ∈ networkNew13.columns, c.notNull = true → c.name ∈ [.user,.addr,.enabled] := by decide
    exact .inl (hreq c hc hn)
  · intro c hc r
    simp only [flatten_cons,cons_append,nil_append,flatten_nil,mem_cons,not_mem_nil,or_false] at hc
    rcases hc with rfl | rfl | rfl | rfl | rfl | rfl | rfl | rfl | rfl <;> rfl

theorem selectNetworks31_accepts (h : Fitted (rows .network) .id [[.user,.name]] [.user,.addr,.autoAway,.enabled]) :
    networkNew31.Accepts (selectNetworks31 rows) := by
  refine copy_accepts h rfl (fun u hu => hu) ?_ ?_
  · intro c hc hn
    have hreq : ∀ c ∈ networkNew31.columns, c.notNull = true →
        c.name ∈ [.user,.addr,.autoAway,.enabled] ∨ c.name = .tlsInsecure := by
      decide
    refine (hreq c hc hn).imp_right fun he r => ?_
    rw [he]
    exact Value.noConfusion
  · intro c hc r
    simp only [flatten_cons,cons_append,nil_append,flatten_nil,mem_cons,not_mem_nil,or_false] at hc
    rcases hc with rfl | rfl | rfl | rfl | rfl | rfl | rfl <;> rfl

section Join
variable {us : List (Row Col)} {u n : Row Col}

theorem ownedBy_iff : ownedBy n u = true ↔ n .user ≠ .null ∧ n .user = u .username := by simp [ownedBy]

theorem owner_cases (hu : us.Pairwise fun u v => ¬ Clash [.username] u v) (n : Row Col) :
    us.filter (ownedBy n) = [] ∨ ∃ u ∈ us, ownedBy n u = true ∧ us.filter (ownedBy n) = [u] := by
  induction us with
  | nil => exact .inl rfl
  | cons u us ih =>
    obtain ⟨hhead,htail⟩ := pairwise_cons.mp hu
    by_cases ho : ownedBy n u = true
    · refine .inr ⟨u,mem_cons_self,ho,?_⟩
      rw [filter_cons_of_pos ho,filter_eq_nil_iff.mpr]
      intro v hv hov
      refine hhead v hv fun c hc => ?_
      cases mem_singleton.mp hc
      obtain ⟨hn,hnu⟩ := ownedBy_iff.mp ho
      exact ⟨hnu ▸ hn,hnu.symm.trans (ownedBy_iff.mp hov).2⟩
    · rw [filter_cons_of_neg ho]
      refine (ih htail).imp_right ?_
      rintro ⟨v,hv,hov,hf⟩
      exact ⟨v,mem_cons_of_mem _ hv,hov,hf⟩

/-- The join keeps the networks that have an owner, one row for each. -/
theorem join_forall₂ (hu : us.Pairwise fun u v => ¬ Clash [.username] u v) (ns : List (Row Col)) :
    List.Forall₂ (fun n n' => ∃ u ∈ us, ownedBy n u = true ∧ n' = joinedRow n u)
      (ns.filter fun n => us.any (ownedBy n))
      (ns.flatMap fun n => (us.filter (ownedBy n)).map (joinedRow n)) := by
  induction ns with
  | nil => exact .nil
  | cons n ns ih =>
    rw [flatMap_cons]
    rcases owner_cases hu n with hnone | ⟨u,hmem,ho,hone⟩
    · have hany : us.any (ownedBy n) = false := by
        rw [any_eq_false]
        exact filter_eq_nil_iff.mp hnone
      rw [filter_cons,hany,hnone]
      exact ih
    · have hany : us.any (ownedBy n) = true := any_eq_true.mpr ⟨u,hmem,ho⟩
      rw [filter_cons,hany,hone]
      exact .cons ⟨u,hmem,ho,rfl⟩ ih

variable (hn : Fitted (rows .network) .id [[.user,.addr,.nick],[.user,.name]] [.user,.addr,.nick])
  (hu : Fitted (rows .user) .id [[.username]] [])
include hu

/-- Owners of one id are one user, so their networks had one owner before. -/
theorem owner_eq (hmu : u ∈ rows .user) (hmv : v ∈ rows .user) (hou : ownedBy n u = true)
    (hov : ownedBy m v = true) (he : u .id = v .id) : n .user = m .user := by
  have huv : u = v := eq_of_not_clash (hu.unique [.id] mem_cons_self) hmu hmv
    (Value.ne_null_of_isInt (hu.isInt u hmu)) he
  rw [(ownedBy_iff.mp hou).2,(ownedBy_iff.mp hov).2,huv]

include hn in
theorem joinUsers_accepts : networkNew7.Accepts (joinUsers rows) := by
  have hsub : ((rows .network).filter fun n => (rows .user).any (ownedBy n)).Sublist (rows .network) := filter_sublist
  refine TableDef.accepts_of_forall₂ (join_forall₂ (hu.unique [.username] (by simp)) (rows .network))
    ?_ ?_ ?_
  · rintro c hc hreq n hmem _ ⟨u,hmu,-,rfl⟩
    have hname : ∀ c ∈ networkNew7.columns, c.notNull = true → c.name = .user ∨ c.name = .addr ∨ c.name = .nick := by
      decide
    rcases hname c hc hreq with he | he | he <;> rw [he]
    · exact Value.ne_null_of_isInt (hu.isInt u hmu)
    · exact hn.notNull .addr (by simp) n (hsub.subset hmem)
    · exact hn.notNull .nick (by simp) n (hsub.subset hmem)
  · rintro n hmem _ ⟨u,-,-,rfl⟩
    exact hn.isInt n (hsub.subset hmem)
  · intro u hmem
    simp only [networkNew7,mem_cons,not_mem_nil,or_false] at hmem
    rcases hmem with rfl | rfl | rfl
    · refine ⟨[.id],(hn.unique _ mem_cons_self).sublist hsub,?_⟩
      rintro n - m - _ _ ⟨u,-,-,rfl⟩ ⟨v,-,-,rfl⟩ hclash c hc
      cases mem_singleton.mp hc
      exact hclash .id (mem_singleton_self _)
    · refine ⟨[.user,.addr,.nick],(hn.unique _ (by simp)).sublist hsub,?_⟩
      rintro n - m - _ _ ⟨u,hmu,hou,rfl⟩ ⟨v,hmv,hov,rfl⟩ hclash c hc
      simp only [mem_cons,not_mem_nil,or_false] at hc
      rcases hc with rfl | rfl | rfl
      · exact ⟨(ownedBy_iff.mp hou).1,owner_eq hu hmu hmv hou hov (hclash .user (by simp)).2⟩
      · exact hclash .addr (by simp)
      · exact hclash .nick (by simp)
    · refine ⟨[.user,.name],(hn.unique _ (by simp)).sublist hsub,?_⟩
      rintro n - m - _ _ ⟨u,hmu,hou,rfl⟩ ⟨v,hmv,hov,rfl⟩ hclash c hc
      simp only [mem_cons,not_mem_nil,or_false] at hc
      rcases hc with rfl | rfl
      · exact ⟨(ownedBy_iff.mp hou).1,owner_eq hu hmu hmv hou hov (hclash .user (by simp)).2⟩
      · exact hclash .name (by simp)

omit hu in
theorem mem_joinUsers (h : r ∈ joinUsers rows) :
    ∃ n ∈ rows .network, ∃ u ∈ rows .user, ownedBy n u = true ∧ r = joinedRow n u := by
  obtain ⟨n,hn,hr⟩ := mem_flatMap.mp h
  obtain ⟨u,hu,rfl⟩ := mem_map.mp hr
  obtain ⟨hu,ho⟩ := mem_filter.mp hu
  exact ⟨n,hn,u,hu,ho,rfl⟩

end Join

end Sake.Proofs.Rebuilds
