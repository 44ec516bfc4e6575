import Sake.Lib.SqlStmts
import Sake.SqlDelete

namespace Sake.Proofs.SqlDelete
open Sake.Lib Sake.Lib.Sql Sake.Schema Sake.SqlDelete Sake.SqlDelete.Sqlite List Schema.Sqlite Schema

variable {t : Table} {rows : Rows Table Col} {r : Row Col} {id : Int}

theorem eq_iff : eq a b = true ↔ a ≠ .null ∧ a = b := by simp [eq]

theorem eq_int_iff : eq a (.int n) = true ↔ a = .int n := by
  rw [eq_iff,and_iff_right_iff_imp]
  rintro rfl
  exact Value.noConfusion

/-- The references between the tables. -/
def links : List (Link Table Col) := [⟨.network,.user,.user,.id⟩,⟨.channel,.network,.network,.id⟩,
  ⟨.ignore,.network,.network,.id⟩,
  ⟨.deviceCertificate,.user,.user,.id⟩,
  ⟨.deliveryReceipt,.network,.network,.id⟩,
  ⟨.readReceipt,.network,.network,.id⟩,
  ⟨.webPushSubscription,.user,.user,.id⟩,
  ⟨.webPushSubscription,.network,.network,.id⟩,
  ⟨.message,.target,.messageTarget,.id⟩,
  ⟨.messageTarget,.network,.network,.id⟩]

theorem links_sqlite : schema.links = links := rfl

theorem cascades_sqlite : schema.cascades = [] := rfl

theorem cascades_postgres : Postgres.schema.cascades = Postgres.schema.links := rfl

theorem links_postgres : Postgres.schema.links.Perm links := by decide

def rank : Table → Nat
  | .user => 0
  | .network => 1
  | .message => 3
  | _ => 2

theorem rank_links : ∀ l ∈ links, rank l.parent < rank l.child := by decide

/-- The tables whose rows belong to one network and to nothing else. -/
def ofNetwork : List Table := [.channel,.ignore,.deliveryReceipt,.readReceipt,.messageTarget]

theorem link_ofNetwork (ht : t ∈ ofNetwork) : ⟨t,.network,.network,.id⟩ ∈ links := by
  simp only [ofNetwork,mem_cons,not_mem_nil,or_false] at ht
  rcases ht with rfl | rfl | rfl | rfl | rfl <;> simp [links]

theorem ne_of_ofNetwork (ht : t ∈ ofNetwork) (hu : u ∉ ofNetwork) : t ≠ u := by
  rintro rfl
  exact hu ht

section Dependents

theorem dependent_ofNetwork (ht : t ∈ ofNetwork) (hne : t ≠ table) : Dependent rows table p t r ↔ r ∈ rows t ∧
      ∃ n, Dependent rows table p .network n ∧ eq (r .network) (n .id) = true := by
  simp only [ofNetwork,mem_cons,not_mem_nil,or_false] at ht
  rw [Dependent,depends_iff,links_sqlite]
  rcases ht with rfl | rfl | rfl | rfl | rfl <;> simp [links,hne,Link.refers,eq]

theorem dependent_message (hne : .message ≠ table) : Dependent rows table p .message r ↔ r ∈ rows .message ∧
      ∃ t, Dependent rows table p .messageTarget t ∧ eq (r .target) (t .id) = true := by
  rw [Dependent,depends_iff,links_sqlite]
  simp [links,hne,Link.refers,eq]

theorem dependent_subscription (hne : .webPushSubscription ≠ table) :
    Dependent rows table p .webPushSubscription r ↔ r ∈ rows .webPushSubscription ∧
      ((∃ u, Dependent rows table p .user u ∧ eq (r .user) (u .id) = true) ∨
        ∃ n, Dependent rows table p .network n ∧ eq (r .network) (n .id) = true) := by
  rw [Dependent,depends_iff,links_sqlite]
  simp [links,hne,Link.refers,eq]

theorem dependent_deviceCertificate (hne : .deviceCertificate ≠ table) :
    Dependent rows table p .deviceCertificate r ↔ r ∈ rows .deviceCertificate ∧
      ∃ u, Dependent rows table p .user u ∧ eq (r .user) (u .id) = true := by
  rw [Dependent,depends_iff,links_sqlite]
  simp [links,hne,Link.refers,eq]

theorem dependent_network : Dependent rows table p .network r ↔ r ∈ rows .network ∧ (.network = table ∧ p r ∨
      ∃ u, Dependent rows table p .user u ∧ eq (r .user) (u .id) = true) := by
  rw [Dependent,depends_iff,links_sqlite]
  simp [links,Link.refers,eq]

theorem dependent_user : Dependent rows table p .user r ↔ r ∈ rows .user ∧ .user = table ∧ p r := by
  rw [Dependent,depends_iff,links_sqlite]
  simp [links]

end Dependents

section Constraints
variable (hv : Valid Schema.Sqlite.schema rows)
include hv

theorem referred (hl : l ∈ links) (hr : r ∈ rows l.child)
    (hn : r l.column ≠ .null) : ∃ q ∈ rows l.parent, eq (r l.column) (q l.key) = true := by
  obtain ⟨q,hq,href⟩ := (hv.2 l (links_sqlite ▸ hl)).refers hr hn
  exact ⟨q,hq,eq_iff.mpr href⟩

/-- A row refers to the one row of that id as soon as it names the id. -/
theorem refers_iff (hl : ⟨t,c,parent,.id⟩ ∈ links) {gone : Row Col → Prop}
    (hgone : ∀ q, gone q ↔ q ∈ rows parent ∧ q .id = .int id) (hr : r ∈ rows t) :
    (∃ q, gone q ∧ eq (r c) (q .id) = true) ↔ eq (r c) (.int id) = true := by
  constructor
  · rintro ⟨q,hq,he⟩
    rwa [((hgone q).mp hq).2] at he
  · intro he
    obtain ⟨q,hq,hrq⟩ := referred hv hl hr (eq_iff.mp he).1
    refine ⟨q,(hgone q).mpr ⟨hq,?_⟩,hrq⟩
    rw [← (eq_iff.mp hrq).2,eq_int_iff.mp he]

theorem accepts (ht : schema.has t = true) : ∃ d : TableDef Table Col, d.key = .id ∧ d.Accepts (rows t) := by
  obtain ⟨d,hd,rfl⟩ := has_eq_true.mp ht
  have hkey : ∀ d ∈ schema.tables, d.key = .id := by decide
  exact ⟨d,hkey d hd,hv.1 d hd⟩

theorem eq_of_id (ht : schema.has t = true) (hr : r ∈ rows t) (hq : q ∈ rows t) (he : r .id = q .id) : r = q := by
  obtain ⟨d,hkey,hacc⟩ := accepts hv ht
  exact hacc.eq_of_key hr hq (by rw [hkey,he])

theorem eq_id (ht : schema.has t = true) (hr : r ∈ rows t) : eq (r .id) (r .id) = true := by
  obtain ⟨d,hkey,-,hint,-⟩ := accepts hv ht
  exact eq_iff.mpr ⟨Value.ne_null_of_isInt (hkey ▸ hint r hr),rfl⟩

end Constraints

section Network

theorem net_network : Dependent rows .network (fun n => n .id = .int id) .network r ↔
    r ∈ rows .network ∧ r .id = .int id := by
  rw [dependent_network]
  simp [dependent_user]

variable (hv : Valid Schema.Sqlite.schema rows)
include hv

theorem net_child (ht : t ∈ ofNetwork) (hr : r ∈ rows t) :
    Dependent rows .network (fun n => n .id = .int id) t r ↔ eq (r .network) (.int id) = true := by
  rw [dependent_ofNetwork ht (ne_of_ofNetwork ht (by simp [ofNetwork])),and_iff_right hr,
    refers_iff hv (link_ofNetwork ht) (fun _ => net_network) hr]

theorem net_subscription (hr : r ∈ rows .webPushSubscription) :
    Dependent rows .network (fun n => n .id = .int id) .webPushSubscription r ↔ eq (r .network) (.int id) = true := by
  rw [dependent_subscription (by simp),and_iff_right hr,refers_iff hv (by simp [links]) (fun _ => net_network) hr]
  simp [dependent_user]

theorem net_message (hr : r ∈ rows .message) : Dependent rows .network (fun n => n .id = .int id) .message r ↔
      (messagesOfNetwork id).condition rows r = true := by
  rw [dependent_message (by simp),and_iff_right hr]
  simp only [messagesOfNetwork,any_eq_true,Bool.and_eq_true]
  refine exists_congr fun t => ?_
  rw [← and_assoc]
  refine and_congr_left fun _ => ⟨fun hd => ⟨hd.mem,(net_child hv (by simp [ofNetwork]) hd.mem).mp hd⟩,?_⟩
  rintro ⟨ht,he⟩
  exact (net_child hv (by simp [ofNetwork]) ht).mpr he

end Network

section User

theorem user_user : Dependent rows .user (fun u => u .id = .int id) .user r ↔ r ∈ rows .user ∧ r .id = .int id := by
  rw [dependent_user]
  simp

variable (hv : Valid Schema.Sqlite.schema rows)
include hv

theorem user_network : Dependent rows .user (fun u => u .id = .int id) .network r ↔
    r ∈ rows .network ∧ eq (r .user) (.int id) = true := by
  rw [dependent_network]
  refine and_congr_right fun hr => ?_
  rw [refers_iff hv (by simp [links]) (fun _ => user_user) hr]
  simp

theorem user_deviceCertificate (hr : r ∈ rows .deviceCertificate) :
    Dependent rows .user (fun u => u .id = .int id) .deviceCertificate r ↔ eq (r .user) (.int id) = true := by
  rw [dependent_deviceCertificate (by simp),and_iff_right hr,refers_iff hv (by simp [links]) (fun _ => user_user) hr]

theorem user_subscription (hr : r ∈ rows .webPushSubscription) :
    Dependent rows .user (fun u => u .id = .int id) .webPushSubscription r ↔ eq (r .user) (.int id) = true ∨
        ∃ n ∈ rows .network, eq (n .user) (.int id) = true ∧ eq (r .network) (n .id) = true := by
  rw [dependent_subscription (by simp),and_iff_right hr,refers_iff hv (by simp [links]) (fun _ => user_user) hr]
  simp [user_network hv,and_assoc]

theorem user_child (ht : t ∈ ofNetwork) : Dependent rows .user (fun u => u .id = .int id) t r ↔ r ∈ rows t ∧
      ∃ n ∈ rows .network, eq (n .user) (.int id) = true ∧ eq (r .network) (n .id) = true := by
  rw [dependent_ofNetwork ht (ne_of_ofNetwork ht (by simp [ofNetwork]))]
  simp [user_network hv,and_assoc]

theorem user_joined (ht : t ∈ ofNetwork) (hhas : schema.has t = true) (hr : r ∈ rows t) :
    Dependent rows .user (fun u => u .id = .int id) t r ↔ (ofUserNetworks t id).condition rows r = true := by
  rw [user_child hv ht,and_iff_right hr]
  simp only [ofUserNetworks,any_eq_true,Bool.and_eq_true]
  constructor
  · rintro ⟨n,hn,hu,he⟩
    exact ⟨r,hr,n,hn,⟨he,hu⟩,eq_id hv hhas hr⟩
  · rintro ⟨c,hc,n,hn,⟨he,hu⟩,hid⟩
    cases eq_of_id hv hhas hr hc (eq_iff.mp hid).2
    exact ⟨n,hn,hu,he⟩

theorem user_message (hr : r ∈ rows .message) : Dependent rows .user (fun u => u .id = .int id) .message r ↔
      (messagesOfUser id).condition rows r = true := by
  rw [dependent_message (by simp),and_iff_right hr]
  simp only [messagesOfUser,any_eq_true,Bool.and_eq_true]
  constructor
  · rintro ⟨t,ht,he⟩
    obtain ⟨htm,n,hn,hu,hnet⟩ := (user_child hv (by simp [ofNetwork])).mp ht
    exact ⟨r,hr,t,htm,n,hn,⟨⟨he,hnet⟩,hu⟩,eq_id hv rfl hr⟩
  · rintro ⟨m,hm,t,ht,n,hn,⟨⟨he,hnet⟩,hu⟩,hid⟩
    cases eq_of_id hv rfl hr hm (eq_iff.mp hid).2
    exact ⟨t,(user_child hv (by simp [ofNetwork])).mpr ⟨ht,n,hn,hu,hnet⟩,he⟩

end User

section Index

theorem foldl_messageFTSDelete (old : List (Row Col)) (fts : List (Value × Value)) :
    old.foldl messageFTSDelete fts = fts.filter fun e => old.all fun r => e ≠ ftsEntry r := by
  induction old generalizing fts with
  | nil => simp
  | cons r old ih =>
    rw [foldl_cons,ih,messageFTSDelete,filter_filter]
    refine filter_congr fun e _ => ?_
    rw [all_cons,Bool.and_comm]

/-- The trigger drops the entries of the messages that go and of no others. -/
theorem index_kept (hv : Valid schema rows) (condition : Row Col → Bool) :
    ((rows .message).filter condition).foldl messageFTSDelete ((rows .message).map ftsEntry) =
      ((rows .message).filter fun r => !condition r).map ftsEntry := by
  rw [foldl_messageFTSDelete,filter_map]
  congr 1
  refine filter_congr fun r hr => ?_
  rw [Bool.eq_iff_iff,Function.comp_apply,all_eq_true,Bool.not_eq_true']
  constructor
  · intro h
    by_contra hn
    have := h r (mem_filter.mpr ⟨hr,Bool.not_eq_false _ ▸ hn⟩)
    simp at this
  · intro h q hq
    obtain ⟨hq,hc⟩ := mem_filter.mp hq
    rw [decide_eq_true_eq]
    intro he
    cases eq_of_id hv rfl hr hq (Prod.ext_iff.mp he).1
    rw [h] at hc
    cases hc

theorem valid (s : SqliteDB) : Valid schema s.db.rows := s.schema_eq ▸ s.sound.valid

theorem delete_kept (s : SqliteDB) (h : s.toStore.delete d = some s') : ∃ k : SqliteDB, k.toStore = s' := by
  obtain ⟨db,hdb,rfl⟩ := Option.map_eq_some_iff.mp h
  obtain ⟨ha,hm,-⟩ := State.exec_eq_some.mp hdb
  have hschema : s.db.schema = db.schema := by
    simp only [Delete.stmt,alter,Option.ite_none_right_eq_some,Option.some.injEq] at ha
    exact ha.2
  have hmessage : db.rows .message = (s.db.rows .message).filter fun r =>
      !(decide (.message = d.table) && d.condition s.db.rows r) := by
    rw [hm,move_delete (s.schema_eq ▸ cascades_sqlite)]
  refine ⟨⟨⟨db,_⟩,hschema ▸ s.schema_eq,State.exec_sound s.sound hdb,?_⟩,rfl⟩
  rw [hmessage,s.indexed]
  by_cases ht : d.table = .message
  · rw [index_kept (valid s)]
    simp [ht]
  · simp [ht,Ne.symm ht]

theorem run_kept (s : SqliteDB)
    (h : Runs.run Store.delete s.toStore ds = some s') : ∃ k : SqliteDB, k.toStore = s' := by
  refine Runs.run_invariant (fun s => ∃ k : SqliteDB, k.toStore = s) ⟨s,rfl⟩ ?_ h
  rintro _ d t ⟨k,rfl⟩ ht
  exact delete_kept k ht

theorem run_db (s : Store) (ds : List (Delete Table Col)) :
    (Runs.run Store.delete s ds).map Store.db = s.db.transaction (ds.map Delete.stmt) := by
  induction ds generalizing s with
  | nil => rfl
  | cons d ds ih =>
    rw [map_cons,State.transaction,Runs.run,Runs.run,Store.delete]
    cases s.db.exec d.stmt with
    | none => rfl
    | some db => exact ih _

end Index

section Outcome
open Classical

/-- What is to go, as a test. -/
noncomputable def gone (rows : Rows Table Col) (table : Table) (p : Row Col → Prop) : Table → Row Col → Bool :=
  fun t r => decide (Dependent rows table p t r)

theorem condition_gone (h : Dependent rows table p t r ↔ b = true) : b = gone rows table p t r := by
  rw [Bool.eq_iff_iff,gone,decide_eq_true_eq,h]

/-- Deletes that name what depends on the root, in order, reach what they should. -/
theorem run_succeeds (s : SqliteDB) (hhas : ds.all (fun d => schema.has d.table) = true)
    (horder : inOrder links [.ignore] [] (ds.map (·.table)) = true)
    (hclears : Clears (gone s.db.rows table p) s.db.rows [] ds)
    (hspared : ∀ t ∉ ds.map (·.table), ∀ r ∈ s.db.rows t, ¬ Dependent s.db.rows table p t r)
    (hignore : .ignore ∉ ds.map (·.table)) :
    ∃ s' : SqliteDB, Runs.run Store.delete s.toStore ds = some s'.toStore ∧
      ∀ t, s'.db.rows t = (s.db.rows t).filter fun r => ¬ Dependent s.db.rows table p t r := by
  have hv := valid s
  have hrun := deletes_succeed cascades_sqlite hv (by
      intro l hl r hr q _ href hq
      exact decide_eq_true (.child hl hr (of_decide_eq_true hq) href))
    (by
      intro t ht r hr
      cases mem_singleton.mp ht
      exact decide_eq_false (hspared .ignore hignore r hr))
    (fun l _ hp => absurd hp not_mem_nil) (all_eq_true.mp hhas) horder hclears
  have hstart : s.db = ⟨schema,strip (gone s.db.rows table p) s.db.rows []⟩ := by rw [strip_nil,← s.schema_eq]
  rw [← hstart,← run_db] at hrun
  obtain ⟨s',hs',hdb⟩ := Option.map_eq_some_iff.mp hrun
  obtain ⟨k,rfl⟩ := run_kept s hs'
  refine ⟨k,hs',fun t => ?_⟩
  rw [hdb]
  refine filter_congr fun r hr => ?_
  by_cases ht : t ∈ ds.map (·.table)
  · simp [ht,gone]
  · simp [gone,hspared t ht r hr]

theorem postgres_reaches (pg : PostgresDB) (hhas : Postgres.schema.has table = true) : ∃ pg' : PostgresDB,
      pg.exec (.delete table fun _ r => eq (r .id) (.int id)) = some pg'.toState ∧
      ∀ t, pg'.rows t = (pg.rows t).filter fun r =>
        ¬ Dependent pg.rows table (fun r => r .id = .int id) t r := by
  obtain ⟨db,hexec,hschema,hrows⟩ := cascade_succeeds pg.sound.valid (pg.schema_eq ▸ hhas)
    (by rw [pg.schema_eq,cascades_postgres]; exact List.Subset.refl _) rank
    (by
      rw [pg.schema_eq]
      exact fun l hl => rank_links l (links_postgres.mem_iff.mp hl))
    (by
      rw [pg.schema_eq]
      intro t
      cases t <;> simp [rank,Postgres.schema])
    (fun _ r => eq (r .id) (.int id))
  refine ⟨⟨db,hschema.trans pg.schema_eq,State.exec_sound pg.sound hexec⟩,hexec,fun t => ?_⟩
  rw [hrows]
  refine filter_congr fun r _ => ?_
  rw [decide_eq_decide,pg.schema_eq]
  simp only [eq_int_iff]
  exact not_congr ⟨Depends.mono fun l => links_postgres.mem_iff.mp,Depends.mono fun l => links_postgres.mem_iff.mpr⟩

/-- Tables that refer to nothing hold nothing that depends on another table. -/
theorem not_dependent_apart (hne : t ≠ table) (ht : t ∈ [.user,.userNew,.networkNew,.webPushConfig,.messageFTS]) :
    ¬ Dependent rows table p t r := by
  rw [Dependent,depends_iff,links_sqlite]
  simp only [mem_cons,not_mem_nil,or_false] at ht
  rcases ht with rfl | rfl | rfl | rfl | rfl <;> simp [links,hne]

theorem deletes_dependents (s : SqliteDB)
    (hresult : result = Runs.run Store.delete s.toStore ds) (hhas : Postgres.schema.has table = true)
    (h : ∃ s' : SqliteDB, Runs.run Store.delete s.toStore ds = some s'.toStore ∧
      ∀ t, s'.db.rows t = (s.db.rows t).filter fun r => ¬ Dependent s.db.rows table (fun r => r .id = .int id) t r) :
    DeletesDependents s result table (fun r => r .id = .int id)
      fun pg => pg.exec (.delete table fun _ r => eq (r .id) (.int id)) := by
  obtain ⟨s',hs',hrows⟩ := h
  refine ⟨s',hresult.trans hs',hrows,fun pg hpg => ?_⟩
  obtain ⟨pg',hpg',hreach⟩ := postgres_reaches pg hhas
  refine ⟨pg',hpg',funext fun t => ?_⟩
  rw [hreach,hrows,hpg]

theorem network_tables : (deleteNetworkStmts id).map (·.table) =
    [.message,.messageTarget,.webPushSubscription,.deliveryReceipt,.readReceipt,.channel,.network] := rfl

theorem user_tables : (deleteUserStmts id).map (·.table) =
    [.deliveryReceipt,.readReceipt,.message,.messageTarget,.webPushSubscription,
      .deviceCertificate,.channel,.network,.user] := rfl

theorem network_deletes (s : SqliteDB) (h : NothingIgnored s.db.rows id) :
    DeletesDependents s (Sqlite.deleteNetwork s.toStore id) .network (fun r => r .id = .int id)
      fun pg => Postgres.deleteNetwork pg id := by
  have hv := valid s
  refine deletes_dependents s rfl rfl
    (run_succeeds s rfl rfl ?_ ?_ (by simp [network_tables]))
  · refine ⟨?_,?_,?_,?_,?_,?_,?_,trivial⟩ <;> refine fun r hr => condition_gone ?_
    · rw [strip_nil]
      exact net_message hv hr
    · exact net_child hv (by simp [ofNetwork,byColumn]) hr
    · exact net_subscription hv hr
    · exact net_child hv (by simp [ofNetwork,byColumn]) hr
    · exact net_child hv (by simp [ofNetwork,byColumn]) hr
    · exact net_child hv (by simp [ofNetwork,byColumn]) hr
    · exact (net_network.trans (and_iff_right hr)).trans eq_int_iff.symm
  · intro t ht r hr
    rw [network_tables] at ht
    cases t with
    | ignore =>
      rw [net_child hv (by simp [ofNetwork]) hr,eq_int_iff]
      exact h r hr
    | deviceCertificate =>
      rw [dependent_deviceCertificate (by simp)]
      simp [dependent_user]
    | user | userNew | networkNew | webPushConfig | messageFTS => exact not_dependent_apart (by simp) (by simp)
    | _ => simp at ht

/-- The conditions read tables that are not stripped yet. -/
theorem ofUserNetworks_strip (ht : t ∉ done) (hn : .network ∉ done) :
    (ofUserNetworks t id).condition (strip g rows done) r = (ofUserNetworks t id).condition rows r := by
  simp [ofUserNetworks,strip_of_not_mem ht,strip_of_not_mem hn]

theorem messagesOfUser_strip (hm : .message ∉ done) (ht : .messageTarget ∉ done) (hn : .network ∉ done) :
    (messagesOfUser id).condition (strip g rows done) r = (messagesOfUser id).condition rows r := by
  simp [messagesOfUser,strip_of_not_mem hm,strip_of_not_mem ht,strip_of_not_mem hn]

theorem user_deletes (s : SqliteDB) (h : NothingForeign s.db.rows id) :
    DeletesDependents s (Sqlite.deleteUser s.toStore id) .user (fun r => r .id = .int id)
      fun pg => Postgres.deleteUser pg id := by
  have hv := valid s
  refine deletes_dependents s rfl rfl (run_succeeds s rfl rfl ?_ ?_ (by simp [user_tables]))
  · refine ⟨?_,?_,?_,?_,?_,?_,?_,?_,?_,trivial⟩ <;> refine fun r hr => condition_gone ?_
    · rw [strip_nil]
      exact user_joined hv (by simp [ofNetwork,ofUserNetworks]) rfl hr
    · rw [ofUserNetworks_strip (by simp [ofUserNetworks]) (by simp [ofUserNetworks])]
      exact user_joined hv (by simp [ofNetwork,ofUserNetworks]) rfl hr
    · rw [messagesOfUser_strip (by simp [ofUserNetworks]) (by simp [ofUserNetworks])
        (by simp [ofUserNetworks])]
      exact user_message hv hr
    · rw [ofUserNetworks_strip (by simp [ofUserNetworks,messagesOfUser])
        (by simp [ofUserNetworks,messagesOfUser])]
      exact user_joined hv (by simp [ofNetwork,ofUserNetworks]) rfl hr
    · refine (user_subscription hv hr).trans ⟨?_,.inl⟩
      rintro (hu | ⟨n,hn,hu,he⟩)
      · exact hu
      · exact eq_int_iff.mpr ((h n hn (eq_int_iff.mp hu)).2 r hr (eq_iff.mp he).2)
    · exact user_deviceCertificate hv hr
    · rw [ofUserNetworks_strip (by simp [ofUserNetworks,messagesOfUser,byColumn])
        (by simp [ofUserNetworks,messagesOfUser,byColumn])]
      exact user_joined hv (by simp [ofNetwork,ofUserNetworks]) rfl hr
    · exact (user_network hv).trans (and_iff_right hr)
    · exact (user_user.trans (and_iff_right hr)).trans eq_int_iff.symm
  · intro t ht r hr
    rw [user_tables] at ht
    cases t with
    | ignore =>
      rw [user_child hv (by simp [ofNetwork])]
      rintro ⟨-,n,hn,hu,he⟩
      exact (h n hn (eq_int_iff.mp hu)).1 r hr (eq_iff.mp he).2
    | userNew | networkNew | webPushConfig | messageFTS => exact not_dependent_apart (by simp) (by simp)
    | _ => simp at ht

/-- What no statement names is still there, so nothing may ask for its going. -/
theorem not_dependent_of_kept (s : SqliteDB)
    (h : DeletesDependents s (Runs.run Store.delete s.toStore ds) table p other) (hr : r ∈ s.db.rows t)
    (hkeep : ∀ d ∈ ds, d.table = t → ∀ rows, d.condition rows r = false) : ¬ Dependent s.db.rows table p t r := by
  obtain ⟨s',hs',hrows,-⟩ := h
  have hdb : s.db.transaction (ds.map Delete.stmt) = some s'.db := by rw [← run_db,hs',Option.map_some]
  have hmem := deletes_keep (s.schema_eq ▸ cascades_sqlite) hdb hr hkeep
  rw [hrows,mem_filter,decide_eq_true_eq] at hmem
  exact hmem.2

theorem nothingIgnored_of_deletes (s : SqliteDB)
    (h : DeletesDependents s (Sqlite.deleteNetwork s.toStore id) .network (fun r => r .id = .int id)
      other) : NothingIgnored s.db.rows id := by
  have hv := valid s
  intro r hr he
  refine not_dependent_of_kept s h hr ?_ ((net_child hv (by simp [ofNetwork]) hr).mpr (eq_int_iff.mpr he))
  intro d hd ht
  have := mem_map_of_mem (f := (·.table)) hd
  rw [ht,network_tables] at this
  simp at this

theorem nothingForeign_of_deletes (s : SqliteDB)
    (h : DeletesDependents s (Sqlite.deleteUser s.toStore id) .user (fun r => r .id = .int id)
      other) : NothingForeign s.db.rows id := by
  have hv := valid s
  intro n hn hu
  have hid := eq_iff.mp (eq_id hv rfl hn)
  have hnet : ∀ {r : Row Col}, r .network = n .id →
      ∃ n ∈ s.db.rows .network, eq (n .user) (.int id) = true ∧ eq (r .network) (n .id) = true :=
    fun he => ⟨n,hn,eq_int_iff.mpr hu,eq_iff.mpr ⟨he ▸ hid.1,he⟩⟩
  refine ⟨fun r hr he => ?_,fun w hw he => ?_⟩
  · refine not_dependent_of_kept s h hr ?_ ((user_child hv (by simp [ofNetwork])).mpr ⟨hr,hnet he⟩)
    intro d hd ht
    have := mem_map_of_mem (f := (·.table)) hd
    rw [ht,user_tables] at this
    simp at this
  · by_contra hne
    refine not_dependent_of_kept s h hw ?_ ((user_subscription hv hw).mpr (.inr (hnet he)))
    intro d hd ht rows
    simp only [deleteUserStmts,mem_cons,not_mem_nil,or_false] at hd
    rcases hd with rfl | rfl | rfl | rfl | rfl | rfl | rfl | rfl | rfl
    case inr.inr.inr.inr.inl =>
      rw [Bool.eq_false_iff]
      exact fun hc => hne (eq_int_iff.mp hc)
    all_goals exact absurd ht (by simp [ofUserNetworks,messagesOfUser,byColumn])

theorem deletes_dependents_iff (s : SqliteDB) (id : Int) :
    (DeletesDependents s (Sqlite.deleteNetwork s.toStore id) .network (fun r => r .id = .int id)
        (fun pg => Postgres.deleteNetwork pg id) ↔ NothingIgnored s.db.rows id) ∧
      (DeletesDependents s (Sqlite.deleteUser s.toStore id) .user (fun r => r .id = .int id)
        (fun pg => Postgres.deleteUser pg id) ↔ NothingForeign s.db.rows id) :=
  ⟨⟨nothingIgnored_of_deletes s,network_deletes s⟩,nothingForeign_of_deletes s,user_deletes s⟩

end Outcome

def row (values : List (Col × Value)) : Row Col := fun c => (values.lookup c).getD .null

/-- One user with one network, with a channel and an ignored mask as given. -/
def rowsOf (channels ignores : List (Row Col)) : Rows Table Col
  | .user => [row [(.id,.int 1),(.username,.text "ana"),(.admin,.int 0),(.createdAt,.text ""),
      (.enabled,.int 1),(.maxNetworks,.int (-1))]]
  | .network => [row [(.id,.int 1),(.user,.int 1),(.addr,.text "irc"),(.autoAway,.int 1),
      (.enabled,.int 1),(.tlsInsecure,.int 0),(.noDefaultCert,.int 0)]]
  | .channel => channels
  | .ignore => ignores
  | _ => []

def chan : Row Col := row [(.id,.int 1),(.network,.int 1),(.name,.text "c"),(.detached,.int 0),
  (.relayDetached,.int 0),(.reattachOn,.int 0),(.detachAfter,.int 0),(.detachOn,.int 0)]

def mask : Row Col := row [(.id,.int 1),(.network,.int 1),(.mask,.text "m"),(.createdAt,.text "")]

theorem rowsOf_absent (cs is : List (Row Col)) (t : Table) (h : schema.has t = false) : rowsOf cs is t = [] := by
  cases t <;> first | rfl | cases h

def joined : SqliteDB where
  db := ⟨Schema.Sqlite.schema,rowsOf [chan] []⟩
  fts := []
  schema_eq := rfl
  sound := ⟨by decide,rowsOf_absent _ _⟩
  indexed := rfl

def ignoring : SqliteDB where
  db := ⟨Schema.Sqlite.schema,rowsOf [] [mask]⟩
  fts := []
  schema_eq := rfl
  sound := ⟨by decide,rowsOf_absent _ _⟩
  indexed := rfl

theorem network_with_channel_deleted : (joined.db.rows .channel).length = 1 ∧
      DeletesDependents joined (Sqlite.deleteNetwork joined.toStore 1) .network
        (fun r => r .id = .int 1) (fun pg => Postgres.deleteNetwork pg 1) ∧
      DeletesDependents joined (Sqlite.deleteUser joined.toStore 1) .user (fun r => r .id = .int 1)
        (fun pg => Postgres.deleteUser pg 1) := by
  obtain ⟨hnetwork,huser⟩ := deletes_dependents_iff joined 1
  refine ⟨rfl,hnetwork.mpr ?_,huser.mpr ?_⟩
  · intro r hr
    cases hr
  · intro n _ _
    exact ⟨fun r hr => absurd hr not_mem_nil,fun w hw => absurd hw not_mem_nil⟩

theorem network_with_mask_stays :
    Sqlite.deleteNetwork ignoring.toStore 1 = none ∧ Sqlite.deleteUser ignoring.toStore 1 = none ∧
      ¬ DeletesDependents ignoring (Sqlite.deleteNetwork ignoring.toStore 1) .network
        (fun r => r .id = .int 1) (fun pg => Postgres.deleteNetwork pg 1) := by
  have hfail : Sqlite.deleteNetwork ignoring.toStore 1 = none := rfl
  refine ⟨hfail,rfl,?_⟩
  rintro ⟨s',hs',-⟩
  cases hs'

end Sake.Proofs.SqlDelete
