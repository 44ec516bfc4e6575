import Sake.Networks

namespace Sake.Proofs.NetworkRows
open Lib Networks List

variable {db db' : DB} {newID id : Int}

/-- The tables other than that of the networks. -/
def otherTables (db : DB) : DB := { db with networks := .empty }

section Networks
variable {userID : Int} {net : Network}

/-- A record is inserted with a new id, or the row with its id is overwritten. -/
theorem storeNetwork_ok (h : db.storeNetwork newID userID net = .ok (db',id)) : otherTables db' = otherTables db ∧
      ((net.id = 0 ∧ id = newID ∧ db.networks.NewID newID ∧
          db'.networks.rows = db.networks.rows ++ [⟨userID,{ net.stored with id := newID }⟩]) ∨
        (net.id ≠ 0 ∧ id = net.id ∧
          db'.networks.rows = db.networks.rows.map fun r => if r.net.id = net.id then DB.setNetwork net r else r)) := by
  unfold DB.storeNetwork at h
  split at h
  · cases h
  split at h
  · rename_i hid
    split at h
    · rename_i hnew
      split at h
      · cases h
        exact ⟨rfl,.inl ⟨hid,rfl,hnew,rfl⟩⟩
      · cases h
    · cases h
  · rename_i hid
    split at h
    · cases h
      exact ⟨rfl,.inr ⟨hid,rfl,rfl⟩⟩
    · cases h

theorem storeNetwork_row (h : db.storeNetwork newID userID net = .ok (db',id))
    (hrow : row ∈ db.networks.rows) : ∃ row' ∈ db'.networks.rows, row'.net.id = row.net.id ∧ row'.user = row.user := by
  rcases (storeNetwork_ok h).2 with ⟨-,-,-,hrows⟩ | ⟨-,-,hrows⟩
  · exact ⟨row,hrows ▸ mem_append_left _ hrow,rfl,rfl⟩
  refine ⟨_,hrows ▸ mem_map_of_mem hrow,?_⟩
  split <;> exact ⟨rfl,rfl⟩

theorem deleteNetwork_ok (h : db.deleteNetwork id = .ok db') : db' = { db with
      networks := db.networks.delete fun r => r.net.id = id
      channels := db.channels.delete fun r => r.network = id } ∧ ∀ r ∈ db.ignores.rows, r.network ≠ id := by
  unfold DB.deleteNetwork at h
  split at h
  · cases h
  rename_i hn
  cases h
  refine ⟨rfl,fun r hr heq => hn ?_⟩
  exact any_eq_true.mpr ⟨r,hr,decide_eq_true heq⟩

end Networks

section Users
variable {user : Database.User}

/-- The tables other than that of the users. -/
def otherThanUsers (db : DB) : DB := { db with users := .empty }

theorem storeUser_ok (h : db.storeUser newID user = .ok (db',id)) : otherThanUsers db' = otherThanUsers db ∧
      ((user.id = 0 ∧ id = newID ∧ db.users.NewID newID ∧
          db'.users.rows = db.users.rows ++ [{ user with id := newID }]) ∨
        (user.id ≠ 0 ∧ id = user.id ∧
          db'.users.rows = db.users.rows.map fun r => if r.username = user.username then DB.setUser user r else r)) := by
  unfold DB.storeUser at h
  split at h
  · rename_i hid
    split at h
    · rename_i hnew
      split at h
      · cases h
        exact ⟨rfl,.inl ⟨hid,rfl,hnew,rfl⟩⟩
      · cases h
    · cases h
  · rename_i hid
    split at h
    · rename_i hnone
      cases h
      refine ⟨rfl,.inr ⟨hid,rfl,?_⟩⟩
      have hmap : (db.users.rows.map fun r => if r.username = user.username then DB.setUser user r else r) =
          db.users.rows.map id :=
        map_congr_left fun r hr => if_neg (Table.find?_eq_none.mp hnone r hr)
      rw [hmap,map_id]
    · rename_i hrow
      cases h
      refine ⟨rfl,.inr ⟨hid,rfl,?_⟩⟩
      refine map_congr_left fun r hr => ?_
      obtain ⟨hmem,hname⟩ := Table.mem_of_find? hrow
      by_cases hn : r.username = user.username
      · rw [if_pos hn,db.users.eq_of_name hr hmem (hn.trans hname.symm),if_pos rfl]
      · rw [if_neg hn,if_neg fun hid => hn ?_]
        rw [db.users.eq_of_id hr hmem hid]
        exact hname

theorem storeUser_row (h : db.storeUser newID user = .ok (db',id)) (hrow : row ∈ db.users.rows) :
    ∃ row' ∈ db'.users.rows, row'.id = row.id ∧ row'.username = row.username := by
  rcases (storeUser_ok h).2 with ⟨-,-,-,hrows⟩ | ⟨-,-,hrows⟩
  · exact ⟨row,hrows ▸ mem_append_left _ hrow,rfl,rfl⟩
  refine ⟨_,hrows ▸ mem_map_of_mem hrow,?_⟩
  split <;> exact ⟨rfl,rfl⟩

end Users

end Sake.Proofs.NetworkRows
