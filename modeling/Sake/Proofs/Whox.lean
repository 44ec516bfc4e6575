import Sake.Whox

namespace Sake.Proofs.Whox
open Sake.Whox
open Sake.Upstream (whoxFields)

theorem parseValues_get (info acc : WHOXInfo) (ks : List Char) :
    parseValues ks (ks.map info.get) acc = .ok (ks.foldl (fun acc k => acc.set k (info.get k)) acc) := by
  induction ks generalizing acc with
  | nil => rfl
  | cons k ks ih => exact ih (acc.set k (info.get k))

/-- One field, which may be asked for or not. -/
def put (info : WHOXInfo) (asked : Char → Bool) (acc : WHOXInfo) (k : Char) : WHOXInfo :=
  if asked k then acc.set k (info.get k) else acc

/-- Each letter is put once, so every field is decided by its own letter. -/
theorem fields_put (info : WHOXInfo) (fields : String) :
    whoxFields.foldl (put info fields.toList.contains) {} = info.restrict fields := by
  have hfields : whoxFields = ['t','c','u','i','h','s','n','f','d','l','a','o','r'] := by decide
  have hskip k (hk : k ∈ ['i','d','l','o']) acc : put info fields.toList.contains acc k = acc := by
    simp only [List.mem_cons,List.not_mem_nil,or_false] at hk
    rcases hk with rfl | rfl | rfl | rfl <;> exact ite_self _
  rw [hfields]
  ext1 <;>
    simp [put,WHOXInfo.set,WHOXInfo.get,WHOXInfo.restrict,apply_ite WHOXInfo.token,apply_ite WHOXInfo.channel,apply_ite WHOXInfo.username,apply_ite WHOXInfo.hostname,apply_ite WHOXInfo.server,apply_ite WHOXInfo.nickname,apply_ite WHOXInfo.flags,apply_ite WHOXInfo.account,apply_ite WHOXInfo.realname]

/-- A reply is read back as what was asked for, in whatever order and however often. -/
theorem reply_read_back (fields : String) (hfields : fields ≠ "") (info : WHOXInfo) :
    parseWHOXReply (generateWHOXReply fields info) fields = .ok (info.restrict fields) := by
  have hread := parseValues_get info {} (whoxFields.filter fields.toList.contains)
  rw [List.foldl_filter] at hread
  unfold generateWHOXReply
  rw [if_neg hfields]
  exact hread.trans (congrArg _ (fields_put info fields))

theorem token_and_nick_read_back :
    "nt" ≠ "" ∧ parseWHOXReply (generateWHOXReply "nt" { token := "42", nickname := "jane", account := "jane" }) "nt" =
      .ok { token := "42", nickname := "jane" } :=
  ⟨by decide,reply_read_back "nt" (by decide) _⟩

end Sake.Proofs.Whox
