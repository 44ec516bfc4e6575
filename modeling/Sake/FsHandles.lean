import Sake.FsWriter

namespace Sake.FsStore
open MsgStore

/-- The handles opened so far are numbered. `held` has those in `ms.files`, by entity. -/
structure Handles where
  held : List (String × Nat)
  opened : Nat
  closed : List Nat

/-- `f.Close()`, for a file that leaves `ms.files`. -/
def Handles.close (h : Handles) (name : String) : Handles :=
  { h with
    held := h.held.filter fun f => f.1 ≠ name
    closed := h.closed ++ (h.held.filter fun f => f.1 = name).map Prod.snd }

/-- A file that is not open under its path is opened, and the one that the entity had is closed. -/
def Handles.use (h : Handles) (s : Store) (entity path : String) : Handles :=
  if (s.cached entity path).isSome then h
  else
    let h := h.close entity
    ⟨(entity,h.opened) :: h.held,h.opened + 1,h.closed⟩

/-- The entities whose files were used longest ago, when too many are open. -/
def oldest (host : Host) (files : List (String × Handle)) : List String :=
  ((host.byLastUse files).take (files.length - fsMessageStoreMaxFiles)).map Prod.fst

structure AppendCall where
  network : Database.Network
  entity : String
  msg : Message
  now : Int

/-- A call of `Append` that succeeds, with the handles that it opens and closes. -/
def appendStep (host : Host) (s : Store × Handles) (c : AppendCall) : Option (Store × Handles) :=
  match lineOf host c.network c.entity c.msg c.now with
  | .error _ => none
  | .ok none => some s
  | .ok (some line) =>
    let path := linePath host c.network line
    match s.1.openFile line.entity path,writeLine host s.1 c.network line c.now with
    | (.ok i,t),(.ok _,u) =>
      let names := oldest host (setFile t.files line.entity ⟨path,i,c.now⟩)
      some (u,names.foldl Handles.close (s.2.use s.1 line.entity path))
    | _,_ => none

/-- `Close`, for every file in `ms.files`. -/
def close (s : Store × Handles) : Handles := (s.1.files.map Prod.fst).foldl Handles.close s.2

/-- Every handle that was opened is either held or was closed, once. -/
def Handles.Once (h : Handles) : Prop :=
  (h.held.map Prod.snd ++ h.closed).Perm (List.range h.opened)

/-- The handles held are those of the entities in `ms.files`, and not too many. -/
structure Accounted (s : Store × Handles) : Prop where
  few : s.2.held.length ≤ fsMessageStoreMaxFiles
  stored : (s.2.held.map Prod.fst).Perm (s.1.files.map Prod.fst)
  apart : (s.1.files.map Prod.fst).Nodup
  once : s.2.Once

end Sake.FsStore
