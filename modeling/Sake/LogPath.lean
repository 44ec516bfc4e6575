import Sake.Database
import Sake.Lib.Paths
import Sake.Time

namespace Sake.FsStore
open Lib Strings

def escapeFilename (name : String) : String :=
  if name = "." then "-"
  else if name = ".." then "--"
  else mapChars (fun c => if c = '/' ∨ c = '\\' then '-' else c) name

/-- `filepath.Join` -/
def joinPath (parts : List String) : String :=
  String.ofList (Paths.join (parts.map String.toList))

/-- The directory of a user's logs. -/
def storeRoot (root username : String) : String := joinPath [root,escapeFilename username]

def logName (z : Time.Zone) (t : Int) : String :=
  let d := Time.dateOf z t
  Time.padInt 4 d.year ++ "-" ++ Time.padInt 2 d.month ++ "-" ++ Time.padInt 2 d.day ++ ".log"

def logPath (z : Time.Zone) (root : String) (network : Database.Network) (entity : String)
    (t : Int) : String :=
  joinPath [root,escapeFilename network.getName,escapeFilename entity,logName z t]

/-- The characters of a name that are written as a dash. -/
def DashLike (name : String) (c : Char) : Prop :=
  c = '-' ∨ c = '/' ∨ c = '\\' ∨ (c = '.' ∧ (name = "." ∨ name = ".."))

instance (name : String) (c : Char) : Decidable (DashLike name c) :=
  inferInstanceAs (Decidable (_ ∨ _))

/-- The names differ in dash-like characters at most. -/
def Confusable (a b : String) : Prop :=
  List.Forall₂ (fun c d => if DashLike a c then DashLike b d else ¬ DashLike b d ∧ c = d)
    a.toList b.toList

/-- A buffer in the directory of all users' logs. -/
structure BufferName where
  username : String
  network : Database.Network
  entity : String
deriving Repr, DecidableEq

namespace BufferName

def path (root : String) (z : Time.Zone) (t : Int) (b : BufferName) : String :=
  logPath z (storeRoot root b.username) b.network b.entity t

/-- The names of a buffer. Empty ones leave no trace in a path. -/
def names (b : BufferName) : List String :=
  [b.username,b.network.getName,b.entity].filter (· ≠ "")

end BufferName

/-- The path leads from the root down, by one name at least. -/
def Below (root path : String) : Prop :=
  ∃ names, names ≠ [] ∧ (∀ n ∈ names, Paths.IsName n) ∧
    Paths.parse path.toList = ⟨(Paths.parse root.toList).rooted,
      (Paths.parse root.toList).names ++ names⟩

end Sake.FsStore
