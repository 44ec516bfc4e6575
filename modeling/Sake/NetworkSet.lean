import Sake.UserNetworks

namespace Sake.NetworkSet
open Networks Goroutine

/-- A change of the set of a user's networks. -/
inductive Change
  | create (record : Network) (enforceLimit : Bool)
  | update (record : Network) (enforceLimit : Bool)
  | delete (id : Int)
  deriving Repr, DecidableEq

def Change.exec (env : Env) : Change → Handler Unit
  | .create record enforceLimit => discard (createNetwork env record enforceLimit)
  | .update record enforceLimit => discard (updateNetwork env record enforceLimit)
  | .delete id => deleteNetwork id

/-- One change after another. The goroutine does not go on after a panic. -/
def step (env : Env) (s : State) (change : Change) : Option State :=
  match change.exec env s with
  | .ok _ t => some t
  | .error (.panic _) _ => none
  | .error _ t => some t

/-- The records of the channels of a network. -/
def records (net : Net) : List Channel := net.channels.entries.map Prod.snd

/-- No two channels of a network, and no two targets of its receipts, are one to its server. -/
def Distinct (net : Net) : Prop :=
  ((records net).map fun ch => net.casemap.apply ch.name).Nodup ∧
    (net.delivered.entries.map fun e => net.casemap.apply e.1).Nodup

instance (net : Net) : Decidable (Distinct net) := inferInstanceAs (Decidable (_ ∧ _))

/-- The name that a network is shown with. -/
def displayName (s : State) (r : Nat) : String := (s.heap r).record.getName

/-- No network has the name of a later one as its address. -/
def Unshadowed (s : State) : Prop :=
  s.networks.Pairwise fun a b => (s.heap a).record.addr ≠ displayName s b

instance (s : State) : Decidable (Unshadowed s) := inferInstanceAs (Decidable (List.Pairwise _ _))

end Sake.NetworkSet
