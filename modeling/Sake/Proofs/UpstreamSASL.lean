import Sake.UpstreamSASL

namespace Sake.Proofs.UpstreamSASL
open Sake.UpstreamSASL Lib.Runs

/-- The server ends the exchange or the connection begins its own. -/
def Ends : Event → Bool
  | .saslEnd _ _ | .unknown | .ownSASL => true
  | _ => false

theorem step_kept (h : s.saslClient = some c) (he : Ends e = false) (hs : step lib s e = some t) :
    t.saslClient = some c := by
  cases e with
  | authenticate =>
    obtain ⟨client,-,rfl⟩ := Option.map_eq_some_iff.mp hs
    simp only [handleAuthenticate,h,Option.isSome_some,if_true]
    split
    · split <;> rfl
    · exact h
  | saslEnd | unknown | ownSASL => cases he
  | _ =>
    cases hs
    exact h

end Sake.Proofs.UpstreamSASL
