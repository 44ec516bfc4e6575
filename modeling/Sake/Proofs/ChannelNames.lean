import Sake.Proofs.FailedCommands
import Sake.Proofs.Strings

namespace Sake.Proofs.ChannelNames
open Sake.Service FailedCommands Goroutine Sake.Strings Strings

/-- A channel of a network is found by its qualified name if the channel has no slash in it and no network
before has the same name, and only then. -/
theorem qualified_name_iff (ctx : Ctx) (s : State) (r : Nat) (c : String) :
    stripNetworkSuffix { ctx with network := none } (c ++ "/" ++ (s.heap r).record.getName) s = .ok (c,r) s ↔
      '/' ∉ c.toList ∧ (s.networks.find? fun x => (s.heap x).record.getName = (s.heap r).record.getName) = some r := by
  have hword : (c ++ "/" ++ (s.heap r).record.getName).toList = c.toList ++ '/' :: (s.heap r).record.getName.toList := by
    simp
  constructor
  · intro h
    rcases Service.stripNetworkSuffix_checks (c ++ "/" ++ (s.heap r).record.getName) with ⟨target,hok,ht⟩ | ⟨e,he⟩
    · cases hok.symm.trans h
      obtain ⟨netName,hcut,hfind⟩ := ht
      obtain ⟨heq,hc⟩ := cut_eq_some_iff.mp hcut
      obtain rfl : (s.heap r).record.getName = netName := by
        rw [hword] at heq
        exact String.toList_injective (List.cons.inj (List.append_cancel_left heq)).2
      exact ⟨hc,hfind⟩
    · cases he.symm.trans h
  · rintro ⟨hc,hfind⟩
    exact stripNetworkSuffix_ok ⟨_,cut_eq_some_iff.mpr ⟨hword,hc⟩,hfind⟩

/-- The channel `#a/b` may be joined, and is looked for in a network `b/irc.example.org`. -/
theorem slash_in_channel : containsAny "#a/b" illegalChanChars = false ∧
      (Conn.mk 0 "jane" "jane" "" [] "#&+!" [] false).isChannel "#a/b" = true ∧
      stripNetworkSuffix janeCtx "#a/b/irc.example.org" janeState =
        .error (.error ("unknown network " ++ "b/irc.example.org".quote)) janeState :=
  ⟨by decide,by decide,rfl⟩

end Sake.Proofs.ChannelNames
