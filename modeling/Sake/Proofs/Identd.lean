import Mathlib.Data.List.Nodup
import Sake.Identd
import Sake.Lib.Runs

namespace Sake.Proofs.Identd
open Sake.Identd Lib.Runs List

variable {u : Unicode} {s : State} {c : Conn}

/-- The table has the connections that are open, each under a key of its own. -/
structure Inv (s : State) : Prop where
  keys : (s.conns.map Conn.key).Nodup
  stored : ∀ c ∈ s.conns, s.entries c.key = c.ident
  others : ∀ k, (∀ c ∈ s.conns, c.key ≠ k) → s.entries k = ""

theorem Inv.connect (h : Inv s) (hc : ∀ d ∈ s.conns, d.key ≠ c.key) : Inv (store s c) := by
  refine ⟨?_,?_,fun k hk => ?_⟩
  · exact nodup_cons.mpr ⟨by simpa using hc,h.keys⟩
  · refine forall_mem_cons.mpr ⟨by simp [store],fun d hd => ?_⟩
    simpa [store,hc d hd] using h.stored d hd
  · obtain ⟨hne,hrest⟩ := forall_mem_cons.mp hk
    simpa [store,hne.symm] using h.others k hrest

theorem Inv.disconnect (h : Inv s) (hc : c ∈ s.conns) : Inv (delete s c) := by
  have hmem : ∀ d, d ∈ s.conns.erase c ↔ d ∈ s.conns ∧ d.key ≠ c.key := by
    intro d
    rw [(List.Nodup.of_map _ h.keys).mem_erase_iff]
    constructor
    · exact fun ⟨hne,hd⟩ => ⟨hd,fun hk => hne (inj_on_of_nodup_map h.keys hd hc hk)⟩
    · exact fun ⟨hd,hk⟩ => ⟨fun he => hk (he ▸ rfl),hd⟩
  refine ⟨h.keys.sublist (erase_sublist.map _),fun d hd => ?_,fun k hk => ?_⟩
  · obtain ⟨hd,hk⟩ := (hmem d).mp hd
    simpa [delete,hk] using h.stored d hd
  · by_cases hkc : k = c.key
    · simp [delete,hkc]
    · refine (Function.update_of_ne hkc _ _).trans (h.others k fun d hd hdk => ?_)
      exact hk d ((hmem d).mpr ⟨hd,hdk ▸ hkc⟩) hdk

theorem Inv.step (h : Inv s) {e : Event} (he : Apart s e) (hs : step s e = some t) : Inv t := by
  cases e with
  | connect c =>
    simp only [Sake.Identd.step] at hs
    split at hs
    · cases hs
    · cases hs
      exact h.connect he
  | disconnect c =>
    obtain ⟨hc,ht⟩ := Option.ite_none_right_eq_some.mp hs
    cases ht
    exact h.disconnect hc

theorem userID_ne_noUser (l ident : String) : userID l ident ≠ noUser l := by
  intro h
  have hl := congrArg String.toList h
  simp [userID,noUser] at hl

/-- A query is answered right if no other local host has its key, and only then. -/
theorem Inv.handle_iff (h : Inv s) {lp rp : Int} (hl : parseIdentQuery u l = some (lp,rp))
    (localHost remoteHost : String) :
    handle u s remoteHost l = rightAnswer s localHost ⟨remoteHost,rp,lp⟩ l ↔
      ∀ c ∈ s.conns, c.key = ⟨remoteHost,rp,lp⟩ → c.localHost = localHost := by
  generalize hk : (⟨remoteHost,rp,lp⟩ : IdentKey) = k
  have hhandle : handle u s remoteHost l = if s.entries k = "" then noUser l else userID l (s.entries k) := by
    simp [handle,hl,hk]
  rw [hhandle,rightAnswer]
  by_cases hnone : ∀ c ∈ s.conns, c.key ≠ k
  · have hfind : s.conns.find? (fun c => c.key = k ∧ c.localHost = localHost) = none := by
      simpa using fun c hc hck => absurd hck (hnone c hc)
    rw [h.others k hnone,hfind]
    exact iff_of_true rfl fun c hc hck => absurd hck (hnone c hc)
  · obtain ⟨c,hc,rfl⟩ : ∃ c ∈ s.conns, c.key = k := by simpa using hnone
    have hsame : ∀ d ∈ s.conns, d.key = c.key → d = c := fun d hd => inj_on_of_nodup_map h.keys hd hc
    rw [h.stored c hc,if_neg c.ident.2]
    cases hfind : s.conns.find? (fun d => d.key = c.key ∧ d.localHost = localHost) with
    | none =>
      refine iff_of_false (userID_ne_noUser _ _) fun hall => ?_
      have hnot := List.find?_eq_none.mp hfind c hc
      simp [hall c hc rfl] at hnot
    | some d =>
      have hd := List.find?_some hfind
      simp only [Bool.and_eq_true,decide_eq_true_eq] at hd
      obtain rfl := hsame d (mem_of_find?_eq_some hfind) hd.1
      exact iff_of_true rfl fun e he hek => hsame e he hek ▸ hd.2

theorem answered_right (u : Unicode) (events : List Event) (h : AllSteps step Apart init events) :
    AllStates step (fun s => ∀ localHost remoteHost l lp rp, parseIdentQuery u l = some (lp,rp) →
      (handle u s remoteHost l = rightAnswer s localHost ⟨remoteHost,rp,lp⟩ l ↔
        ∀ c ∈ s.conns, c.key = ⟨remoteHost,rp,lp⟩ → c.localHost = localHost)) init events :=
  AllStates.of_steps Inv ⟨nodup_nil,by simp [init],fun _ _ => rfl⟩
    (fun _ hs localHost remoteHost _ _ _ hl => hs.handle_iff hl localHost remoteHost) (fun _ _ _ hs he ht => hs.step he ht) h

def connection (localHost ident : String) (h : ident ≠ "") : Conn := ⟨localHost,50000,"irc.example",6697,ident,h⟩

/-- Two users with addresses of their own. -/
def alice : Conn := connection "2001:db8::2" "a11ce" (by decide)

def bob : Conn := connection "2001:db8::3" "b0b" (by decide)

theorem alice_answered : ∃ s, run step init [.connect alice] = some s ∧
    handle .ascii s "irc.example" "50000, 6697" = "50000, 6697 : USERID : UNKNOWN : a11ce\r\n" := by
  refine ⟨_,rfl,?_⟩
  have h := (answered_right .ascii [.connect alice] ⟨by simp [Apart,init],fun _ _ => trivial⟩).last rfl
  exact ((h "2001:db8::2" "irc.example" "50000, 6697" 50000 6697 (by decide)).mpr (by decide)).trans (by decide)

/-- The connections of two users share a key. -/
theorem alice_answered_bob : ((run step init [.connect alice,.connect bob]).any fun s =>
    handle .ascii s "irc.example" "50000, 6697" ≠
      rightAnswer s "2001:db8::2" ⟨"irc.example",6697,50000⟩ "50000, 6697") = true := by
  decide

end Sake.Proofs.Identd
