import Sake.ChatHistory

namespace Sake.Proofs.ChatHistory
open Sake.ChatHistory MsgStore List

variable {dc : Conn} {r : Request} {now : Int}

/-- The client is told that the message store failed, and gets no batch. -/
def IsMessageError : Reply → Prop
  | .error "FAIL" ("CHATHISTORY" :: "MESSAGE_ERROR" :: _) => True
  | _ => False

section Errors
theorem checked_failed (h : (checked res).failed = true) : (checked res).err.isSome = true := by
  cases res with
  | ok history => cases h
  | error e => rfl

/-- Outside of `AROUND` an error is in the variable that is checked. -/
theorem fetch_failed (hsub : r.subcommand ≠ .around) (h : (fetch now r options).failed = true) :
    (fetch now r options).err.isSome = true := by
  unfold fetch at h ⊢
  cases hr : r.subcommand with
  | around => exact absurd hr hsub
  | between =>
    simp only [hr] at h ⊢
    split
    · next hb =>
      rw [if_pos hb] at h
      exact checked_failed h
    · next hb =>
      rw [if_neg hb] at h
      exact checked_failed h
  | targets =>
    simp only [hr] at h
    cases h
  | _ =>
    simp only [hr] at h
    exact checked_failed h

theorem fetchAround_err : (fetchAround now r options).err = none := by
  unfold fetchAround
  dsimp only
  split
  · rfl
  · split
    · rfl
    · split <;> rfl

theorem answer_around (hsub : r.subcommand = .around) : (answer dc r).1 = .batch "chathistory" [r.target]
    (fetchAround dc.now r ⟨r.network.id,r.target,r.limit,dc.eventPlayback⟩).history ∧
    (answer dc r).2 = (fetchAround dc.now r ⟨r.network.id,r.target,r.limit,dc.eventPlayback⟩).failed := by
  unfold answer
  simp [hsub,fetch,fetchAround_err]

theorem answer_failed (hsub : r.subcommand ≠ .around) (h : (answer dc r).2 = true) : IsMessageError (answer dc r).1 := by
  unfold answer at h ⊢
  split
  · next ht =>
    simp only [ht] at h
    split
    · trivial
    · next hok => simp [hok] at h
  · next ht =>
    split at h
    · next hc => exact absurd hc ht
    dsimp only at h ⊢
    split at h
    · trivial
    next hnone =>
    have hsome := fetch_failed hsub h
    rw [hnone] at hsome
    cases hsome

/-- When a call of the message store fails, the client is told unless the command is `AROUND`,
whose errors are shadowed. -/
theorem failure_reported_iff (params : List String) (hv : validate dc params = .ok r)
    (hf : (handleChatHistory dc params).2 = true) :
    IsMessageError (handleChatHistory dc params).1 ↔ r.subcommand ≠ .around := by
  unfold handleChatHistory at hf ⊢
  rw [hv] at hf ⊢
  refine ⟨?_,fun hsub => answer_failed hsub hf⟩
  intro herr hsub
  rw [(answer_around hsub).1] at herr
  exact herr

end Errors

/-- A store whose queries all fail. -/
def broken : Store := ⟨fun _ _ _ _ _ => .error (.error "closed"),fun _ _ _ => .error (.error "closed"),
  fun _ _ _ => .error (.error "closed")⟩

def client (store : Store) : Conn := ⟨"me",id,some ⟨1,id,fun _ => false⟩,some store,false,100 * Time.day⟩

def command (name : String) : List String := [name,"#sake","timestamp=0001-01-02T00:00:00.000Z","10"]

theorem failure_reported_before : ∃ r, validate (client broken) (command "BEFORE") = .ok r ∧
    (IsMessageError (handleChatHistory (client broken) (command "BEFORE")).1 ↔ r.subcommand ≠ .around) :=
  ⟨_,rfl,failure_reported_iff _ rfl rfl⟩

/-- The client gets an empty batch, as if there were no messages. -/
theorem failure_hidden_around : (handleChatHistory (client broken) (command "AROUND")).2 = true ∧
    (handleChatHistory (client broken) (command "AROUND")).1 = .batch "chathistory" ["#sake"] [] := by
  decide +kernel

section Around
variable {history l : List (Int × Message)} {b : Int} {n : Nat}

theorem parseLimit_nonneg {name limit : String} {n : Int} (h : parseLimit name limit = .ok n) : 0 ≤ n := by
  unfold parseLimit at h
  split at h
  · split at h
    · cases h
    · next hn =>
      cases h
      omega
  · cases h

theorem validate_limit (h : validate dc params = .ok r) : 0 ≤ r.limit := by
  unfold validate at h
  split at h
  · cases h
  split at h
  · cases h
  split at h
  · cases h
  split at h
  · cases h
  split at h
  · cases h
  split at h
  · cases h
  · cases h
  dsimp only [bind,Except.bind] at h
  split at h
  · cases h
  split at h
  · cases h
  · next hlimit =>
    cases h
    exact parseLimit_nonneg hlimit

theorem getLast?_takeLast (hn : 0 < n) : (takeLast n l).getLast? = l.getLast? := by
  unfold takeLast
  rw [List.getLast?_drop]
  split
  · next h =>
    have hl : l = [] := length_eq_zero_iff.mp (by omega)
    rw [hl]
    rfl
  · rfl

theorem le_of_getLast? (hs : l.Pairwise fun x y => x.1 ≤ y.1) (hx : l.getLast? = some x) : ∀ y ∈ l, y.1 ≤ x.1 := by
  obtain ⟨front,rfl⟩ := List.getLast?_eq_some_iff.mp hx
  intro y hy
  rcases mem_append.mp hy with hy | hy
  · exact (pairwise_append.mp hs).2.2 y hy x mem_cons_self
  · obtain rfl := mem_singleton.mp hy
    exact Int.le_refl _

/-- The second query finds what the first one left: no message lies between its bound and the time. -/
theorem filter_after (hb : bound < b) (hgap : ∀ x ∈ l, x.1 < b → x.1 ≤ bound)
    (hnow : ∀ x ∈ l, x.1 < now) : (l.filter fun x => bound < x.1 ∧ x.1 < now) = l.filter fun x => b ≤ x.1 := by
  apply filter_congr
  intro x hx
  have := hgap x hx
  have := hnow x hx
  simp only [decide_eq_decide]
  omega

theorem fetchAround_exact (hs : Exact r.store r.network.id r.target history) (events : Bool)
    (hpast : ∀ x ∈ history, x.1 < dc.now) (hn : r.limit = n) :
    fetchAround dc.now r ⟨r.network.id,r.target,r.limit,events⟩ =
      ⟨around (shown events history) r.bound0 n,none,false⟩ := by
  have hafter : n / 2 = ((n / 2 : Nat) : Int) := by omega
  have hbefore : n - ((n / 2 : Nat) : Int) = (((n + 1) / 2 : Nat) : Int) := by omega
  have hfirst : r.store.loadBeforeTime r.bound0 0 ⟨r.network.id,r.target,(((n + 1) / 2 : Nat) : Int),events⟩ =
      .ok ((takeLast ((n + 1) / 2) ((shown events history).filter fun x => x.1 < r.bound0)).map Prod.snd) := by
    rw [hs.before]
    simp
  have hnow : ∀ x ∈ shown events history, x.1 < dc.now := fun x hx => hpast x (mem_filter.mp hx).1
  unfold fetchAround
  simp only [hn,hafter,hbefore,hfirst,hs.after]
  unfold afterBound
  rw [List.getLast?_map]
  cases hlast : (takeLast ((n + 1) / 2) ((shown events history).filter fun x => x.1 < r.bound0)).getLast? with
  | some x =>
    have hk : 0 < (n + 1) / 2 := by
      by_contra hk
      rw [Nat.eq_zero_of_not_pos hk] at hlast
      simp [takeLast] at hlast
    rw [getLast?_takeLast hk] at hlast
    obtain ⟨hx,hlt⟩ := mem_filter.mp (mem_of_getLast? hlast)
    have hgap : ∀ y ∈ shown events history, y.1 < r.bound0 → y.1 ≤ x.1 := fun y hy hyb =>
      le_of_getLast? ((hs.sorted.filter _).filter _) hlast y (mem_filter.mpr ⟨hy,by simpa using hyb⟩)
    simp only [Option.map_some,hs.tagged x (mem_filter.mp hx).1]
    rw [filter_after (of_decide_eq_true hlt) hgap hnow]
    rfl
  | none =>
    rw [List.getLast?_eq_none_iff] at hlast
    simp only [Option.map_none,around]
    by_cases hk : 0 < (n + 1) / 2
    · have hnone : ((shown events history).filter fun x => x.1 < r.bound0) = [] := by
        rw [← List.getLast?_eq_none_iff,← getLast?_takeLast hk,hlast]
        rfl
      have hgap : ∀ x ∈ shown events history, x.1 < r.bound0 → x.1 ≤ r.bound0 - Time.second := by
        intro x hx hlt
        have hmem : x ∈ (shown events history).filter fun x => x.1 < r.bound0 := mem_filter.mpr ⟨hx,by simpa using hlt⟩
        rw [hnone] at hmem
        cases hmem
      rw [filter_after (by unfold Time.second; omega) hgap hnow]
    · have hz : n / 2 = 0 := by omega
      simp [hz]

/-- The answer to `AROUND`, from a message store that keeps its contract. -/
theorem around_answered (params : List String) (hv : validate dc params = .ok r) (hsub : r.subcommand = .around)
    (hs : Exact r.store r.network.id r.target history) (hpast : ∀ x ∈ history, x.1 < dc.now) :
    handleChatHistory dc params = (.batch "chathistory" [r.target]
      (around (shown dc.eventPlayback history) r.bound0 r.limit.toNat),false) := by
  have hn : r.limit = r.limit.toNat := (Int.toNat_of_nonneg (validate_limit hv)).symm
  have hfetch := fetchAround_exact hs dc.eventPlayback hpast hn
  unfold handleChatHistory
  rw [hv]
  refine Prod.ext ?_ ?_
  · rw [(answer_around hsub).1,hfetch]
  · rw [(answer_around hsub).2,hfetch]

end Around

/-- A store that answers from a list of messages. -/
def keeper (history : List (Int × Message)) : Store where
  listTargets _ _ _ _ _ := .ok []
  loadBeforeTime start stop o := .ok ((takeLast o.limit.toNat
    ((shown o.events history).filter fun x => (stop = 0 ∨ stop < x.1) ∧ x.1 < start)).map Prod.snd)
  loadAfterTime start stop o := .ok ((((shown o.events history).filter
    fun x => start < x.1 ∧ x.1 < stop).take o.limit.toNat).map Prod.snd)

def message (hour : Int) : Int × Message :=
  (hour * 3600 * Time.second,
    ⟨[("time",Time.formatServerTime (hour * 3600 * Time.second))],none,"PRIVMSG",["#sake","hi"]⟩)

theorem around_answered_midnight : handleChatHistory (client (keeper [message 23,message 24])) (command "AROUND") =
    (.batch "chathistory" ["#sake"] [(message 23).2,(message 24).2],false) := by
  have hexact : Exact (keeper [message 23,message 24]) 1 "#sake" [message 23,message 24] :=
    ⟨by decide +kernel,by decide +kernel,fun _ _ _ _ => rfl,fun _ _ _ _ => rfl⟩
  refine (around_answered (command "AROUND") rfl rfl hexact (by decide +kernel)).trans ?_
  decide +kernel

end Sake.Proofs.ChatHistory
