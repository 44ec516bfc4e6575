import Sake.Proofs.NetworkSet

namespace Sake.Proofs.NetworkNames
open Lib Lib.Handler Lib.Runs Networks Goroutine Sake.NetworkSet UserNetworks ServiceOps Steps Proofs.NetworkSet List

variable {s : State}

/-- Each element is the first that its own test accepts, if no earlier one passes it, and only then. -/
theorem find?_own_iff {xs : List α} (hn : xs.Nodup) {p : α → α → Bool} (hp : ∀ x ∈ xs, p x x = true) :
    (∀ x ∈ xs, xs.find? (p x) = some x) ↔ xs.Pairwise fun a b => p b a = false := by
  induction xs with
  | nil => exact iff_of_true (fun _ h => absurd h not_mem_nil) List.Pairwise.nil
  | cons a xs ih =>
    obtain ⟨ha,hn⟩ := nodup_cons.mp hn
    rw [pairwise_cons,← ih hn fun x hx => hp x (mem_cons_of_mem a hx)]
    constructor
    · intro h
      have hlater (x : α) (hx : x ∈ xs) : p x a = false ∧ xs.find? (p x) = some x := by
        have hfind := h x (mem_cons_of_mem a hx)
        cases hpa : p x a with
        | true =>
          rw [List.find?_cons_of_pos hpa] at hfind
          exact absurd (Option.some.inj hfind ▸ hx) ha
        | false =>
          rw [List.find?_cons_of_neg (by simp [hpa])] at hfind
          exact ⟨rfl,hfind⟩
      exact ⟨fun x hx => (hlater x hx).1,fun x hx => (hlater x hx).2⟩
    · intro ⟨hfree,hrest⟩ x hx
      rcases mem_cons.mp hx with rfl | hx
      · exact List.find?_cons_of_pos (hp x hx)
      · rw [List.find?_cons_of_neg (by simp [hfree x hx])]
        exact hrest x hx

section Select

/-- The test of `getNetwork`. -/
def answersTo (s : State) (name : String) (r : Nat) : Bool :=
  (s.heap r).record.addr = name || ((s.heap r).record.name ≠ "" && (s.heap r).record.name = name)

theorem answersTo_own (s : State) (r : Nat) : answersTo s (displayName s r) r = true := by
  unfold answersTo displayName Database.Network.getName
  by_cases h : (s.heap r).record.name = "" <;> simp [h]

/-- A network that has another name answers to this one only by its address. -/
theorem answersTo_other (h : displayName s a ≠ displayName s b) :
    answersTo s (displayName s b) a = false ↔ (s.heap a).record.addr ≠ displayName s b := by
  have hname : ¬ ((s.heap a).record.name ≠ "" ∧ (s.heap a).record.name = displayName s b) := by
    intro ⟨hne,heq⟩
    refine h (Eq.trans ?_ heq)
    exact if_pos hne
  simp only [answersTo,Bool.or_eq_false_iff,decide_eq_false_iff_not]
  refine and_iff_left ?_
  by_contra hc
  exact hname (by simpa using hc)

/-- Every network is found by its name if no earlier one has it as its address, and only then. -/
theorem getNetwork_name_iff (h : Ordered s) :
    (∀ r ∈ s.networks, s.getNetwork (displayName s r) = some r) ↔ Unshadowed s := by
  have hnames : s.networks.Pairwise fun a b => displayName s a ≠ displayName s b := pairwise_map.mp h.names
  refine (find?_own_iff h.names.of_map fun r _ => answersTo_own s r).trans ?_
  constructor
  · exact fun hfree => (hfree.and hnames).imp fun hab => (answersTo_other hab.2).mp hab.1
  · exact fun haddr => (haddr.and hnames).imp fun hab => (answersTo_other hab.2).mpr hab.1

end Select

section Run
variable {env : Env} {t : State}

/-- The records of the networks in use meet a condition. -/
def Every (p : Network → Prop) (s : State) : Prop := ∀ r ∈ s.networks, p (s.heap r).record

/-- A condition that the check makes sure of is kept. -/
theorem exec_every (h : Every p s) (change : Change)
    (hcheck : ∀ record id, s.checkNetwork env record = .ok () → p record ∧ p { record with id }) :
    Lands (Every p) (change.exec env) s := by
  cases change with
  | create record lim =>
    exact Incoming.discard_safe (createNetwork_each (p := fun _ => p) h lim fun id hok => (hcheck record id hok).2)
  | update record lim =>
    exact Incoming.discard_safe (updateNetwork_each (p := fun _ => p) h lim fun hok => (hcheck _ 0 hok).1)
  | delete id => exact deleteNetwork_each (p := fun _ => p) h id

/-- The name can be given as a word of a command. -/
def Word (name : String) : Prop := name ≠ "" ∧ Strings.startsWith '-' name = false

instance (name : String) : Decidable (Word name) := inferInstanceAs (Decidable (_ ∧ _))

/-- The names of the networks are words. -/
def Speakable (s : State) : Prop := Every (fun record => Word record.getName) s

instance (s : State) : Decidable (Speakable s) := inferInstanceAs (Decidable (∀ r ∈ s.networks, Word _))

theorem step_speakable (h : Speakable s) (ht : step env s change = some t) : Speakable t := by
  refine step_safe ht (exec_every h change fun record id hok => ?_)
  obtain ⟨-,hempty,hdash,-⟩ := checkNetwork_ok hok
  exact ⟨⟨hempty,hdash⟩,⟨hempty,hdash⟩⟩

/-- A command that is given the name of a network works on that network. -/
theorem command_selects (h : Ordered s) (hfree : Unshadowed s) (hr : r ∈ s.networks)
    (hword : Word (displayName s r)) (ctx : Service.Ctx) (params : List String) :
    Service.getNetworkFromArg ctx (displayName s r :: params) s = .ok (r,params) s ∧
      Service.getNetworkFromFlag ctx (displayName s r) s = .ok r s := by
  have hget := (getNetwork_name_iff h).mpr hfree r hr
  have hselect missing : Service.selectNetwork ctx missing (displayName s r) s = .ok r s := by
    rw [Service.selectNetwork,get_bind,if_neg hword.1,hget]
    rfl
  have hpop : Service.popArg (displayName s r :: params) = (displayName s r,params) := by
    rw [Service.popArg,hword.2]
    rfl
  refine ⟨?_,hselect _⟩
  rw [Service.getNetworkFromArg,hpop]
  exact bind_ok (hselect _) _

/-- In every state that changes lead to, each network is found by its name if no earlier one has that name as
its address, and only then; and then commands that are given the name work on it. -/
theorem names_select (env : Env) {s : State} (h : Whole s) (hwords : Speakable s) (changes : List Change) :
    AllStates (step env) (fun t =>
      ((∀ r ∈ t.networks, t.getNetwork (displayName t r) = some r) ↔ Unshadowed t) ∧
        (Unshadowed t → ∀ r ∈ t.networks, ∀ ctx params,
          Service.getNetworkFromArg ctx (displayName t r :: params) t = .ok (r,params) t ∧
            Service.getNetworkFromFlag ctx (displayName t r) t = .ok r t)) s changes := by
  refine AllStates.of_steps (fun t => Whole t ∧ Speakable t) ⟨h,hwords⟩ ?_ ?_
    (AllSteps.of_forall fun _ _ _ => trivial)
  · intro t ht
    refine ⟨getNetwork_name_iff ht.1.ordered,fun hfree r hr ctx params => ?_⟩
    exact command_selects ht.1.ordered hfree hr (ht.2 r hr) ctx params
  · intro t change u ht _ hu
    exact ⟨step_whole ht.1 hu,step_speakable ht.2 hu⟩

end Run

section Sample

/-- A user without networks. -/
def adaDB : DB where
  users := .single jane Int.one_pos
  networks := .empty
  channels := .empty
  ignores := .empty
  certs := .empty

def adaState : State := State.load jane adaDB [⟨none,1⟩,⟨none,2⟩] []

theorem adaState_whole : Whole adaState where
  ordered := ⟨by decide,by decide,fun dc hdc => absurd hdc not_mem_nil⟩
  bound := load_bound jane adaDB _ []
  rooted := load_rooted _ (mem_singleton.mpr rfl) fun o ho => absurd ho not_mem_nil

def first : Change := .create { newNetwork "irc.example.org" with name := "first" } true

def second : Change := .create { newNetwork "irc.example.com" with name := "irc.example.org" } true

theorem names_select_ada :
    Whole adaState ∧ Speakable adaState ∧ (run (step Env.sample) adaState [first,second]).isSome = true ∧
      AllStates (step Env.sample) (fun t =>
        ((∀ r ∈ t.networks, t.getNetwork (displayName t r) = some r) ↔ Unshadowed t) ∧
          (Unshadowed t → ∀ r ∈ t.networks, ∀ ctx params,
            Service.getNetworkFromArg ctx (displayName t r :: params) t = .ok (r,params) t ∧
              Service.getNetworkFromFlag ctx (displayName t r) t = .ok r t)) adaState [first,second] :=
  ⟨adaState_whole,by decide,by decide,names_select Env.sample adaState_whole (by decide) _⟩

/-- The name of the second network is the address of the first, which is found by it. -/
theorem name_selects_other : Whole adaState ∧ Speakable adaState ∧ ¬ AllStates (step Env.sample)
      (fun t => ∀ r ∈ t.networks, t.getNetwork (displayName t r) = some r) adaState [first,second] := by
  refine ⟨adaState_whole,by decide,?_⟩
  have htest (t : State) (ht : ∀ r ∈ t.networks, t.getNetwork (displayName t r) = some r) :
      (t.networks.all fun r => t.getNetwork (displayName t r) = some r) = true :=
    all_eq_true.mpr fun r hr => decide_eq_true (ht r hr)
  exact not_allStates_of_run htest (by decide)

end Sample

end Sake.Proofs.NetworkNames
