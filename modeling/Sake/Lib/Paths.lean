import Mathlib.Data.List.Basic

namespace Sake.Lib.Paths
open List

/-- The names between the slashes of a path, empty ones included. -/
def split : List Char → List (List Char)
  | [] => [[]]
  | c :: rest =>
    if c = '/' then [] :: split rest
    else match split rest with
      | [] => [[c]]
      | name :: names => (c :: name) :: names

/-- The names with slashes between them. -/
def joinNames : List (List Char) → List Char
  | [] => []
  | [name] => name
  | name :: next :: names => name ++ '/' :: joinNames (next :: names)

def dot : List Char := ['.']
def dotDot : List Char := ['.','.']

/-- A path that was read: whether it begins at the root, and the names it leads through. -/
structure Path where
  rooted : Bool
  names : List (List Char)
deriving Repr, DecidableEq

/-- Takes one more name, with the way so far in reverse. There is nothing above the root. -/
def push (rooted : Bool) (stack : List (List Char)) (name : List Char) : List (List Char) :=
  if name = [] ∨ name = dot then stack
  else if name = dotDot then
    match stack with
    | [] => if rooted then [] else [dotDot]
    | top :: rest => if top = dotDot then dotDot :: top :: rest else rest
  else name :: stack

def parse (s : List Char) : Path :=
  let rooted := s.head? == some '/'
  ⟨rooted,((split s).foldl (push rooted) []).reverse⟩

def Path.string (p : Path) : List Char :=
  if p.rooted then '/' :: joinNames p.names
  else if p.names = [] then dot
  else joinNames p.names

/-- The shortest path to the same place. -/
def clean (s : List Char) : List Char := (parse s).string

/-- Empty parts are ignored. -/
def join (parts : List (List Char)) : List Char :=
  match parts.filter (· ≠ []) with
  | [] => []
  | parts => clean (joinNames parts)

/-- A name of a file or directory, not a step of another kind. -/
structure IsName (name : List Char) : Prop where
  ne_nil : name ≠ []
  no_slash : '/' ∉ name
  ne_dot : name ≠ dot
  ne_dotDot : name ≠ dotDot

/-- What is left of a path that was cleaned: steps up, unless it begins at the root, and
then names. -/
def Path.Clean (p : Path) : Prop :=
  ∃ k names, p.names = List.replicate k dotDot ++ names ∧ (∀ n ∈ names, IsName n) ∧ (p.rooted = true → k = 0)

theorem split_ne_nil (s : List Char) : split s ≠ [] := by
  cases s with
  | nil => simp [split]
  | cons c s =>
    simp only [split]
    split
    · simp
    · split <;> simp

theorem split_append : split (a ++ '/' :: b) = split a ++ split b := by
  induction a with
  | nil => simp [split]
  | cons c a ih =>
    simp only [cons_append,split,ih]
    split
    · rfl
    · cases ha : split a with
      | nil => exact absurd ha (split_ne_nil a)
      | cons name names => rfl

variable {names : List (List Char)} {p : Path} {n : List Char} {rooted : Bool}

theorem split_of_no_slash (h : '/' ∉ name) : split name = [name] := by
  induction name with
  | nil => rfl
  | cons c name ih =>
    obtain ⟨hc,hn⟩ := not_or.mp (mt mem_cons.mpr h)
    simp [split,Ne.symm hc,ih hn]

theorem split_joinNames (hne : names ≠ []) (h : ∀ n ∈ names, '/' ∉ n) : split (joinNames names) = names := by
  induction names with
  | nil => exact absurd rfl hne
  | cons n names ih =>
    have hn := h n mem_cons_self
    cases names with
    | nil => exact split_of_no_slash hn
    | cons m names =>
      have hrest := ih (by simp) fun k hk => h k (mem_cons_of_mem _ hk)
      rw [joinNames,split_append,split_of_no_slash hn,hrest,singleton_append]

theorem foldl_split_joinNames (r : Bool) (stack : List (List Char)) (h : ∀ n ∈ names, '/' ∉ n) :
    (split (joinNames names)).foldl (push r) stack = names.foldl (push r) stack := by
  cases names with
  | nil => simp [joinNames,split,push]
  | cons n names => rw [split_joinNames (by simp) h]

theorem push_name (h : IsName n) : push r stack n = n :: stack := by simp [push,h.ne_nil,h.ne_dot,h.ne_dotDot]

theorem foldl_push_names (h : ∀ n ∈ names, IsName n) : names.foldl (push r) stack = names.reverse ++ stack := by
  induction names generalizing stack with
  | nil => rfl
  | cons n names ih =>
    rw [foldl_cons,push_name (h n mem_cons_self), ih fun m hm => h m (mem_cons_of_mem _ hm),reverse_cons,append_assoc,
      singleton_append]

/-- Steps up from where only steps up lead. -/
theorem foldl_push_dotDots (j k : Nat) : (List.replicate k dotDot).foldl (push false) (List.replicate j dotDot) =
      List.replicate (j + k) dotDot := by
  induction k generalizing j with
  | zero => rfl
  | succ k ih =>
    have hp : push false (List.replicate j dotDot) dotDot = List.replicate (j + 1) dotDot := by
      cases j with
      | zero => rfl
      | succ j => simp [push,dot,dotDot,replicate_succ]
    rw [replicate_succ,foldl_cons,hp,ih]
    congr 1
    omega

/-- The way so far, in reverse, of a clean path. -/
def StackClean (rooted : Bool) (stack : List (List Char)) : Prop :=
  ∃ names k, stack = names ++ List.replicate k dotDot ∧ (∀ n ∈ names, IsName n) ∧ (rooted = true → k = 0)

theorem StackClean.push (h : StackClean rooted stack) (hs : '/' ∉ name) : StackClean rooted (push rooted stack name) := by
  obtain ⟨names,k,rfl,hn,hk⟩ := h
  unfold Paths.push
  split
  · exact ⟨names,k,rfl,hn,hk⟩
  rename_i hne
  obtain ⟨h1,h2⟩ := not_or.mp hne
  split
  · cases names with
    | cons top rest =>
      have htop := hn top mem_cons_self
      refine ⟨rest,k,?_,fun n hm => hn n (mem_cons_of_mem _ hm),hk⟩
      simp [htop.ne_dotDot]
    | nil =>
      cases k with
      | zero =>
        cases rooted with
        | true => exact ⟨[],0,rfl,by simp,fun _ => rfl⟩
        | false => exact ⟨[],1,rfl,by simp,nofun⟩
      | succ k =>
        refine ⟨[],k + 2,?_,by simp,fun hr => absurd (hk hr) (by omega)⟩
        simp [replicate_succ]
  · rename_i h3
    refine ⟨name :: names,k,rfl,?_,hk⟩
    intro n hm
    rcases mem_cons.mp hm with rfl | hm
    · exact ⟨h1,hs,h2,h3⟩
    · exact hn n hm

theorem no_slash_of_mem_split (h : n ∈ split s) : '/' ∉ n := by
  induction s generalizing n with
  | nil =>
    obtain rfl := mem_singleton.mp h
    simp
  | cons c s ih =>
    simp only [split] at h
    split at h
    · rcases mem_cons.mp h with rfl | h
      · simp
      · exact ih h
    rename_i hc
    cases hs : split s with
    | nil => exact absurd hs (split_ne_nil s)
    | cons m ms =>
      rw [hs] at h
      rcases mem_cons.mp h with rfl | h
      · intro hm
        rcases mem_cons.mp hm with hm | hm
        · exact hc hm.symm
        · exact ih (hs ▸ mem_cons_self) hm
      · exact ih (hs ▸ mem_cons_of_mem _ h)

theorem stackClean_foldl (h : StackClean rooted stack) (hs : ∀ n ∈ names, '/' ∉ n) :
    StackClean rooted (names.foldl (push rooted) stack) := by
  induction names generalizing stack with
  | nil => exact h
  | cons n names ih => exact ih (h.push (hs n mem_cons_self)) fun m hm => hs m (mem_cons_of_mem _ hm)

theorem clean_parse (s : List Char) : (parse s).Clean := by
  have h0 : StackClean (s.head? == some '/') [] := ⟨[],0,rfl,by simp,fun _ => rfl⟩
  obtain ⟨names,k,hst,hn,hk⟩ := stackClean_foldl h0 fun n hm => no_slash_of_mem_split (s := s) hm
  refine ⟨k,names.reverse,?_,?_,hk⟩
  · simp [parse,hst]
  · intro n hm
    exact hn n (mem_reverse.mp hm)

theorem no_slash_of_clean (h : p.Clean) : ∀ n ∈ p.names, '/' ∉ n := by
  obtain ⟨k,names,hp,hn,-⟩ := h
  intro n hm
  rw [hp] at hm
  rcases mem_append.mp hm with hm | hm
  · obtain rfl := (mem_replicate.mp hm).2
    decide
  · exact (hn n hm).no_slash

theorem foldl_push_clean (h : p.Clean) : p.names.foldl (push p.rooted) [] = p.names.reverse := by
  obtain ⟨k,names,hp,hn,hk⟩ := h
  rw [hp,foldl_append,foldl_push_names hn,reverse_append]
  congr 1
  cases hr : p.rooted with
  | true => rw [hk hr]; rfl
  | false => simpa using foldl_push_dotDots 0 k

theorem head_joinNames (hn : n ≠ []) (hs : '/' ∉ n) (names : List (List Char)) :
    (joinNames (n :: names)).head? ≠ some '/' := by
  cases n with
  | nil => exact absurd rfl hn
  | cons c n =>
    have hc := (not_or.mp (mt mem_cons.mpr hs)).1
    cases names with
    | nil | cons m names => simpa [joinNames] using Ne.symm hc

theorem ne_nil_of_clean (h : p.Clean) : ∀ n ∈ p.names, n ≠ [] := by
  obtain ⟨k,names,hp,hn,-⟩ := h
  intro n hm
  rw [hp] at hm
  rcases mem_append.mp hm with hm | hm
  · obtain rfl := (mem_replicate.mp hm).2
    decide
  · exact (hn n hm).ne_nil

theorem parse_string (h : p.Clean) : parse p.string = p := by
  obtain ⟨rooted,names⟩ := p
  have hslash := no_slash_of_clean h
  have hfold := foldl_push_clean h
  cases rooted with
  | true =>
    have hsplit : split ('/' :: joinNames names) = [] :: split (joinNames names) := by simp [split]
    have hnames := (foldl_split_joinNames true [] hslash).trans hfold
    simp only [Path.string,if_true,parse,hsplit]
    simp [push,hnames]
  | false =>
    cases names with
    | nil => rfl
    | cons n names =>
      have hhead := head_joinNames (ne_nil_of_clean h n mem_cons_self) (hslash n mem_cons_self) names
      have hr : ((joinNames (n :: names)).head? == some '/') = false := by simpa using hhead
      have hnames := (foldl_split_joinNames false [] hslash).trans hfold
      simp [Path.string,parse,hr,hnames]

theorem parse_clean : parse (clean s) = parse s := parse_string (clean_parse s)

theorem parse_joinNames (hne : names ≠ []) (h : ∀ n ∈ names, IsName n) : parse (joinNames names) = ⟨false,names⟩ := by
  have hp := parse_string (p := ⟨false,names⟩) ⟨0,names,rfl,h,nofun⟩
  simpa [Path.string,hne] using hp

theorem parse_append (hs : s ≠ []) (h : ∀ n ∈ names, IsName n) :
    parse (s ++ '/' :: joinNames names) = ⟨(parse s).rooted,(parse s).names ++ names⟩ := by
  have hhead : (s ++ '/' :: joinNames names).head? = s.head? := by
    cases s with
    | nil => exact absurd rfl hs
    | cons c s => rfl
  simp [parse,hhead,split_append,foldl_split_joinNames _ _ fun n hn => (h n hn).no_slash,foldl_push_names h]

theorem parse_join (s : List Char) (names : List (List Char)) (h : ∀ n ∈ names, n = [] ∨ IsName n) :
    parse (join (s :: names)) = ⟨(parse s).rooted,(parse s).names ++ names.filter (· ≠ [])⟩ := by
  have hnames : ∀ n ∈ names.filter (· ≠ []), IsName n := by
    intro n hn
    obtain ⟨hm,hne⟩ := mem_filter.mp hn
    rcases h n hm with h | h
    · simp [h] at hne
    · exact h
  by_cases hs : s = []
  · subst hs
    have hf : ([] :: names).filter (· ≠ []) = names.filter (· ≠ []) := by simp
    cases hn : names.filter (· ≠ []) with
    | nil =>
      simp only [join,hf,hn]
      rfl
    | cons n ns =>
      rw [hn] at hnames
      simp only [join,hf,hn,parse_clean,parse_joinNames (by simp) hnames]
      rfl
  · have hf : (s :: names).filter (· ≠ []) = s :: names.filter (· ≠ []) := by simp [hs]
    cases hn : names.filter (· ≠ []) with
    | nil => simp only [join,hf,hn,parse_clean,joinNames,append_nil]
    | cons n ns =>
      rw [hn] at hnames
      simp only [join,hf,hn,parse_clean,joinNames,parse_append hs hnames]

/-- Two joined paths are written alike when they lead to the same place. -/
theorem join_eq_iff (ha : a.filter (· ≠ []) ≠ [])
    (hb : b.filter (· ≠ []) ≠ []) : join a = join b ↔ parse (join a) = parse (join b) := by
  have hstring : ∀ ps : List (List Char), ps.filter (· ≠ []) ≠ [] → (parse (join ps)).string = join ps := by
    intro ps hps
    unfold join
    cases hf : ps.filter (· ≠ []) with
    | nil => exact absurd hf hps
    | cons q qs => simp only [parse_clean]; rfl
  constructor
  · intro h
    rw [h]
  · intro h
    rw [← hstring a ha,← hstring b hb,h]

end Sake.Lib.Paths
