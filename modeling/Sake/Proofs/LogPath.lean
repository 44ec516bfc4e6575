import Mathlib.Data.List.Forall2
import Sake.LogPath
import Sake.Proofs.Time

namespace Sake.Proofs.LogPath
open Sake.FsStore Lib Sake.Strings List Time Paths

theorem escapeFilename_toList : (escapeFilename name).toList =
      name.toList.map fun c => if DashLike name c then '-' else c := by
  by_cases h1 : name = "."
  · subst h1
    decide
  by_cases h2 : name = ".."
  · subst h2
    decide
  simp only [escapeFilename,if_neg h1,if_neg h2,mapChars,String.toList_ofList]
  apply map_congr_left
  intro c _
  by_cases hc : c = '-'
  · simp [hc]
  · simp [DashLike,h1,h2,hc]

theorem escapeFilename_eq_iff : escapeFilename a = escapeFilename b ↔ Confusable a b := by
  rw [← String.toList_inj,escapeFilename_toList,escapeFilename_toList,Confusable,
    ← forall₂_eq_eq_eq,forall₂_map_left_iff,forall₂_map_right_iff]
  have hrel : ∀ c d : Char, ((if DashLike a c then '-' else c) = if DashLike b d then '-' else d) ↔
        if DashLike a c then DashLike b d else ¬ DashLike b d ∧ c = d := by
    intro c d
    by_cases hc : DashLike a c
    · by_cases hd : DashLike b d
      · simp [hc,hd]
      · have hne : '-' ≠ d := fun h => hd (Or.inl h.symm)
        simp [hc,hne]
    · by_cases hd : DashLike b d
      · have hne : c ≠ '-' := fun h => hc (Or.inl h)
        simp [hd,hne]
      · simp [hc,hd]
  simp [hrel]

theorem escapeFilename_eq_empty_iff : escapeFilename name = "" ↔ name = "" := by
  rw [← String.toList_inj,escapeFilename_toList]
  simp

/-- Apart from the two names with a meaning of their own, only slashes change. -/
def dashed (c : Char) : Char := if c = '/' ∨ c = '\\' then '-' else c

theorem dashed_ne_slash (c : Char) : dashed c ≠ '/' := by
  unfold dashed
  split
  · decide
  · rename_i h
    exact fun hc => h (Or.inl hc)

theorem eq_dot_of_dashed (h : dashed c = '.') : c = '.' := by
  unfold dashed at h
  split at h
  · exact absurd h (by decide)
  · exact h

theorem isName_escapeFilename (name : String) :
    (escapeFilename name).toList = [] ∨ IsName (escapeFilename name).toList := by
  by_cases h1 : name = "."
  · subst h1
    exact Or.inr ⟨by decide,by decide,by decide,by decide⟩
  by_cases h2 : name = ".."
  · subst h2
    exact Or.inr ⟨by decide,by decide,by decide,by decide⟩
  have hlist : (escapeFilename name).toList = name.toList.map dashed := by
    simp only [escapeFilename,if_neg h1,if_neg h2,mapChars,String.toList_ofList]
    rfl
  have hdots : ∀ dots : List Char, (∀ c ∈ dots, c = '.') → name.toList.map dashed = dots →
      name = String.ofList dots := by
    intro dots hall heq
    have hid : name.toList.map dashed = name.toList := by
      conv_rhs => rw [← map_id name.toList]
      apply map_congr_left
      intro c hc
      have hdot := hall _ (heq ▸ mem_map_of_mem hc)
      rw [hdot,id,eq_dot_of_dashed hdot]
    rw [← heq,hid,String.ofList_toList]
  rw [hlist]
  by_cases hnil : name.toList.map dashed = []
  · exact Or.inl hnil
  refine Or.inr ⟨hnil,?_,?_,?_⟩
  · intro hmem
    obtain ⟨c,-,hc⟩ := mem_map.mp hmem
    exact dashed_ne_slash c hc
  · exact fun h => h1 (hdots dot (by simp [dot]) h)
  · exact fun h => h2 (hdots dotDot (by simp [dotDot]) h)

theorem mem_padInt (h : c ∈ (Time.padInt width n).toList) : c.isDigit ∨ c = '-' := by
  unfold Time.padInt at h
  split at h
  · rw [String.toList_append] at h
    rcases mem_append.mp h with h | h
    · exact Or.inr (by simpa using h)
    · exact Or.inl (pad_isDigit h)
  · exact Or.inl (pad_isDigit h)

theorem logName_toList (z : Time.Zone) (t : Int) :
    (logName z t).toList = (Time.padInt 4 (Time.dateOf z t).year).toList ++ '-' ::
      ((Time.padInt 2 (Time.dateOf z t).month).toList ++ '-' ::
        ((Time.padInt 2 (Time.dateOf z t).day).toList ++ ['.','l','o','g'])) := by
  simp [logName]

theorem isName_logName (z : Time.Zone) (t : Int) : IsName (logName z t).toList := by
  have hlist := logName_toList z t
  have hlog : 'g' ∈ (logName z t).toList := by simp [hlist]
  refine ⟨ne_nil_of_mem hlog,?_,?_,?_⟩
  · rw [hlist]
    have hpad : ∀ w n, '/' ∉ (Time.padInt w n).toList := by
      intro w n h
      rcases mem_padInt h with h | h <;> exact absurd h (by decide)
    simp [hpad]
  all_goals
    intro h
    rw [h] at hlog
    exact absurd hlog (by decide)

theorem logName_injective (h : logName z a = logName z b) : Time.dateOf z a = Time.dateOf z b := by
  have hlist := congrArg String.toList h
  rw [logName_toList,logName_toList] at hlist
  have hlen : ∀ {month mday : Int}, Time.TwoDigits month → Time.TwoDigits mday →
      ('-' :: ((Time.padInt 2 month).toList ++ '-' ::
        ((Time.padInt 2 mday).toList ++ ['.','l','o','g']))).length = 10 := by
    intro month mday h1 h2
    simp [padInt_two h1.1 h1.2,padInt_two h2.1 h2.2]
  obtain ⟨hyear,hrest⟩ := append_inj' hlist (by
    rw [hlen (twoDigits_month z a) (twoDigits_day z a),hlen (twoDigits_month z b) (twoDigits_day z b)])
  obtain ⟨hmonth,hrest⟩ := (twoDigits_month z a).cancel (twoDigits_month z b) (List.cons.inj hrest).2
  obtain ⟨hday,-⟩ := (twoDigits_day z a).cancel (twoDigits_day z b) (List.cons.inj hrest).2
  have hyear := padInt_injective hyear
  cases hda : Time.dateOf z a
  cases hdb : Time.dateOf z b
  simp_all only

/-- The step down that a name stands for. -/
def step (name : String) : List Char := (escapeFilename name).toList

theorem filter_steps (names : List String) : (names.map step).filter (· ≠ []) = (names.filter (· ≠ "")).map step := by
  rw [filter_map]
  congr 2
  funext name
  have hiff : step name = [] ↔ name = "" := by rw [step,String.toList_eq_nil_iff,escapeFilename_eq_empty_iff]
  simp [hiff]

theorem parse_storeRoot : parse (storeRoot root username).toList =
      ⟨(parse root.toList).rooted,(parse root.toList).names ++ ([username].filter (· ≠ "")).map step⟩ := by
  have hjoin := parse_join root.toList ([username].map step) (by
    intro n hn
    obtain ⟨name,-,rfl⟩ := mem_map.mp hn
    exact isName_escapeFilename name)
  rw [filter_steps] at hjoin
  rw [storeRoot,joinPath,String.toList_ofList]
  exact hjoin

theorem steps_are_names (z : Time.Zone) (t : Int) (names : List String) :
    ∀ n ∈ names.map step ++ [(logName z t).toList], n = [] ∨ IsName n := by
  intro n hn
  rcases mem_append.mp hn with hn | hn
  · obtain ⟨name,-,rfl⟩ := mem_map.mp hn
    exact isName_escapeFilename name
  · obtain rfl := mem_singleton.mp hn
    exact Or.inr (isName_logName z t)

/-- Where a log is: below the root, a step for each name that is not empty, and the file for
the day. -/
theorem parse_logPath :
    parse (logPath z root network entity t).toList = ⟨(parse root.toList).rooted,(parse root.toList).names ++
        (([network.getName,entity].filter (· ≠ "")).map step ++ [(logName z t).toList])⟩ := by
  have hjoin := parse_join root.toList
    ([network.getName,entity].map step ++ [(logName z t).toList]) (steps_are_names z t _)
  have hlog : ([(logName z t).toList]).filter (· ≠ []) = [(logName z t).toList] := by simp [(isName_logName z t).ne_nil]
  rw [filter_append,filter_steps,hlog] at hjoin
  rw [logPath,joinPath,String.toList_ofList]
  exact hjoin

theorem parse_path (root : String) (z : Time.Zone) (t : Int) (b : BufferName) : parse (b.path root z t).toList =
      ⟨(parse root.toList).rooted, (parse root.toList).names ++ (b.names.map step ++ [(logName z t).toList])⟩ := by
  have hnames : b.names = [b.username].filter (· ≠ "") ++ [b.network.getName,b.entity].filter (· ≠ "") := by
    rw [← filter_append]
    rfl
  rw [BufferName.path,parse_logPath,parse_storeRoot,hnames]
  simp

theorem path_eq_iff (root : String) (z : Time.Zone) (h : Time.dateOf z t = Time.dateOf z t')
    (a b : BufferName) : a.path root z t = b.path root z t' ↔ a.names.map step = b.names.map step := by
  have hname : logName z t' = logName z t := by rw [logName,logName,h]
  have hne : ∀ t (c : BufferName), ([storeRoot root c.username,escapeFilename c.network.getName,
      escapeFilename c.entity,logName z t].map String.toList).filter (· ≠ []) ≠ [] := by
    intro t c
    apply ne_nil_of_mem (a := (logName z t).toList)
    simp [(isName_logName z t).ne_nil]
  have hjoin := join_eq_iff (hne t a) (hne t' b)
  have hstring : a.path root z t = b.path root z t' ↔
      parse (a.path root z t).toList = parse (b.path root z t').toList := by
    rw [← String.toList_inj]
    simpa only [BufferName.path,logPath,joinPath,String.toList_ofList] using hjoin
  rw [hstring,parse_path,parse_path,hname]
  simp

/-- Two buffers share a file exactly when their names can be confused, and every file is
below the root. -/
theorem logs_shared_iff (root : String) (z : Time.Zone) (t t' : Int)
    (h : Time.dateOf z t = Time.dateOf z t') (a b : BufferName) :
    (a.path root z t = b.path root z t' ↔ List.Forall₂ Confusable a.names b.names) ∧ Below root (a.path root z t) := by
  refine ⟨?_,?_⟩
  · have hrel : ∀ x y : String, step x = step y ↔ Confusable x y := by
      intro x y
      rw [step,step,String.toList_inj,escapeFilename_eq_iff]
    rw [path_eq_iff root z h,← forall₂_eq_eq_eq,forall₂_map_left_iff,forall₂_map_right_iff]
    simp [hrel]
  · refine ⟨a.names.map step ++ [(logName z t).toList],by simp,?_,parse_path root z t a⟩
    intro n hn
    rcases mem_append.mp hn with hm | hm
    · obtain ⟨name,hname,rfl⟩ := mem_map.mp hm
      rcases isName_escapeFilename name with hnil | hname'
      · rw [String.toList_eq_nil_iff,escapeFilename_eq_empty_iff] at hnil
        simp [BufferName.names,hnil] at hname
      · exact hname'
    · obtain rfl := mem_singleton.mp hm
      exact isName_logName z t

/-- A channel of one user on one network. -/
def ofAlice (entity : String) : BufferName := ⟨"alice",⟨1,"libera","irc.libera.chat",""⟩,entity⟩

theorem longer_name_elsewhere : (ofAlice "#a").path "logs" (.fixed 0) 0 ≠ (ofAlice "#ab").path "logs" (.fixed 0) 1 ∧
      Below "logs" ((ofAlice "#a").path "logs" (.fixed 0) 0) := by
  obtain ⟨hiff,hbelow⟩ := logs_shared_iff "logs" (.fixed 0) 0 1 rfl (ofAlice "#a") (ofAlice "#ab")
  refine ⟨fun h => ?_,hbelow⟩
  have hc : List.Forall₂ Confusable ["alice","libera","#a"] ["alice","libera","#ab"] := hiff.mp h
  have hab : Confusable "#a" "#ab" := by
    simp only [forall₂_cons] at hc
    exact hc.2.2.1
  exact absurd hab.length_eq (by decide)

/-- A slash in the name of a channel is written as a dash. -/
theorem slash_and_dash_share_a_log : (ofAlice "#a/b").entity ≠ (ofAlice "#a-b").entity ∧
      (ofAlice "#a/b").path "logs" (.fixed 0) 0 = "logs/alice/libera/#a-b/0001-01-01.log" ∧
      (ofAlice "#a-b").path "logs" (.fixed 0) 0 = "logs/alice/libera/#a-b/0001-01-01.log" :=
  ⟨by decide,rfl,rfl⟩

end Sake.Proofs.LogPath
