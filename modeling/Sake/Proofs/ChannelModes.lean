import Mathlib.Data.List.Nodup
import Sake.HandleMessage

namespace Sake.Proofs.ChannelModes
open Sake.Upstream List
variable {uc : Conn} {cm ms : List (Char × String)} {ch : Channel}

/-- `channelModes.Format`, for a map that is visited in the order of the list. -/
def format (cm : List (Char × String)) : String × List String :=
  let withValues := cm.filter fun m => m.2 != ""
  let withoutValues := cm.filter fun m => !(m.2 != "")
  (String.ofList ('+' :: (withValues ++ withoutValues).map Prod.fst),withValues.map Prod.snd)

/-- A mode of type B, C or D, which in the last case has no value. -/
def Settable (uc : Conn) (m : Char × String) : Prop :=
  m.1.isAlpha = true ∧ uc.availableMemberships.find? (fun n => n.mode == m.1) = none ∧
    (uc.availableChannelModes.lookup m.1 = some .b ∨ uc.availableChannelModes.lookup m.1 = some .c ∨
      uc.availableChannelModes.lookup m.1 = some .d ∧ m.2 = "")

/-- The letter of a mode takes its value off the arguments, or finds none there. -/
theorem applyChannelModes_cons (h : Settable uc m)
    (hargs : if m.2 = "" then args = [] else ∃ more, args = m.2 :: more) :
    uc.applyChannelModes (some true) (m.1 :: rest) args ch =
      uc.applyChannelModes (some true) rest args.tail (ch.setMode m.1 m.2) := by
  obtain ⟨halpha,hmember,htype⟩ := h
  have hplus : m.1 ≠ '+' := by rintro heq; rw [heq] at halpha; cases halpha
  have hminus : m.1 ≠ '-' := by rintro heq; rw [heq] at halpha; cases halpha
  have hhead : args.headD "" = m.2 := by
    split at hargs
    · next hv => rw [hargs,hv]; rfl
    · obtain ⟨more,rfl⟩ := hargs
      rfl
  rcases htype with ht | ht | ⟨ht,hv⟩
  · simp only [Conn.applyChannelModes,if_neg hplus,if_neg hminus,hmember,ht,hhead]
  · simp only [Conn.applyChannelModes,if_neg hplus,if_neg hminus,hmember,ht,hhead]
  · rw [if_pos hv] at hargs
    simp [Conn.applyChannelModes,if_neg hplus,if_neg hminus,hmember,ht,hargs,hv]

/-- Every mode finds its value in front of the arguments, or nothing there if it has none. -/
def Aligned : List (Char × String) → List String → Prop
  | [], _ => True
  | m :: cm, args => (if m.2 = "" then args = [] else ∃ more, args = m.2 :: more) ∧ Aligned cm args.tail

theorem aligned_values (hms : ∀ m ∈ ms, m.2 ≠ "") (hcm : ∀ m ∈ cm, m.2 = "") : Aligned (ms ++ cm) (ms.map Prod.snd) := by
  induction ms with
  | nil =>
    induction cm with
    | nil => trivial
    | cons m cm ih =>
      refine ⟨?_,ih fun n hn => hcm n (mem_cons_of_mem _ hn)⟩
      rw [if_pos (hcm m mem_cons_self)]
      rfl
  | cons m ms ih =>
    refine ⟨?_,ih fun n hn => hms n (mem_cons_of_mem _ hn)⟩
    rw [if_neg (hms m mem_cons_self)]
    exact ⟨_,rfl⟩

/-- Modes with new letters are all added, the last one in front. -/
theorem applyChannelModes_all (hset : ∀ m ∈ cm, Settable uc m) (hnew : (cm.map Prod.fst ++ ms.map Prod.fst).Nodup)
    {args : List String} (hargs : Aligned cm args) :
    uc.applyChannelModes (some true) (cm.map Prod.fst) args { ch with modes := some ms } =
      ({ ch with modes := some (cm.reverse ++ ms) },true) := by
  induction cm generalizing ms args with
  | nil => rfl
  | cons m cm ih =>
    obtain ⟨hm,hnodup⟩ := nodup_cons.mp hnew
    have hkeep : ms.filter (fun n => n.1 != m.1) = ms := by
      refine filter_eq_self.mpr fun n hn => bne_iff_ne.mpr fun heq => hm ?_
      exact mem_append_right _ (heq ▸ mem_map_of_mem hn)
    have hnext : ((cm.map Prod.fst) ++ (m :: ms).map Prod.fst).Nodup := nodup_middle.mpr hnew
    have hrest := ih (fun n hn => hset n (mem_cons_of_mem _ hn)) hnext hargs.2
    rw [map_cons,applyChannelModes_cons (hset m mem_cons_self) hargs.1,reverse_cons,append_assoc]
    simp only [Channel.setMode,Option.map_some,hkeep]
    exact hrest

/-- Modes that were formatted in any order of the map are read back as the same map. -/
theorem modes_read_back (uc : Conn) (cm : List (Char × String)) (hdistinct : (cm.map Prod.fst).Nodup)
    (hset : ∀ m ∈ cm, Settable uc m) (ch : Channel) :
    ∃ ms, ms.Perm cm ∧ uc.applyChannelModes none (format cm).1.toList (format cm).2 { ch with modes := some [] } =
      ({ ch with modes := some ms },true) := by
  have hperm := filter_append_perm (fun m : Char × String => m.2 != "") cm
  have hvalues (m) (hm : m ∈ cm.filter fun m => m.2 != "") : m.2 ≠ "" := bne_iff_ne.mp (mem_filter.mp hm).2
  have hbare (m) (hm : m ∈ cm.filter fun m => !(m.2 != "")) : m.2 = "" := by simpa using (mem_filter.mp hm).2
  have hnew := ((hperm.map Prod.fst).nodup_iff).mpr hdistinct
  refine ⟨_,(reverse_perm _).trans hperm,?_⟩
  simp only [format,String.toList_ofList,if_true]
  have hall := @applyChannelModes_all uc _ [] ch (fun m hm => hset m (hperm.subset hm))
    (by rwa [map_nil,append_nil]) _ (aligned_values hvalues hbare)
  rwa [append_nil] at hall

theorem bob_named : "bob" ≠ "" := by decide

/-- A connection that has heard nothing of the modes of its server. -/
def plainConn : Conn := .start .ascii ⟨"bob",bob_named⟩ .empty "" "bob" "bob"

/-- The limit of the channel is hidden. -/
def keyed : List (Char × String) := [('n',""),('k',"secret"),('l',"")]

theorem key_read_back : (keyed.map Prod.fst).Nodup ∧ (∀ m ∈ keyed, Settable plainConn m) ∧
    ∃ ms, ms.Perm keyed ∧ plainConn.applyChannelModes none (format keyed).1.toList (format keyed).2
      { name := "#go", modes := some [], members := .new .ascii } =
        ({ name := "#go", modes := some ms, members := .new .ascii },true) := by
  have hset : ∀ m ∈ keyed, Settable plainConn m := by
    unfold Settable
    decide
  exact ⟨by decide,hset,modes_read_back plainConn keyed (by decide) hset { name := "#go", members := .new .ascii }⟩

end Sake.Proofs.ChannelModes
