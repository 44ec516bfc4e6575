import Sake.Capabilities
import Sake.Proofs.DeviceCerts

namespace Sake.Proofs.CapReq
open Sake.Capabilities Sake.Strings List
open Downstream hiding handleCapREQ

/-- A word of a request: the capability, and whether it is to be enabled. -/
def asked (lib : Library) (word : String) : String × Bool :=
  let (name,disable) := cutFirst '-' (lib.lower word)
  (name,!disable)

/-- The items of a request are applied from left to right. -/
def applied (items : List (String × Bool)) (enabled : String → Bool) : String → Bool :=
  items.foldl (fun enabled item => Function.update enabled item.1 item.2) enabled

/-- What the last item says that has the name. -/
def lastFor (items : List (String × Bool)) (name : String) : Option Bool := items.reverse.lookup name

/-- The last word on a capability that a request changes is one that changes it. -/
def Steady (items : List (String × Bool)) (enabled : String → Bool) : Prop :=
  ∀ item ∈ items, item.2 ≠ enabled item.1 → lastFor items item.1 = some item.2

variable {name : String}

theorem applied_eq : applied items enabled name = (lastFor items name).getD (enabled name) := by
  induction items using List.reverseRecOn with
  | nil => rfl
  | append_singleton items item ih =>
    rw [applied,foldl_append,foldl_cons,foldl_nil,lastFor,reverse_append,reverse_singleton,
      singleton_append,lookup_cons]
    by_cases hn : name = item.1
    · simp [hn]
    · rw [Function.update_of_ne hn,beq_eq_false_iff_ne.mpr hn]
      exact ih

theorem applied_of_agree (h : ∀ item ∈ items, item.1 = name → item.2 = on)
    (hsome : enabled name = on ∨ ∃ item ∈ items, item.1 = name) : applied items enabled name = on := by
  rw [applied_eq]
  cases hl : lastFor items name with
  | some b =>
    obtain ⟨front,back,hi,-⟩ := lookup_eq_some_iff.mp hl
    exact h (name,b) (mem_reverse.mp (hi ▸ by simp)) rfl
  | none =>
    refine hsome.resolve_right ?_
    rintro ⟨item,hitem,rfl⟩
    exact absurd rfl (bne_iff_ne.mp (lookup_eq_none_iff.mp hl item (mem_reverse.mpr hitem)))

/-- The changes alone do what the whole request says if it is steady, and only then. -/
theorem applied_changes_iff :
    (∀ name, applied (items.filter fun item => enabled item.1 != item.2) enabled name = applied items enabled name) ↔
      Steady items enabled := by
  have hchanged {item : String × Bool} (hitem : item ∈ items) (hne : item.2 ≠ enabled item.1) :
      applied (items.filter fun item => enabled item.1 != item.2) enabled item.1 = item.2 := by
    refine applied_of_agree ?_ (.inr ⟨item,mem_filter.mpr ⟨hitem,bne_iff_ne.mpr hne.symm⟩,rfl⟩)
    intro other hother heq
    have hd := bne_iff_ne.mp (mem_filter.mp hother).2
    rw [heq] at hd
    exact (Bool.eq_not.mpr hd.symm).trans (Bool.eq_not.mpr hne).symm
  constructor
  · intro h item hitem hne
    have hlast := (h item.1).symm.trans (hchanged hitem hne)
    rw [applied_eq] at hlast
    cases hl : lastFor items item.1 with
    | some b => exact congrArg some (by simpa [hl] using hlast)
    | none => exact absurd (by simpa [hl] using hlast.symm) hne
  · intro h name
    by_cases hex : ∃ item ∈ items, item.1 = name ∧ item.2 ≠ enabled name
    · obtain ⟨item,hitem,rfl,hne⟩ := hex
      rw [hchanged hitem hne,applied_eq,h item hitem hne]
      rfl
    have hsame : ∀ item ∈ items, item.1 = name → item.2 = enabled name := by
      intro item hitem hn
      by_contra hne
      exact hex ⟨item,hitem,hn,hne⟩
    rw [applied_of_agree hsame (.inl rfl)]
    exact applied_of_agree (fun item hitem => hsame item (mem_filter.mp hitem).1) (.inl rfl)

theorem isEnabled_foldl (caps : CapRegistry) (items : List (String × Bool)) :
    (items.foldl (fun caps kv => caps.setEnabled kv.1 kv.2) caps).isEnabled = applied items caps.isEnabled := by
  induction items generalizing caps with
  | nil => rfl
  | cons item items ih =>
    have hset : (caps.setEnabled item.1 item.2).isEnabled = Function.update caps.isEnabled item.1 item.2 := by
      funext name
      by_cases hn : name = item.1 <;> cases item.2 <;> simp [CapRegistry.setEnabled,CapRegistry.isEnabled,hn]
    rw [foldl_cons,ih,hset]
    rfl

/-- A request that is granted collects the items that change something. -/
theorem requestedCaps_some (h : requestedCaps lib dc words = some changes) :
    changes = (words.map (asked lib)).filter fun item => dc.caps.isEnabled item.1 != item.2 := by
  induction words generalizing changes with
  | nil =>
    cases h
    rfl
  | cons word words ih =>
    simp only [requestedCaps] at h
    rw [map_cons,filter_cons]
    split at h
    · rename_i hsame
      rw [if_neg (by simp [asked,bne,hsame,Bool.not_true,Bool.false_eq_true,not_false_eq_true])]
      exact ih h
    rename_i hdiff
    rw [if_pos (by simp [asked,bne,eq_false_of_ne_true hdiff,Bool.not_false])]
    split at h
    · cases h
    split at h
    · cases h
    split at h
    · cases h
    · obtain ⟨rest,hrest,rfl⟩ := Option.map_eq_some_iff.mp h
      rw [ih hrest]
      rfl

/-- A refused request changes nothing, and a granted one does what it says if it is steady, and only then. -/
theorem request_applied_iff (lib : Library) (env : Downstream.Env) (dc : Conn) (arg : String) (args : List String) :
    ∃ dc', handleCapREQ lib env (arg :: args) dc = .ok () dc' ∧
      (dc'.sent = dc.sent ++ [env.message "CAP" [dc.nick,"NAK",arg]] ∧ dc'.caps = dc.caps ∨
        dc'.sent = dc.sent ++ [env.message "CAP" [dc.nick,"ACK",arg]] ∧ ((∀ name, dc'.caps.isEnabled name =
              applied ((fieldsFunc lib.unicode.isSpace arg).map (asked lib)) dc.caps.isEnabled name) ↔
            Steady ((fieldsFunc lib.unicode.isSpace arg).map (asked lib)) dc.caps.isEnabled)) := by
  refine ⟨_,rfl,?_⟩
  have hframe b dc : (negotiating b dc).sent = dc.sent ∧ (negotiating b dc).caps = dc.caps := by
    unfold negotiating
    split <;> exact ⟨rfl,rfl⟩
  rw [(hframe _ _).1,(hframe _ _).2]
  cases hr : requestedCaps lib dc (fieldsFunc lib.unicode.isSpace arg) with
  | none => exact .inl ⟨rfl,rfl⟩
  | some changes =>
    refine .inr ⟨rfl,?_⟩
    rw [← applied_changes_iff,← requestedCaps_some hr]
    exact forall_congr' fun name => iff_of_eq (congrArg (· = _) (congrFun (isEnabled_foldl dc.caps changes) name))

/-- A connection with one capability, which is enabled. -/
def batched : Conn := { newDownstreamConn DeviceCerts.certServer with caps := ⟨[("batch","")],["batch"]⟩ }

/-- A capability that is disabled and enabled again in one request ends up disabled. -/
theorem enabled_again_is_lost :
    ∃ dc, handleCapREQ DeviceCerts.plainLib DeviceCerts.certServer ["-batch batch"] batched = .ok () dc ∧
      dc.sent = [DeviceCerts.certServer.message "CAP" ["*","ACK","-batch batch"]] ∧ dc.caps.isEnabled "batch" = false ∧
        applied (["-batch","batch"].map (asked DeviceCerts.plainLib)) batched.caps.isEnabled "batch" = true :=
  ⟨_,rfl,by decide,by decide,by decide⟩

end Sake.Proofs.CapReq
