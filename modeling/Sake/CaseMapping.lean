import Mathlib.Data.List.Basic

namespace Sake
open List

/-- The case mappings a server can announce. -/
inductive CaseMapping where
  | ascii
  | rfc1459
  | rfc1459Strict
deriving Repr, DecidableEq

namespace CaseMapping

def mapChar (cm : CaseMapping) (r : Char) : Char :=
  if 'A' ≤ r ∧ r ≤ 'Z' then Char.ofNat (r.toNat + 'a'.toNat - 'A'.toNat)
  else match cm with
    | ascii => r
    | rfc1459 =>
      if r = '{' then '[' else if r = '}' then ']' else if r = '\\' then '|'
      else if r = '~' then '^' else r
    | rfc1459Strict =>
      if r = '{' then '[' else if r = '}' then ']' else if r = '\\' then '|' else r

/-- The canonical form of a name. The source maps bytes; only ASCII ones change. -/
def apply (cm : CaseMapping) (name : String) : String :=
  String.ofList (name.toList.map cm.mapChar)

theorem mapChar_upper (cm : CaseMapping) {n : Nat} (hl : 65 ≤ n) (hu : n ≤ 90) :
    cm.mapChar (cm.mapChar (Char.ofNat n)) = cm.mapChar (Char.ofNat n) := by
  have hall : ∀ k < 26, cm.mapChar (cm.mapChar (Char.ofNat (k + 65))) =
      cm.mapChar (Char.ofNat (k + 65)) := by
    cases cm <;> decide
  have hn := hall (n - 65) (by omega)
  rwa [Nat.sub_add_cancel hl] at hn

/-- The characters besides the letters that some mapping changes. -/
def special : List Char := ['{','}','\\','~']

theorem mapChar_special (cm : CaseMapping) {r : Char} (h : r ∈ special) : cm.mapChar (cm.mapChar r) = cm.mapChar r := by
  simp only [special,mem_cons,not_mem_nil,or_false] at h
  rcases h with rfl | rfl | rfl | rfl <;> cases cm <;> rfl

theorem mapChar_fixed (cm : CaseMapping) {r : Char} (h : ¬ ('A' ≤ r ∧ r ≤ 'Z'))
    (hs : r ∉ special) : cm.mapChar r = r := by
  simp only [special,mem_cons,not_mem_nil,or_false,not_or] at hs
  obtain ⟨h1,h2,h3,h4⟩ := hs
  cases cm <;> simp only [mapChar,if_neg h,if_neg h1,if_neg h2,if_neg h3,if_neg h4]

theorem mapChar_mapChar (cm : CaseMapping) (r : Char) : cm.mapChar (cm.mapChar r) = cm.mapChar r := by
  by_cases h : 'A' ≤ r ∧ r ≤ 'Z'
  · have hr : Char.ofNat r.toNat = r := Char.ofNat_toNat r
    have hu := mapChar_upper cm (n := r.toNat) h.1 h.2
    rwa [hr] at hu
  · by_cases hs : r ∈ special
    · exact mapChar_special cm hs
    · rw [mapChar_fixed cm h hs,mapChar_fixed cm h hs]

@[simp]
theorem apply_apply (cm : CaseMapping) (name : String) : cm.apply (cm.apply name) = cm.apply name := by
  simp only [apply,String.toList_ofList,map_map]
  congr 1
  apply map_congr_left
  intro r _
  exact mapChar_mapChar cm r

end CaseMapping

/-- A map whose keys are compared in their canonical form. It remembers the spelling
each key was first set with. The source keeps the mapping in the map and changes it in
every map of a network at once, so here the caller passes it. -/
structure CaseMappingMap (V : Type) where
  entries : List (String × V)
deriving Repr, DecidableEq

namespace CaseMappingMap
variable {V : Type} (cm : CaseMapping)

def empty : CaseMappingMap V := ⟨[]⟩

def get (m : CaseMappingMap V) (name : String) : Option V :=
  (m.entries.find? fun e => cm.apply e.1 == cm.apply name).map Prod.snd

def has (m : CaseMappingMap V) (name : String) : Bool := (m.get cm name).isSome

def len (m : CaseMappingMap V) : Nat := m.entries.length

def set (m : CaseMappingMap V) (name : String) (value : V) : CaseMappingMap V :=
  if m.has cm name then
    ⟨m.entries.map fun e => if cm.apply e.1 == cm.apply name then (e.1,value) else e⟩
  else ⟨m.entries ++ [(name,value)]⟩

def del (m : CaseMappingMap V) (name : String) : CaseMappingMap V :=
  ⟨m.entries.filter fun e => cm.apply e.1 != cm.apply name⟩

/-- The names `ForEach` passes on, as they were first set. -/
def names (m : CaseMappingMap V) : List String := m.entries.map Prod.fst

/-- `SetCaseMapping`: of the keys that fall together, the one visited last stays. Go does
not say in which order it visits them; here it is the order they were set in. -/
def setCaseMapping (m : CaseMappingMap V) : CaseMappingMap V :=
  ⟨m.entries.foldl (fun es e => es.filter (fun f => cm.apply f.1 != cm.apply e.1) ++ [e]) []⟩

variable {cm} {name other : String} {m : CaseMappingMap V}

theorem get_congr {a b : String} (h : cm.apply a = cm.apply b) : m.get cm a = m.get cm b := by
  simp only [get,h]

theorem key_of_find {es : List (String × V)} {e : String × V}
    (h : es.find? (fun e => cm.apply e.1 == cm.apply name) = some e) : cm.apply e.1 = cm.apply name := by
  simpa using List.find?_some h

/-- A key that is present is among the names, maybe in another spelling. -/
theorem exists_name_of_get {v : V} (h : m.get cm name = some v) : ∃ n ∈ m.names, cm.apply n = cm.apply name := by
  obtain ⟨e,he,_⟩ := Option.map_eq_some_iff.mp h
  exact ⟨e.1,mem_map_of_mem (mem_of_find?_eq_some he),key_of_find he⟩

theorem find_overwritten (es : List (String × V)) (name other : String) (v : V) :
    (es.map fun e => if cm.apply e.1 == cm.apply name then (e.1,v) else e).find?
        (fun e => cm.apply e.1 == cm.apply other) =
      (es.find? fun e => cm.apply e.1 == cm.apply other).map
        fun e => if cm.apply e.1 == cm.apply name then (e.1,v) else e := by
  induction es with
  | nil => rfl
  | cons e es ih =>
    have hk : cm.apply (if cm.apply e.1 == cm.apply name then (e.1,v) else e).1 =
        cm.apply e.1 := by split <;> rfl
    simp only [map_cons,List.find?_cons,hk]
    cases cm.apply e.1 == cm.apply other with
    | true => rfl
    | false => exact ih

theorem get_set_self (m : CaseMappingMap V) (v : V)
    (h : cm.apply name = cm.apply other) : (m.set cm name v).get cm other = some v := by
  unfold set
  split
  · rename_i hh
    unfold has at hh
    rw [get_congr h] at hh
    obtain ⟨w,hw⟩ := Option.isSome_iff_exists.mp hh
    obtain ⟨e,he,-⟩ := Option.map_eq_some_iff.mp hw
    have hk := key_of_find he
    simp only [get,find_overwritten,he,Option.map_some,hk,h,BEq.rfl,if_true]
  · rename_i hh
    have hn : m.entries.find? (fun e => cm.apply e.1 == cm.apply other) = none := by
      simpa [has,get,h] using hh
    simp only [get,List.find?_append,hn,Option.none_or,List.find?_cons,h,BEq.rfl,
      Option.map_some]

theorem get_set_of_ne (m : CaseMappingMap V) (v : V)
    (h : cm.apply name ≠ cm.apply other) : (m.set cm name v).get cm other = m.get cm other := by
  unfold set
  split
  · simp only [get,find_overwritten,Option.map_map]
    cases he : m.entries.find? (fun e => cm.apply e.1 == cm.apply other) with
    | none => rfl
    | some e =>
      have hk := key_of_find he
      have hn : cm.apply e.1 ≠ cm.apply name := fun hc => h (hc.symm.trans hk)
      simp [hn]
  · simp [get,List.find?_append,h]

end CaseMappingMap

/-- A map together with the case mapping it was last given, which need not be that of
its network. -/
structure CasedMap (V : Type) where
  casemap : CaseMapping
  map : CaseMappingMap V
deriving Repr, DecidableEq

namespace CasedMap
variable {V : Type}

def new (cm : CaseMapping) : CasedMap V := ⟨cm,.empty⟩

def get (m : CasedMap V) (name : String) : Option V := m.map.get m.casemap name

def has (m : CasedMap V) (name : String) : Bool := m.map.has m.casemap name

def set (m : CasedMap V) (name : String) (value : V) : CasedMap V :=
  { m with map := m.map.set m.casemap name value }

def del (m : CasedMap V) (name : String) : CasedMap V := { m with map := m.map.del m.casemap name }

def names (m : CasedMap V) : List String := m.map.names

def setCaseMapping (m : CasedMap V) (cm : CaseMapping) : CasedMap V :=
  ⟨cm,m.map.setCaseMapping cm⟩

def mapValues {W : Type} (m : CasedMap V) (f : V → W) : CasedMap W :=
  ⟨m.casemap,⟨m.map.entries.map fun e => (e.1,f e.2)⟩⟩

end CasedMap

end Sake
