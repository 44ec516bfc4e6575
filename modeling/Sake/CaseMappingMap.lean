import Mathlib.Data.List.AList
import Sake.CaseMapping

namespace Sake.Xirc

/-- `caseMappingEntry`. -/
structure Entry (V : Type) where
  originalKey : String
  value : V

/-- `CaseMappingMap`, with the keys that its entries are stored under. -/
structure CaseMappingMap (V : Type) where
  m : AList fun _ : String => Entry V
  casemap : CaseMapping

/-- An order for the entries of a map: Go visits them in any. -/
def Order (V : Type) := (es : List (Entry V)) → { visited : List (Entry V) // visited.Perm es }

inductive Op (V : Type) where
  | set (name : String) (value : V)
  | del (name : String)
  | setCaseMapping (newCasemap : CaseMapping) (order : Order V)

namespace CaseMappingMap
variable {V : Type} (cmm : CaseMappingMap V) (name : String)

def new (cm : CaseMapping) : CaseMappingMap V := ⟨∅,cm⟩

def has : Bool := (cmm.m.lookup (cmm.casemap.apply name)).isSome

def len : Nat := cmm.m.entries.length

/-- `none` stands for the zero value of an absent entry. -/
def get : Option V := (cmm.m.lookup (cmm.casemap.apply name)).map Entry.value

def set (value : V) : CaseMappingMap V :=
  let nameCM := cmm.casemap.apply name
  match cmm.m.lookup nameCM with
  | none => { cmm with m := cmm.m.insert nameCM ⟨name,value⟩ }
  | some entry => { cmm with m := cmm.m.insert nameCM { entry with value } }

def del : CaseMappingMap V := { cmm with m := cmm.m.erase (cmm.casemap.apply name) }

/-- The entries that `ForEach` visits. -/
def entries : List (Entry V) := cmm.m.entries.map Sigma.snd

def setCaseMapping (newCasemap : CaseMapping) (order : Order V) : CaseMappingMap V where
  m := (order cmm.entries).1.foldl (fun m entry => m.insert (newCasemap.apply entry.originalKey) entry) ∅
  casemap := newCasemap

def step : Op V → CaseMappingMap V
  | .set name value => cmm.set name value
  | .del name => cmm.del name
  | .setCaseMapping newCasemap order => cmm.setCaseMapping newCasemap order

end CaseMappingMap

end Sake.Xirc
