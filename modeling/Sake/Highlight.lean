import Sake.Irc

namespace Sake

/-- The tables of Go's `unicode` package the program reads. -/
structure Unicode where
  toLower : Char → Char
  toUpper : Char → Char
  isLetter : Char → Bool
  isNumber : Char → Bool
  isSpace : Char → Bool

/-- The tables cut down to ASCII, to run the model with. -/
def Unicode.ascii : Unicode where
  toLower := Char.toLower
  toUpper := Char.toUpper
  isLetter := Char.isAlpha
  isNumber := Char.isDigit
  isSpace := Char.isWhitespace

/-- What the tables say about ASCII, as far as the formats of logs and messages depend on it. -/
structure Unicode.Standard (u : Unicode) : Prop where
  toUpper_ascii : ∀ c : Char, c.toNat < 128 → u.toUpper c = c.toUpper
  isSpace_visible : ∀ c : Char, 33 ≤ c.toNat → c.toNat < 127 → u.isSpace c = false
  isSpace_blank : u.isSpace ' ' = true

def Unicode.LowersAscii (u : Unicode) : Prop := ∀ c : Char, c.toNat < 128 → u.toLower c = c.toLower

theorem Unicode.standard_ascii : Unicode.ascii.Standard where
  toUpper_ascii _ _ := rfl
  isSpace_visible c h0 _ := by
    simp only [Unicode.ascii,Char.isWhitespace,Bool.or_eq_false_iff,decide_eq_false_iff_not]
    refine ⟨⟨⟨?_,?_⟩,?_⟩,?_⟩ <;> rintro rfl <;> exact absurd h0 (by decide)
  isSpace_blank := rfl

namespace Highlight

/-- Cuts a text at the first place where `pat` stands: `strings.Index` and the two
slices around it. -/
def cut (pat : List Char) : List Char → Option (List Char × List Char)
  | [] => if pat.isEmpty then some ([],[]) else none
  | c :: text =>
    if pat.isPrefixOf (c :: text) then some ([],(c :: text).drop pat.length)
    else (cut pat text).map fun (left,right) => (c :: left,right)

/-- Decoding a rune of an empty text gives the replacement character. -/
def runeError : Char := '�'

section
variable (u : Unicode)

def isWordBoundary (r : Char) : Bool :=
  if r = '-' ∨ r = '_' ∨ r = '|' then false
  else !u.isLetter r && !u.isNumber r

/-- The part of a text from its last space on, or all of it. -/
def lastField (text : List Char) : List Char :=
  match text.reverse.span (fun c => !u.isSpace c) with
  | (word,[]) => word.reverse
  | (word,space :: _) => space :: word.reverse

def isURIPrefix (text : List Char) : Bool :=
  match cut "://".toList (lastField u text) with
  | none => false
  | some (scheme,_) =>
    let r := scheme.getLastD runeError
    r == '+' || r == '-' || r == '.' ||
      ('0' ≤ r && r ≤ '9') || ('a' ≤ r && r ≤ 'z') || ('A' ≤ r && r ≤ 'Z')

/-- Every turn takes the nick, which is not empty, off the text. -/
def highlightLoop (nick : List Char) : Nat → List Char → Bool
  | 0, _ => false
  | fuel + 1, text =>
    match cut nick text with
    | none => false
    | some (left,right) =>
      (isWordBoundary u (left.getLastD runeError) && isWordBoundary u (right.headD runeError) &&
        !isURIPrefix u left) || highlightLoop nick fuel right

/-- A nick the search can be run with: the source panics on the empty one. -/
abbrev Nick := { nick : String // nick ≠ "" }

def isHighlight (text : String) (nick : Nick) : Bool :=
  highlightLoop u nick.1.toList (text.length + 1) text.toList

end

end Highlight

end Sake
