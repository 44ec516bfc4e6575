import Sake.Irc
import Sake.Lib.Glob

namespace Sake.Ignore

/-- A character of a class, possibly escaped. `none` is `path.ErrBadPattern`, here
and below. -/
def getEsc : List Char → Option (Char × List Char)
  | [] => none
  | '-' :: _ => none
  | ']' :: _ => none
  | '\\' :: [] => none
  | '\\' :: c :: rest => if rest.isEmpty then none else some (c,rest)
  | c :: rest => if rest.isEmpty then none else some (c,rest)

/-- The ranges of a character class up to its closing bracket. Every turn takes at
least one character off `chunk`, so its length bounds the turns. -/
def classRanges (r : Char) : Nat → Bool → Nat → List Char → Option (Bool × List Char)
  | 0, _, _, _ => none
  | fuel + 1, found, nrange, chunk =>
    if chunk.head? = some ']' ∧ 0 < nrange then some (found,chunk.tail)
    else do
      let (lo,chunk) ← getEsc chunk
      let (hi,chunk) ← if chunk.head? = some '-' then getEsc chunk.tail else some (lo,chunk)
      classRanges r fuel (found || (lo ≤ r && r ≤ hi)) (nrange + 1) chunk

/-- Matches a chunk at the start of `s`. Once it failed, the rest of the chunk is
still read for its syntax. -/
def matchLoop : Nat → Bool → List Char → List Char → Option (Option (List Char))
  | 0, failed, _, s => some (if failed then none else some s)
  | _, failed, [], s => some (if failed then none else some s)
  | fuel + 1, failed, c :: chunk, s =>
    let failed := failed || s.isEmpty
    let literal (d : Char) (chunk : List Char) :=
      matchLoop fuel (failed || s.head? != some d) chunk s.tail
    match c with
    | '[' =>
      let negated := chunk.head? == some '^'
      let chunk := if negated then chunk.tail else chunk
      let r := if failed then '\x00' else s.headD '\x00'
      match classRanges r (chunk.length + 1) false 0 chunk with
      | none => none
      | some (found,chunk) => matchLoop fuel (failed || found == negated) chunk s.tail
    | '?' => matchLoop fuel (failed || s.head? == some '/') chunk s.tail
    | '\\' =>
      match chunk with
      | [] => none
      | d :: chunk => literal d chunk
    | d => literal d chunk

def matchChunk (chunk s : List Char) : Option (Option (List Char)) :=
  matchLoop chunk.length false chunk s

/-- Cuts a pattern at its first star outside of a character class. -/
def scanText : Bool → List Char → List Char × List Char
  | _, [] => ([],[])
  | _, ['\\'] => (['\\'],[])
  | inrange, '\\' :: c :: rest =>
    let (chunk,rest) := scanText inrange rest
    ('\\' :: c :: chunk,rest)
  | inrange, c :: rest =>
    if c = '*' ∧ inrange = false then ([],c :: rest)
    else
      let inrange := if c = '[' then true else if c = ']' then false else inrange
      let (chunk,rest) := scanText inrange rest
      (c :: chunk,rest)

def scanChunk (pattern : List Char) : Bool × List Char × List Char :=
  let body := pattern.dropWhile (· == '*')
  let (chunk,rest) := scanText false body
  (pattern.head? == some '*',chunk,rest)

/-- Looks for the chunk further on, never past a slash. -/
def skip (chunk : List Char) (last : Bool) : List Char → Option (Option (List Char))
  | [] => some none
  | c :: name =>
    if c = '/' then some none
    else match matchChunk chunk name with
      | none => none
      | some none => skip chunk last name
      | some (some t) => if last && !t.isEmpty then skip chunk last name else some (some t)

/-- The syntax check of what is left of a pattern that does not match. -/
def checkRest : Nat → List Char → Option Bool
  | 0, _ => some false
  | _, [] => some false
  | fuel + 1, pattern =>
    let (_,chunk,rest) := scanChunk pattern
    match matchChunk chunk [] with
    | none => none
    | some _ => checkRest fuel rest

def matchPattern : Nat → List Char → List Char → Option Bool
  | _, [], name => some name.isEmpty
  | 0, _ :: _, _ => none
  | fuel + 1, pattern@(_ :: _), name =>
    let (star,chunk,rest) := scanChunk pattern
    if star && chunk.isEmpty then some (!name.contains '/')
    else
      let retry :=
        if star then
          match skip chunk rest.isEmpty name with
          | none => none
          | some (some t) => matchPattern fuel rest t
          | some none => checkRest fuel rest
        else checkRest fuel rest
      match matchChunk chunk name with
      | none => none
      | some (some t) =>
        if t.isEmpty || !rest.isEmpty then matchPattern fuel rest t else retry
      | some none => retry

/-- `path.Match`. Every turn takes at least one character off the pattern. -/
def pathMatch (pattern name : List Char) : Option Bool :=
  matchPattern pattern.length pattern name

/-- The mask `ignore add` stores: a bare nick stands for all its hosts. -/
def expandMask (mask : String) : String :=
  if mask.toList.any (fun c => c == '!' || c == '@') then mask else mask ++ "!*@*"

section
-- `unicode.ToLower`, which `strings.ToLower` applies to each character
variable (lower : Char → Char)

def toLower (s : String) : List Char := s.toList.map lower

def ignoreMatches (mask : String) (p : Prefix) : Bool :=
  pathMatch (toLower lower mask) (toLower lower p.string) == some true

def isIgnored (ignores : List String) : Option Prefix → Bool
  | none => false
  | some p => ignores.any fun mask => ignoreMatches lower mask p

end

end Sake.Ignore
