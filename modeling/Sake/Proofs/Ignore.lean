import Sake.Ignore

namespace Sake.Proofs.Ignore
open Sake.Ignore Sake.Lib.Glob List

/-- The reading of a mask in which only `*` and `?` are special. -/
def tok (c : Char) : Tok Char :=
  if c = '*' then .star else if c = '?' then .any else .lit c

def glob (mask : List Char) : List (Tok Char) := mask.map tok

/-- No character class and no escape. -/
def Plain (mask : List Char) : Prop := '[' ∉ mask ∧ '\\' ∉ mask

instance (mask : List Char) : Decidable (Plain mask) := inferInstanceAs (Decidable (_ ∧ _))

/-- What `path.Match` lets its wildcards cover. -/
abbrev NotSlash (c : Char) : Prop := c ≠ '/'

variable {p : List Char}

theorem Plain.tail (h : Plain (c :: p)) : Plain p :=
  ⟨fun hm => h.1 (mem_cons_of_mem _ hm),fun hm => h.2 (mem_cons_of_mem _ hm)⟩

theorem Plain.head (h : Plain (c :: p)) : c ≠ '[' ∧ c ≠ '\\' :=
  ⟨fun he => h.1 (he ▸ mem_cons_self),fun he => h.2 (he ▸ mem_cons_self)⟩

theorem Plain.of_sublist (h : Plain q) (hs : p.Sublist q) : Plain p :=
  ⟨fun hm => h.1 (hs.subset hm),fun hm => h.2 (hs.subset hm)⟩

theorem scanText_plain (h : Plain p) : scanText false p = (p.takeWhile (· != '*'),p.dropWhile (· != '*')) := by
  induction p with
  | nil => rfl
  | cons c p ih =>
    have hb := h.head.2
    have hc := h.head.1
    by_cases hs : c = '*'
    · subst c
      simp [scanText]
    have hstep : scanText false (c :: p) = (c :: (scanText false p).1,(scanText false p).2) := by
      rw [scanText]
      · simp [hs,hc]
      · intro he _
        exact absurd he hb
      · intro _ _ he _
        exact absurd he hb
    rw [hstep,ih h.tail]
    simp [hs]

/-- Whether a character of a chunk covers one of the text. -/
def accepts (c x : Char) : Bool := if c = '?' then x != '/' else x == c

theorem matchLoop_cons (hc : c ≠ '[' ∧ c ≠ '\\') (n : Nat) (failed : Bool) (chunk s : List Char) :
    matchLoop (n + 1) failed (c :: chunk) s = matchLoop n (failed || !s.head?.any (accepts c)) chunk s.tail := by
  by_cases hq : c = '?'
  · subst c
    rw [matchLoop]
    cases s <;> simp [accepts,bne]
  · rw [matchLoop]
    · cases s <;> simp [accepts,hq,bne]
    · exact hc.1
    · exact hq
    · exact hc.2

theorem matchLoop_failed (h : Plain chunk) : ∀ (n : Nat) (s : List Char), matchLoop n true chunk s = some none := by
  induction chunk with
  | nil =>
    intro n s
    cases n <;> rfl
  | cons c chunk ih =>
    intro n s
    cases n with
    | zero => rfl
    | succ n =>
      rw [matchLoop_cons h.head]
      exact ih h.tail n s.tail

theorem matches_cons_iff (hs : c ≠ '*') : Matches NotSlash (glob (c :: chunk)) w ↔
      ∃ x v, w = x :: v ∧ accepts c x = true ∧ Matches NotSlash (glob chunk) v := by
  by_cases hq : c = '?'
  · subst c
    have htok : glob ('?' :: chunk) = .any :: glob chunk := rfl
    constructor
    · intro hm
      cases hm with
      | any hok hm => exact ⟨_,_,rfl,by simpa [accepts] using hok,hm⟩
    · rintro ⟨x,v,rfl,hx,hm⟩
      exact .any (by simpa [accepts] using hx) hm
  · have htok : glob (c :: chunk) = .lit c :: glob chunk := by simp [glob,tok,hs,hq]
    rw [htok]
    constructor
    · intro hm
      cases hm with
      | lit hm => exact ⟨_,_,rfl,by simp [accepts,hq],hm⟩
    · rintro ⟨x,v,rfl,hx,hm⟩
      obtain rfl : x = c := by simpa [accepts,hq] using hx
      exact .lit hm

theorem star_not_mem_glob (hs : '*' ∉ chunk) : Tok.star ∉ glob chunk := by
  intro hm
  obtain ⟨d,hd,he⟩ := mem_map.mp hm
  by_cases hds : d = '*'
  · exact hs (hds ▸ hd)
  · by_cases hdq : d = '?' <;> simp [tok,hds,hdq] at he

/-- A chunk without stars is read off the front of the text, if it fits there. -/
theorem matchLoop_spec (h : Plain chunk) (hs : '*' ∉ chunk) :
    ∀ (n : Nat) (s : List Char), chunk.length ≤ n → ∃ r, matchLoop n false chunk s = some r ∧
      ∀ t, r = some t ↔ ∃ w, s = w ++ t ∧ Matches NotSlash (glob chunk) w := by
  induction chunk with
  | nil =>
    intro n s _
    refine ⟨some s,by cases n <;> rfl,?_⟩
    intro t
    constructor
    · intro he
      exact ⟨[],Option.some.inj he,.nil⟩
    · rintro ⟨w,rfl,hw⟩
      cases hw
      rfl
  | cons c chunk ih =>
    intro n s hn
    have hcs : c ≠ '*' := fun he => hs (he ▸ mem_cons_self)
    have htail : '*' ∉ chunk := fun hm => hs (mem_cons_of_mem _ hm)
    obtain _ | n := n
    · simp at hn
    have hn' : chunk.length ≤ n := by simpa using hn
    rw [matchLoop_cons h.head]
    simp only [matches_cons_iff hcs]
    cases s with
    | nil =>
      refine ⟨none,matchLoop_failed h.tail n _,fun t => ⟨nofun,?_⟩⟩
      rintro ⟨w,he,x,v,rfl,-⟩
      cases he
    | cons x s =>
      cases hx : accepts c x with
      | false =>
        refine ⟨none,by simp [hx,matchLoop_failed h.tail],fun t => ⟨nofun,?_⟩⟩
        rintro ⟨w,he,y,v,rfl,hy,-⟩
        cases he
        rw [hx] at hy
        cases hy
      | true =>
        obtain ⟨r,hr,hspec⟩ := ih h.tail htail n s hn'
        refine ⟨r,by simpa [hx] using hr,fun t => (hspec t).trans ⟨?_,?_⟩⟩
        · rintro ⟨w,rfl,hw⟩
          exact ⟨x :: w,rfl,x,w,rfl,hx,hw⟩
        · rintro ⟨w,he,y,v,rfl,-,hv⟩
          cases he
          exact ⟨v,rfl,hv⟩

/-- A chunk stands at the front of the text, with `t` behind it. -/
def Fits (chunk name t : List Char) : Prop :=
  ∃ w, name = w ++ t ∧ Matches NotSlash (glob chunk) w

theorem matchChunk_spec (h : Plain chunk) (hs : '*' ∉ chunk) (name : List Char) :
    ∃ r, matchChunk chunk name = some r ∧ ∀ t, r = some t ↔ Fits chunk name t :=
  matchLoop_spec h hs _ name (Nat.le_refl _)

section
/-- What a scan leaves of a pattern starts with a star. -/
def AtStar (rest : List Char) : Prop := rest = [] ∨ ∃ q, rest = '*' :: q

/-- The first place a chunk fits decides the match, unless text is left over and the
pattern ends there. -/
theorem matches_of_fits (hs : '*' ∉ chunk) (hrest : AtStar rest) (hf : Fits chunk name t) (hc : t = [] ∨ rest ≠ []) :
    Matches NotSlash (.star :: glob chunk ++ glob rest) name ↔ Matches NotSlash (glob rest) t := by
  obtain ⟨w,rfl,hw⟩ := hf
  constructor
  · intro hm
    rcases hrest with rfl | ⟨q,rfl⟩
    · rcases hc with rfl | hne
      · exact .nil
      · exact absurd rfl hne
    · exact leftmost_fit (star_not_mem_glob hs) hw hm
  · intro hm
    exact .star (w := []) (by simp) (matches_append_iff.mpr ⟨w,t,rfl,hw,hm⟩)

/-- A chunk that is no use where it stands is looked for one character further. -/
theorem matches_of_not_fits (hno : ∀ t, Fits chunk name t → t ≠ [] ∧ rest = []) :
    Matches NotSlash (.star :: glob chunk ++ glob rest) name ↔ ∃ c name', name = c :: name' ∧ NotSlash c ∧
        Matches NotSlash (.star :: glob chunk ++ glob rest) name' := by
  constructor
  · intro hm
    obtain ⟨u,r,rfl,hu,hr⟩ := matches_star_iff.mp hm
    cases u with
    | nil =>
      obtain ⟨w,x,rfl,hw,hx⟩ := matches_append_iff.mp hr
      obtain ⟨hne,rfl⟩ := hno x ⟨w,rfl,hw⟩
      exact absurd (matches_nil_iff.mp hx) hne
    | cons c u => exact ⟨c,u ++ r,rfl,hu c mem_cons_self,.star (fun d hd => hu d (mem_cons_of_mem _ hd)) hr⟩
  · rintro ⟨c,name',rfl,hc,hm⟩
    exact Matches.extend (w := [c]) hm (by simpa using hc)

/-- `skip` finds the chunk behind at least one more character, or there is no match
left to find. -/
theorem skip_spec (h : Plain chunk) (hs : '*' ∉ chunk) (hrest : AtStar rest) (name : List Char) :
    ∃ r, skip chunk rest.isEmpty name = some r ∧ ((∃ t, r = some t ∧ Matches NotSlash (glob rest) t) ↔
        ∃ c name', name = c :: name' ∧ NotSlash c ∧ Matches NotSlash (.star :: glob chunk ++ glob rest) name') := by
  induction name with
  | nil => exact ⟨none,rfl,by simp⟩
  | cons c name ih =>
    by_cases hc : c = '/'
    · refine ⟨none,by simp [skip,hc],?_⟩
      constructor
      · rintro ⟨t,he,-⟩
        cases he
      · rintro ⟨d,name',he,hd,-⟩
        exact absurd ((List.cons.inj he).1.symm.trans hc) hd
    · have hhere : (∃ d name', c :: name = d :: name' ∧ NotSlash d ∧
            Matches NotSlash (.star :: glob chunk ++ glob rest) name') ↔
          Matches NotSlash (.star :: glob chunk ++ glob rest) name := by
        constructor
        · rintro ⟨d,name',he,-,hm⟩
          exact (List.cons.inj he).2 ▸ hm
        · intro hm
          exact ⟨c,name,rfl,hc,hm⟩
      rw [hhere]
      obtain ⟨r,hr,hspec⟩ := matchChunk_spec h hs name
      cases r with
      | none =>
        have hno : ∀ t, Fits chunk name t → t ≠ [] ∧ rest = [] := fun t ht => absurd ((hspec t).mpr ht) nofun
        rw [matches_of_not_fits hno]
        obtain ⟨r,hskip,hiff⟩ := ih
        exact ⟨r,by simp [skip,hc,hr,hskip],hiff⟩
      | some t =>
        have hf := (hspec t).mp rfl
        by_cases hok : t = [] ∨ rest ≠ []
        · refine ⟨some t,?_,?_⟩
          · rcases hok with rfl | hne
            · simp [skip,hc,hr]
            · simp [skip,hc,hr,hne]
          · rw [matches_of_fits hs hrest hf hok]
            simp
        · have hleft : t ≠ [] ∧ rest = [] := by
            constructor
            · intro he
              exact hok (.inl he)
            · by_contra hne
              exact hok (.inr hne)
          have hno : ∀ t, Fits chunk name t → t ≠ [] ∧ rest = [] := by
            intro t' ht'
            cases (hspec t').mpr ht'
            exact hleft
          rw [matches_of_not_fits hno]
          obtain ⟨r,hskip,hiff⟩ := ih
          have hempty : rest.isEmpty = true := by simp [hleft.2]
          rw [hempty] at hskip ⊢
          exact ⟨r,by simp [skip,hc,hr,hskip,hleft.1],hiff⟩

end

theorem checkRest_ne_true : ∀ (n : Nat) (p : List Char), checkRest n p ≠ some true := by
  intro n
  induction n with
  | zero => intro p; simp [checkRest]
  | succ n ih =>
    intro p
    cases p with
    | nil => simp [checkRest]
    | cons c p =>
      simp only [checkRest]
      split
      · simp
      · exact ih _

section
variable {p : List Char}

theorem dropWhile_atStar : AtStar (p.dropWhile (· != '*')) := by
  induction p with
  | nil => exact .inl rfl
  | cons c p ih =>
    by_cases hc : c = '*'
    · exact .inr ⟨p,by simp [hc]⟩
    · simpa [hc] using ih

theorem star_not_mem_takeWhile : '*' ∉ p.takeWhile (· != '*') := by
  intro hm
  have := all_eq_true.mp all_takeWhile _ hm
  simp at this

theorem glob_scan (ok : Char → Prop) : Matches ok (glob p) s ↔
      Matches ok ((if p.head? = some '*' then [.star] else []) ++ glob (p.dropWhile (· == '*'))) s := by
  induction p generalizing s with
  | nil => exact Iff.rfl
  | cons c p ih =>
    by_cases hc : c = '*'
    · subst c
      have hcons : glob ('*' :: p) = .star :: glob p := rfl
      have hrun : Matches ok (.star :: glob p) s ↔ Matches ok (.star :: glob (p.dropWhile (· == '*'))) s := by
        rw [matches_star_iff]
        simp only [ih]
        rw [← matches_star_iff]
        split
        · exact matches_star_star
        · exact Iff.rfl
      simpa [hcons] using hrun
    · simp [hc]

theorem scan_parts (hp : Plain p) : ∃ chunk rest,
    scanChunk p = (p.head? == some '*',chunk,rest) ∧ Plain chunk ∧ Plain rest ∧ '*' ∉ chunk ∧
      AtStar rest ∧ p.dropWhile (· == '*') = chunk ++ rest := by
  have hbody : Plain (p.dropWhile (· == '*')) := hp.of_sublist (dropWhile_sublist _)
  refine ⟨(p.dropWhile (· == '*')).takeWhile (· != '*'),
    (p.dropWhile (· == '*')).dropWhile (· != '*'),?_,?_,?_,star_not_mem_takeWhile,
    dropWhile_atStar,takeWhile_append_dropWhile.symm⟩
  · simp [scanChunk,scanText_plain hbody]
  · exact hbody.of_sublist (takeWhile_sublist _)
  · exact hbody.of_sublist (dropWhile_sublist _)

theorem rest_shorter (hs : '*' ∉ chunk) (hrest : AtStar rest)
    (he : (c :: p).dropWhile (· == '*') = chunk ++ rest) : rest.length ≤ p.length := by
  by_cases hc : c = '*'
  · rw [hc,dropWhile_cons_of_pos (by simp)] at he
    have hle : (p.dropWhile (· == '*')).length ≤ p.length := (dropWhile_sublist _).length_le
    rw [he,length_append] at hle
    omega
  · rw [dropWhile_cons_of_neg (by simpa using hc)] at he
    cases chunk with
    | nil =>
      rcases hrest with rfl | ⟨q,rfl⟩
      · simp
      · exact absurd (List.cons.inj he).1 hc
    | cons d chunk =>
      have := congrArg List.length he
      simp only [length_cons,length_append] at this
      omega

theorem body_no_star (q : List Char) : p.dropWhile (· == '*') ≠ '*' :: q := by
  induction p with
  | nil => simp
  | cons c p ih =>
    by_cases hc : c = '*'
    · simpa [hc] using ih
    · simp [hc]

theorem matchPattern_star (hp : Plain chunk) (hs : '*' ∉ chunk) (hrest : AtStar rest) (hne : chunk ≠ [])
    (hscan : scanChunk (c :: p) = (true,chunk,rest))
    (ih : ∀ t, matchPattern fuel rest t = some true ↔ Matches NotSlash (glob rest) t) (name : List Char) :
    matchPattern (fuel + 1) (c :: p) name = some true ↔ Matches NotSlash (.star :: glob chunk ++ glob rest) name := by
  obtain ⟨r,hr,hspec⟩ := matchChunk_spec hp hs name
  obtain ⟨r',hskip,hiff⟩ := skip_spec hp hs hrest name
  have hretry : r'.elim (checkRest fuel rest) (matchPattern fuel rest) = some true ↔
      ∃ t, r' = some t ∧ Matches NotSlash (glob rest) t := by
    cases r' with
    | none => simpa using checkRest_ne_true fuel rest
    | some t => simpa using ih t
  have hempty : chunk.isEmpty = false := by simpa using hne
  have hrun : matchPattern (fuel + 1) (c :: p) name =
      r.elim (r'.elim (checkRest fuel rest) (matchPattern fuel rest)) fun t =>
        if t.isEmpty || !rest.isEmpty then matchPattern fuel rest t
        else r'.elim (checkRest fuel rest) (matchPattern fuel rest) := by
    rw [matchPattern]
    simp only [hscan,hempty,Bool.and_false,Bool.false_eq_true,if_false,hr,hskip]
    cases r <;> cases r' <;> rfl
  rw [hrun]
  cases r with
  | none =>
    refine hretry.trans (hiff.trans (matches_of_not_fits ?_).symm)
    intro t ht
    exact absurd ((hspec t).mpr ht) nofun
  | some t =>
    rw [Option.elim_some]
    by_cases hok : t = [] ∨ rest ≠ []
    · rw [if_pos (by simpa using hok),ih t,matches_of_fits hs hrest ((hspec t).mp rfl) hok]
    rw [if_neg (by simpa using hok)]
    refine hretry.trans (hiff.trans (matches_of_not_fits ?_).symm)
    intro t' ht'
    cases (hspec t').mpr ht'
    simpa using hok

theorem matchPattern_front (hp : Plain chunk) (hs : '*' ∉ chunk) (hscan : scanChunk (c :: p) = (false,chunk,rest))
    (ih : ∀ t, matchPattern fuel rest t = some true ↔ Matches NotSlash (glob rest) t) (name : List Char) :
    matchPattern (fuel + 1) (c :: p) name = some true ↔ Matches NotSlash (glob chunk ++ glob rest) name := by
  obtain ⟨r,hr,hspec⟩ := matchChunk_spec hp hs name
  have hfits : Matches NotSlash (glob chunk ++ glob rest) name ↔ ∃ t, r = some t ∧ Matches NotSlash (glob rest) t := by
    rw [matches_append_iff]
    constructor
    · rintro ⟨w,t,he,hw,ht⟩
      exact ⟨t,(hspec t).mpr ⟨w,he,hw⟩,ht⟩
    · rintro ⟨t,he,ht⟩
      obtain ⟨w,hname,hw⟩ := (hspec t).mp he
      exact ⟨w,t,hname,hw,ht⟩
  rw [hfits,matchPattern]
  simp only [hscan,Bool.false_and,Bool.false_eq_true,if_false,hr]
  cases r with
  | none => simpa using checkRest_ne_true fuel rest
  | some t =>
    dsimp only
    by_cases hok : t = [] ∨ rest ≠ []
    · rw [if_pos (by simpa using hok),ih t]
      simp
    · obtain ⟨ht,rfl⟩ : t ≠ [] ∧ rest = [] := by simpa using hok
      simpa [glob,matches_nil_iff,ht] using checkRest_ne_true fuel []

/-- `path.Match` on a plain mask: `*` and `?` cover anything but slashes. -/
theorem matchPattern_spec (fuel : Nat) : ∀ {p : List Char} (name : List Char), Plain p →
    p.length ≤ fuel → (matchPattern fuel p name = some true ↔ Matches NotSlash (glob p) name) := by
  induction fuel with
  | zero =>
    intro p name _ hlen
    obtain rfl := length_eq_zero_iff.mp (Nat.le_zero.mp hlen)
    simp [matchPattern,glob,matches_nil_iff]
  | succ fuel ih =>
    intro p name hp hlen
    obtain _ | ⟨c,p⟩ := p
    · simp [matchPattern,glob,matches_nil_iff]
    obtain ⟨chunk,rest,hscan,hpc,hpr,hs,hrest,hbody⟩ := scan_parts hp
    have hrl : rest.length ≤ fuel := by
      have := rest_shorter hs hrest hbody
      simp only [length_cons] at hlen
      omega
    have hglob : glob (chunk ++ rest) = glob chunk ++ glob rest := map_append
    have ih := fun t => ih t hpr hrl
    rw [glob_scan,hbody,hglob]
    by_cases hstar : (c :: p).head? = some '*'
    · rw [if_pos hstar]
      have hscan' : scanChunk (c :: p) = (true,chunk,rest) := by simpa [hstar] using hscan
      by_cases hne : chunk = []
      · -- a trailing star: the rest of the text holds no slash
        subst chunk
        rcases hrest with rfl | ⟨q,rfl⟩
        · rw [matchPattern]
          simp only [hscan',isEmpty_nil,Bool.and_self,if_true]
          simp only [glob,map_nil,append_nil,matches_star_iff,matches_nil_iff]
          simp only [Option.some.injEq,Bool.not_eq_true',contains_eq_mem,decide_eq_false_iff_not]
          constructor
          · intro hno
            exact ⟨name,[],(append_nil name).symm,fun d hd he => hno (he ▸ hd),rfl⟩
          · rintro ⟨w,t,rfl,hw,rfl⟩ hm
            rw [append_nil] at hm
            exact hw _ hm rfl
        · exact absurd hbody (body_no_star q)
      · exact matchPattern_star hpc hs hrest hne hscan' ih name
    · rw [if_neg hstar]
      rw [beq_false_of_ne hstar] at hscan
      exact matchPattern_front hpc hs hscan ih name

end

/-- Glob matching as the ignore list documents it: only `*` and `?` are special, and
they cover any character. -/
def GlobMatches (mask hostmask : List Char) : Prop :=
  Matches (fun _ => True) (glob mask) hostmask

theorem literals_glob (mask : List Char) : literals '/' (glob mask) = mask.count '/' := by
  induction mask with
  | nil => rfl
  | cons c mask ih =>
    have hcons : glob (c :: mask) = tok c :: glob mask := rfl
    have htok : (tok c == .lit '/') = (c == '/') := by
      by_cases hs : c = '*'
      · subst c; rfl
      · by_cases hq : c = '?'
        · subst c; rfl
        · simp [tok,hs,hq]
    rw [hcons,literals,count_cons,count_cons,htok]
    exact congrArg (· + _) ih

/-- The wildcards of `path.Match` stop at slashes, so it agrees with the glob exactly
where no wildcard has to cover one. -/
theorem pathMatch_agrees (hp : Plain mask) (hostmask : List Char) :
    (pathMatch mask hostmask = some true ↔ GlobMatches mask hostmask) ↔
      (GlobMatches mask hostmask → hostmask.count '/' = mask.count '/') := by
  rw [pathMatch,matchPattern_spec _ hostmask hp (Nat.le_refl _),← literals_glob mask]
  constructor
  · intro hagree hm
    exact (hagree.mpr hm).count_eq
  intro hslash
  constructor
  · intro hm
    exact hm.mono fun _ _ => trivial
  · intro hm
    exact hm.restrict (hslash hm)

section
variable (lower : Char → Char)

/-- The pattern an `ignore add` of this mask ends up matching with. -/
def entry (mask : String) : List Char := toLower lower (expandMask mask)

def hostmask (p : Prefix) : List Char :=
  toLower lower (p.name ++ "!" ++ p.user ++ "@" ++ p.host)

theorem isIgnored_entry (mask : String) {p : Prefix} (hu : p.user ≠ "") (hh : p.host ≠ "") :
    isIgnored lower [expandMask mask] (some p) = true ↔
      pathMatch (entry lower mask) (hostmask lower p) = some true := by
  have hstring : p.string = p.name ++ "!" ++ p.user ++ "@" ++ p.host := by
    simp [Prefix.string,hu,hh,String.append_assoc]
  simp [isIgnored,ignoreMatches,entry,hostmask,hstring]

end

end Sake.Proofs.Ignore
