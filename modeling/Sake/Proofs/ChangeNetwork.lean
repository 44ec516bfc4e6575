import Sake.ChangeNetwork
import Sake.Proofs.NetworkSet
import Sake.Proofs.Tags

namespace Sake.Proofs.ChangeNetwork
open Lib Lib.Handler Networks Goroutine Registered Sake.ChangeNetwork UserNetworks Steps List Tags NetworkSet Sake.Strings

variable {attrs : Tags} {record updated : Network} {subcommand : String} {user : Database.User}

section Attributes
variable {kv : String × String}

theorem get_tail (h : ((kv :: attrs).map Prod.fst).Nodup) : attrs.get kv.1 = none := by
  obtain ⟨hnot,-⟩ := nodup_cons.mp h
  exact get_eq_none.mpr fun kv' hmem heq => hnot (mem_map.mpr ⟨kv',hmem,heq⟩)

/-- The attributes of the address that are given take the place of the old ones. -/
theorem addrAttrs_get (env : Env) (record : Network) (h : (attrs.map Prod.fst).Nodup) (hkey : addrKey key = true) :
    (addrAttrs env record attrs).get key = (attrs.get key).or ((networkAddrAttrs env record).get key) := by
  have hall (attrs old : Tags) (h : (attrs.map Prod.fst).Nodup) :
      Tags.get (attrs.foldl (fun tags kv => if addrKey kv.1 then tags.set kv.1 kv.2 else tags) old) key =
        (attrs.get key).or (old.get key) := by
    induction attrs generalizing old with
    | nil => rfl
    | cons kv attrs ih =>
      rw [foldl_cons,ih _ (nodup_cons.mp h).2,get_cons]
      by_cases hk : kv.1 = key
      · have hnone := get_tail h
        rw [hk] at hnone
        rw [if_pos hk,hnone,hk,if_pos hkey,get_set,if_pos rfl]
        rfl
      · split
        · rw [get_set,if_neg hk]
        · rfl
  exact hall attrs _ h

/-- The record with the attributes that are not of the address. -/
def withAttrs (record : Network) (attrs : Tags) : Network :=
  { record with
    name := (attrs.get "name").getD record.name
    nick := (attrs.get "nickname").getD record.nick
    username := (attrs.get "username").getD record.username
    realname := (attrs.get "realname").getD record.realname }

theorem withAttrs_cons (hkey : kv.1 ∈ attrKeys)
    (hnone : attrs.get kv.1 = none) (h : (updateNetworkAttr record kv.1 kv.2).getD record = updated) :
    withAttrs updated attrs = withAttrs record (kv :: attrs) := by
  obtain ⟨key,value⟩ := kv
  simp only [attrKeys,mem_cons,not_mem_nil,or_false] at hkey
  subst h
  rcases hkey with rfl | rfl | rfl | rfl | rfl | rfl | rfl <;>
    simp_all [withAttrs,get_cons,updateNetworkAttr]

theorem updateNetworkAttr_fold (h : ∀ kv ∈ attrs, kv.1 ∈ attrKeys) (hn : (attrs.map Prod.fst).Nodup)
    (record : Network) :
    attrs.foldl (fun record kv => (updateNetworkAttr record kv.1 kv.2).getD record) record = withAttrs record attrs := by
  induction attrs generalizing record with
  | nil => rfl
  | cons kv attrs ih =>
    rw [foldl_cons,ih (fun kv' hmem => h kv' (mem_cons_of_mem kv hmem)) (nodup_cons.mp hn).2]
    exact withAttrs_cons (h kv mem_cons_self) (get_tail hn) rfl

theorem updateNetworkAttrs_ok (h : Attributes attrs)
    (hok : updateNetworkAttrs env subcommand attrs record = .ok record') :
    record' = (if attrs.any fun kv => addrKey kv.1 then
        { withAttrs record attrs with addr := networkAddrFromAttrs (addrAttrs env record attrs) }
      else withAttrs record attrs) ∧
      ((attrs.any fun kv => addrKey kv.1) = true → networkAddrFromAttrs (addrAttrs env record attrs) ≠ "") := by
  unfold updateNetworkAttrs at hok
  split at hok
  · cases hok
  rw [updateNetworkAttr_fold h.keys h.nodup] at hok
  split at hok
  · rename_i hany
    dsimp only at hok
    split at hok
    · cases hok
    rename_i hne
    cases hok
    rw [if_pos hany]
    exact ⟨rfl,fun _ => hne⟩
  · rename_i hany
    cases hok
    rw [if_neg hany]
    exact ⟨rfl,fun hc => absurd hc hany⟩

end Attributes

section Address
variable {env : Env}

theorem contains_append (front sep back : String) : Strings.contains (front ++ sep ++ back) sep = true := by
  have hall front : (Strings.cutAt sep.toList (front ++ (sep.toList ++ back.toList))).isSome = true := by
    induction front with
    | nil =>
      cases hs : sep.toList ++ back.toList with
      | nil =>
        have hsep : sep.toList = [] := (append_eq_nil_iff.mp hs).1
        simp [Strings.cutAt,hsep]
      | cons c rest =>
        have hfront : sep.toList.isPrefixOf (c :: rest) = true := by
          rw [← hs]
          exact List.isPrefixOf_iff_prefix.mpr (prefix_append _ _)
        simp [Strings.cutAt,hfront]
    | cons c front ih =>
      rw [cons_append,Strings.cutAt]
      split
      · rfl
      · rw [Option.isSome_map]
        exact ih
  unfold Strings.contains
  rw [String.toList_append,String.toList_append,append_assoc]
  exact hall front.toList

theorem verbatim_append : verbatim (a ++ b) = (verbatim a && verbatim b) := by
  unfold verbatim
  rw [String.toList_append,all_append]

/-- What is split into a host and a port is not shorter than they are. -/
theorem splitHostPort_length {port : String} (h : HostPort.splitHostPort hostport = some (host,port)) :
    hostport = host ++ ":" ++ port ∨ (host ++ ":" ++ port).length < hostport.length := by
  obtain ⟨⟨cs,ds⟩,hsplit,heq⟩ := Option.map_eq_some_iff.mp h
  cases heq
  rcases HostPort.splitChars_some hsplit with hplain | hbrackets
  · left
    apply String.toList_inj.mp
    simp [hplain]
  · right
    rw [← String.length_toList,← String.length_toList,hbrackets]
    simp only [String.toList_append,String.toList_ofList,length_cons,length_append]
    have hcolon : ":".toList.length = 1 := rfl
    omega

theorem splitHostPort_append_iff {port : String} : HostPort.splitHostPort (host ++ ":" ++ port) = some (host,port) ↔
      HostPort.Plain host.toList ∧ HostPort.Plain port.toList := by
  rw [← HostPort.splitChars_append_iff]
  unfold HostPort.splitHostPort
  rw [String.toList_append,String.toList_append,append_assoc]
  change Option.map _ (HostPort.splitChars (host.toList ++ ':' :: port.toList)) = _ ↔ _
  constructor
  · intro h
    obtain ⟨⟨cs,ds⟩,hsplit,heq⟩ := Option.map_eq_some_iff.mp h
    cases heq
    simpa using hsplit
  · intro h
    rw [h]
    simp

/-- The host and the port are those that were asked for. -/
def Denotes (env : Env) (hostport host : String) (port : Option String) : Prop :=
  (hostAttrs env hostport).get "host" = some host ∧ (hostAttrs env hostport).get "port" = port

/-- How a host and a port, which may be missing, are written. -/
def joined (host : String) (port : Option String) : String :=
  if port.getD "" = "" then host else host ++ ":" ++ port.getD ""

theorem denotes_iff (hurl : ReadsURLs env) :
    Denotes env hostport host port ↔ (port = none ∧ hostport = host ∧ HostPort.splitHostPort host = none) ∨
      ∃ p, port = some p ∧ HostPort.splitHostPort hostport = some (host,p) := by
  unfold Denotes hostAttrs
  rw [hurl.split]
  cases hs : HostPort.splitHostPort hostport with
  | none =>
    simp only [get_cons,if_true,reduceCtorEq,and_false,exists_false,or_false]
    simp only [Option.some.injEq]
    constructor
    · rintro ⟨rfl,rfl⟩
      exact ⟨rfl,rfl,hs⟩
    · rintro ⟨rfl,rfl,-⟩
      exact ⟨rfl,rfl⟩
  | some parts =>
    obtain ⟨h',p'⟩ := parts
    constructor
    · rintro ⟨hh,rfl⟩
      cases hh
      exact .inr ⟨p',rfl,rfl⟩
    · rintro (⟨-,rfl,hnone⟩ | ⟨p,rfl,heq⟩)
      · cases hs.symm.trans hnone
      · cases heq
        exact ⟨rfl,rfl⟩

/-- A text that is too short cannot denote a host and a port. -/
theorem not_denotes_of_length (hurl : ReadsURLs env)
    (h : hostport.length < (joined host port).length) : ¬ Denotes env hostport host port := by
  rw [denotes_iff hurl]
  rintro (⟨rfl,rfl,-⟩ | ⟨p,rfl,hsplit⟩)
  · exact absurd h (Nat.lt_irrefl _)
  have hjoined : (joined host (some p)).length ≤ (host ++ ":" ++ p).length := by
    unfold joined
    rw [String.length_append,String.length_append]
    split
    · omega
    · rw [String.length_append,String.length_append]
      exact Nat.le_refl _
  rcases splitHostPort_length hsplit with heq | hlen
  · rw [heq] at h
    omega
  · omega

/-- The host can be told from the port. -/
def Separate (host : String) (port : Option String) : Prop :=
  (port = none → HostPort.splitHostPort host = none) ∧
    ∀ p, port = some p → p ≠ "" ∧ HostPort.Plain host.toList ∧ HostPort.Plain p.toList

theorem denotes_joined_iff (hurl : ReadsURLs env) : Denotes env (joined host port) host port ↔ Separate host port := by
  rw [denotes_iff hurl,Separate]
  cases port with
  | none => simp [joined]
  | some p =>
    by_cases hp : p = ""
    · subst hp
      have hnot : HostPort.splitHostPort host ≠ some (host,"") := by
        intro hsplit
        rcases splitHostPort_length hsplit with heq | hlen
        · have hsame := congrArg String.length heq
          simp at hsame
        · rw [String.length_append,String.length_append] at hlen
          omega
      simp [joined,hnot]
    · have hj : joined host (some p) = host ++ ":" ++ p := if_neg hp
      rw [hj]
      simp only [false_and,Option.some.injEq,exists_eq_left']
      rw [splitHostPort_append_iff]
      simp [hp]

theorem verbatim_joined : verbatim (joined host port) = (verbatim host && verbatim (port.getD "")) := by
  unfold joined
  split
  · rename_i h
    rw [h,show verbatim "" = true from rfl,Bool.and_true]
  · rw [verbatim_append,verbatim_append,show verbatim ":" = true from rfl,Bool.and_true]

theorem denotes_parsed_iff (hurl : ReadsURLs env) (hscheme : scheme ∈ hostSchemes)
    (hu : env.parseURL (scheme ++ "://" ++ joined host port) = .ok u) (hbare : bare u = true) :
    Denotes env u.host host port ↔ (verbatim host = true ∧ verbatim (port.getD "") = true) ∧ Separate host port := by
  cases hv : verbatim (joined host port) with
  | true =>
    rw [hurl.host hscheme hu hbare hv,denotes_joined_iff hurl]
    rw [verbatim_joined,Bool.and_eq_true] at hv
    exact (and_iff_right hv).symm
  | false =>
    have hnot := not_denotes_of_length hurl (hurl.shorter hscheme hu hbare hv)
    refine iff_of_false hnot fun h => ?_
    rw [verbatim_joined,Bool.and_eq_false_iff] at hv
    rcases hv with hv | hv
    · rw [hv] at h
      cases h.1.1
    · rw [hv] at h
      cases h.1.2

theorem checkURL_bare (h : checkURL admin u = .ok ()) (hscheme : u.scheme ∈ hostSchemes) : bare u = true := by
  unfold checkURL at h
  split at h
  · cases h
  rename_i huser
  split at h
  · cases h
  rename_i hquery
  split at h
  · cases h
  rename_i hfragment
  rw [if_pos (by simpa [hostSchemes] using hscheme)] at h
  split at h
  · cases h
  split at h
  · cases h
  · rename_i hpath
    simp only [not_not] at hquery hfragment hpath
    simp [bare,huser,hquery,hfragment,hpath]

theorem networkAddrAttrs_eq (hurl : networkURL env record = .ok u) (hscheme : u.scheme ∈ hostSchemes) :
    networkAddrAttrs env record = ("tls",if u.scheme = "ircs" then "1" else "0") :: hostAttrs env u.host := by
  unfold networkAddrAttrs
  simp only [hostSchemes,mem_cons,not_mem_nil,or_false] at hscheme
  rcases hscheme with h | h
  all_goals
    rw [hurl]
    simp [h]

theorem networkAddrAttrs_none (hurl : networkURL env record = .ok u)
    (hscheme : u.scheme ∉ hostSchemes) : networkAddrAttrs env record = [] := by
  unfold networkAddrAttrs
  simp only [hostSchemes,mem_cons,not_mem_nil,or_false,not_or] at hscheme
  rw [hurl]
  dsimp only
  split
  · rename_i h
    exact absurd h hscheme.1
  · rename_i h
    exact absurd h hscheme.2
  · rfl

theorem networkURL_parsed (h : networkURL env record = .ok u) :
    ∃ u', env.parseURL (if contains record.addr "://" then record.addr else "ircs://" ++ record.addr) = .ok u' ∧
      (u.scheme ∈ hostSchemes → u = u') ∧ (u'.scheme ∈ hostSchemes → u = u') := by
  unfold networkURL at h
  dsimp only at h
  split at h
  · cases h
  rename_i u' hu'
  refine ⟨u',hu',?_⟩
  split at h
  · rename_i hunix
    cases h
    have hnot : u'.scheme ∉ hostSchemes := by
      rcases hunix with hs | hs <;> simp [hostSchemes,hs]
    exact ⟨fun hc => absurd hc hnot,fun hc => absurd hc hnot⟩
  · cases h
    exact ⟨fun _ => rfl,fun _ => rfl⟩

/-- The attributes of an address that was put together are those it was made of. -/
def SameAddress (env : Env) (record : Network) (attrs : Tags) : Prop :=
  ∀ key, addrKey key = true → (networkAddrAttrs env record).get key = attrs.get key

theorem sameAddress_iff (hurl : networkURL env record = .ok u)
    (hscheme : u.scheme ∈ hostSchemes) (hhost : attrs.get "host" = some host) :
    SameAddress env record attrs ↔ attrs.get "tls" = some (if u.scheme = "ircs" then "1" else "0") ∧
      Denotes env u.host host (attrs.get "port") := by
  unfold SameAddress Denotes
  rw [networkAddrAttrs_eq hurl hscheme]
  constructor
  · intro h
    have htls := h "tls" rfl
    have hh := h "host" rfl
    have hp := h "port" rfl
    exact ⟨htls.symm,hh.trans hhost,hp⟩
  · rintro ⟨htls,hh,hp⟩ key hkey
    simp only [addrKey,Bool.or_eq_true,decide_eq_true_eq] at hkey
    rcases hkey with (rfl | rfl) | rfl
    · rw [get_cons,if_neg (by simp),hh,hhost]
    · rw [get_cons,if_neg (by simp),hp]
    · rw [get_cons,if_pos rfl,htls]

variable {admin : Bool} {u : URL} {host : String}

section
variable (hhost : attrs.get "host" = some host)
include hhost

theorem networkAddrFromAttrs_eq (hne : host ≠ "") : networkAddrFromAttrs attrs =
      if attrs.get "tls" = some "0" then "irc+insecure://" ++ joined host (attrs.get "port")
      else joined host (attrs.get "port") := by
  unfold networkAddrFromAttrs joined
  simp [hhost,hne]

theorem readBack_def : ReadBack attrs ↔ (attrs.get "tls" = some "0" ∨
        (attrs.get "tls" = some "1" ∧ contains (networkAddrFromAttrs attrs) "://" = false)) ∧
      (verbatim host = true ∧ verbatim ((attrs.get "port").getD "") = true) ∧
      Separate host (attrs.get "port") := by
  constructor
  · intro h
    have hv := h.verbatim "host" (.inl rfl)
    have hs := h.host
    have hp := h.port
    rw [hhost] at hv hs hp
    exact ⟨h.tls,⟨hv,h.verbatim "port" (.inr rfl)⟩,hs,hp⟩
  · rintro ⟨htls,⟨hv,hvp⟩,hs,hp⟩
    refine ⟨htls,?_,?_,?_⟩
    · rintro key (rfl | rfl)
      · rw [hhost]
        exact hv
      · exact hvp
    · rw [hhost]
      exact hs
    · rw [hhost]
      exact hp

variable (hgo : ReadsURLs env) (hurl : networkURL env record = .ok u)
  (hcheck : checkURL admin u = .ok ())
include hgo hurl hcheck

theorem sameAddress_parsed_iff (hin : scheme ∈ hostSchemes) (hparse : env.parseURL (scheme ++ "://" ++ joined host (attrs.get "port")) = .ok u')
    (hsame : u'.scheme ∈ hostSchemes → u = u') :
    SameAddress env record attrs ↔ attrs.get "tls" = some (if scheme = "ircs" then "1" else "0") ∧
      (verbatim host = true ∧ verbatim ((attrs.get "port").getD "") = true) ∧ Separate host (attrs.get "port") := by
  have hscheme := hgo.scheme hin hparse
  cases hsame (hscheme ▸ hin)
  rw [sameAddress_iff hurl (hscheme ▸ hin) hhost,denotes_parsed_iff hgo hin hparse (checkURL_bare hcheck (hscheme ▸ hin)),
    hscheme]

/-- An address is read back if its parts are fit for it, and only then. -/
theorem sameAddress_iff_readBack (haddr : record.addr = networkAddrFromAttrs attrs) (hne : host ≠ "") (htls : attrs.get "tls" = some tls) :
    SameAddress env record attrs ↔ ReadBack attrs := by
  rw [readBack_def hhost]
  obtain ⟨u',hparse,hsame,hsame'⟩ := networkURL_parsed hurl
  have heq := networkAddrFromAttrs_eq hhost hne
  by_cases hzero : tls = "0"
  · subst hzero
    rw [if_pos htls] at heq
    have hcontains : contains record.addr "://" = true := by
      rw [haddr,heq]
      exact contains_append "irc+insecure" "://" _
    rw [if_pos hcontains,haddr,heq] at hparse
    replace hparse : env.parseURL ("irc+insecure" ++ "://" ++ joined host (attrs.get "port")) = .ok u' := hparse
    rw [sameAddress_parsed_iff hhost hgo hurl hcheck (by simp [hostSchemes]) hparse hsame']
    simp [htls]
  · rw [if_neg (by simpa [htls] using hzero)] at heq
    cases hcontains : contains record.addr "://" with
    | true =>
      rw [if_pos hcontains] at hparse
      refine iff_of_false (fun h => ?_) fun h => ?_
      · by_cases hscheme : u.scheme ∈ hostSchemes
        · have hlen := hgo.inner hcontains hparse
          rw [haddr,heq] at hlen
          rw [sameAddress_iff hurl hscheme hhost,hsame hscheme] at h
          exact not_denotes_of_length hgo hlen h.2
        · have hnone := h "tls" rfl
          rw [networkAddrAttrs_none hurl hscheme,htls] at hnone
          cases hnone
      · rcases h.1 with h | ⟨-,h⟩
        · exact hzero (Option.some.inj (htls.symm.trans h))
        · rw [← haddr,hcontains] at h
          cases h
    | false =>
      rw [if_neg (by simp [hcontains]),haddr,heq] at hparse
      replace hparse : env.parseURL ("ircs" ++ "://" ++ joined host (attrs.get "port")) = .ok u' := hparse
      rw [sameAddress_parsed_iff hhost hgo hurl hcheck (by simp [hostSchemes]) hparse hsame']
      rw [haddr] at hcontains
      simp [htls,hzero,hcontains]

end

end Address

section Shown
variable {env : Env} {net : Net} {key : String}

theorem networkAddrAttrs_get (env : Env) (record : Network) (h : addrKey key = false) :
    (networkAddrAttrs env record).get key = none := by
  simp only [addrKey,Bool.or_eq_false_iff,decide_eq_false_iff_not] at h
  obtain ⟨⟨hhost,hport⟩,htls⟩ := h
  have hattrs host : (hostAttrs env host).get key = none := by
    unfold hostAttrs
    split
    · simp [get_cons,Ne.symm hhost,Ne.symm hport]
    · simp [get_cons,Ne.symm hhost]
  unfold networkAddrAttrs
  split
  · rfl
  split
  · rw [get_cons,if_neg (Ne.symm htls),hattrs]
  · rw [get_cons,if_neg (Ne.symm htls),hattrs]
  · rfl

/-- A value, unless it is empty. -/
def shown (value : String) : Option String := if value ≠ "" then some value else none

theorem get_ite_singleton :
    Tags.get (if value ≠ "" then [(key,value)] else []) key' = if key = key' then shown value else none := by
  unfold shown
  split
  · rw [get_cons,get_nil]
  · simp

theorem getNetworkAttrs_get (env : Env) (user : Database.User) (net : Net) (hstate : key ≠ "state")
    (herror : key ≠ "error") :
    (getNetworkAttrs env user net).get key =
      if key = "name" then some net.record.getName
      else if key = "nickname" then some (Database.getNick user net.record.toNetwork)
      else if key = "username" then shown net.record.username
      else if key = "realname" then shown (getRealname user net.record)
      else (networkAddrAttrs env net.record).get key := by
  have herr : Tags.get (net.lastError.toList.map fun e => ("error",e)) key = none := by
    refine get_eq_none.mpr fun kv hkv => ?_
    obtain ⟨e,-,rfl⟩ := mem_map.mp hkv
    exact Ne.symm herror
  unfold getNetworkAttrs
  simp only [get_append,get_ite_singleton,herr,get_cons]
  by_cases hname : key = "name"
  · simp [hname]
  by_cases hnick : key = "nickname"
  · simp [hnick]
  by_cases husername : key = "username"
  · have hnone := networkAddrAttrs_get env net.record (show addrKey "username" = false from rfl)
    simp [husername,hnone]
  · by_cases hrealname : key = "realname"
    · have hnone := networkAddrAttrs_get env net.record (show addrKey "realname" = false from rfl)
      simp [hrealname,hnone]
    · simp [hname,hnick,husername,hrealname,Ne.symm hname,Ne.symm hnick,Ne.symm husername,
        Ne.symm hrealname,Ne.symm hstate]

end Shown

section Defaults

/-- The record that is stored for one that is asked for. -/
def settled (user : Database.User) (record : Network) : Network := wipeDefaults user (withoutDefaults user record)

theorem get_ne_empty (h : Attributes attrs) (hget : attrs.get key = some value) : value ≠ "" :=
  h.values (key,value) (mem_of_get hget)

/-- The nick of a network without one. -/
def ownNick (user : Database.User) : String := if user.nick ≠ "" then user.nick else user.username

theorem getNick_eq :
    Database.getNick user record.toNetwork = if record.nick ≠ "" then record.nick else ownNick user := rfl

theorem settled_nick : Database.getNick user (settled user record).toNetwork =
      if record.nick = "" ∨ record.nick = user.username then ownNick user else record.nick := by
  have hnick : (settled user record).nick =
      if (if record.nick = user.username then "" else record.nick) = user.nick then ""
      else if record.nick = user.username then "" else record.nick := rfl
  rw [getNick_eq,hnick]
  unfold ownNick
  by_cases hempty : record.nick = ""
  · simp [hempty]
  by_cases huser : record.nick = user.username
  · simp [huser]
  by_cases hown : record.nick = user.nick
  · have hne : user.nick ≠ "" := hown ▸ hempty
    have hne' : user.nick ≠ user.username := hown ▸ huser
    simp [hown,hne]
  · simp [huser,hown]

/-- The nick is the one that was asked for, unless the username stands for another one. -/
theorem nick_iff (h : Attributes attrs) (hnick : updated.nick = (attrs.get "nickname").getD record.nick) :
    Database.getNick user (settled user updated).toNetwork =
        (attrs.get "nickname").getD (Database.getNick user record.toNetwork) ↔
      ((attrs.get "nickname").getD record.nick = user.username →
        user.username = "" ∨ user.nick = "" ∨ user.nick = user.username) := by
  have hdefault : ownNick user = user.username ↔ user.nick = "" ∨ user.nick = user.username := by
    unfold ownNick
    by_cases hn : user.nick = "" <;> simp [hn]
  rw [settled_nick,hnick,getNick_eq]
  cases hget : attrs.get "nickname" with
  | some nick =>
    have hne := get_ne_empty h hget
    simp only [Option.getD_some,hne]
    by_cases huser : nick = user.username
    · subst huser
      simp [hne,hdefault]
    · simp [huser]
  | none =>
    simp only [Option.getD_none]
    by_cases hempty : record.nick = ""
    · simp only [hempty,true_or,if_true,ne_eq,not_true_eq_false,if_false,true_iff]
      exact fun hu => .inl hu.symm
    · by_cases huser : record.nick = user.username
      · have hne : user.username ≠ "" := huser ▸ hempty
        simp [huser,hne,hdefault]
      · simp [huser]

theorem settled_realname : getRealname user (settled user record) =
      if record.realname ≠ "" then record.realname
      else if user.realname ≠ "" then user.realname
      else Database.getNick user (settled user record).toNetwork := by
  have hrealname : (settled user record).realname =
      if (if record.realname = user.realname then "" else record.realname) = user.realname then ""
      else if record.realname = user.realname then "" else record.realname := rfl
  unfold getRealname
  rw [hrealname]
  by_cases hempty : record.realname = ""
  · simp [hempty]
  by_cases hown : record.realname = user.realname
  · have hne : user.realname ≠ "" := hown ▸ hempty
    simp [hown,hne]
  · simp [hown]

/-- The real name is the one that was asked for, unless it is the nick that changes. -/
theorem realname_iff (h : Attributes attrs) (hrealname : updated.realname = (attrs.get "realname").getD record.realname)
    (hnick : Database.getNick user (settled user updated).toNetwork =
      (attrs.get "nickname").getD (Database.getNick user record.toNetwork)) :
    shown (getRealname user (settled user updated)) = (attrs.get "realname").or (shown (getRealname user record)) ↔
      (attrs.get "realname" = none → record.realname = "" → user.realname = "" → ∀ nick,
        attrs.get "nickname" = some nick → nick = Database.getNick user record.toNetwork) := by
  rw [settled_realname,hrealname]
  cases hget : attrs.get "realname" with
  | some realname =>
    have hne := get_ne_empty h hget
    simp [shown,hne]
  | none =>
    unfold getRealname
    by_cases hempty : record.realname = ""
    · by_cases hown : user.realname = ""
      · simp only [Option.getD_none,hempty,hown,ne_eq,not_true_eq_false,if_false,Option.none_or,true_implies]
        rw [hnick]
        cases hn : attrs.get "nickname" with
        | none => simp
        | some nick =>
          have hne := get_ne_empty h hn
          simp only [Option.getD_some,Option.some.injEq,forall_eq']
          unfold shown
          rw [if_pos hne]
          constructor
          · intro heq
            split at heq
            · exact Option.some.inj heq
            · cases heq
          · intro heq
            rw [← heq,if_pos hne]
      · simp [hown]
    · simp [hempty]

theorem name_iff (h : Attributes attrs) (hname : updated.name = (attrs.get "name").getD record.name) :
    updated.getName = (attrs.get "name").getD record.getName ↔
      (attrs.get "name" = none → record.name = "" → updated.addr = record.addr) := by
  unfold Database.Network.getName
  rw [hname]
  cases hget : attrs.get "name" with
  | some name =>
    have hne := get_ne_empty h hget
    simp [hne]
  | none =>
    by_cases hempty : record.name = "" <;> simp [hempty]

end Defaults

section Effect
variable {env : Env} {net net' : Net}

theorem takesEffect_iff (h : Attributes attrs) : TakesEffect env user attrs net net' ↔
      net'.record.getName = (attrs.get "name").getD net.record.getName ∧
      Database.getNick user net'.record.toNetwork =
        (attrs.get "nickname").getD (Database.getNick user net.record.toNetwork) ∧
      shown net'.record.username = (attrs.get "username").or (shown net.record.username) ∧
      shown (getRealname user net'.record) = (attrs.get "realname").or (shown (getRealname user net.record)) ∧
      ∀ key, addrKey key = true →
        (networkAddrAttrs env net'.record).get key = (attrs.get key).or ((networkAddrAttrs env net.record).get key) := by
  have hsome (o : Option String) (a b) : some a = o.or (some b) ↔ a = o.getD b := by
    cases o <;> simp
  constructor
  · intro hall
    have hkey key (hstate : key ≠ "state") (herror : key ≠ "error") := hall key hstate herror
    simp +contextual only [getNetworkAttrs_get,ne_eq,not_false_eq_true] at hkey
    refine ⟨?_,?_,?_,?_,fun key haddr => ?_⟩
    · exact (hsome _ _ _).mp (by simpa using hkey "name" (by simp) (by simp))
    · exact (hsome _ _ _).mp (by simpa using hkey "nickname" (by simp) (by simp))
    · simpa using hkey "username" (by simp) (by simp)
    · simpa using hkey "realname" (by simp) (by simp)
    simp only [addrKey,Bool.or_eq_true,decide_eq_true_eq] at haddr
    rcases haddr with (rfl | rfl) | rfl
    · simpa using hkey "host" (by simp) (by simp)
    · simpa using hkey "port" (by simp) (by simp)
    · simpa using hkey "tls" (by simp) (by simp)
  · rintro ⟨hname,hnick,husername,hrealname,haddr⟩ key hstate herror
    rw [getNetworkAttrs_get _ _ _ hstate herror,getNetworkAttrs_get _ _ _ hstate herror]
    split
    · rename_i heq
      rw [heq,hsome]
      exact hname
    split
    · rename_i heq
      rw [heq,hsome]
      exact hnick
    split
    · rename_i heq
      rw [heq]
      exact husername
    split
    · rename_i heq
      rw [heq]
      exact hrealname
    cases hk : addrKey key with
    | true => exact haddr key hk
    | false =>
      have hnone : attrs.get key = none := by
        refine get_eq_none.mpr fun kv hmem heq => ?_
        have hin := heq ▸ h.keys kv hmem
        simp_all [attrKeys,addrKey]
      rw [networkAddrAttrs_get _ _ hk,networkAddrAttrs_get _ _ hk,hnone]
      rfl

theorem networkAddrAttrs_congr (h : a.addr = b.addr) : networkAddrAttrs env a = networkAddrAttrs env b := by
  have hurl : networkURL env a = networkURL env b := by
    unfold networkURL
    rw [h]
  unfold networkAddrAttrs
  rw [hurl]

theorem networkAddrFromAttrs_host (h : networkAddrFromAttrs attrs ≠ "") :
    ∃ host, attrs.get "host" = some host ∧ host ≠ "" := by
  have hempty : (attrs.get "host").getD "" ≠ "" := by
    intro hc
    refine h ?_
    unfold networkAddrFromAttrs
    simp [hc]
  cases hget : attrs.get "host" with
  | none => simp [hget] at hempty
  | some host => exact ⟨host,rfl,by simpa [hget] using hempty⟩

theorem addrAttrs_tls (h : Attributes attrs) (hurl : networkURL env record = .ok u)
    (hscheme : u.scheme ∈ hostSchemes) : ∃ tls, (addrAttrs env record attrs).get "tls" = some tls := by
  rw [addrAttrs_get env record h.nodup rfl,networkAddrAttrs_eq hurl hscheme,get_cons]
  cases attrs.get "tls" with
  | none => exact ⟨_,rfl⟩
  | some tls => exact ⟨tls,rfl⟩

/-- A change takes effect as asked if it is apt, and only then. -/
theorem takesEffect_iff_apt (hgo : ReadsURLs env)
    (h : Attributes attrs) (hok : updateNetworkAttrs env subcommand attrs net.record = .ok updated)
    (hnew : net'.record = settled user updated) (hurl : networkURL env net.record = .ok u)
    (hscheme : u.scheme ∈ hostSchemes) (hurl' : networkURL env net'.record = .ok u')
    (hcheck : checkURL admin u' = .ok ()) :
    TakesEffect env user attrs net net' ↔ Apt env user net.record attrs := by
  obtain ⟨hupdated,hne⟩ := updateNetworkAttrs_ok h hok
  obtain ⟨hname,hnick,husername,hrealname⟩ : updated.name = (attrs.get "name").getD net.record.name ∧
      updated.nick = (attrs.get "nickname").getD net.record.nick ∧
      updated.username = (attrs.get "username").getD net.record.username ∧
      updated.realname = (attrs.get "realname").getD net.record.realname := by
    rw [hupdated]
    split <;> exact ⟨rfl,rfl,rfl,rfl⟩
  have hname' : net'.record.getName = updated.getName := by
    rw [hnew]
    rfl
  have husername' : shown net'.record.username = (attrs.get "username").or (shown net.record.username) := by
    have heq : net'.record.username = updated.username := by
      rw [hnew]
      rfl
    rw [heq,husername]
    cases hget : attrs.get "username" with
    | none => rfl
    | some username => simp [shown,get_ne_empty h hget]
  have haddress : (∀ key, addrKey key = true → (networkAddrAttrs env net'.record).get key =
      (attrs.get key).or ((networkAddrAttrs env net.record).get key)) ↔
        ((attrs.any fun kv => addrKey kv.1) = true → ReadBack (addrAttrs env net.record attrs)) := by
    cases hany : attrs.any fun kv => addrKey kv.1 with
    | true =>
      rw [if_pos hany] at hupdated
      have haddr : net'.record.addr = networkAddrFromAttrs (addrAttrs env net.record attrs) := by
        rw [hnew,hupdated]
        rfl
      obtain ⟨host,hhost,hempty⟩ := networkAddrFromAttrs_host (hne hany)
      obtain ⟨tls,htls⟩ := addrAttrs_tls h hurl hscheme
      refine Iff.trans ?_ (forall_prop_of_true rfl).symm
      rw [← sameAddress_iff_readBack hhost hgo hurl' hcheck haddr hempty htls]
      refine forall₂_congr fun key hkey => ?_
      rw [addrAttrs_get env net.record h.nodup hkey]
    | false =>
      refine iff_of_true (fun key hkey => ?_) fun hc => absurd hc (by simp)
      have hnone : attrs.get key = none := get_eq_none.mpr fun kv hmem heq =>
        Bool.false_ne_true (hany.symm.trans (any_eq_true.mpr ⟨kv,hmem,heq ▸ hkey⟩))
      have haddr : net'.record.addr = net.record.addr := by
        rw [hnew,hupdated,if_neg (by simp [hany])]
        rfl
      rw [networkAddrAttrs_congr haddr,hnone]
      rfl
  rw [takesEffect_iff h,hname',name_iff h hname,haddress]
  have hnick' : Database.getNick user net'.record.toNetwork = Database.getNick user (settled user updated).toNetwork := by
    rw [hnew]
  have hrealname' : getRealname user net'.record = getRealname user (settled user updated) := by rw [hnew]
  rw [hnick',hrealname']
  have hmoved : updated.addr = net.record.addr ↔ ((attrs.any fun kv => addrKey kv.1) = true →
      networkAddrFromAttrs (addrAttrs env net.record attrs) = net.record.addr) := by
    rw [hupdated]
    split
    · rename_i hany
      simp [hany]
    · rename_i hany
      exact iff_of_true rfl fun hc => absurd hc hany
  constructor
  · rintro ⟨hn,hk,-,hr,ha⟩
    exact ⟨ha,fun hany hnone hempty => hmoved.mp (hn hnone hempty) hany,(nick_iff h hnick).mp hk,
      (realname_iff h hrealname hk).mp hr⟩
  · intro hapt
    have hk := (nick_iff h hnick).mpr hapt.nick
    exact ⟨fun hnone hempty => hmoved.mpr fun hany => hapt.name hany hnone hempty,hk,husername',
      (realname_iff h hrealname hk).mpr hapt.realname,hapt.address⟩

end Effect

section Command
variable {env : Env} {s t : State} {idStr : String} {r : Nat}

/-- The network that an id of a command stands for. -/
def networkOf (s : State) (idStr : String) : Option Nat :=
  ((Strings.parseInt idStr).filter (0 < ·)).bind s.getNetworkByID

theorem orElse_ok (h : orElse msg m s = .ok () t) : m s = .ok () t := by
  cases hm : m s with
  | ok a u =>
    have hcatch : orElse msg m s = .ok a u := by
      change EStateM.tryCatch m _ s = _
      simp [EStateM.tryCatch,hm]
    exact hcatch.symm.trans h
  | error e u =>
    have hcatch : ∃ e', orElse msg m s = .error e' u := by
      change ∃ e', EStateM.tryCatch m _ s = _
      simp only [EStateM.tryCatch,hm]
      cases e <;> exact ⟨_,rfl⟩
    obtain ⟨e',he'⟩ := hcatch
    cases h.symm.trans he'

theorem withAttrs_id (env : Env) (record : Network) (h : Attributes attrs)
    (hok : updateNetworkAttrs env subcommand attrs record = .ok updated) : updated.id = record.id := by
  rw [(updateNetworkAttrs_ok h hok).1]
  split <;> rfl

theorem handleChangeNetwork_ok (hattrs : Attributes attrs)
    (h : handleChangeNetwork env subcommand idStr attrs s = .ok () t) (hr : networkOf s idStr = some r) :
    ∃ updated answers db, updateNetworkAttrs env subcommand attrs (s.heap r).record = .ok updated ∧
      s.checkNetwork env (settled s.user updated) = .ok () ∧ updated.id = netID s r ∧
      t = ({ s with answers, db } : State).replaceNetwork env r (settled s.user updated) := by
  have hnet : bouncerNetwork subcommand idStr s = .ok r s := by
    rw [networkOf] at hr
    rw [bouncerNetwork,Handler.get_bind,hr]
    rfl
  rw [handleChangeNetwork,bind_ok hnet,Handler.get_bind] at h
  cases hup : updateNetworkAttrs env subcommand attrs (s.heap r).record with
  | error msg =>
    rw [hup] at h
    cases h
  | ok updated =>
    rw [hup] at h
    have hdone := orElse_ok h
    rw [discard_eq_bind] at hdone
    have hid := withAttrs_id env (s.heap r).record hattrs hup
    rcases updateNetwork_cases env (withoutDefaults s.user updated) (!(s.heap r).record.enabled) s with
      ⟨e,u,he,-⟩ | ⟨r',newID,answers,db,id,-,-,hr',hcheck,-,hok⟩
    · rw [bind_error he] at hdone
      cases hdone
    rw [bind_ok hok] at hdone
    cases hdone
    obtain ⟨id,-,hid'⟩ := Option.bind_eq_some_iff.mp hr
    have hsame : r' = r := by
      have hfound : s.getNetworkByID id = some r' := by
        have hsameID : (withoutDefaults s.user updated).id = id := hid.trans (Rooted.getNetworkByID_netID hid').2
        rw [← hsameID]
        exact hr'
      exact Option.some.inj (hfound.symm.trans hid')
    subst hsame
    exact ⟨updated,answers,db,rfl,hcheck,hid,rfl⟩

theorem getNetworkByID_of_nodup (hids : (s.networks.map (netID s)).Nodup) (hr : r ∈ s.networks) :
    s.getNetworkByID (netID s r) = some r := by
  cases hfind : s.getNetworkByID (netID s r) with
  | none =>
    have hnot := List.find?_eq_none.mp hfind r hr
    exact absurd (decide_eq_true rfl) hnot
  | some r' =>
    obtain ⟨hr',hid⟩ := Rooted.getNetworkByID_netID hfind
    rw [inj_on_of_nodup_map hids hr' hr hid]

theorem replaceNetwork_ids (hids : (s.networks.map (netID s)).Nodup) (hr : r ∈ s.networks)
    (hid : record.id = netID s r) :
    ((s.replaceNetwork env r record).networks.map (netID (s.replaceNetwork env r record))).Nodup := by
  have hperm : (s.replaceNetwork env r record).networks.Perm (s.networks.map fun x => if x = r then s.next else x) :=
    List.Perm.trans (perm_insertionSort _ _) (erase_append_perm hr hids.of_map)
  refine (hperm.map (netID (s.replaceNetwork env r record))).nodup_iff.mpr ?_
  rw [map_map]
  refine (congrArg List.Nodup (map_congr_left fun x hx => ?_)).mpr hids
  exact replaceNetwork_netID hid hx

/-- `CHANGENETWORK` takes effect as asked if it is apt, and only then. -/
theorem changeNetwork_takes_effect_iff (hgo : ReadsURLs env) (h : Attributes attrs)
    (hids : (s.networks.map (netID s)).Nodup) (hok : handleChangeNetwork env subcommand idStr attrs s = .ok () t)
    {r : Nat} (hr : networkOf s idStr = some r) {u : URL} (hurl : networkURL env (s.heap r).record = .ok u)
    (hscheme : u.scheme ∈ hostSchemes) :
    ∃ r', networkOf t idStr = some r' ∧
      (TakesEffect env t.user attrs (s.heap r) (t.heap r') ↔ Apt env s.user (s.heap r).record attrs) := by
  obtain ⟨updated,answers,db,hup,hcheck,hid,rfl⟩ := handleChangeNetwork_ok h hok hr
  obtain ⟨id,hparse,hget⟩ := Option.bind_eq_some_iff.mp hr
  obtain ⟨hmem,hnetID⟩ := Rooted.getNetworkByID_netID hget
  obtain ⟨u',hurl',hcheck'⟩ := (checkNetwork_ok hcheck).1
  have hself := replaceNetwork_self env ({ s with answers, db }) r (settled s.user updated)
  refine ⟨s.next,?_,?_⟩
  · have hids' : ((({ s with answers, db }).replaceNetwork env r (settled s.user updated)).networks.map
        (netID (({ s with answers, db }).replaceNetwork env r (settled s.user updated)))).Nodup :=
      replaceNetwork_ids hids hmem hid
    have hnew := getNetworkByID_of_nodup hids' ((mem_replaceNetwork env _ r _).mpr (.inr rfl))
    refine Option.bind_eq_some_iff.mpr ⟨id,hparse,?_⟩
    have hidNew : netID (({ s with answers, db }).replaceNetwork env r (settled s.user updated)) s.next = id := by
      unfold netID
      rw [hself]
      exact hid.trans hnetID
    rw [← hidNew]
    exact hnew
  · have hrecord : ((({ s with answers, db }).replaceNetwork env r (settled s.user updated)).heap s.next).record =
        settled s.user updated := congrArg (fun net => net.record) hself
    have hurl'' := hurl'
    rw [← hrecord] at hurl''
    exact takesEffect_iff_apt hgo h hup hrecord hurl hscheme hurl'' hcheck'

end Command

section Sample

theorem cutAt_some (h : cutAt sep cs = some (front,back)) : cs = front ++ sep ++ back := by
  induction cs generalizing front with
  | nil =>
    rw [cutAt] at h
    split at h
    · rename_i hsep
      cases h
      rw [isEmpty_iff.mp hsep]
      rfl
    · cases h
  | cons c cs ih =>
    rw [cutAt] at h
    split at h
    · rename_i hfront
      cases h
      obtain ⟨rest,hrest⟩ := List.isPrefixOf_iff_prefix.mp hfront
      rw [← hrest]
      simp
    · obtain ⟨⟨front',back'⟩,hcut,heq⟩ := Option.map_eq_some_iff.mp h
      cases heq
      rw [ih hcut]
      rfl

theorem cutAt_append (h : c ∉ front) (back : List Char) :
    cutAt (c :: cs) (front ++ (c :: cs ++ back)) = some (front,back) := by
  induction front with
  | nil => simp [cutAt]
  | cons d front ih =>
    have hne : c ≠ d := fun heq => h (heq ▸ mem_cons_self)
    have hrest : c ∉ front := fun hmem => h (mem_cons_of_mem d hmem)
    have hfront : (c :: cs).isPrefixOf (d :: (front ++ (c :: cs ++ back))) = false := by simp [List.isPrefixOf,hne]
    rw [cons_append,cutAt,hfront,ih hrest]
    rfl

/-- The server with a parser of URLs. -/
def env : Env := { Env.sample with parseURL := plainURL, splitHostPort := HostPort.splitHostPort }

theorem plainURL_authority (h : scheme ∈ hostSchemes) : plainURL (scheme ++ "://" ++ rest) =
      if verbatim rest then .ok ⟨scheme,rest,"","","",false⟩ else .error "invalid character in host name" := by
  have hcolon : ':' ∉ scheme.toList := by
    simp only [hostSchemes,mem_cons,not_mem_nil,or_false] at h
    rcases h with rfl | rfl <;> decide
  have hcut : cutAt "://".toList (scheme ++ "://" ++ rest).toList = some (scheme.toList,rest.toList) := by
    rw [String.toList_append,String.toList_append,append_assoc]
    exact cutAt_append hcolon rest.toList
  unfold plainURL
  rw [hcut]
  simp

theorem env_readsURLs : ReadsURLs env where
  split := rfl
  scheme {scheme rest u} hs hu := by
    change plainURL _ = _ at hu
    rw [plainURL_authority hs] at hu
    split at hu
    · cases hu
      rfl
    · cases hu
  host {scheme rest u} hs hu _ hv := by
    change plainURL _ = _ at hu
    rw [plainURL_authority hs,if_pos hv] at hu
    cases hu
    rfl
  shorter {scheme rest u} hs hu _ hv := by
    change plainURL _ = _ at hu
    rw [plainURL_authority hs,if_neg (by simp [hv])] at hu
    cases hu
  inner {text u} _ hu := by
    change plainURL _ = _ at hu
    unfold plainURL at hu
    split at hu
    · rename_i hcut
      split at hu
      · cases hu
        have hlen := congrArg List.length (cutAt_some hcut)
        rw [String.length_toList,length_append,length_append] at hlen
        rw [hlen,String.length_ofList]
        exact Nat.lt_add_of_pos_left (Nat.lt_of_lt_of_le (by decide) (Nat.le_add_left _ _))
      · cases hu
    · cases hu

/-- Jane goes by another nick than the username. -/
def jane : Database.User := { Database.newUser "jane" with id := 1, nick := "jane_" }

def janeDB : DB where
  users := .single jane (by decide)
  networks := .single ⟨1,{ newNetwork "irc.example.org:6697" with id := 1, name := "example" }⟩ Int.one_pos
  channels := .empty
  ignores := .empty
  certs := .empty

def janeState : State := State.load jane janeDB [⟨none,0⟩] []

def moved : Tags := [("nickname","ada"),("host","irc.example.com")]

theorem moved_attributes : Attributes moved := ⟨by decide,by decide,by decide⟩

theorem renamed_attributes : Attributes [("nickname","jane")] := ⟨by decide,by decide,by decide⟩

theorem changeNetwork_takes_effect_iff_jane :
    Attributes moved ∧ ∃ t, handleChangeNetwork env "CHANGENETWORK" "1" moved janeState = .ok () t ∧
      ∃ r', networkOf t "1" = some r' ∧ (TakesEffect env t.user moved (janeState.heap 0) (t.heap r') ↔
          Apt env jane (janeState.heap 0).record moved) := by
  obtain ⟨a,t,hok,-⟩ := exists_ok (m := handleChangeNetwork env "CHANGENETWORK" "1" moved)
    (s := janeState) (p := fun _ _ => true) (by decide)
  exact ⟨moved_attributes,t,hok,changeNetwork_takes_effect_iff env_readsURLs moved_attributes (by decide) hok
    (by decide)
    (show networkURL env (janeState.heap 0).record = .ok ⟨"ircs","irc.example.org:6697","","","",false⟩ from by decide)
    (by decide)⟩

/-- Jane asks for the username as the nick, and gets the other nick. -/
theorem nick_is_not_set : Attributes [("nickname","jane")] ∧
      ∃ t r', handleChangeNetwork env "CHANGENETWORK" "1" [("nickname","jane")] janeState = .ok () t ∧
        networkOf t "1" = some r' ∧ (getNetworkAttrs env t.user (t.heap r')).get "nickname" = some "jane_" ∧
        ¬ TakesEffect env t.user [("nickname","jane")] (janeState.heap 0) (t.heap r') := by
  obtain ⟨a,t,hok,htest⟩ := exists_ok
    (m := handleChangeNetwork env "CHANGENETWORK" "1" [("nickname","jane")]) (s := janeState)
    (p := fun _ t => networkOf t "1" = some 1 ∧
      (getNetworkAttrs env t.user (t.heap 1)).get "nickname" = some "jane_") (by decide)
  obtain ⟨hnet,hnick⟩ := of_decide_eq_true htest
  refine ⟨renamed_attributes,t,1,hok,hnet,hnick,fun heffect => ?_⟩
  have hasked := heffect "nickname" (by simp) (by simp)
  rw [hnick,get_cons] at hasked
  exact absurd (Option.some.inj hasked) (by decide)

end Sample

end Sake.Proofs.ChangeNetwork
