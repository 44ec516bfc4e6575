import Sake.Lib.HostPort
import Sake.Registered

namespace Sake.ChangeNetwork
open Networks Goroutine Registered Lib

/-- No character ends the host or is part of an escape. -/
def verbatim (text : String) : Bool := text.toList.all fun c => c ≠ '?' && c ≠ '#' && c ≠ '%'

/-- The schemes of the networks that have a host and a port. -/
def hostSchemes : List String := ["ircs","irc+insecure"]

/-- `checkNetwork` goes on with a URL that has nothing but a scheme and a host. -/
def bare (u : URL) : Bool := !u.hasUser && u.rawQuery = "" && u.fragment = "" && u.path = ""

/-- What is asked of `url.Parse` and `net.SplitHostPort`. -/
structure ReadsURLs (env : Env) : Prop where
  split : env.splitHostPort = HostPort.splitHostPort
  scheme : ∀ {scheme rest u}, scheme ∈ hostSchemes → env.parseURL (scheme ++ "://" ++ rest) = .ok u → u.scheme = scheme
  host : ∀ {scheme rest u}, scheme ∈ hostSchemes → env.parseURL (scheme ++ "://" ++ rest) = .ok u → bare u = true →
    verbatim rest = true → u.host = rest
  shorter : ∀ {scheme rest u}, scheme ∈ hostSchemes → env.parseURL (scheme ++ "://" ++ rest) = .ok u → bare u = true →
    verbatim rest = false → u.host.length < rest.length
  inner : ∀ {text u}, Strings.contains text "://" = true → env.parseURL text = .ok u → u.host.length < text.length

/-- A parser that refuses what it does not leave as it is. -/
def plainURL (text : String) : Except String URL :=
  match Strings.cutAt "://".toList text.toList with
  | some (scheme,rest) =>
    if verbatim (String.ofList rest) then .ok ⟨String.ofList scheme,String.ofList rest,"","","",false⟩
    else .error "invalid character in host name"
  | none => .error "missing protocol scheme"

/-- The attributes that a client can change, but for the password. -/
def attrKeys : List String := ["name","nickname","username","realname","host","port","tls"]

/-- The attributes of a command, each with a value. -/
structure Attributes (attrs : Tags) : Prop where
  keys : ∀ kv ∈ attrs, kv.1 ∈ attrKeys
  nodup : (attrs.map Prod.fst).Nodup
  values : ∀ kv ∈ attrs, kv.2 ≠ ""

/-- The attributes of a network are replaced by those of a command, and the others stay. -/
def TakesEffect (env : Env) (user : Database.User) (attrs : Tags) (net net' : Net) : Prop :=
  ∀ key, key ≠ "state" → key ≠ "error" →
    (getNetworkAttrs env user net').get key = (attrs.get key).or ((getNetworkAttrs env user net).get key)

/-- A host and a port that are read back from an address. -/
structure ReadBack (attrs : Tags) : Prop where
  tls : attrs.get "tls" = some "0" ∨
    (attrs.get "tls" = some "1" ∧ Strings.contains (networkAddrFromAttrs attrs) "://" = false)
  verbatim : ∀ key, key = "host" ∨ key = "port" → verbatim ((attrs.get key).getD "") = true
  /-- Without a port, the host has none inside. -/
  host : attrs.get "port" = none → HostPort.splitHostPort ((attrs.get "host").getD "") = none
  port : ∀ port, attrs.get "port" = some port →
    port ≠ "" ∧ HostPort.Plain ((attrs.get "host").getD "").toList ∧ HostPort.Plain port.toList

/-- When a change takes effect as asked. -/
structure Apt (env : Env) (user : Database.User) (record : Network) (attrs : Tags) : Prop where
  address : (attrs.any fun kv => addrKey kv.1) = true → ReadBack (addrAttrs env record attrs)
  /-- A network without a name is shown with its address. -/
  name : (attrs.any fun kv => addrKey kv.1) = true → attrs.get "name" = none → record.name = "" →
    networkAddrFromAttrs (addrAttrs env record attrs) = record.addr
  /-- The username is not kept as a nick. -/
  nick : (attrs.get "nickname").getD record.nick = user.username → user.username = "" ∨ user.nick = "" ∨
    user.nick = user.username
  /-- A network without a real name is shown with its nick. -/
  realname : attrs.get "realname" = none → record.realname = "" → user.realname = "" → ∀ nick,
    attrs.get "nickname" = some nick → nick = Database.getNick user record.toNetwork

end Sake.ChangeNetwork
