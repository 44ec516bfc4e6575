import Sake.Irc

namespace Sake.Database

/-- The record of a user. -/
structure User where
  id : Int
  username : String
  /-- Hashed; empty when password authentication is off. -/
  password : String
  nick : String
  realname : String
  admin : Bool
  enabled : Bool
  downstreamInteractedAt : Int
  maxNetworks : Int
  sourceIP : String
  saslExternalCert : List UInt8
  saslExternalKey : List UInt8
deriving Repr, DecidableEq

def newUser (username : String) : User where
  id := 0
  username
  password := ""
  nick := ""
  realname := ""
  admin := false
  enabled := true
  downstreamInteractedAt := 0
  maxNetworks := -1
  sourceIP := ""
  saslExternalCert := []
  saslExternalKey := []

/-- The part of a network's record that its history and our nick depend on. -/
structure Network where
  id : Int
  name : String
  addr : String
  nick : String
deriving Repr, DecidableEq

def Network.getName (net : Network) : String := if net.name ≠ "" then net.name else net.addr

def getNick (user : User) (net : Network) : String :=
  if net.nick ≠ "" then net.nick
  else if user.nick ≠ "" then user.nick
  else user.username

end Sake.Database
