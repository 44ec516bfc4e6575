import Sake.Lib.Runs

namespace Sake

/-- Message tags, one entry for each key. -/
abbrev Tags := List (String × String)

namespace Tags

def get (tags : Tags) (key : String) : Option String :=
  (tags.find? (fun kv => kv.1 == key)).map Prod.snd

def del (tags : Tags) (key : String) : Tags :=
  tags.filter (fun kv => kv.1 != key)

def set (tags : Tags) (key value : String) : Tags :=
  (key,value) :: tags.del key

end Tags

/-- The source of a message, `name!user@host`. -/
structure Prefix where
  name : String
  user : String
  host : String
deriving Repr, DecidableEq

/-- The user and host parts are left out when they are empty. -/
def Prefix.string (p : Prefix) : String :=
  p.name ++ (if p.user = "" then "" else "!" ++ p.user) ++
    (if p.host = "" then "" else "@" ++ p.host)

structure Message where
  tags : Tags
  msgPrefix : Option Prefix
  command : String
  params : List String
deriving Repr, DecidableEq

/-- `PRIVMSG` and `NOTICE`, the messages that carry a text. -/
def Message.isText (msg : Message) : Bool :=
  msg.command == "PRIVMSG" || msg.command == "NOTICE"

/-- A parameter, empty where there is none. -/
def Message.param (msg : Message) (i : Nat) : String := msg.params.getD i ""

end Sake
