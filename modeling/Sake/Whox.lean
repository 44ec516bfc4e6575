import Sake.Handlers.Replies

namespace Sake.Whox
open Upstream (whoxFields)

@[ext] structure WHOXInfo where
  token : String := ""
  channel : String := ""
  username : String := ""
  hostname : String := ""
  server : String := ""
  nickname : String := ""
  flags : String := ""
  account : String := ""
  realname : String := ""
deriving DecidableEq

/-- A hostname must not be read as a trailing parameter. -/
def shownHostname (hostname : String) : String :=
  if Strings.hasPrefix hostname ":" then "0" ++ hostname else hostname

def shownChannel (channel : String) : String := if channel = "" then "*" else channel

def shownAccount (account : String) : String :=
  if account ≠ "" ∧ account ≠ "*" then account else "0"

def WHOXInfo.get (info : WHOXInfo) : Char → String
  | 't' => info.token
  | 'c' => shownChannel info.channel
  | 'u' => info.username
  | 'i' => "255.255.255.255"
  | 'h' => shownHostname info.hostname
  | 's' => info.server
  | 'n' => info.nickname
  | 'f' => info.flags
  | 'd' => "0"
  | 'l' => "0"
  | 'a' => shownAccount info.account
  | 'o' => "0"
  | 'r' => info.realname
  | _ => ""

def WHOXInfo.set (info : WHOXInfo) (k : Char) (v : String) : WHOXInfo :=
  match k with
  | 't' => { info with token := v }
  | 'c' => { info with channel := v }
  | 'u' => { info with username := v }
  | 'h' => { info with hostname := v }
  | 's' => { info with server := v }
  | 'n' => { info with nickname := v }
  | 'f' => { info with flags := v }
  | 'a' => { info with account := v }
  | 'r' => { info with realname := v }
  | _ => info

def generateWHOXReply (fields : String) (info : WHOXInfo) : Message :=
  if fields = "" then
    ⟨[],none,"352",["*",shownChannel info.channel,info.username,shownHostname info.hostname,info.server,
      info.nickname,info.flags,"0 " ++ info.realname]⟩
  else ⟨[],none,"354","*" :: (whoxFields.filter fields.toList.contains).map info.get⟩

def parseValues : List Char → List String → WHOXInfo → Except String WHOXInfo
  | [], _, info => .ok info
  | field :: _, [], _ => .error ("invalid RPL_WHOSPCRPL: missing value for field " ++ field.toString.quote)
  | field :: fields, v :: values, info => parseValues fields values (info.set field v)

def parseWHOXReply (msg : Message) (fields : String) : Except String WHOXInfo :=
  if msg.command ≠ "354" then .error ("invalid WHOX reply " ++ msg.command.quote)
  else match msg.params with
    | [] => .error "invalid RPL_WHOSPCRPL: no params"
    | _ :: values => parseValues (whoxFields.filter fields.toList.contains) values {}

/-- What is asked for, as a reply shows it. -/
def WHOXInfo.restrict (info : WHOXInfo) (fields : String) : WHOXInfo :=
  let asked (k : Char) (v : String) := if fields.toList.contains k then v else ""
  { token := asked 't' info.token
    channel := asked 'c' (shownChannel info.channel)
    username := asked 'u' info.username
    hostname := asked 'h' (shownHostname info.hostname)
    server := asked 's' info.server
    nickname := asked 'n' info.nickname
    flags := asked 'f' info.flags
    account := asked 'a' (shownAccount info.account)
    realname := asked 'r' info.realname }

end Sake.Whox
