import Sake.Delivery
import Sake.DeviceCerts

namespace Sake.Networks
open Lib
open Delivery (MessageFilter)

/-- The SASL mechanism of a network. The program sets the first three only. -/
inductive Mechanism
  | none
  | plain
  | external
  | other (name : String)
  deriving Repr, DecidableEq

/-- How we log in to a network. A blob that is not there is empty. -/
structure SASL where
  mechanism : Mechanism
  plainUsername : String
  plainPassword : String
  externalCert : List UInt8
  externalKey : List UInt8
  deriving Repr, DecidableEq

/-- The record of a network. -/
structure Network extends Database.Network where
  username : String
  realname : String
  pass : String
  connectCommands : List String
  certFP : String
  sasl : SASL
  autoAway : Bool
  enabled : Bool
  sourceIP : String
  tlsInsecure : Bool
  noDefaultCert : Bool
  deriving Repr, DecidableEq

def newNetwork (addr : String) : Network where
  id := 0
  name := ""
  addr
  nick := ""
  username := ""
  realname := ""
  pass := ""
  connectCommands := []
  certFP := ""
  sasl := ⟨.none,"","",[],[]⟩
  autoAway := false
  enabled := true
  sourceIP := ""
  tlsInsecure := false
  noDefaultCert := false

def getRealname (user : Database.User) (net : Network) : String :=
  if net.realname ≠ "" then net.realname
  else if user.realname ≠ "" then user.realname
  else Database.getNick user net.toNetwork

/-- The record of a channel. The delay is in nanoseconds. -/
structure Channel where
  id : Int
  name : String
  key : String
  detached : Bool
  detachedInternalMsgID : String
  relayDetached : MessageFilter
  reattachOn : MessageFilter
  detachAfter : Int
  detachOn : MessageFilter
  deriving Repr, DecidableEq

/-- A channel with the settings that nobody has chosen yet. -/
def newChannel (name key : String) : Channel where
  id := 0
  name
  key
  detached := false
  detachedInternalMsgID := ""
  relayDetached := .default
  reattachOn := .default
  detachAfter := 0
  detachOn := .default

structure Ignore where
  id : Int
  mask : String
  createdAt : Int
  deriving Repr, DecidableEq

/-- `strings.Split` at the ends of lines. -/
def splitLines : List Char → List (List Char)
  | [] => [[]]
  | '\r' :: '\n' :: rest => [] :: splitLines rest
  | c :: rest =>
    match splitLines rest with
    | [] => [[c]]
    | line :: lines => (c :: line) :: lines

/-- The commands as the column holds them and as they are read back. -/
def storedCommands (commands : List String) : List String :=
  let joined := (commands.map String.toList).intersperse ['\r','\n'] |>.flatten
  if joined.isEmpty then [] else (splitLines joined).map String.ofList

/-- What `ListNetworks` returns for a record that `StoreNetwork` was given: the credentials are
kept for the PLAIN mechanism only. -/
def Network.stored (net : Network) : Network :=
  { net with
    connectCommands := storedCommands net.connectCommands
    sasl :=
      match net.sasl.mechanism with
      | .plain => net.sasl
      | _ => { net.sasl with plainUsername := "", plainPassword := "" } }

def second : Int := 10 ^ 9

/-- The delay in seconds, rounded up. -/
def wholeSeconds (d : Int) : Int := -(-d / second)

def Channel.stored (ch : Channel) : Channel :=
  { ch with detachAfter := wholeSeconds ch.detachAfter * second }

/-- A row of Network, with the user that it belongs to. -/
structure NetworkRow where
  user : Int
  net : Network
  deriving Repr, DecidableEq

/-- The names of a user's networks are unique. NULL, which is no name, is equal to nothing. -/
def NetworkRow.key (r : NetworkRow) : Int × (Int ⊕ String) :=
  (r.user,if r.net.name = "" then .inl r.net.id else .inr r.net.name)

structure ChannelRow where
  network : Int
  ch : Channel
  deriving Repr, DecidableEq

structure IgnoreRow where
  network : Int
  ignore : Ignore
  deriving Repr, DecidableEq

/-- The tables that the service commands write. -/
structure DB where
  users : Table Database.User.id Database.User.username
  networks : Table (fun r : NetworkRow => r.net.id) NetworkRow.key
  channels : Table (fun r : ChannelRow => r.ch.id) fun r => (r.network,r.ch.name)
  ignores : Table (fun r : IgnoreRow => r.ignore.id) fun r => (r.network,r.ignore.mask)
  certs : DeviceCerts.DeviceCertificates

/-- The text of a statement that breaks a constraint. -/
def constraintFailed (table : String) : String := "UNIQUE constraint failed: " ++ table

def foreignKeyFailed : String := "FOREIGN KEY constraint failed"

namespace DB

def listNetworks (db : DB) (userID : Int) : List Network :=
  (db.networks.rows.filter fun r => r.user = userID).map NetworkRow.net

def listChannels (db : DB) (networkID : Int) : List Channel :=
  (db.channels.rows.filter fun r => r.network = networkID).map ChannelRow.ch

def listIgnores (db : DB) (networkID : Int) : List Ignore :=
  (db.ignores.rows.filter fun r => r.network = networkID).map IgnoreRow.ignore

/-- The columns of User that an UPDATE sets. -/
def setUser (user r : Database.User) : Database.User := { user with id := r.id, username := r.username }

theorem setUser_id (user r : Database.User) : (setUser user r).id = r.id := rfl

theorem setUser_username (user r : Database.User) : (setUser user r).username = r.username := rfl

/-- `StoreUser`: the id of the record, new for a new row. -/
def storeUser (db : DB) (newID : Int) (user : Database.User) : Except String (DB × Int) :=
  if user.id = 0 then
    if hid : db.users.NewID newID then
      if hname : db.users.find? user.username = none then
        .ok ({ db with users := db.users.insert { user with id := newID } hid.1 hid.2 hname },newID)
      else .error (constraintFailed "User.username")
    else .error (constraintFailed "User.id")
  else
    match db.users.find? user.username with
    | none => .ok (db,user.id)
    | some row =>
      .ok ({ db with
        users := db.users.modify row.id (setUser user) (setUser_id user)
          (db.users.free_of_keeps fun r _ _ => setUser_username user r) },user.id)

def setNetwork (net : Network) (r : NetworkRow) : NetworkRow :=
  { r with net := { net.stored with id := r.net.id } }

theorem setNetwork_id (net : Network) (r : NetworkRow) : (setNetwork net r).net.id = r.net.id := rfl

/-- `StoreNetwork`. -/
def storeNetwork (db : DB) (newID userID : Int) (net : Network) : Except String (DB × Int) :=
  match net.sasl.mechanism with
  | .other name => .error ("soju: cannot store network: unsupported SASL mechanism " ++ name.quote)
  | _ =>
    if net.id = 0 then
      if hid : db.networks.NewID newID then
        if hkey : db.networks.find? (NetworkRow.mk userID { net.stored with id := newID }).key = none then
          .ok ({ db with
            networks := db.networks.insert ⟨userID,{ net.stored with id := newID }⟩ hid.1 hid.2 hkey },newID)
        else .error (constraintFailed "Network.user, Network.name")
      else .error (constraintFailed "Network.id")
    else if hfree : ∀ r ∈ db.networks.rows, r.net.id = net.id →
        ∀ r' ∈ db.networks.rows, r'.net.id ≠ net.id → r'.key ≠ (setNetwork net r).key then
      .ok ({ db with
        networks := db.networks.modify net.id (setNetwork net) (setNetwork_id net) hfree },net.id)
    else .error (constraintFailed "Network.user, Network.name")

/-- `DeleteNetwork`: the rows of Ignore are left, and refer to the network. -/
def deleteNetwork (db : DB) (id : Int) : Except String DB :=
  if db.ignores.rows.any fun r => r.network = id then .error foreignKeyFailed
  else .ok { db with
    networks := db.networks.delete fun r => r.net.id = id
    channels := db.channels.delete fun r => r.network = id }

def setChannel (networkID : Int) (ch : Channel) (r : ChannelRow) : ChannelRow :=
  ⟨networkID,{ ch.stored with id := r.ch.id }⟩

theorem setChannel_id (networkID : Int) (ch : Channel) (r : ChannelRow) :
    (setChannel networkID ch r).ch.id = r.ch.id := rfl

/-- `StoreChannel`. -/
def storeChannel (db : DB) (newID networkID : Int) (ch : Channel) : Except String (DB × Int) :=
  if ch.id = 0 then
    if hid : db.channels.NewID newID then
      if hkey : db.channels.find? (networkID,ch.name) = none then
        .ok ({ db with
          channels := db.channels.insert ⟨networkID,{ ch.stored with id := newID }⟩ hid.1 hid.2 hkey },newID)
      else .error (constraintFailed "Channel.network, Channel.name")
    else .error (constraintFailed "Channel.id")
  else if hfree : ∀ r ∈ db.channels.rows, r.ch.id ≠ ch.id → (r.network,r.ch.name) ≠ (networkID,ch.name) then
    .ok ({ db with
      channels := db.channels.modify ch.id (setChannel networkID ch) (setChannel_id networkID ch)
        fun _ _ _ => hfree },ch.id)
  else .error (constraintFailed "Channel.network, Channel.name")

def deleteChannel (db : DB) (id : Int) : DB :=
  { db with channels := db.channels.delete fun r => r.ch.id = id }

/-- `StoreIgnore`, which only inserts. -/
def storeIgnore (db : DB) (newID networkID : Int) (ignore : Ignore) : Except String (DB × Int) :=
  if hid : db.ignores.NewID newID then
    if hkey : db.ignores.find? (networkID,ignore.mask) = none then
      .ok ({ db with
        ignores := db.ignores.insert ⟨networkID,{ ignore with id := newID }⟩ hid.1 hid.2 hkey },newID)
    else .error (constraintFailed "Ignore.network, Ignore.mask")
  else .error (constraintFailed "Ignore.id")

def deleteIgnore (db : DB) (id : Int) : DB :=
  { db with ignores := db.ignores.delete fun r => r.ignore.id = id }

end DB

end Sake.Networks
