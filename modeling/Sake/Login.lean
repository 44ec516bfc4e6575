import Sake.Database

namespace Sake.Login
open Sake.Database

/-- `bcrypt.DefaultCost`. -/
def defaultCost : Nat := 10

/-- The bcrypt package: a hash remembers the cost it was made with. -/
structure Bcrypt where
  compareHashAndPassword : (hash password : String) → Bool
  cost : (hash : String) → Option Nat
  /-- At the default cost, with a salt; fails for passwords that are too long. -/
  generateFromPassword : (password : String) → (salt : Nat) → Option String
  cost_generated : ∀ password salt hash, generateFromPassword password salt = some hash →
    cost hash = some defaultCost

inductive CheckError
  | passwordAuthDisabled
  | wrongPassword
  | invalidPasswordCost
  | hashFailed
  deriving Repr, DecidableEq

def setPassword (b : Bcrypt) (u : User) (password : String) (salt : Nat) : Except CheckError User :=
  match b.generateFromPassword password salt with
  | none => .error .hashFailed
  | some hashed => .ok { u with password := hashed }

/-- The record after the check, and whether its hash was upgraded. -/
def checkPassword (b : Bcrypt) (u : User) (password : String) (salt : Nat) :
    Except CheckError (User × Bool) :=
  if u.password = "" then .error .passwordAuthDisabled
  else if b.compareHashAndPassword u.password password = false then .error .wrongPassword
  else
    match b.cost u.password with
    | none => .error .invalidPasswordCost
    | some passCost =>
      if passCost < defaultCost then
        match setPassword b u password salt with
        | .error e => .error e
        | .ok u => .ok (u,true)
      else .ok (u,false)

/-- What `StoreUser` writes to the row of a known user: everything but the id and the username. -/
def storeUser (row user : User) : User := { user with id := row.id, username := row.username }

/-- The columns that `StoreUser` writes. -/
inductive Field
  | password
  | nick
  | realname
  | admin
  | enabled
  | downstreamInteractedAt
  | maxNetworks
  | sourceIP
  | saslExternal
  deriving Repr, DecidableEq

def Field.all : List Field :=
  [.password,.nick,.realname,.admin,.enabled,.downstreamInteractedAt,.maxNetworks,.sourceIP,
    .saslExternal]

inductive FieldValue
  | text (s : String)
  | flag (b : Bool)
  | number (n : Int)
  | keyPair (cert key : List UInt8)
  deriving Repr, DecidableEq

def Field.value (f : Field) (u : User) : FieldValue :=
  match f with
  | .password => .text u.password
  | .nick => .text u.nick
  | .realname => .text u.realname
  | .admin => .flag u.admin
  | .enabled => .flag u.enabled
  | .downstreamInteractedAt => .number u.downstreamInteractedAt
  | .maxNetworks => .number u.maxNetworks
  | .sourceIP => .text u.sourceIP
  | .saslExternal => .keyPair u.saslExternalCert u.saslExternalKey

/-- When a value was set: the update that set it, and how often logins have rehashed it since. -/
structure Age where
  update : Nat
  rehash : Nat
  deriving Repr, DecidableEq

def Age.older (a b : Age) : Bool := a.update < b.update || a.update = b.update && a.rehash < b.rehash

/-- A record with the ages of its values. -/
structure Copy where
  user : User
  age : Field → Age

/-- Writing the copy puts an older value in the place of a newer one. -/
def Copy.regresses (c row : Copy) : Bool :=
  Field.all.any fun f => (c.age f).older (row.age f) && f.value c.user ≠ f.value row.user

/-- A login between its GetUser and its end; `upgraded` once the hash in its copy is new. -/
structure Attempt where
  id : Nat
  password : String
  copy : Copy
  upgraded : Bool

/-- The row of one user, the user's goroutine with the record it keeps in memory and the record
it is about to store, and the logins on other goroutines. -/
structure State where
  row : Copy
  memory : Copy
  saving : Option User
  attempts : List Attempt
  updates : Nat
  /-- Whether a step has stored an older value in the place of a newer one. -/
  regressed : Bool

/-- The database steps of `AuthPlain` and `updateUser`, and what they do in between. -/
inductive Action
  | read (login : Nat) (password : String)
  | check (login : Nat) (salt : Nat)
  | store (login : Nat) (succeeds : Bool)
  | copy (update : User → Option User)
  | save (succeeds : Bool)

def State.attempt (s : State) (login : Nat) : Option Attempt := s.attempts.find? fun a => a.id = login

def State.drop (s : State) (login : Nat) : State :=
  { s with attempts := s.attempts.filter fun a => a.id ≠ login }

/-- One write of the row. -/
def State.write (s : State) (c : Copy) : State :=
  { s with
    row := { c with user := storeUser s.row.user c.user }
    regressed := s.regressed || c.regresses s.row }

def Copy.rehashed (c : Copy) (user : User) : Copy where
  user := user
  age := fun f => if f = .password then ⟨(c.age f).update,(c.age f).rehash + 1⟩ else c.age f

/-- The record that an update stores: what it changes is new, the rest is as old as in memory. -/
def Copy.updated (c : Copy) (user : User) (update : Nat) : Copy where
  user := user
  age := fun f => if f.value user = f.value c.user then c.age f else ⟨update,0⟩

def step (b : Bcrypt) (s : State) : Action → Option State
  | .read login password =>
    match s.attempt login with
    | some _ => none
    | none => some { s with attempts := s.attempts ++ [⟨login,password,s.row,false⟩] }
  | .check login salt =>
    match s.attempt login with
    | none => none
    | some a =>
      if a.upgraded then none
      else
        match checkPassword b a.copy.user a.password salt with
        | .ok (user,true) =>
          some { s.drop login with
            attempts := (s.drop login).attempts ++ [{ a with copy := a.copy.rehashed user, upgraded := true }] }
        | .ok (_,false) | .error _ => some (s.drop login)
  | .store login succeeds =>
    match s.attempt login with
    | none => none
    | some a =>
      if a.upgraded = false then none
      else if succeeds then some ((s.drop login).write a.copy)
      else some (s.drop login)
  | .copy update =>
    match s.saving with
    | some _ => none
    | none =>
      match update s.memory.user with
      | none => some s
      | some record =>
        -- no update touches the id or the username
        some { s with saving := some (storeUser s.memory.user record) }
  | .save succeeds =>
    match s.saving with
    | none => none
    | some record =>
      if succeeds then
        let c := s.memory.updated record (s.updates + 1)
        some { s.write c with memory := c, saving := none, updates := s.updates + 1 }
      else some { s with saving := none }

/-- The user's goroutine starts with the row in memory. -/
def start (user : User) : State where
  row := ⟨user,fun _ => ⟨0,0⟩⟩
  memory := ⟨user,fun _ => ⟨0,0⟩⟩
  saving := none
  attempts := []
  updates := 0
  regressed := false

/-- The login has upgraded the hash it read, or is going to. -/
def Attempt.upgrades (b : Bcrypt) (a : Attempt) : Bool :=
  a.upgraded || b.compareHashAndPassword a.copy.user.password a.password &&
    (b.cost a.copy.user.password).any (· < defaultCost)

/-- An update is saved while no login is about to upgrade a hash, and it sets the password or the
one in memory is that of the row. -/
def Prudent (b : Bcrypt) (s : State) : Action → Prop
  | .save _ => (∀ a ∈ s.attempts, a.upgrades b = false) ∧
      ∀ record ∈ s.saving, record.password ≠ s.memory.user.password ∨
        s.memory.user.password = s.row.user.password
  | _ => True

end Sake.Login
