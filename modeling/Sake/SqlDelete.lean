import Sake.Lib.SqlDelete
import Sake.Schema

namespace Sake.SqlDelete
open Sake.Lib Sake.Lib.Sql Sake.Schema

/-- Equality in a WHERE clause, where NULL equals nothing. -/
def eq (a b : Value) : Bool := a ≠ .null && a = b

namespace Sqlite

/-- The tables, and the entries of the full text index: rowid and text. -/
structure Store where
  db : State Table Col IndexName
  fts : List (Value × Value)

def ftsEntry (r : Row Col) : Value × Value := (r .id,r .text)

/-- What the trigger of this name does for one deleted message. -/
def messageFTSDelete (fts : List (Value × Value)) (old : Row Col) : List (Value × Value) :=
  fts.filter fun e => e ≠ ftsEntry old

/-- One DELETE statement with the trigger after it. -/
def Store.delete (s : Store) (d : Delete Table Col) : Option Store :=
  (s.db.exec d.stmt).map fun db => {
    db := db
    fts :=
      if d.table = .message then
        ((s.db.rows .message).filter (d.condition s.db.rows)).foldl messageFTSDelete s.fts
      else s.fts }

def byColumn (table : Table) (c : Col) (id : Int) : Delete Table Col where
  table := table
  condition := fun _ r => eq (r c) (.int id)

def messagesOfNetwork (id : Int) : Delete Table Col where
  table := .message
  condition := fun rows r =>
    (rows .messageTarget).any fun t => eq (t .network) (.int id) && eq (r .target) (t .id)

/-- Rows whose id is found by the join of their table with the networks of a user. -/
def ofUserNetworks (table : Table) (user : Int) : Delete Table Col where
  table := table
  condition := fun rows r =>
    (rows table).any fun c => (rows .network).any fun n =>
      eq (c .network) (n .id) && eq (n .user) (.int user) && eq (r .id) (c .id)

def messagesOfUser (user : Int) : Delete Table Col where
  table := .message
  condition := fun rows r =>
    (rows .message).any fun m => (rows .messageTarget).any fun t => (rows .network).any fun n =>
      eq (m .target) (t .id) && eq (t .network) (n .id) && eq (n .user) (.int user) &&
        eq (r .id) (m .id)

def deleteNetworkStmts (id : Int) : List (Delete Table Col) := [
  messagesOfNetwork id,
  byColumn .messageTarget .network id,
  byColumn .webPushSubscription .network id,
  byColumn .deliveryReceipt .network id,
  byColumn .readReceipt .network id,
  byColumn .channel .network id,
  byColumn .network .id id]

def deleteUserStmts (id : Int) : List (Delete Table Col) := [
  ofUserNetworks .deliveryReceipt id,
  ofUserNetworks .readReceipt id,
  messagesOfUser id,
  ofUserNetworks .messageTarget id,
  byColumn .webPushSubscription .user id,
  byColumn .deviceCertificate .user id,
  ofUserNetworks .channel id,
  byColumn .network .user id,
  byColumn .user .id id]

/-- `none` is the error of a statement; the deferred rollback then leaves the store as it was. -/
def deleteNetwork (s : Store) (id : Int) : Option Store :=
  Runs.run Store.delete s (deleteNetworkStmts id)

def deleteUser (s : Store) (id : Int) : Option Store :=
  Runs.run Store.delete s (deleteUserStmts id)

end Sqlite

namespace Postgres

def deleteNetwork (db : State Table Col IndexName) (id : Int) : Option (State Table Col IndexName) :=
  db.exec (.delete .network fun _ r => eq (r .id) (.int id))

def deleteUser (db : State Table Col IndexName) (id : Int) : Option (State Table Col IndexName) :=
  db.exec (.delete .user fun _ r => eq (r .id) (.int id))

end Postgres

/-- A store of this schema that meets its constraints, with the index up to date. -/
structure SqliteDB extends Sqlite.Store where
  schema_eq : db.schema = Schema.Sqlite.schema
  sound : db.Sound
  indexed : fts = (db.rows .message).map Sqlite.ftsEntry

structure PostgresDB extends State Table Col IndexName where
  schema_eq : schema = Schema.Postgres.schema
  sound : toState.Sound

/-- The rows that depend on those of `table` that meet `p`, along the references of the schema. -/
abbrev Dependent (rows : Rows Table Col) (table : Table) (p : Row Col → Prop) :
    Table → Row Col → Prop :=
  Depends Schema.Sqlite.schema.links rows table p

open Classical in
/-- The delete succeeds, takes the rows of `table` that meet `p` with all that depends on them and
nothing else, and reaches the rows that the other backend reaches. -/
def DeletesDependents (s : SqliteDB) (result : Option Sqlite.Store) (table : Table)
    (p : Row Col → Prop)
    (other : State Table Col IndexName → Option (State Table Col IndexName)) : Prop :=
  ∃ s' : SqliteDB, result = some s'.toStore ∧
    (∀ t, s'.db.rows t = (s.db.rows t).filter fun r => ¬ Dependent s.db.rows table p t r) ∧
    ∀ pg : PostgresDB, pg.rows = s.db.rows →
      ∃ pg' : PostgresDB, other pg.toState = some pg'.toState ∧ pg'.rows = s'.db.rows

/-- The network has no ignore list. -/
def NothingIgnored (rows : Rows Table Col) (id : Int) : Prop :=
  ∀ r ∈ rows .ignore, r .network ≠ .int id

/-- The networks of the user have no ignore list and no push subscriptions of other users. -/
def NothingForeign (rows : Rows Table Col) (user : Int) : Prop :=
  ∀ n ∈ rows .network, n .user = .int user →
    (∀ r ∈ rows .ignore, r .network ≠ n .id) ∧
    ∀ w ∈ rows .webPushSubscription, w .network = n .id → w .user = .int user

end Sake.SqlDelete
