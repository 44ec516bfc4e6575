import Sake.Schema

namespace Sake.Migrations
open Sake.Lib Sake.Lib.Sql Sake.Schema

abbrev Statement := Stmt Table Col IndexName

/-- The tables of the oldest schema version, as the tests keep them. -/
def v0Schema : Schema Table Col IndexName where
  tables := [
    { name := .user
      key := .rowid
      columns := [(varchar 255 .username).required,varchar 255 .password]
      unique := [[.username]] },
    { name := .network
      key := .id
      columns := [
        integer .id,
        varchar 255 .name,
        (varchar 255 .user).required,
        (varchar 255 .addr).required,
        (varchar 255 .nick).required,
        varchar 255 .username,
        varchar 255 .realname,
        varchar 255 .pass,
        varchar 255 .saslMechanism,
        varchar 255 .saslPlainUsername,
        varchar 255 .saslPlainPassword]
      unique := [[.user,.addr,.nick],[.user,.name]] },
    { name := .channel
      key := .id
      columns := [
        integer .id,
        (integer .network).required,
        (varchar 255 .name).required,
        varchar 255 .key]
      foreignKeys := [references .network .network]
      unique := [[.network,.name]] }]
  indexes := []
  searches := []

def addColumn (table : Table) (c : Column Col) : Statement := .addColumn table c none

def TableDef.row (d : TableDef Table Col) (values : List Value) : Row Col :=
  Row.of (d.columns.map (·.name)) values

def userNew : TableDef Table Col where
  name := .userNew
  key := .id
  columns := [
    integer .id,
    (varchar 255 .username).required,
    varchar 255 .password,
    (integer .admin).required.defaulting (.int 0)]
  unique := [[.username]]

def selectUsers (rows : Rows Table Col) : List (Row Col) :=
  (rows .user).map fun r => TableDef.row userNew [r .rowid,r .username,r .password,r .admin]

def networkNew7 : TableDef Table Col where
  name := .networkNew
  key := .id
  columns := [
    integer .id,
    varchar 255 .name,
    (integer .user).required,
    (varchar 255 .addr).required,
    (varchar 255 .nick).required,
    varchar 255 .username,
    varchar 255 .realname,
    varchar 255 .pass,
    varchar 1023 .connectCommands,
    varchar 255 .saslMechanism,
    varchar 255 .saslPlainUsername,
    varchar 255 .saslPlainPassword,
    blob .saslExternalCert,
    blob .saslExternalKey]
  foreignKeys := [references .user .user]
  unique := [[.user,.addr,.nick],[.user,.name]]

/-- The condition of the join: NULL matches nothing. -/
def ownedBy (n u : Row Col) : Bool := n .user ≠ .null && n .user = u .username

def joinedRow (n u : Row Col) : Row Col :=
  TableDef.row networkNew7 [n .id,n .name,u .id,n .addr,n .nick,n .username,n .realname,
    n .pass,n .connectCommands,n .saslMechanism,n .saslPlainUsername,n .saslPlainPassword,
    n .saslExternalCert,n .saslExternalKey]

def joinUsers (rows : Rows Table Col) : List (Row Col) :=
  (rows .network).flatMap fun n => ((rows .user).filter (ownedBy n)).map (joinedRow n)

def networkNew13 : TableDef Table Col where
  name := .networkNew
  key := .id
  columns := [
    integer .id,
    text .name,
    (integer .user).required,
    (text .addr).required,
    text .nick,
    text .username,
    text .realname,
    text .pass,
    text .connectCommands,
    text .saslMechanism,
    text .saslPlainUsername,
    text .saslPlainPassword,
    blob .saslExternalCert,
    blob .saslExternalKey,
    (integer .enabled).required.defaulting (.int 1)]
  foreignKeys := [references .user .user]
  unique := [[.user,.addr,.nick],[.user,.name]]

def selectNetworks13 (rows : Rows Table Col) : List (Row Col) :=
  (rows .network).map fun n => TableDef.row networkNew13 [n .id,n .name,n .user,n .addr,n .nick,
    n .username,n .realname,n .pass,n .connectCommands,n .saslMechanism,n .saslPlainUsername,
    n .saslPlainPassword,n .saslExternalCert,n .saslExternalKey,n .enabled]

def networkNew31 : TableDef Table Col where
  name := .networkNew
  key := .id
  columns := [
    integer .id,
    text .name,
    (integer .user).required,
    (text .addr).required,
    text .nick,
    text .username,
    text .realname,
    text .certfp,
    text .pass,
    text .connectCommands,
    text .saslMechanism,
    text .saslPlainUsername,
    text .saslPlainPassword,
    blob .saslExternalCert,
    blob .saslExternalKey,
    (integer .autoAway).required.defaulting (.int 1),
    (integer .enabled).required.defaulting (.int 1),
    text .sourceIP,
    (integer .tlsInsecure).required.defaulting (.int 0)]
  foreignKeys := [references .user .user]
  unique := [[.user,.name]]

def selectNetworks31 (rows : Rows Table Col) : List (Row Col) :=
  (rows .network).map fun n => TableDef.row networkNew31 [n .id,n .name,n .user,n .addr,n .nick,
    n .username,n .realname,n .certfp,n .pass,n .connectCommands,n .saslMechanism,
    n .saslPlainUsername,n .saslPlainPassword,n .saslExternalCert,n .saslExternalKey,
    n .autoAway,n .enabled,.null,.int 0]

/-- The scalar subquery for the user of a subscription's network. -/
def networkUser (rows : Rows Table Col) (r : Row Col) : Value :=
  match (rows .network).find? fun n => n .id ≠ .null && n .id = r .network with
  | some n => n .user
  | none => .null

def deliveryReceipt9 : TableDef Table Col where
  name := .deliveryReceipt
  key := .id
  columns := [
    integer .id,
    (integer .network).required,
    (varchar 255 .target).required,
    varchar 255 .client,
    (varchar 255 .internalMsgid).required]
  foreignKeys := [references .network .network]
  unique := [[.network,.target,.client]]

def webPushSubscription15 : TableDef Table Col where
  name := .webPushSubscription
  key := .id
  columns := [
    integer .id,
    (text .createdAt).required,
    (text .updatedAt).required,
    integer .network,
    (text .endpoint).required,
    text .keyVapid,
    text .keyAuth,
    text .keyP256dh]
  foreignKeys := [references .network .network]
  unique := [[.network,.endpoint]]

def messageTarget23 : TableDef Table Col where
  name := .messageTarget
  key := .id
  columns := [
    integer .id,
    (integer .network).required,
    (text .target).required]
  foreignKeys := [references .network .network]
  unique := [[.network,.target]]

def deviceCertificate28 : TableDef Table Col where
  name := .deviceCertificate
  key := .id
  columns := [
    integer .id,
    (integer .user).required,
    (text .label).required,
    (blob .fingerprint).required,
    (text .lastUsed).required]
  foreignKeys := [references .user .user]
  unique := [[.fingerprint]]

/-- `sqliteMigrations`; `now` is what `strftime` gives. -/
def sqliteMigrations (now : String) : List (List Statement) := [
  [],
  [addColumn .network (varchar 1023 .connectCommands)],
  [addColumn .channel ((integer .detached).required.defaulting (.int 0))],
  [addColumn .network (blob .saslExternalCert)],
  [addColumn .network (blob .saslExternalKey)],
  [addColumn .user ((integer .admin).required.defaulting (.int 0))],
  rebuild .user userNew selectUsers,
  rebuild .network networkNew7 joinUsers,
  [addColumn .channel ((integer .relayDetached).required.defaulting (.int 0)),
    addColumn .channel ((integer .reattachOn).required.defaulting (.int 0)),
    addColumn .channel ((integer .detachAfter).required.defaulting (.int 0)),
    addColumn .channel ((integer .detachOn).required.defaulting (.int 0))],
  [.createTable deliveryReceipt9],
  [addColumn .channel (varchar 255 .detachedInternalMsgid)],
  [addColumn .network ((integer .enabled).required.defaulting (.int 1))],
  [addColumn .user (varchar 255 .realname)],
  rebuild .network networkNew13 selectNetworks13,
  [.createTable Sqlite.readReceiptTable],
  [.createTable Sqlite.webPushConfigTable,.createTable webPushSubscription15],
  [.addColumn .webPushSubscription (integer .user) (some (references .user .user)),
    .update .webPushSubscription .user networkUser],
  [addColumn .user (text .nick)],
  [addColumn .network ((integer .autoAway).required.defaulting (.int 1))],
  [addColumn .network (text .certfp)],
  [addColumn .user ((text .createdAt).required.defaulting (.text "")),
    .update .user .createdAt fun _ _ => .text now],
  [addColumn .user ((integer .enabled).required.defaulting (.int 1))],
  [addColumn .user (text .downstreamInteractedAt)],
  [.createTable Sqlite.messageTable,
    .createIndex ⟨.messageIndex,.message,[.target,.time]⟩,
    .createTable messageTarget23,
    .createSearch Sqlite.messageFTS],
  [addColumn .user ((integer .maxNetworks).required.defaulting (.int (-1)))],
  [addColumn .messageTarget ((integer .pinned).required.defaulting (.int 0)),
    addColumn .messageTarget ((integer .muted).required.defaulting (.int 0))],
  [.createIndex ⟨.networkUser,.network,[.user]⟩,
    .createIndex ⟨.channelNetwork,.channel,[.network]⟩,
    .createIndex ⟨.deliveryReceiptNetwork,.deliveryReceipt,[.network]⟩,
    .createIndex ⟨.readReceiptNetwork,.readReceipt,[.network]⟩,
    .createIndex ⟨.webPushSubscriptionUser,.webPushSubscription,[.user]⟩,
    .createIndex ⟨.webPushSubscriptionNetwork,.webPushSubscription,[.network]⟩,
    .createIndex ⟨.messageTarget,.message,[.target]⟩,
    .createIndex ⟨.messageTargetNetwork,.messageTarget,[.network]⟩],
  [addColumn .messageTarget ((integer .blocked).required.defaulting (.int 0))],
  [.createTable deviceCertificate28],
  [addColumn .deviceCertificate ((text .lastIP).required.defaulting (.text ""))],
  [addColumn .user (text .sourceIP)],
  rebuild .network networkNew31 selectNetworks31,
  [addColumn .user (blob .saslExternalCert),addColumn .user (blob .saslExternalKey)],
  [.createTable Sqlite.ignoreTable,.createIndex ⟨.ignoreNetwork,.ignore,[.network]⟩],
  [addColumn .network ((integer .noDefaultCert).required.defaulting (.int 0))]]

/-- The statements of `sqlite_schema.sql`. -/
def sqliteSchema : List Statement := [
  .createTable Sqlite.userTable,
  .createTable Sqlite.networkTable,
  .createIndex ⟨.networkUser,.network,[.user]⟩,
  .createTable Sqlite.channelTable,
  .createIndex ⟨.channelNetwork,.channel,[.network]⟩,
  .createTable Sqlite.ignoreTable,
  .createIndex ⟨.ignoreNetwork,.ignore,[.network]⟩,
  .createTable Sqlite.deviceCertificateTable,
  .createTable Sqlite.deliveryReceiptTable,
  .createIndex ⟨.deliveryReceiptNetwork,.deliveryReceipt,[.network]⟩,
  .createTable Sqlite.readReceiptTable,
  .createIndex ⟨.readReceiptNetwork,.readReceipt,[.network]⟩,
  .createTable Sqlite.webPushConfigTable,
  .createTable Sqlite.webPushSubscriptionTable,
  .createIndex ⟨.webPushSubscriptionUser,.webPushSubscription,[.user]⟩,
  .createIndex ⟨.webPushSubscriptionNetwork,.webPushSubscription,[.network]⟩,
  .createTable Sqlite.messageTable,
  .createIndex ⟨.messageIndex,.message,[.target,.time]⟩,
  .createIndex ⟨.messageTarget,.message,[.target]⟩,
  .createTable Sqlite.messageTargetTable,
  .createIndex ⟨.messageTargetNetwork,.messageTarget,[.network]⟩,
  .createSearch Sqlite.messageFTS]

/-- A database file with its `user_version`. -/
structure File where
  db : State Table Col IndexName
  version : Nat

inductive UpgradeError
  | olderThanSchema (soju schema : Nat)
  | initFailed
  | migrationFailed (i : Nat)
  deriving Repr, DecidableEq

/-- The migrations from number `i` on, inside the transaction. -/
def migrate (i : Nat) (db : State Table Col IndexName) :
    List (List Statement) → Except UpgradeError (State Table Col IndexName)
  | [] => .ok db
  | m :: ms =>
    match db.transaction m with
    | none => .error (.migrationFailed i)
    | some db => migrate (i + 1) db ms

/-- After an error the transaction is rolled back and the file stays as it was. -/
def upgrade (now : String) (f : File) : Except UpgradeError File :=
  let migrations := sqliteMigrations now
  if f.version = migrations.length then .ok f
  else if f.version > migrations.length then
    .error (.olderThanSchema migrations.length f.version)
  else if f.version = 0 then
    match f.db.transaction sqliteSchema with
    | none => .error .initFailed
    | some db => .ok ⟨db,migrations.length⟩
  else
    match migrate f.version f.db (migrations.drop f.version) with
    | .error e => .error e
    | .ok db => .ok ⟨db,migrations.length⟩

/-- A file without tables. -/
def emptyState : State Table Col IndexName := ⟨⟨[],[],[]⟩,fun _ => []⟩

/-- The schema of a version: the oldest one with the migrations before that number. -/
def schemaAt (now : String) (v : Nat) : Option (Schema Table Col IndexName) :=
  v0Schema.alters ((sqliteMigrations now).take v).flatten

/-- A database of a version, as the constraints of the version allow it. -/
structure AtVersion (now : String) (v : Nat) (db : State Table Col IndexName) : Prop where
  sound : db.Sound
  schema : schemaAt now v = some db.schema

/-- The networks that have an owner, with their values and the owner's id for their name. -/
def NetworksJoined (db db' : State Table Col IndexName) : Prop :=
  ∀ d ∈ db.schema.tables, d.name = .network →
    List.Forall₂
      (fun n n' => (∀ c ∈ d.columns.map (·.name), c ≠ .user → n' c = n c) ∧
        ∃ u ∈ db'.rows .user, n .user = u .username ∧ n' .user = u .id)
      ((db.rows .network).filter fun n => (db.rows .user).any (ownedBy n)) (db'.rows .network)

/-- What a declared type makes of the values. -/
def affinity : ColumnType → ColumnType
  | .varchar _ => .text
  | t => t

def shape (c : Column Col) : Col × ColumnType × Bool := (c.name,affinity c.type,c.notNull)

/-- The same tables up to the order of their columns, declared lengths and defaults, with the
same references, and the same indexes. -/
def alike (s s' : Schema Table Col IndexName) : Bool :=
  s.tables.length = s'.tables.length &&
    s.tables.all (fun d => s'.tables.any fun d' => d.name = d'.name && d.key = d'.key &&
      (d.columns.map shape).isPerm (d'.columns.map shape) &&
      d.foreignKeys.isPerm d'.foreignKeys && d.unique.isPerm d'.unique) &&
    s.indexes.isPerm s'.indexes && s.searches.isPerm s'.searches

/-- A schema with what the migrations leave out: NOT NULL for the user of a subscription and the
index of networks by user. -/
def mended (s : Schema Table Col IndexName) : Schema Table Col IndexName where
  tables := s.tables.map fun d =>
    if d.name = .webPushSubscription then
      { d with columns := d.columns.map fun c => if c.name = .user then c.required else c }
    else d
  indexes := s.indexes ++ [⟨.networkUser,.network,[.user]⟩]
  searches := s.searches

end Sake.Migrations
