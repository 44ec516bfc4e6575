import Sake.Lib.Sql

namespace Sake.Schema
open Sake.Lib.Sql

inductive Table
  | user
  | userNew
  | network
  | networkNew
  | channel
  | ignore
  | deviceCertificate
  | deliveryReceipt
  | readReceipt
  | webPushConfig
  | webPushSubscription
  | message
  | messageTarget
  | messageFTS
  deriving Repr, DecidableEq

inductive Col
  | id
  | rowid
  | username
  | password
  | admin
  | realname
  | nick
  | createdAt
  | enabled
  | downstreamInteractedAt
  | maxNetworks
  | sourceIP
  | saslExternalCert
  | saslExternalKey
  | name
  | user
  | addr
  | certfp
  | pass
  | connectCommands
  | saslMechanism
  | saslPlainUsername
  | saslPlainPassword
  | autoAway
  | tlsInsecure
  | noDefaultCert
  | network
  | key
  | detached
  | detachedInternalMsgid
  | relayDetached
  | reattachOn
  | detachAfter
  | detachOn
  | mask
  | label
  | fingerprint
  | lastUsed
  | lastIP
  | target
  | client
  | internalMsgid
  | timestamp
  | vapidKeyPublic
  | vapidKeyPrivate
  | updatedAt
  | endpoint
  | keyVapid
  | keyAuth
  | keyP256dh
  | raw
  | time
  | sender
  | text
  | pinned
  | muted
  | blocked
  deriving Repr, DecidableEq

inductive IndexName
  | networkUser
  | channelNetwork
  | ignoreNetwork
  | deliveryReceiptNetwork
  | readReceiptNetwork
  | webPushSubscriptionUser
  | webPushSubscriptionNetwork
  | messageIndex
  | messageTarget
  | messageTargetNetwork
  deriving Repr, DecidableEq

abbrev integer : Col → Column Col := column .integer
abbrev text : Col → Column Col := column .text
abbrev blob : Col → Column Col := column .blob
abbrev varchar (n : Nat) : Col → Column Col := column (.varchar n)
abbrev boolean : Col → Column Col := column .boolean
abbrev timestamp : Col → Column Col := column .timestamp

/-- `FOREIGN KEY(c) REFERENCES parent(id)`. -/
def references (c : Col) (parent : Table) : ForeignKey Table Col := ⟨c,parent,.id,false⟩

/-- `REFERENCES parent(id) ON DELETE CASCADE`. -/
def cascading (c : Col) (parent : Table) : ForeignKey Table Col := ⟨c,parent,.id,true⟩

namespace Sqlite

def userTable : TableDef Table Col where
  name := .user
  key := .id
  columns := [
    integer .id,
    (text .username).required,
    text .password,
    (integer .admin).required.defaulting (.int 0),
    text .realname,
    text .nick,
    (text .createdAt).required,
    (integer .enabled).required.defaulting (.int 1),
    text .downstreamInteractedAt,
    (integer .maxNetworks).required.defaulting (.int (-1)),
    text .sourceIP,
    blob .saslExternalCert,
    blob .saslExternalKey]
  unique := [[.username]]

def networkTable : TableDef Table Col where
  name := .network
  key := .id
  columns := [
    integer .id,
    text .name,
    (integer .user).required,
    (text .addr).required,
    text .nick,
    text .username,
    text .realname,
    text .certfp,
    text .pass,
    text .connectCommands,
    text .saslMechanism,
    text .saslPlainUsername,
    text .saslPlainPassword,
    blob .saslExternalCert,
    blob .saslExternalKey,
    (integer .autoAway).required.defaulting (.int 1),
    (integer .enabled).required.defaulting (.int 1),
    text .sourceIP,
    (integer .tlsInsecure).required.defaulting (.int 0),
    (integer .noDefaultCert).required.defaulting (.int 0)]
  foreignKeys := [references .user .user]
  unique := [[.user,.name]]

def channelTable : TableDef Table Col where
  name := .channel
  key := .id
  columns := [
    integer .id,
    (integer .network).required,
    (text .name).required,
    text .key,
    (integer .detached).required.defaulting (.int 0),
    text .detachedInternalMsgid,
    (integer .relayDetached).required.defaulting (.int 0),
    (integer .reattachOn).required.defaulting (.int 0),
    (integer .detachAfter).required.defaulting (.int 0),
    (integer .detachOn).required.defaulting (.int 0)]
  foreignKeys := [references .network .network]
  unique := [[.network,.name]]

def ignoreTable : TableDef Table Col where
  name := .ignore
  key := .id
  columns := [
    integer .id,
    (integer .network).required,
    (text .mask).required,
    (text .createdAt).required]
  foreignKeys := [references .network .network]
  unique := [[.network,.mask]]

def deviceCertificateTable : TableDef Table Col where
  name := .deviceCertificate
  key := .id
  columns := [
    integer .id,
    (integer .user).required,
    (text .label).required,
    (blob .fingerprint).required,
    (text .lastUsed).required,
    (text .lastIP).required]
  foreignKeys := [references .user .user]
  unique := [[.fingerprint]]

def deliveryReceiptTable : TableDef Table Col where
  name := .deliveryReceipt
  key := .id
  columns := [
    integer .id,
    (integer .network).required,
    (text .target).required,
    text .client,
    (text .internalMsgid).required]
  foreignKeys := [references .network .network]
  unique := [[.network,.target,.client]]

def readReceiptTable : TableDef Table Col where
  name := .readReceipt
  key := .id
  columns := [
    integer .id,
    (integer .network).required,
    (text .target).required,
    (text .timestamp).required]
  foreignKeys := [references .network .network]
  unique := [[.network,.target]]

def webPushConfigTable : TableDef Table Col where
  name := .webPushConfig
  key := .id
  columns := [
    integer .id,
    (text .createdAt).required,
    (text .vapidKeyPublic).required,
    (text .vapidKeyPrivate).required]
  unique := [[.vapidKeyPublic]]

def webPushSubscriptionTable : TableDef Table Col where
  name := .webPushSubscription
  key := .id
  columns := [
    integer .id,
    (text .createdAt).required,
    (text .updatedAt).required,
    (integer .user).required,
    integer .network,
    (text .endpoint).required,
    text .keyVapid,
    text .keyAuth,
    text .keyP256dh]
  foreignKeys := [references .user .user,references .network .network]
  unique := [[.network,.endpoint]]

def messageTable : TableDef Table Col where
  name := .message
  key := .id
  columns := [
    integer .id,
    (integer .target).required,
    (text .raw).required,
    (text .time).required,
    (text .sender).required,
    text .text]
  foreignKeys := [references .target .messageTarget]

def messageTargetTable : TableDef Table Col where
  name := .messageTarget
  key := .id
  columns := [
    integer .id,
    (integer .network).required,
    (text .target).required,
    (integer .pinned).required.defaulting (.int 0),
    (integer .muted).required.defaulting (.int 0),
    (integer .blocked).required.defaulting (.int 0)]
  foreignKeys := [references .network .network]
  unique := [[.network,.target]]

def messageFTS : Search Table Col := ⟨.messageFTS,.message,.text⟩

/-- What `sqlite_schema.sql` creates. -/
def schema : Schema Table Col IndexName where
  tables := [userTable,networkTable,channelTable,ignoreTable,deviceCertificateTable,
    deliveryReceiptTable,readReceiptTable,webPushConfigTable,webPushSubscriptionTable,
    messageTable,messageTargetTable]
  indexes := [
    ⟨.networkUser,.network,[.user]⟩,
    ⟨.channelNetwork,.channel,[.network]⟩,
    ⟨.ignoreNetwork,.ignore,[.network]⟩,
    ⟨.deliveryReceiptNetwork,.deliveryReceipt,[.network]⟩,
    ⟨.readReceiptNetwork,.readReceipt,[.network]⟩,
    ⟨.webPushSubscriptionUser,.webPushSubscription,[.user]⟩,
    ⟨.webPushSubscriptionNetwork,.webPushSubscription,[.network]⟩,
    ⟨.messageIndex,.message,[.target,.time]⟩,
    ⟨.messageTarget,.message,[.target]⟩,
    ⟨.messageTargetNetwork,.messageTarget,[.network]⟩]
  searches := [messageFTS]

end Sqlite

namespace Postgres

def userTable : TableDef Table Col where
  name := .user
  key := .id
  columns := [
    integer .id,
    (varchar 255 .username).required,
    varchar 255 .password,
    (boolean .admin).required.defaulting (.int 0),
    varchar 255 .nick,
    varchar 255 .realname,
    (timestamp .createdAt).required,
    (boolean .enabled).required.defaulting (.int 1),
    timestamp .downstreamInteractedAt,
    (integer .maxNetworks).required.defaulting (.int (-1)),
    text .sourceIP,
    blob .saslExternalCert,
    blob .saslExternalKey]
  unique := [[.username]]

def networkTable : TableDef Table Col where
  name := .network
  key := .id
  columns := [
    integer .id,
    varchar 255 .name,
    (integer .user).required,
    (varchar 255 .addr).required,
    varchar 255 .nick,
    varchar 255 .username,
    varchar 255 .realname,
    text .certfp,
    varchar 255 .pass,
    varchar 1023 .connectCommands,
    text .saslMechanism,
    varchar 255 .saslPlainUsername,
    varchar 255 .saslPlainPassword,
    blob .saslExternalCert,
    blob .saslExternalKey,
    (boolean .autoAway).required.defaulting (.int 1),
    (boolean .enabled).required.defaulting (.int 1),
    text .sourceIP,
    (boolean .tlsInsecure).required.defaulting (.int 0),
    (boolean .noDefaultCert).required.defaulting (.int 0)]
  foreignKeys := [cascading .user .user]
  unique := [[.user,.name]]

def channelTable : TableDef Table Col where
  name := .channel
  key := .id
  columns := [
    integer .id,
    (integer .network).required,
    (varchar 255 .name).required,
    varchar 255 .key,
    (boolean .detached).required.defaulting (.int 0),
    varchar 255 .detachedInternalMsgid,
    (integer .relayDetached).required.defaulting (.int 0),
    (integer .reattachOn).required.defaulting (.int 0),
    (integer .detachAfter).required.defaulting (.int 0),
    (integer .detachOn).required.defaulting (.int 0)]
  foreignKeys := [cascading .network .network]
  unique := [[.network,.name]]

def ignoreTable : TableDef Table Col where
  name := .ignore
  key := .id
  columns := [
    integer .id,
    (integer .network).required,
    (varchar 255 .mask).required,
    (timestamp .createdAt).required]
  foreignKeys := [cascading .network .network]
  unique := [[.network,.mask]]

def deviceCertificateTable : TableDef Table Col where
  name := .deviceCertificate
  key := .id
  columns := [
    integer .id,
    (integer .user).required,
    (text .label).required,
    (blob .fingerprint).required,
    (timestamp .lastUsed).required,
    (text .lastIP).required]
  foreignKeys := [cascading .user .user]
  unique := [[.fingerprint]]

def deliveryReceiptTable : TableDef Table Col where
  name := .deliveryReceipt
  key := .id
  columns := [
    integer .id,
    (integer .network).required,
    (varchar 255 .target).required,
    (varchar 255 .client).required.defaulting (.text ""),
    (varchar 255 .internalMsgid).required]
  foreignKeys := [cascading .network .network]
  unique := [[.network,.target,.client]]

def readReceiptTable : TableDef Table Col where
  name := .readReceipt
  key := .id
  columns := [
    integer .id,
    (integer .network).required,
    (varchar 255 .target).required,
    (timestamp .timestamp).required]
  foreignKeys := [cascading .network .network]
  unique := [[.network,.target]]

def webPushConfigTable : TableDef Table Col where
  name := .webPushConfig
  key := .id
  columns := [
    integer .id,
    (timestamp .createdAt).required,
    (text .vapidKeyPublic).required,
    (text .vapidKeyPrivate).required]
  unique := [[.vapidKeyPublic]]

def webPushSubscriptionTable : TableDef Table Col where
  name := .webPushSubscription
  key := .id
  columns := [
    integer .id,
    (timestamp .createdAt).required,
    (timestamp .updatedAt).required,
    (integer .user).required,
    integer .network,
    (text .endpoint).required,
    text .keyVapid,
    text .keyAuth,
    text .keyP256dh]
  foreignKeys := [cascading .user .user,cascading .network .network]
  unique := [[.network,.endpoint]]

def messageTargetTable : TableDef Table Col where
  name := .messageTarget
  key := .id
  columns := [
    integer .id,
    (integer .network).required,
    (text .target).required,
    (boolean .pinned).required.defaulting (.int 0),
    (boolean .muted).required.defaulting (.int 0),
    (boolean .blocked).required.defaulting (.int 0)]
  foreignKeys := [cascading .network .network]
  unique := [[.network,.target]]

def messageTable : TableDef Table Col where
  name := .message
  key := .id
  columns := [
    integer .id,
    (integer .target).required,
    (text .raw).required,
    (timestamp .time).required,
    (text .sender).required,
    text .text]
  foreignKeys := [cascading .target .messageTarget]

/-- What `postgres_schema.sql` creates, without its indexes and the generated `text_search`. -/
def schema : Schema Table Col IndexName where
  tables := [userTable,networkTable,channelTable,ignoreTable,deviceCertificateTable,
    deliveryReceiptTable,readReceiptTable,webPushConfigTable,webPushSubscriptionTable,
    messageTargetTable,messageTable]
  indexes := []
  searches := []

end Postgres

end Sake.Schema
