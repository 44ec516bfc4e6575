import Sake.Lib.Flags
import Sake.UserNetworks

namespace Sake.Service
open Lib Networks Strings Goroutine
open Delivery (MessageFilter)

/-- The handlers of the service commands. -/
inductive Command
  | help
  | networkCreate
  | networkStatus
  | networkUpdate
  | networkDelete
  | networkQuote
  | certFPGenerate
  | certFPFingerprints
  | certFPImport
  | certFPRemove
  | saslStatus
  | saslSetPlain
  | saslSetExternal
  | saslReset
  | userStatus
  | userCreate
  | userUpdate
  | userDelete
  | userRun
  | channelStatus
  | channelCreate
  | channelUpdate
  | channelDelete
  | ignoreList
  | ignoreAdd
  | ignoreDelete
  | deviceCertificateStatus
  | deviceCertificateCreate
  | deviceCertificateDelete
  | serverStatus
  | serverNotice
  | serverDebug
  deriving Repr, DecidableEq

/-- A command of the service, under the name that it has in its set. -/
inductive ServiceCommand
  | mk (name usage desc : String) (handle : Option Command) (children : List ServiceCommand)
      (admin global : Bool)

namespace ServiceCommand

def name : ServiceCommand → String
  | mk name _ _ _ _ _ _ => name

def usage : ServiceCommand → String
  | mk _ usage _ _ _ _ _ => usage

def desc : ServiceCommand → String
  | mk _ _ desc _ _ _ _ => desc

def handle : ServiceCommand → Option Command
  | mk _ _ _ handle _ _ _ => handle

def children : ServiceCommand → List ServiceCommand
  | mk _ _ _ _ children _ _ => children

def admin : ServiceCommand → Bool
  | mk _ _ _ _ _ admin _ => admin

def global : ServiceCommand → Bool
  | mk _ _ _ _ _ _ global => global

end ServiceCommand

/-- A command for a user. -/
def leaf (name usage desc : String) (handle : Command) : ServiceCommand :=
  .mk name usage desc (some handle) [] false false

/-- A command that also runs without a user. -/
def globalLeaf (name usage desc : String) (handle : Command) (admin : Bool) : ServiceCommand :=
  .mk name usage desc (some handle) [] admin true

def group (name : String) (children : List ServiceCommand) (admin global : Bool) : ServiceCommand :=
  .mk name "" "" none children admin global

def networkCommands : ServiceCommand :=
  group "network" [
    leaf "create" "-addr <addr> [-name name] [-username username] [-pass pass] [-realname realname] [-certfp fingerprint] [-nick nick] [-auto-away auto-away] [-enabled enabled] [-ignore-limit ignore-limit] [-source-ip ip] [-tls-insecure true|false] [-default-cert true|false] [-connect-command command]..."
      "add a new network" .networkCreate,
    leaf "status" "" "show a list of saved networks and their current status" .networkStatus,
    leaf "update" "[name] [-addr addr] [-name name] [-username username] [-pass pass] [-realname realname] [-certfp fingerprint] [-nick nick] [-auto-away auto-away] [-enabled enabled] [-ignore-limit ignore-limit] [-source-ip ip] [-tls-insecure true|false] [-default-cert true|false] [-connect-command command]..."
      "update a network" .networkUpdate,
    leaf "delete" "[name]" "delete a network" .networkDelete,
    leaf "quote" "[name] <command>" "send a raw line to a network" .networkQuote] false false

def certFPCommands : ServiceCommand :=
  group "certfp" [
    leaf "generate" "[-key-type rsa|ecdsa|ed25519] [-bits N] [-network name | -default]"
      "generate a new self-signed certificate, defaults to using RSA-3072 key" .certFPGenerate,
    leaf "fingerprint" "[-network name | -default]" "show fingerprints of certificate" .certFPFingerprints,
    leaf "import" "[-network name | -default] <https-url-or-path>"
      "import an existing certificate and private key (PEM, concatenated) from an https:// URL, or from a local file (admins only)"
      .certFPImport,
    leaf "remove" "[-network name | -default]"
      "remove a network's certificate (falling back to your default one), or your default certificate"
      .certFPRemove] false false

def saslCommands : ServiceCommand :=
  group "sasl" [
    leaf "status" "[-network name]" "show SASL status" .saslStatus,
    leaf "set-plain" "[-network name] <username> <password>" "set SASL PLAIN credentials" .saslSetPlain,
    leaf "set-external" "[-network name]"
      "enable SASL EXTERNAL authentication, using either the network's own certificate or your user's default certificate"
      .saslSetExternal,
    leaf "reset" "[-network name]"
      "disable SASL authentication and remove stored PLAIN credentials (the client certificate stays, see \"certfp remove\")"
      .saslReset] false false

def userCommands : ServiceCommand :=
  group "user" [
    globalLeaf "status" "[username]" "show a list of users and their current status" .userStatus true,
    globalLeaf "create" "-username <username> -password <password> [-disable-password] [-admin true|false] [-nick <nick>] [-realname <realname>] [-enabled true|false] [-max-networks <max-networks>] [-source-ip <ip>]"
      "create a new sake user" .userCreate true,
    globalLeaf "update" "[username] [-password <password>] [-disable-password] [-admin true|false] [-nick <nick>] [-realname <realname>] [-enabled true|false] [-max-networks <max-networks>] [-source-ip <ip>]"
      "update a user" .userUpdate false,
    globalLeaf "delete" "<username> [confirmation token]" "delete a user" .userDelete false,
    globalLeaf "run" "<username> <command>" "run a command as another user" .userRun true] false true

def channelCommands : ServiceCommand :=
  group "channel" [
    leaf "status" "[-network name]" "show a list of saved channels and their current status" .channelStatus,
    leaf "create" "<name> [-key key] [-detached true|false] [-relay-detached default|none|highlight|message] [-reattach-on default|none|highlight|message] [-detach-after <duration>] [-detach-on default|none|highlight|message]"
      "create a channel" .channelCreate,
    leaf "update" "<name> [-key key] [-detached true|false] [-relay-detached default|none|highlight|message] [-reattach-on default|none|highlight|message] [-detach-after <duration>] [-detach-on default|none|highlight|message]"
      "update a channel" .channelUpdate,
    leaf "delete" "<name>" "delete a channel" .channelDelete] false false

def ignoreCommands : ServiceCommand :=
  group "ignore" [
    leaf "list" "[-network name]" "show ignored hostmasks for a network" .ignoreList,
    leaf "add" "[-network name] <mask>"
      "(sake) ignore messages from a hostmask (nick!user@host, glob wildcards * and ? allowed, or a bare nick) - still logged, just not relayed live to any client"
      .ignoreAdd,
    leaf "delete" "[-network name] <mask>" "(sake) remove a previously ignored hostmask" .ignoreDelete] false false

def deviceCertificateCommands : ServiceCommand :=
  group "device-certificate" [
    leaf "status" "" "show a list of device certificates" .deviceCertificateStatus,
    leaf "create" "-fingerprint <fingerprint> -label <label>" "create a new device certificate"
      .deviceCertificateCreate,
    leaf "delete" "<fingerprint>" "delete a device certificate" .deviceCertificateDelete] false false

def serverCommands : ServiceCommand :=
  group "server" [
    globalLeaf "status" "" "show server statistics" .serverStatus true,
    globalLeaf "notice" "<notice>" "broadcast a notice to all connected bouncer users" .serverNotice true,
    globalLeaf "debug" "true|false"
      "enable/disable debug logging to stderr (will leak sensitive information)" .serverDebug true] true false

def serviceCommands : List ServiceCommand :=
  [globalLeaf "help" "[command]" "print help message" .help false,networkCommands,certFPCommands,
    saslCommands,userCommands,channelCommands,ignoreCommands,deviceCertificateCommands,serverCommands]

/-- A command by its name, or by the start of it if there is no other such command. -/
def lookup (cmds : List ServiceCommand) (name : String) : Except String ServiceCommand :=
  match cmds.find? fun cmd => cmd.name = name with
  | some cmd => .ok cmd
  | none =>
    match cmds.filter fun cmd => hasPrefix cmd.name name with
    | [] => .error ("command " ++ name.quote ++ " not found")
    | [cmd] => .ok cmd
    | _ => .error ("command " ++ name.quote ++ " is ambiguous")

/-- `serviceCommandSet.Get` -/
def getCommand (cmds : List ServiceCommand) : List String → Except String (ServiceCommand × List String)
  | [] => .error "no command specified"
  | name :: params =>
    match lookup cmds name with
    | .error e => .error e
    | .ok cmd =>
      if params.isEmpty || cmd.children.isEmpty then .ok (cmd,params) else getCommand cmd.children params

mutual

/-- The lines that a command adds to a list of commands. -/
def helpCommand (front : List String) (admin global : Bool) : ServiceCommand → List String
  | .mk name _ _ _ children cmdAdmin cmdGlobal =>
    if (cmdAdmin && !admin) || (!cmdGlobal && global) then []
    else
      match children with
      | [] => [" ".intercalate (front ++ [name])]
      | children => ((helpSet (front ++ [name]) admin global children).insertionSort fun a b => a.1 ≤ b.1).flatMap
          Prod.snd

def helpSet (front : List String) (admin global : Bool) : List ServiceCommand → List (String × List String)
  | [] => []
  | cmd :: cmds => (cmd.name,helpCommand front admin global cmd) :: helpSet front admin global cmds

end

/-- `appendServiceCommandSetHelp` -/
def commandSetHelp (cmds : List ServiceCommand) (front : List String) (admin global : Bool) : String :=
  "available commands: " ++ ", ".intercalate
    (((helpSet front admin global cmds).insertionSort fun a b => a.1 ≤ b.1).flatMap Prod.snd)

end Sake.Service
