import Sake.MsgStore
import Sake.Time

namespace Sake.ChatHistory
open MsgStore Strings

structure ChatHistoryTarget where
  name : String
  latestMessage : Int
deriving Repr, DecidableEq

/-- `msgstore.ChatHistoryStore` -/
structure Store where
  listTargets : (network start stop limit : Int) → (events : Bool) → Except Failure (List ChatHistoryTarget)
  loadBeforeTime : (start stop : Int) → LoadMessageOptions → Except Failure (List Message)
  loadAfterTime : (start stop : Int) → LoadMessageOptions → Except Failure (List Message)

/-- The network that a client is bound to. -/
structure Network where
  id : Int
  casemap : String → String
  detached : String → Bool

/-- What the handler reads of the connection, and the clock. -/
structure Conn where
  nick : String
  casemap : String → String
  network : Option Network
  store : Option Store
  eventPlayback : Bool
  now : Int

inductive Subcommand
  | after
  | before
  | around
  | latest
  | between
  | targets
deriving Repr, DecidableEq

/-- The subcommands by their names. -/
def subcommands : List (String × Subcommand) :=
  [("AFTER",.after),("BEFORE",.before),("AROUND",.around),("LATEST",.latest),("BETWEEN",.between),
    ("TARGETS",.targets)]

/-- What the client receives: an error, or a batch. -/
inductive Reply
  | error (command : String) (params : List String)
  | batch (typ : String) (params : List String) (body : List Message)
deriving Repr, DecidableEq

def chatHistoryLimit : Int := 1000

def serviceNickCM : String := "bouncerserv"

def fail (code : String) (params : List String) : Reply := .error "FAIL" (["CHATHISTORY",code] ++ params)

def needMoreParams : Reply := .error "461" ["*","CHATHISTORY","Not enough parameters"]

/-- The zero time stands for an error. -/
def parseChatHistoryBound (param : String) : Int :=
  match splitN '=' 2 param with
  | ["timestamp",t] => (Time.parseServerTime t).getD 0
  | _ => 0

/-- The target, the bounds and the limit, as the subcommand expects them. -/
def parseParams (sub : Subcommand) (params : List String) : Option (String × String × String × String) :=
  match sub, params with
  | .between, target :: b0 :: b1 :: limit :: _ => some (target,b0,b1,limit)
  | .between, _ => none
  | .targets, b0 :: b1 :: limit :: _ => some ("",b0,b1,limit)
  | .targets, _ => none
  | _, target :: b0 :: limit :: _ => some (target,b0,"",limit)
  | _, _ => none

/-- A command that passes validation. -/
structure Request where
  name : String
  subcommand : Subcommand
  network : Network
  store : Store
  target : String
  bound0 : Int
  bound1 : Int
  limit : Int

def parseBounds (name : String) (sub : Subcommand) (b0 b1 : String) : Except Reply (Int × Int) :=
  let bound0 := parseChatHistoryBound b0
  let bound1 := parseChatHistoryBound b1
  if ¬(sub = .latest ∧ b0 = "*") ∧ bound0 = 0 then .error (fail "INVALID_PARAMS" [name,b0,"Invalid first bound"])
  else if b1 ≠ "" ∧ bound1 = 0 then .error (fail "INVALID_PARAMS" [name,b1,"Invalid second bound"])
  else .ok (if sub = .latest ∧ b0 = "*" then 0 else bound0,if b1 ≠ "" then bound1 else 0)

def parseLimit (name limit : String) : Except Reply Int :=
  match parseInt limit with
  | some n =>
    if n < 0 ∨ chatHistoryLimit < n then .error (fail "INVALID_PARAMS" [name,limit,"Invalid limit"]) else .ok n
  | none => .error (fail "INVALID_PARAMS" [name,limit,"Invalid limit"])

/-- Everything up to the calls of the message store. Some commands are answered before. -/
def validate (dc : Conn) (params : List String) : Except Reply Request :=
  match params with
  | [] => .error needMoreParams
  | name :: params =>
    match subcommands.lookup name with
    | none => .error (fail "INVALID_PARAMS" [name,"Unknown command"])
    | some sub =>
      if sub = .targets ∧ dc.network.isNone then .error (.batch "draft/chathistory-targets" [] [])
      else
        match parseParams sub params with
        | none => .error needMoreParams
        | some (target,b0,b1,limit) =>
          -- there is no history for the service
          if dc.casemap target = serviceNickCM then .error (.batch "chathistory" [target] [])
          else
            match dc.store, dc.network with
            | none, _ => .error (.error "421" [dc.nick,"CHATHISTORY","Chat history disabled"])
            | some _, none =>
              .error (fail "INVALID_TARGET" [name,target,"Cannot fetch chat history on bouncer connection"])
            | some store, some network => do
              let (bound0,bound1) ← parseBounds name sub b0 b1
              let limit ← parseLimit name limit
              return ⟨name,sub,network,store,network.casemap target,bound0,bound1,limit⟩

/-- What the fetch leaves in `history` and `err`, and whether a call of the store failed. -/
structure Fetched where
  history : List Message
  err : Option Failure
  failed : Bool
deriving Repr, DecidableEq

/-- A call whose error is assigned to the variable that is checked. -/
def checked : Except Failure (List Message) → Fetched
  | .ok history => ⟨history,none,false⟩
  | .error e => ⟨[],some e,true⟩

def messageTime (msg : Message) : Option Int := (msg.tags.get "time").bind Time.parseServerTime

section
variable (now : Int) (r : Request)

/-- The second bound of `AROUND`: the time of the last message before, or else a time that
makes the bound inclusive. -/
def afterBound (before : List Message) : Option Int :=
  match before.getLast? with
  | some msg => messageTime msg
  | none => some (r.bound0 - Time.second)

/-- The errors here are assigned to a variable of the branch, which nothing checks. -/
def fetchAround (options : LoadMessageOptions) : Fetched :=
  let afterLimit := options.limit / 2
  let beforeLimit := options.limit - afterLimit
  match r.store.loadBeforeTime r.bound0 0 { options with limit := beforeLimit } with
  | .error _ => ⟨[],none,true⟩
  | .ok before =>
    match afterBound r before with
    | none => ⟨[],none,false⟩
    | some bound =>
      match r.store.loadAfterTime bound now { options with limit := afterLimit } with
      | .error _ => ⟨[],none,true⟩
      | .ok after => ⟨before ++ after,none,false⟩

/-- The switch over the subcommands that load messages. -/
def fetch (options : LoadMessageOptions) : Fetched :=
  match r.subcommand with
  | .before => checked (r.store.loadBeforeTime r.bound0 0 options)
  | .latest => checked (r.store.loadBeforeTime now r.bound0 options)
  | .after => checked (r.store.loadAfterTime r.bound0 now options)
  | .around => fetchAround now r options
  | .between =>
    if r.bound0 < r.bound1 then checked (r.store.loadAfterTime r.bound0 r.bound1 options)
    else checked (r.store.loadBeforeTime r.bound0 r.bound1 options)
  | .targets => ⟨[],none,false⟩

end

def targetMessage (t : ChatHistoryTarget) : Message :=
  ⟨[],none,"CHATHISTORY",["TARGETS",t.name,Time.formatServerTime t.latestMessage]⟩

/-- The answer to a valid command, and whether a call of the store failed. -/
def answer (dc : Conn) (r : Request) : Reply × Bool :=
  match r.subcommand with
  | .targets =>
    match r.store.listTargets r.network.id r.bound0 r.bound1 r.limit dc.eventPlayback with
    | .error _ => (fail "MESSAGE_ERROR" [r.name,"Failed to retrieve targets"],true)
    | .ok targets =>
      (.batch "draft/chathistory-targets" []
        ((targets.filter fun t => !r.network.detached t.name).map targetMessage),false)
  | _ =>
    let f := fetch dc.now r ⟨r.network.id,r.target,r.limit,dc.eventPlayback⟩
    match f.err with
    | some _ => (fail "MESSAGE_ERROR" [r.name,r.target,"Messages could not be retrieved"],f.failed)
    | none => (.batch "chathistory" [r.target] f.history,f.failed)

/-- The handler of `CHATHISTORY`. -/
def handleChatHistory (dc : Conn) (params : List String) : Reply × Bool :=
  match validate dc params with
  | .error reply => (reply,false)
  | .ok r => answer dc r

/-- The messages of a buffer that a query shows, oldest first, with their times. -/
def shown (events : Bool) (history : List (Int × Message)) : List (Int × Message) :=
  history.filter fun x => events || x.2.isText

def takeLast {α : Type} (n : Nat) (l : List α) : List α := l.drop (l.length - n)

/-- The contract of the message store, for one buffer. The zero time is no bound. -/
structure Exact (store : Store) (network : Int) (entity : String) (history : List (Int × Message)) : Prop where
  sorted : history.Pairwise fun x y => x.1 ≤ y.1
  tagged : ∀ x ∈ history, messageTime x.2 = some x.1
  before : ∀ (start stop : Int) (limit : Nat) (events : Bool),
    store.loadBeforeTime start stop ⟨network,entity,limit,events⟩ = .ok ((takeLast limit
      ((shown events history).filter fun x => (stop = 0 ∨ stop < x.1) ∧ x.1 < start)).map Prod.snd)
  after : ∀ (start stop : Int) (limit : Nat) (events : Bool),
    store.loadAfterTime start stop ⟨network,entity,limit,events⟩ = .ok ((((shown events history).filter
      fun x => start < x.1 ∧ x.1 < stop).take limit).map Prod.snd)

/-- The messages around a time: the last half of the limit before it, the first half from it on. -/
def around (history : List (Int × Message)) (b : Int) (limit : Nat) : List Message :=
  (takeLast ((limit + 1) / 2) (history.filter fun x => x.1 < b)).map Prod.snd ++
    ((history.filter fun x => b ≤ x.1).take (limit / 2)).map Prod.snd

end Sake.ChatHistory
