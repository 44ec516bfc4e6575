import Sake.Proofs.Handlers

namespace Sake.Proofs.HandleMessage
open Sake.Upstream Sake.Proofs.Upstream Sake.Proofs.Handlers Lib.Handler Lib.Runs

/-- A message that does not leave out a name: the welcome and our own nick changes name a
nick, the messages about a user have a source with a name, and so have the replies to
`WHO`. -/
def Named (env : Env) (uc : Conn) (msg : Message) : Prop :=
  match kindOf msg.command with
  | .welcome => 1 ≤ msg.params.length → msg.param 0 ≠ ""
  | .nick => (uc.source msg).name ≠ "" ∧
      (uc.isOurNick (uc.source msg).name = true → 1 ≤ msg.params.length → msg.param 0 ≠ "")
  | .setname | .join | .account => (uc.source msg).name ≠ ""
  | .whoReply => 8 ≤ msg.params.length → msg.param 5 ≠ ""
  | .whoxReply => whoxNick env msg uc ≠ some ""
  | _ => True

section Runs
variable {env : Env} {msg : Message} {s : Served}

theorem safe_handleKind (h : Invariant uc) (hn : Named env uc msg) (label : String) :
    Safe Invariant NoPanic (handleKind env msg (uc.source msg) label (kindOf msg.command)) uc := by
  unfold Named at hn
  cases hk : kindOf msg.command <;> simp only [hk] at hn
  case text => exact fine_handleText env msg uc h
  case cap => exact fine_handleCap env msg uc h
  case authenticate => exact fine_handleAuthenticate env msg uc h
  case loggedIn => exact fine_handleLoggedIn env msg uc h
  case loggedOut => exact fine_handleLoggedOut env msg uc h
  case visibleHost => exact fine_handleVisibleHost msg uc h
  case saslEnd => exact fine_handleSASLEnd msg uc h
  case register => exact fine_handleRegister msg uc h
  case welcome => exact fine_handleWelcome msg hn uc h
  case myInfo => exact fine_handleMyInfo msg uc h
  case isupport => exact fine_handleIsupport env msg uc h
  case endOfMotd => exact fine_handleEndOfMotd uc h
  case batch => exact fine_handleBatch msg label uc h
  case nick => exact safe_handleNick msg _ h hn.1 hn.2
  case setname => exact fine_handleSetname msg _ hn uc h
  case chghost => exact fine_handleChghost msg _ uc h
  case join => exact fine_handleJoin msg _ hn uc h
  case part => exact fine_handlePart msg _ uc h
  case kick => exact fine_handleKick msg uc h
  case quit => exact fine_handleQuit _ uc h
  case topicReply => exact fine_handleTopicReply msg uc h
  case topic => exact fine_handleTopic msg _ uc h
  case mode => exact fine_handleMode msg uc h
  case umodeIs => exact fine_handleUmodeIs msg uc h
  case channelModeIs => exact fine_handleChannelModeIs msg uc h
  case creationTime => exact fine_handleCreationTime msg uc h
  case topicWhoTime => exact fine_handleTopicWhoTime env msg uc h
  case list => exact fine_expectPending _ _ uc h
  case listEnd => exact fine_expectDequeued _ _ uc h
  case namReply => exact fine_handleNamReply msg uc h
  case endOfNames => exact fine_handleEndOfNames msg uc h
  case whoReply => exact fine_handleWhoReply msg hn uc h
  case whoxReply => exact safe_handleWhoxReply env msg h hn
  case endOfWho => exact Keeps.discard (fine_dequeueCommand _) uc h
  case whois => exact fine_expectPending _ _ uc h
  case endOfWhois => exact fine_expectDequeued _ _ uc h
  case invite => exact fine_needParams msg 2 uc h
  case inviting => exact fine_needParams msg 3 uc h
  case monitor => exact fine_handleMonitor env msg uc h
  case monListFull => exact fine_needParams msg 3 uc h
  case away => exact fine_handleAway msg _ uc h
  case account => exact fine_handleAccount msg _ hn uc h
  case noSuchNick => exact fine_handleNoSuchNick msg uc h
  case commandError => exact fine_handleCommandError msg uc h
  case fail => exact fine_handleFail msg uc h
  case error => exact fine_handleError msg uc h
  case nickInUse => exact fine_handleNickInUse msg uc h
  case registrationError => exact fine_handleRegistrationError msg uc h
  case other => exact h

theorem safe_handleMessage (h : Invariant uc) (hn : Named env uc msg) :
    Safe Invariant NoPanic (handleMessage env msg) uc := by
  apply Safe.get_bind
  split
  · exact fine_fail _ uc h
  · split
    · exact fine_fail _ uc h
    · exact safe_handleKind h hn _

/-- What holds between the events of a connection. -/
structure Sound (s : Served) : Prop where
  invariant : Invariant s.conn
  calm : s.panicked = none

theorem Sound.receive (h : Sound s) (hn : Named env s.conn msg) : Sound (receive env s msg) := by
  have hs := safe_handleMessage h.invariant hn
  unfold Upstream.receive
  unfold Safe at hs
  split
  · rename_i heq
    rw [heq] at hs
    exact ⟨hs,h.calm⟩
  · rename_i heq
    rw [heq] at hs
    exact ⟨hs.1,h.calm⟩
  · rename_i what conn heq
    rw [heq] at hs
    exact absurd rfl (hs.2 what)

/-- The condition on a step: messages of the server do not leave out a name. -/
def NamedStep (env : Env) (s : Served) : Action → Prop
  | .receive msg => Named env s.conn msg
  | _ => True

theorem step_sound (h : Sound s) (hn : NamedStep env s a) (hs : step env s a = some t) : Sound t := by
  unfold step at hs
  split at hs
  · cases hs
  obtain ⟨hinv,hcalm⟩ := h
  cases a with
  | receive msg =>
    cases hs
    exact Sound.receive ⟨hinv,hcalm⟩ hn
  | connected | monitor targets =>
    cases hs
    exact ⟨Invariant.updateMonitor ⟨hinv.nick,hinv.users,hinv.timer⟩,hcalm⟩
  | tryRegainNick nick =>
    cases hs
    exact ⟨hinv.tryRegainNick nick,hcalm⟩
  | settings wantNick savedChannels saslMechanism | clients downstreams pendingCmds =>
    cases hs
    exact ⟨⟨hinv.nick,hinv.users,hinv.timer⟩,hcalm⟩

/-- In every run whose messages do not leave out a name, nothing panics. -/
theorem named_runs_never_panic (env : Env) (casemap : CaseMapping) (wantNick : Highlight.Nick)
    (savedChannels : CaseMappingMap Delivery.Channel) (saslMechanism username realname : String)
    {as : List Action}
    (hn : AllSteps (step env) (NamedStep env)
      ⟨.start casemap wantNick savedChannels saslMechanism username realname,none,false⟩ as) :
    AllStates (step env) (fun s => s.panicked = none)
      ⟨.start casemap wantNick savedChannels saslMechanism username realname,none,false⟩ as := by
  apply AllStates.of_steps Sound _ (fun s h => h.calm) (fun s a t h hg hs => step_sound h hg hs) hn
  exact ⟨⟨wantNick.2,by nofun,fun _ => ⟨rfl,rfl⟩⟩,rfl⟩

end Runs

section Examples

def plainEnv : Env where
  unicode := .ascii
  parsePrefix name := ⟨name,"",""⟩
  validBase64 _ := true
  saslAccepts _ _ := true

def sakeChannel : CaseMappingMap Delivery.Channel :=
  ⟨[("#sake",⟨"#sake",true,none,.highlight,.highlight⟩)]⟩

def fromServer (command : String) (params : List String) : Action :=
  .receive ⟨[],none,command,params⟩

def fromUser (nick command : String) (params : List String) : Action :=
  .receive ⟨[],some ⟨nick,"u","h"⟩,command,params⟩

/-- The server welcomes bob, who is mentioned by alice in a detached channel. -/
def mention (nick : String) : List Action :=
  [fromServer "001" [nick],.connected,fromUser "alice" "PRIVMSG" ["#sake","hi bob"]]

/-- A source without a name, in a message the parser accepts. -/
def unnamed : List Action := [.receive ⟨[],some ⟨"","",""⟩,"SETNAME",["x"]⟩]

theorem bob_named : "bob" ≠ "" := by decide

/-- The connection for a user with the nick bob. -/
def bob : Served :=
  ⟨.start .rfc1459 ⟨"bob",bob_named⟩ sakeChannel "" "bob" "bob",none,false⟩

theorem mention_of_bob_is_calm : AllSteps (step plainEnv) (NamedStep plainEnv) bob (mention "bob") ∧
      AllStates (step plainEnv) (fun s => s.panicked = none) bob (mention "bob") := by
  have hn : AllSteps (step plainEnv) (NamedStep plainEnv) bob (mention "bob") := by
    refine .cons_some ?_ rfl (.cons_some trivial rfl (.cons_some trivial rfl trivial))
    intro _
    decide
  exact ⟨hn,named_runs_never_panic plainEnv .rfc1459 _ sakeChannel "" "bob" "bob" hn⟩

/-- A source without a name stops the connection before it is registered, and an empty nick
in the welcome stops it at the first text in a saved channel. -/
theorem unnamed_messages_panic : (run (step plainEnv) bob unnamed).map Served.panicked = some (some .cacheUserInfo) ∧
      (run (step plainEnv) bob (mention "")).map Served.panicked = some (some .isHighlight) :=
  ⟨rfl,rfl⟩

end Examples

end Sake.Proofs.HandleMessage
