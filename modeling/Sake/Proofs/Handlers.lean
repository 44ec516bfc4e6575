import Sake.Proofs.Upstream

namespace Sake.Proofs.Handlers
open Sake.Upstream Sake.Proofs.Upstream Lib.Handler
open Keeps (either seq)

section Handlers
variable (env : Env) (msg : Message)

theorem fine_isHighlight (sender : String) : Fine (isHighlight env msg sender) := by
  apply Keeps.get_bind
  intro uc h
  have hnick : (if uc.connected then uc.nick else uc.wantNick.1) ≠ "" := by
    split
    · exact h.nick
    · exact uc.wantNick.2
  apply either
  · rw [dif_pos hnick]
    exact .pure _
  · exact .pure _

theorem fine_handleDetachedMessage (ch : Delivery.Channel) (sender : String) :
    Fine (handleDetachedMessage env ch msg sender) := by
  apply Keeps.bind (fine_isHighlight env msg sender)
  intro highlight
  apply either
  · exact fine_frame fun _ => rfl
  · exact .pure _

theorem fine_handleText : Fine (handleText env msg) := by
  apply Keeps.get_bind
  intro uc _
  split
  · exact fine_fail _
  · exact .pure _
  · exact .pure _
  split
  · exact .pure _
  rename_i ch _
  apply either
  · apply seq
    · apply either
      · exact fine_handleDetachedMessage env msg ch _
      · exact .pure _
    · exact Keeps.discard (fine_isHighlight env msg _)
  · exact .pure _

theorem fine_handleCapAck (name : String) (ok : Bool) : Fine (handleCapAck env name ok) := by
  apply seq
  · exact fine_frame fun _ => rfl
  apply Keeps.get_bind
  intro uc _
  apply either
  · apply seq (fine_failIf _ _)
    exact fine_frame fun _ => rfl
  · exact .pure _

theorem fine_handleCap : Fine (handleCap env msg) := by
  apply seq (fine_needParams msg 2)
  apply either
  · apply seq (fine_failIf _ _)
    exact Keeps.modify fun uc h => h.handleSupportedCaps env _
  apply either
  · apply seq (fine_failIf _ _)
    apply Keeps.forM
    intro name _
    exact fine_handleCapAck env _ _
  · apply either
    · apply seq (fine_failIf _ _)
      exact fine_frame fun _ => rfl
    · exact .pure _

theorem fine_handleAuthenticate : Fine (handleAuthenticate env msg) := by
  apply Keeps.get_bind
  intro uc _
  apply seq (fine_failIf _ _)
  apply seq (fine_needParams msg 1)
  apply seq (fine_failIf _ _)
  apply seq
  · exact fine_frame fun _ => rfl
  · exact fine_failIf _ _

theorem fine_handleVisibleHost : Fine (handleVisibleHost msg) := by
  apply fine_params_frame
  intro uc
  cases Strings.cut '@' (msg.param 1) <;> rfl

theorem fine_handleSASLEnd : Fine (handleSASLEnd msg) := by
  apply seq (fine_needParams msg 2)
  refine seq (fine_frame fun _ => rfl) ?_
  exact Keeps.discard (fine_dequeueCommand _)

theorem fine_handleRegister : Fine (handleRegister msg) := by
  apply Keeps.bind (fine_dequeueCommand _)
  intro current
  apply either
  · apply seq (fine_needParams msg 2)
    split
    · exact fine_needParams _ 3
    · exact .pure _
  · exact .pure _

theorem fine_handleWelcome (hn : 1 ≤ msg.params.length → msg.param 0 ≠ "") : Fine (handleWelcome msg) := by
  intro uc h
  apply safe_needParams_bind h
  intro hlen
  exact ⟨hn hlen,h.users,h.timer⟩

theorem fine_handleChanModes (s : String) : Fine (handleChanModes s) := by
  unfold handleChanModes
  split
  · exact fine_frame fun _ => rfl
  · exact fine_fail _

theorem fine_handleMemberships (s : String) : Fine (handleMemberships s) := by
  unfold handleMemberships
  split
  · exact fine_frame fun _ => rfl
  · apply seq (fine_failIf _ _)
    exact fine_frame fun _ => rfl
  · exact fine_fail _

theorem fine_handleIsupportToken (token : String) : Fine (handleIsupportToken env token) := by
  refine seq (fine_frame fun _ => rfl) ?_
  split
  · exact Keeps.modify fun uc h => h.updateCasemapping _
  · apply either
    · exact fine_frame fun _ => rfl
    · exact fine_handleChanModes _
  · exact fine_frame fun _ => rfl
  · exact fine_frame fun _ => rfl
  · apply either
    · exact fine_frame fun _ => rfl
    · exact fine_handleMemberships _
  · exact .pure _

theorem fine_handleIsupport : Fine (handleIsupport env msg) := by
  apply seq (fine_needParams msg 2)
  apply seq
  · exact Keeps.forM fun token _ => fine_handleIsupportToken env token
  · exact Keeps.modify fun uc h => h.updateMonitor

/-- The timer is started only at the end of the first message of the day, when it cannot
run yet. -/
theorem fine_handleEndOfMotd : Fine handleEndOfMotd := by
  intro uc h
  apply Safe.get_bind
  split
  · exact h
  rename_i hm
  obtain ⟨ht,hb⟩ := h.timer (by simpa using hm)
  obtain ⟨hinv,hmotd,htimer,hbackoff⟩ := h.afterMotd
  apply Safe.modify_bind
  split
  · exact hinv
  apply Safe.get_bind
  have hoff : ¬ (uc.afterMotd.regainNickBackoff = true ∨ uc.afterMotd.regainNickTimer = true) := by
    simp [htimer,hbackoff,ht,hb]
  unfold panicIf
  rw [if_neg hoff]
  change Invariant (if _ then _ else _)
  split
  · exact hinv
  · exact hinv.withTimer hmotd true true

theorem fine_handleBatch (label : String) : Fine (handleBatch msg label) := by
  apply seq (fine_needParams msg 1)
  apply Keeps.get_bind
  intro uc _
  apply either
  · apply seq (fine_failIf _ _)
    exact fine_params_frame msg 2 fun _ => rfl
  · apply either
    · apply seq (fine_failIf _ _)
      exact fine_frame fun _ => rfl
    · exact fine_fail _

end Handlers

section Users
variable (msg : Message) (p : Prefix)

/-- A source with a name is what keeps `cacheUserInfo` from panicking, and a nick in our own
`NICK` is what keeps ours from becoming empty. -/
theorem safe_handleNick (h : Invariant uc) (hp : p.name ≠ "")
    (hn : uc.isOurNick p.name = true → 1 ≤ msg.params.length → msg.param 0 ≠ "") :
    Safe Invariant NoPanic (handleNick msg p) uc := by
  apply safe_needParams_bind h
  intro hlen
  apply Safe.get_bind
  apply Safe.modify_bind
  have hrest : Fine (do
      modify fun uc => uc.mapChannels fun ch => ch.renameMember p.name (msg.param 0)
      cacheUserInfo p.name { nickname := msg.param 0 }
      modify fun uc' => if uc.isOurNick p.name then uc'.updateMonitor else uc') := by
    refine seq (fine_frame fun _ => rfl) ?_
    apply seq (fine_cacheUserInfo hp _)
    apply Keeps.modify
    intro uc' h'
    split
    · exact h'.updateMonitor
    · exact h'
  apply hrest
  cases hme : uc.isOurNick p.name with
  | true => exact h.renamed (hn hme hlen)
  | false => exact h

theorem fine_handleSetname (hp : p.name ≠ "") : Fine (handleSetname msg p) := by
  apply seq (fine_needParams msg 1)
  apply seq (fine_cacheUserInfo hp _)
  apply fine_frame
  intro uc
  split <;> rfl

theorem fine_handleChghost : Fine (handleChghost msg p) := by
  apply fine_params_frame
  intro uc
  split <;> rfl

theorem fine_handleJoin (hp : p.name ≠ "") : Fine (handleJoin msg p) := by
  apply seq (fine_needParams msg 1)
  apply Keeps.get_bind
  intro uc _
  apply seq (fine_cacheUserInfo hp _)
  apply Keeps.forM
  intro name _
  apply Keeps.get_bind
  intro uc' _
  apply either
  · exact fine_frame fun _ => rfl
  · apply Keeps.bind (fine_getChannel name)
    intro ch
    exact fine_setChannel _ name

theorem fine_removeMember (name nick : String) : Fine (removeMember name nick) := by
  apply Keeps.bind (fine_getChannel name)
  intro ch
  apply Keeps.modify
  intro uc h
  apply Invariant.forgetUser
  exact ⟨h.nick,h.users,h.timer⟩

theorem fine_leaveOrRemove (uc : Conn) (name nick : String) :
    Fine (if uc.isOurNick nick then modify fun uc => uc.leftChannel name else removeMember name nick) := by
  apply either
  · exact Keeps.modify fun uc h => h.leftChannel name
  · exact fine_removeMember name nick

theorem fine_handlePart : Fine (handlePart msg p) := by
  apply seq (fine_needParams msg 1)
  apply Keeps.forM
  intro name _
  apply Keeps.get_bind
  intro uc _
  exact fine_leaveOrRemove uc name p.name

theorem fine_handleKick : Fine (handleKick msg) := by
  apply seq (fine_needParams msg 2)
  apply Keeps.get_bind
  intro uc _
  exact fine_leaveOrRemove uc (msg.param 0) (msg.param 1)

theorem fine_handleQuit : Fine (handleQuit p) := by
  apply Keeps.modify
  intro uc h
  exact ⟨h.nick,h.users.del p.name,h.timer⟩

/-- Nobody is filed under the empty nick, so an `AWAY` without a name is about nobody. -/
theorem fine_handleAway : Fine (handleAway msg p) := by
  apply Keeps.get_bind
  intro uc h
  split
  · exact .pure _
  rename_i hg
  apply either
  · exact fine_cacheUserInfo (h.users.name_of_get hg) _
  · exact .pure _

theorem fine_handleAccount (hp : p.name ≠ "") : Fine (handleAccount msg p) := by
  apply seq (fine_needParams msg 1)
  exact fine_cacheUserInfo hp _

end Users

section Replies
variable (env : Env) (msg : Message)

theorem fine_changeChannel (name : String) : Fine (changeChannel name f) := by
  apply fine_frame
  intro uc
  split <;> rfl

theorem fine_handleTopicReply : Fine (handleTopicReply msg) := by
  apply seq (fine_needParams msg 3)
  exact fine_changeChannel _

theorem fine_handleTopic (p : Prefix) : Fine (handleTopic msg p) := by
  apply seq (fine_needParams msg 1)
  apply Keeps.bind (fine_getChannel _)
  intro ch
  exact fine_setChannel _ _

theorem fine_changeUserModes (modes : List Char) (modeStr : String) : Fine (changeUserModes modes modeStr) := by
  refine seq (fine_frame fun _ => rfl) ?_
  exact fine_failIf _ _

theorem fine_changeChannelModes (ch : Channel) (name modeStr : String) (args : List String) :
    Fine (changeChannelModes ch name modeStr args) := by
  apply Keeps.get_bind
  intro uc _
  apply seq (fine_setChannel _ name)
  exact fine_failIf _ _

theorem fine_handleMode : Fine (handleMode msg) := by
  apply seq (fine_needParams msg 2)
  apply Keeps.get_bind
  intro uc _
  apply either
  · apply seq (fine_failIf _ _)
    exact fine_changeUserModes _ _
  · apply Keeps.bind (fine_getChannel _)
    intro ch
    exact fine_changeChannelModes ch _ _ _

theorem fine_handleUmodeIs : Fine (handleUmodeIs msg) := by
  apply seq (fine_needParams msg 1)
  exact fine_changeUserModes _ _

theorem fine_handleChannelModeIs : Fine (handleChannelModeIs msg) := by
  apply seq (fine_needParams msg 2)
  apply Keeps.get_bind
  intro uc _
  split
  · exact .pure _
  · exact fine_changeChannelModes _ _ _ _

theorem fine_handleCreationTime : Fine (handleCreationTime msg) := by
  apply seq (fine_needParams msg 3)
  exact fine_changeChannel _

theorem fine_handleTopicWhoTime : Fine (handleTopicWhoTime env msg) := by
  apply seq (fine_needParams msg 4)
  apply Keeps.get_bind
  intro uc _
  split
  · exact .pure _
  · apply seq (fine_setChannel _ _)
    exact fine_failIf _ _

theorem fine_handleNamReply : Fine (handleNamReply msg) := by
  apply seq (fine_needParams msg 4)
  apply Keeps.get_bind
  intro uc _
  split
  · exact .pure _
  · split
    · exact fine_fail _
    · exact fine_setChannel _ _

theorem fine_handleEndOfNames : Fine (handleEndOfNames msg) := by
  apply seq (fine_needParams msg 2)
  apply Keeps.get_bind
  intro uc _
  split
  · exact .pure _
  · apply seq (fine_failIf _ _)
    exact fine_setChannel _ _

theorem fine_expectPending (cmd command : String) : Fine (expectPending cmd command) := by
  apply Keeps.get_bind
  intro uc _
  exact fine_failIf _ _

theorem fine_expectDequeued (cmd command : String) : Fine (expectDequeued cmd command) := by
  apply Keeps.bind (fine_dequeueCommand cmd)
  intro current
  exact fine_failIf _ _

theorem fine_cacheReply (hn : info.nickname ≠ "") : Fine (cacheReply info) := by
  apply Keeps.get_bind
  intro uc _
  apply either
  · exact fine_cacheUserInfo hn _
  · exact .pure _

theorem fine_handleWhoReply (hn : 8 ≤ msg.params.length → msg.param 5 ≠ "") : Fine (handleWhoReply msg) := by
  intro uc h
  apply safe_needParams_bind h
  intro hlen
  apply Safe.get_bind
  split
  · exact fine_fail _ uc h
  · exact h
  · split
    · exact fine_fail _ uc h
    · exact fine_cacheReply (hn hlen) uc h

/-- The nickname a WHOX reply has for the fields the waiting `WHO` asked for. -/
def whoxNick (uc : Conn) : Option String :=
  (uc.currentPendingCommand "WHO").2.bind fun cmd =>
    (parseWHOXReply msg (parseWHOXOptions env (cmd.param 1))).map User.nickname

theorem safe_handleWhoxReply (h : Invariant uc) (hn : whoxNick env msg uc ≠ some "") :
    Safe Invariant NoPanic (handleWhoxReply env msg) uc := by
  apply Safe.get_bind
  split
  · exact fine_fail _ uc h
  · exact h
  rename_i hcmd
  split
  · simp only
    split
    · split
      · exact fine_fail _ uc h
      · rename_i hinfo
        apply fine_cacheReply _ uc h
        intro he
        apply hn
        simp [whoxNick,hcmd,hinfo,he]
    · exact h
  · exact h

theorem fine_handleLoggedIn : Fine (handleLoggedIn env msg) := fine_params_frame msg 3 fun _ => rfl

theorem fine_handleLoggedOut : Fine (handleLoggedOut env msg) := fine_params_frame msg 2 fun _ => rfl

theorem fine_handleMyInfo : Fine (handleMyInfo msg) := fine_params_frame msg 5 fun _ => rfl

theorem fine_handleMonitor : Fine (handleMonitor env msg) := fine_params_frame msg 2 fun _ => rfl

theorem fine_handleNoSuchNick : Fine (handleNoSuchNick msg) := by
  apply seq (fine_needParams msg 3)
  apply Keeps.get_bind
  intro uc _
  split
  · exact .pure _
  · apply either
    · exact Keeps.discard (fine_dequeueCommand _)
    · exact .pure _

theorem fine_handleCommandError : Fine (handleCommandError msg) := by
  apply seq (fine_needParams msg 3)
  apply seq (.discard (fine_dequeueCommand _))
  apply fine_frame
  intro uc
  split <;> rfl

theorem fine_handleFail : Fine (handleFail msg) := by
  apply seq (fine_needParams msg 2)
  apply Keeps.get_bind
  intro uc _
  apply seq (fine_failIf _ _)
  exact Keeps.discard (fine_dequeueCommand _)

theorem fine_handleRegistrationError : Fine (handleRegistrationError msg) := by
  apply Keeps.get_bind
  intro uc _
  exact fine_failIf _ _

theorem fine_handleNickInUse : Fine (handleNickInUse msg) := by
  apply Keeps.get_bind
  intro uc _
  apply either
  · apply Keeps.modify
    intro uc' h'
    exact ⟨by simp,h'.users,h'.timer⟩
  · apply seq (fine_needParams msg 2)
    apply either
    · exact fine_frame fun _ => rfl
    · exact fine_handleRegistrationError msg

theorem fine_handleError : Fine (handleError msg) := by
  apply seq (fine_needParams msg 1)
  exact fine_fail _

end Replies

end Sake.Proofs.Handlers
