import Sake.Proofs.ServiceOps

namespace Sake.Proofs.FailedCommands
open Lib.Handler Networks Goroutine Sake.Service UserNetworks ServiceOps Service Service Emits Follows

variable {env : Env} {ctx : Ctx} {s t : State} {e : Fault} {params words : List String} {command : Command}
  {name : String} {edit : Network → Network} {ch : Channel} {key : List UInt8}

/-- The networks, their records, their channels and the rows of the database are as they were. -/
def Unchanged (s t : State) : Prop :=
  t.networks = s.networks ∧
    (∀ r, (t.heap r).record = (s.heap r).record ∧ ∀ name, t.getChannel r name = s.getChannel r name) ∧ t.db = s.db

/-- The commands that write the settings of networks and channels. -/
def setsUp : Command → Bool
  | .channelCreate | .channelUpdate | .networkCreate | .networkUpdate | .certFPGenerate | .certFPImport
  | .certFPRemove | .saslSetPlain | .saslSetExternal | .saslReset => true
  | _ => false

/-- What the operation writes before it can fail repeats what is there. -/
def Repeats (env : Env) (ctx : Ctx) (s : State) : Op → Prop
  | .editSASL r edit => edit (s.heap r).record = (s.heap r).record
  | .createChannel _ _ => False
  | .updateChannel r _ fs ch =>
    if (fs.update env ch).2 = none then toggledChannel env ctx (s.heap r) fs.detached (fs.update env ch).1 = ch
    else (fs.update env ch).1 = ch
  | _ => True

section Dispatch

theorem setsUp_open : commandsMeet (fun cmd => !(cmd.handle.any setsUp && cmd.admin)) = true := by decide

theorem withHelp_error (h : withHelp words params m s = .error e t) : ∃ e', m s = .error e' t := by
  change EStateM.tryCatch m _ s = _ at h
  unfold EStateM.tryCatch at h
  cases hm : m s with
  | ok a u =>
    rw [hm] at h
    cases h
  | error e' u =>
    rw [hm] at h
    cases e' <;> cases h <;> exact ⟨_,rfl⟩

theorem runHandler_command (hcmd : cmd.handle = some command) (hc : setsUp command = true) :
    runHandler env ctx self words params cmd = withHelp words params (handle env ctx command params) := by
  unfold runHandler
  rw [hcmd]
  cases command with
  | userRun => cases hc
  | _ => rfl

theorem names_error (hn : Names ctx.admin s.user.username words command params) (hc : setsUp command = true)
    (he : handleServiceCommand env ctx words s = .error e t) : ∃ e', handle env ctx command params s = .error e' t := by
  induction hn generalizing e with
  | @command words params cmd command hget hcmd =>
    have hopen := getCommand_meets setsUp_open hget
    simp only [hcmd,Option.any_some,hc,Bool.true_and,Bool.not_eq_true'] at hopen
    rw [handleServiceCommand,runCommand,hget] at he
    simp only [hopen,runHandler_command hcmd hc] at he
    exact withHelp_error he
  | @userRun words rest params cmd command hget hcmd hadmin hr ih =>
    have hlen := getCommand_length hget
    have hrest : rest ≠ [] := by
      rintro rfl
      cases hr with
      | command hget' _ | userRun hget' _ _ _ => cases hget'
    rw [handleServiceCommand,runCommand,hget] at he
    simp only [hadmin,Bool.not_true,Bool.and_false,Bool.false_eq_true,if_false,runHandler,hcmd] at he
    have hself : handleUserRun (runCommand env ctx words.length) (s.user.username :: rest) s =
        runCommand env ctx words.length rest s := by
      have hlong : decide ((s.user.username :: rest).length < 2) = false := by simpa [Nat.lt_succ_iff] using hrest
      rw [handleUserRun,hlong]
      change (if s.user.username = s.user.username then runCommand env ctx words.length rest else _) s = _
      rw [if_pos rfl]
    rw [hself,runCommand_depth _ rest (Nat.lt_of_succ_lt (by simpa using hlen))] at he
    exact ih hc he

end Dispatch

section Passes
variable {α : Type} {r : Nat}

theorem parseFlags_ok
    (h : Lib.Flags.parse flags params init = .ok parsed) : parseFlags flags init params s = .ok parsed s := by
  rw [parseFlags,h]
  rfl

theorem parseOnlyFlags_ok
    (h : Lib.Flags.parse flags params init = .ok (fs,[])) : parseOnlyFlags flags init params s = .ok fs s := by
  rw [parseOnlyFlags,bind_ok (parseFlags_ok h)]
  rfl

theorem failIf_ok (h : c = false) (text : String) : failIf c text s = .ok () s := by
  rw [h]
  rfl

theorem selectNetwork_ok (h : Picks ctx s name r) (missing : String) : selectNetwork ctx missing name s = .ok r s := by
  rw [selectNetwork,get_bind]
  unfold Picks at h
  split at h
  · rename_i hname
    rw [if_pos hname,h]
    rfl
  · rename_i hname
    rw [if_neg hname,h]
    rfl

theorem stripNetworkSuffix_ok (h : Targets ctx s word name r) : stripNetworkSuffix ctx word s = .ok (name,r) s := by
  rw [stripNetworkSuffix,get_bind]
  unfold Targets at h
  cases hctx : ctx.network with
  | some own =>
    rw [hctx] at h
    rw [h.1,h.2]
    rfl
  | none =>
    rw [hctx] at h
    obtain ⟨netName,hcut,hr⟩ := h
    simp only [hcut,hr]
    rfl

theorem checkNewChannel_ok (h : FreeName s name r) : checkNewChannel name r s = .ok () s := by
  rw [checkNewChannel,bind_ok (failIf_ok h.1 _),get_bind,bind_ok (failIf_ok h.2.1 _)]
  exact failIf_ok (by rw [h.2.2]; rfl) _

theorem importedPEM_ok (h : Imports env ctx source pem) :
    ∃ s', Emits ctx.admin s s' ∧ importedPEM env ctx source s = .ok pem s' := by
  unfold Imports at h
  unfold importedPEM
  split at h
  · rename_i hbegin
    rw [if_pos hbegin,h]
    exact ⟨s,refl _ s,rfl⟩
  rename_i hbegin
  rw [if_neg hbegin]
  split at h
  · rename_i hurl
    refine ⟨s.emit [.fetch source],one trivial,?_⟩
    rw [bind_ok (failIf_ok (by simp [hurl]) _),readCertKeyPEM,if_pos hurl,bind_ok (failIf_ok (by simp [h.1]) _)]
    exact ofExcept_ok h.2
  · rename_i hurl
    refine ⟨s.emit [.readFile source],one h.1,?_⟩
    rw [bind_ok (failIf_ok (by simp [h.1]) _),readCertKeyPEM,if_neg hurl]
    exact ofExcept_ok h.2

end Passes

section Complete
variable {r : Nat}

theorem storeCertKey_ends (h : Certifies ctx s fs cert key (.editSASL r edit)) (hk : Prints ctx.admin k) :
    EndsAs ctx.admin ((storeCertKey env ctx fs.network fs.isDefault cert key >>= fun _ => k) s)
      ((Op.editSASL r edit).exec env ctx s) := by
  rcases h with ⟨_,_,hop⟩ | ⟨hdefault,r',hr,hop⟩
  · cases hop
  cases hop
  rw [storeCertKey,hdefault]
  simp only [Bool.false_eq_true,if_false]
  rw [bind_assoc,getNetworkFromFlag,bind_ok (selectNetwork_ok hr _)]
  exact endsAs_bind (refl _) (fun _ => hk) s

theorem editSASL_ends (h : (Op.editSASL r edit).Of env ctx s command params) : ∃ s', Emits ctx.admin s s' ∧
      EndsAs ctx.admin (handle env ctx command params s) ((Op.editSASL r edit).exec env ctx s') := by
  cases command with
  | certFPGenerate =>
    obtain ⟨fs,pair,hfs,hbits,hpair,hcert⟩ := h
    refine ⟨s,refl _ s,?_⟩
    rw [handle,handleServiceCertFPGenerate,bind_ok (parseOnlyFlags_ok hfs),bind_ok (failIf_ok hbits _),
      bind_ok (ofExcept_ok hpair)]
    exact storeCertKey_ends hcert ((Prints.print _).bind (sendCertfpFingerprints_prints env _))
  | certFPImport =>
    obtain ⟨fs,source,pem,pair,hfs,hpem,hpair,hcert⟩ := h
    obtain ⟨s',⟨es,hes,rfl⟩,hs'⟩ := importedPEM_ok hpem
    refine ⟨s.emit es,⟨es,hes,rfl⟩,?_⟩
    have hs' : importedPEM env ctx ((fs,[source]).2.headD "") s = .ok pem (s.emit es) := hs'
    rw [handle,handleServiceCertFPImport,bind_ok (parseFlags_ok hfs),
      bind_ok (failIf_ok (c := decide ((fs,[source]).2.length ≠ 1)) rfl _),bind_ok hs',bind_ok (ofExcept_ok hpair)]
    have hcert : Certifies ctx (s.emit es) fs pair.1 pair.2 (.editSASL r edit) := hcert
    exact storeCertKey_ends hcert ((Prints.print _).bind (sendCertfpFingerprints_prints env _))
  | certFPRemove =>
    obtain ⟨fs,hfs,⟨_,_,hop⟩ | ⟨hdefault,r',hr,hop⟩⟩ := h
    · cases hop
    cases hop
    refine ⟨s,refl _ s,?_⟩
    rw [handle,handleServiceCertFPRemove,bind_ok (parseOnlyFlags_ok hfs),hdefault]
    simp only [Bool.false_eq_true,if_false]
    rw [getNetworkFromFlag,bind_ok (selectNetwork_ok hr _)]
    exact endsAs_bind (refl _) (fun _ => Prints.print _) s
  | saslSetPlain =>
    obtain ⟨name,username,password,r',hname,hr,hop⟩ := h
    cases hop
    refine ⟨s,refl _ s,?_⟩
    rw [handle,handleServiceSASLSetPlain,bind_ok (parseFlags_ok hname),
      bind_ok (failIf_ok (c := decide ((name,[username,password]).2.length ≠ 2)) rfl _),getNetworkFromFlag,
      bind_ok (selectNetwork_ok hr _)]
    exact endsAs_bind (refl _) (fun _ => Prints.print _) s
  | saslSetExternal =>
    obtain ⟨name,r',hname,hr,hcert,hop⟩ := h
    cases hop
    refine ⟨s,refl _ s,?_⟩
    rw [handle,handleServiceSASLSetExternal,bind_ok (parseOnlyFlags_ok hname),getNetworkFromFlag,
      bind_ok (selectNetwork_ok hr _),get_bind,bind_ok (failIf_ok (by simpa using hcert) _)]
    exact endsAs_bind (refl _) (fun _ => Prints.print _) s
  | saslReset =>
    obtain ⟨name,r',hname,hr,hop⟩ := h
    cases hop
    refine ⟨s,refl _ s,?_⟩
    rw [handle,handleServiceSASLReset,bind_ok (parseOnlyFlags_ok hname),getNetworkFromFlag,
      bind_ok (selectNetwork_ok hr _)]
    exact endsAs_bind (refl _) (fun _ => Prints.print _) s
  | _ => simp [Op.Of] at h

theorem createChannel_ends (h : (Op.createChannel r ch).Of env ctx s command params) :
    EndsAs ctx.admin (handle env ctx command params s) ((Op.createChannel r ch).exec env ctx s) := by
  cases command with
  | channelCreate =>
    obtain ⟨word,flags,fs,name,r',rfl,hfs,htarget,hnew,hvalid,hop⟩ := h
    cases hop
    have hfs : Lib.Flags.parse channelFlagSet (word :: flags).tail {} = .ok (fs,[]) := hfs
    have htarget : Targets ctx s ((word :: flags).headD "") name r := htarget
    rw [handle,handleServiceChannelCreate,bind_ok (failIf_ok (c := (word :: flags).isEmpty) rfl _),
      bind_ok (parseOnlyFlags_ok hfs),bind_ok (stripNetworkSuffix_ok htarget),bind_ok (checkNewChannel_ok hnew)]
    simp only [hvalid]
    exact endsAs_bind (refl _)
      (fun _ => (Prints.toServer _ _).bind (Prints.print _)) s
  | _ => simp [Op.Of,Certifies] at h

theorem updateChannel_ends (h : (Op.updateChannel r name fs ch).Of env ctx s command params) :
    EndsAs ctx.admin (handle env ctx command params s) ((Op.updateChannel r name fs ch).exec env ctx s) := by
  cases command with
  | channelUpdate =>
    obtain ⟨word,flags,fs',name',r',ch',rfl,hfs,htarget,hch,hop⟩ := h
    cases hop
    have hfs : Lib.Flags.parse channelFlagSet (word :: flags).tail {} = .ok (fs,[]) := hfs
    have htarget : Targets ctx s ((word :: flags).headD "") name r := htarget
    rw [handle,handleServiceChannelUpdate,bind_ok (failIf_ok (c := (word :: flags).isEmpty) rfl _),
      bind_ok (parseOnlyFlags_ok hfs),bind_ok (stripNetworkSuffix_ok htarget),get_bind]
    simp only [hch]
    exact endsAs_bind (refl _) (fun _ => Prints.print _) s
  | _ => simp [Op.Of,Certifies] at h

end Complete

section Operations
theorem Refused.unchanged (h : Refused s t) : Unchanged s t := by
  rcases h with rfl | ⟨answers,rfl⟩ <;> exact ⟨rfl,fun _ => ⟨rfl,fun _ => rfl⟩,rfl⟩

theorem Quiet.unchanged (h : Quiet admin s t) : Unchanged s t := by
  obtain ⟨es,answers,dbFailed,-,-,rfl⟩ := h
  exact ⟨rfl,fun _ => ⟨rfl,fun _ => rfl⟩,rfl⟩

theorem editSASL_unchanged_iff (h : mutateNetwork r edit s = .error e t) :
    Unchanged s t ↔ edit (s.heap r).record = (s.heap r).record := by
  rcases mutateNetwork_cases r edit s with ⟨e',answers,he⟩ | ⟨newID,answers,db,id,-,hok⟩
  · cases he.symm.trans h
    constructor
    · intro hun
      have hrec := (hun.2.1 r).1
      rwa [setRecord_record,if_pos rfl] at hrec
    intro hrec
    refine ⟨rfl,fun x => ⟨?_,setRecord_getChannel s r edit x⟩,rfl⟩
    rw [setRecord_record]
    split
    · rename_i hx
      rw [hx,hrec]
    · rfl
  · cases hok.symm.trans h

theorem createChannel_changed (hnew : s.getChannel r ch.name = none)
    (h : addChannel r ch s = .error e t) : ¬ Unchanged s t := by
  intro hun
  have hget : t.getChannel r ch.name = some ch := by
    rcases saveChannel_cases r ch.name ch (s.setNet r fun net => net.setChannel ch.name ch) with
      ⟨e',answers,he⟩ | ⟨newID,answers,db,id,-,hok⟩
    · cases (wrap_error he _).symm.trans h
      exact (getChannel_set s r ch.name (fun _ => ch) r ch.name).trans (if_pos ⟨rfl,rfl⟩)
    · cases (wrap_ok hok _).symm.trans h
  rw [(hun.2.1 r).2 ch.name,hnew] at hget
  cases hget

/-- Only one channel is another than before. -/
theorem unchanged_iff_of_set (hget : s.getChannel r name = some ch) (hnet : t.networks = s.networks)
    (hrec : ∀ x, (t.heap x).record = (s.heap x).record) (hdb : t.db = s.db) (hset : ∀ x other, t.getChannel x other =
      if x = r ∧ (s.heap r).mapping.apply other = (s.heap r).mapping.apply name then some ch'
      else s.getChannel x other) : Unchanged s t ↔ ch' = ch := by
  constructor
  · intro hun
    have hsame := (hun.2.1 r).2 name
    rw [hset,if_pos ⟨rfl,rfl⟩,hget] at hsame
    exact Option.some.inj hsame
  · intro heq
    refine ⟨hnet,fun x => ⟨hrec x,fun other => ?_⟩,hdb⟩
    rw [hset,heq,← getChannel_same hget]

theorem updateChannel_unchanged_iff
    (hget : s.getChannel r name = some ch) (h : updateChannel env ctx r name fs ch s = .error e t) :
    Unchanged s t ↔ Repeats env ctx s (.updateChannel r name fs ch) := by
  have honly : ChannelsOnly r s t := by
    have hsafe := updateChannel_only env ctx name fs ch s (ChannelsOnly.refl r s)
    rw [Safe,h] at hsafe
    exact hsafe.1
  have hset := getChannel_set s r name fun _ => (fs.update env ch).1
  rw [updateChannel,modify_bind] at h
  cases hup : (fs.update env ch).2 with
  | some text =>
    simp only [hup] at h
    cases h
    simp only [Repeats,hup]
    exact unchanged_iff_of_set hget honly.networks honly.record rfl hset
  | none =>
    simp only [hup] at h
    have hheap := setNet_self s r fun net => net.setChannel name (fs.update env ch).1
    have hnow := (hset r name).trans (if_pos ⟨rfl,rfl⟩)
    have htoggled := toggleDetached_getChannel env ctx hnow fs.detached
    rcases saveChannel_cases r name (toggledChannel env ctx ((s.setNet r fun net =>
        net.setChannel name (fs.update env ch).1).heap r) fs.detached (fs.update env ch).1)
      (toggleDetached env ctx (s.setNet r fun net => net.setChannel name (fs.update env ch).1) r name fs.detached
        (fs.update env ch).1) with ⟨e',answers,he⟩ | ⟨newID,answers,db,id,-,hok⟩
    · cases (wrap_error he _).symm.trans h
      simp only [Repeats,hup]
      refine unchanged_iff_of_set hget honly.networks honly.record (toggleDetached_db env ctx _ r name _ _) ?_
      intro x other
      refine (htoggled x other).trans ?_
      rw [hset,hheap]
      by_cases hkey : x = r ∧ (s.heap r).mapping.apply other = (s.heap r).mapping.apply name
      · exact (if_pos hkey).trans (if_pos hkey).symm
      · rw [if_neg hkey]
        exact (if_neg hkey).trans (if_neg hkey).symm
    · cases (wrap_ok hok _).symm.trans h

end Operations

section Main
variable {op : Op}

theorem EndsAs.error (h : EndsAs admin (.error e t) r) : ∃ e', r = .error e' t := by
  cases r with
  | ok a u =>
    obtain ⟨t',ht',-⟩ := h
    cases ht'
  | error e' u =>
    obtain ⟨e'',he''⟩ := h
    cases he''
    exact ⟨e',rfl⟩

theorem setDefaultCert_unchanged (h : updateUser env (setDefaultCert cert key) s = .error e t) : Unchanged s t := by
  refine Refused.unchanged (updateUser_error (fun record hrec => ?_) h)
  cases hrec
  exact ⟨rfl,rfl⟩

theorem certifies_unchanged_iff (hcert : Certifies ctx s fs cert key op)
    (h : op.exec env ctx s = .error e t) : Unchanged s t ↔ Repeats env ctx s op := by
  rcases hcert with ⟨-,-,rfl⟩ | ⟨-,r,-,rfl⟩
  · exact iff_true_intro (setDefaultCert_unchanged h)
  · exact editSASL_unchanged_iff h

/-- An operation that fails changes nothing just if what it writes before it fails was there. -/
theorem exec_unchanged_iff (hof : op.Of env ctx s command params) (hc : setsUp command = true)
    (h : op.exec env ctx s = .error e t) : Unchanged s t ↔ Repeats env ctx s op := by
  cases command with
  | networkCreate =>
    obtain ⟨fs,addr,-,-,rfl⟩ := hof
    have herr := error_of_discard h
    rcases createNetwork_cases env _ _ s with ⟨e',t',he,href⟩ | ⟨_,_,_,_,_,_,_,_,hok⟩
    · cases he.symm.trans herr
      exact iff_true_intro (Refused.unchanged href)
    · cases hok.symm.trans herr
  | networkUpdate =>
    obtain ⟨fs,r,-,-,rfl⟩ := hof
    have herr := error_of_discard h
    rcases updateNetwork_cases env _ _ s with ⟨e',t',he,href⟩ | ⟨_,_,_,_,_,_,_,_,_,_,hok⟩
    · cases he.symm.trans herr
      exact iff_true_intro (Refused.unchanged href)
    · cases hok.symm.trans herr
  | certFPGenerate =>
    obtain ⟨fs,pair,-,-,-,hcert⟩ := hof
    exact certifies_unchanged_iff hcert h
  | certFPImport =>
    obtain ⟨fs,source,pem,pair,-,-,-,hcert⟩ := hof
    exact certifies_unchanged_iff hcert h
  | certFPRemove =>
    obtain ⟨fs,-,⟨-,-,rfl⟩ | ⟨-,r,-,rfl⟩⟩ := hof
    · exact iff_true_intro (setDefaultCert_unchanged h)
    · exact editSASL_unchanged_iff h
  | saslSetPlain =>
    obtain ⟨name,username,password,r,-,-,rfl⟩ := hof
    exact editSASL_unchanged_iff h
  | saslSetExternal =>
    obtain ⟨name,r,-,-,-,rfl⟩ := hof
    exact editSASL_unchanged_iff h
  | saslReset =>
    obtain ⟨name,r,-,-,rfl⟩ := hof
    exact editSASL_unchanged_iff h
  | channelCreate =>
    obtain ⟨word,flags,fs,name,r,-,-,-,hfree,-,rfl⟩ := hof
    refine iff_false_intro (createChannel_changed ?_ h)
    rw [(update_keeps env fs (newChannel name "")).2]
    exact hfree.2.2
  | channelUpdate =>
    obtain ⟨word,flags,fs,name,r,ch,-,-,-,hch,rfl⟩ := hof
    exact updateChannel_unchanged_iff hch h
  | _ => cases hc

/-- What the command writes before it can fail repeats what is there, if it gets so far. -/
def Harmless (env : Env) (ctx : Ctx) (s : State) (command : Command) (params : List String) : Prop :=
  ∀ op : Op, op.Of env ctx s command params → Repeats env ctx s op

/-- A command that gets past its checks ends as its operation, if that writes before it can fail. -/
theorem of_ends (hof : op.Of env ctx s command params) (hn : ¬ Repeats env ctx s op) : ∃ s', Emits ctx.admin s s' ∧
      EndsAs ctx.admin (handle env ctx command params s) (op.exec env ctx s') := by
  cases op with
  | editSASL r edit => exact editSASL_ends hof
  | createChannel r ch => exact ⟨s,refl _ s,createChannel_ends hof⟩
  | updateChannel r name fs ch => exact ⟨s,refl _ s,updateChannel_ends hof⟩
  | _ => exact absurd trivial hn

theorem setsUp_adminOnly (hc : setsUp command = true) : adminOnly command = false := by
  cases command <;> first | rfl | cases hc

end Main

section Sample

def jane : Database.User := { Database.newUser "jane" with id := 1, nick := "jane" }

/-- A user with one network and one channel. -/
def janeDB : DB where
  users := .single jane Int.one_pos
  networks := .single ⟨1,{ newNetwork "irc.example.org" with id := 1 }⟩ Int.one_pos
  channels := .single ⟨1,{ newChannel "#go" "" with id := 1 }⟩ Int.one_pos
  ignores := .empty
  certs := .empty

/-- The database is full. -/
def janeState : State := State.load jane janeDB [⟨some "database or disk is full",0⟩] []

def janeCtx : Ctx := ⟨"jane",none,false,none,"",0⟩

def janeRuns (words : List String) : EStateM.Result Fault State Unit :=
  handleServiceCommand Env.sample janeCtx words janeState

/-- The command fails, and leaves a state that meets `p`. -/
def failsLeaving (p : State → Bool) : EStateM.Result Fault State Unit → Bool
  | .ok _ _ => false
  | .error _ t => p t

theorem exists_of_failsLeaving (h : failsLeaving p r = true) : ∃ e t, r = .error e t ∧ p t = true := by
  cases r with
  | ok a t => cases h
  | error e t => exact ⟨e,t,rfl,h⟩

end Sample

end Sake.Proofs.FailedCommands
