import Sake.DeviceCerts

namespace Sake.Proofs.DeviceCerts
open Sake.Lib Sake.Downstream Sake.DeviceCerts
open Sake.Authenticate (Verdict authExternal DeviceCertificate.markUsed)

/-- The client is let in, as this user. -/
def AuthenticatesAs (verdict : Verdict) (username : String) : Prop :=
  username ≠ "" ∧ ∃ l, verdict = .login l ∧ l.username = username

def created : Message := message "CLIENTCERT" ["CREATE"]

/-- The certificate belongs to the user, who has this name. -/
structure Pinned (db : DeviceCerts.Database) (fingerprint : List UInt8) (userID : Int) (username : String) : Prop where
  row : ∃ row, db.certs.find? fingerprint = some row ∧ row.user = userID
  user : db.users userID = some username

section
variable {lib : Library} {base : Env} {db : DeviceCerts.Database} {fingerprint : List UInt8}
  {userID : Int} {username : String} {raw : List UInt8} {row : Row} {db' : DeviceCerts.Database} {client : Client}

theorem store_known (backend : Backend) (hrow : db.certs.find? fingerprint = some row)
    (hid : cert.id = row.cert.id) (hf : cert.fingerprint = row.cert.fingerprint) (id newID : Int) :
    ∃ certs, storeDeviceCertificate backend db id cert newID = .ok { db with certs := certs } ∧
      ∀ f, certs.find? f = (db.certs.find? f).map fun r => if r.cert.id = cert.id then setCert cert r else r := by
  obtain ⟨hmem,hname⟩ := Table.mem_of_find? hrow
  have hne : cert.id ≠ 0 := hid ▸ db.certs.id_ne_zero hrow
  have hfree : ∀ r ∈ db.certs.rows, r.cert.id ≠ cert.id → r.cert.fingerprint ≠ cert.fingerprint := by
    intro r hr hk hn
    exact hk (by rw [db.certs.eq_of_name hr hmem (hn.trans hf),hid])
  rw [storeDeviceCertificate,if_neg hne,dif_pos hfree]
  refine ⟨_,rfl,Table.find?_modify (fun r hr hk => ?_)⟩
  rw [db.certs.eq_of_id hr hmem (hk.trans hid)]
  exact hf

theorem Pinned.mark (h : Pinned db fingerprint userID username)
    (cert : DeviceCertificate) (hrow : db.certs.find? f = some row) (hid : cert.id = row.cert.id)
    (hf : cert.fingerprint = row.cert.fingerprint) (backend : Backend) (id newID : Int) :
    ∃ db', storeDeviceCertificate backend db id cert newID = .ok db' ∧ Pinned db' fingerprint userID username := by
  obtain ⟨certs,hs,hfind⟩ := store_known backend hrow hid hf id newID
  obtain ⟨row',hrow',huser⟩ := h.row
  refine ⟨_,hs,⟨⟨if row'.cert.id = cert.id then setCert cert row' else row',?_,?_⟩,h.user⟩⟩
  · rw [hfind,hrow']
    rfl
  · split <;> exact huser

theorem authExternal_login (id : Int) (cert : DeviceCertificate)
    (hauth : env.config.clientCertAuth = true) (hpeer : env.peerCertificate = some raw)
    (hget : env.getDeviceCertificate (lib.sha512 raw) = .ok (some (id,cert)))
    (huser : env.getUsernameByID id = .ok username)
    (hstore : env.storeDeviceCertificate id (DeviceCertificate.markUsed env cert) = .ok ()) :
    authExternal lib env = .login ⟨username,"","",false⟩ := by
  simp only [authExternal,hauth,Bool.not_true,Bool.false_eq_true,if_false,hpeer,hget,huser,hstore]
  by_cases hempty : username = ""
  · rw [if_pos hempty,hempty]
  · rw [if_neg hempty]

theorem Pinned.verdict (h : Pinned db fingerprint userID username) (hauth : base.config.clientCertAuth = true)
    (hcert : client.cert = some raw) (hraw : lib.sha512 raw = fingerprint) (backend : Backend) :
    authExternal lib (loginEnv base backend db client) = .login ⟨username,"","",false⟩ := by
  obtain ⟨row,hrow,huser⟩ := h.row
  have hget : getDeviceCertificate db (lib.sha512 raw) = some (userID,row.cert) := by
    rw [hraw,getDeviceCertificate,hrow,← huser]
    rfl
  obtain ⟨db',hs,_⟩ := h.mark (DeviceCertificate.markUsed (loginEnv base backend db client) row.cert)
    hrow rfl rfl backend userID 0
  refine authExternal_login userID row.cert hauth hcert (congrArg Except.ok hget) ?_ ?_
  · simp [loginEnv,h.user]
  · simp only [loginEnv] at hs ⊢
    rw [hs]

theorem login_verdict : (login lib base backend db client).1 =
    authExternal lib (loginEnv base backend db client) := by
  simp only [login]
  split
  · split
    · rfl
    · split <;> rfl
  · rfl

section
variable (h : Pinned db fingerprint userID username)
include h

theorem Pinned.after_login (client : Client) :
    Pinned (login lib base backend db client).2 fingerprint userID username := by
  simp only [login]
  split
  next l id cert _ hfound =>
    cases hcert : client.cert with
    | none =>
      rw [hcert] at hfound
      cases hfound
    | some raw =>
      rw [hcert,Option.bind_some] at hfound
      obtain ⟨row,hrow,heq⟩ := Option.map_eq_some_iff.mp hfound
      obtain ⟨rfl,rfl⟩ := Prod.mk.inj heq
      obtain ⟨db',hs,hpinned⟩ := h.mark
        (DeviceCertificate.markUsed (loginEnv base backend db client) row.cert) hrow rfl rfl backend row.user 0
      rw [hs]
      split
      · exact h
      · exact hpinned
  next => exact h

theorem Pinned.insert (id : Int) (cert : DeviceCertificate)
    (hnew : cert.id = 0) (newID : Int) (hs : storeDeviceCertificate backend db id cert newID = .ok db') :
    Pinned db' fingerprint userID username := by
  obtain ⟨row,hrow,huser⟩ := h.row
  rw [storeDeviceCertificate,if_pos hnew] at hs
  split at hs
  · cases hs
  split at hs
  case isFalse => cases hs
  case isTrue hname =>
    split at hs
    case isFalse => cases hs
    case isTrue hid =>
      cases hs
      refine ⟨⟨row,?_,huser⟩,h.user⟩
      rw [Table.find?_insert,if_neg,hrow]
      intro heq
      rw [← heq] at hrow
      rw [hname] at hrow
      cases hrow

theorem step_pinned (hspares : a.spares userID fingerprint = true) (hs : step lib base backend db a = some db') :
    Pinned db' fingerprint userID username := by
  obtain ⟨row,hrow,huser⟩ := h.row
  cases a with
  | store id client label f newID =>
    simp only [step] at hs
    cases hstore : storeDeviceCertificate backend db id ⟨0,label,f,client.now,client.ip⟩ newID with
    | ok db'' =>
      simp only [hstore,Option.some.injEq] at hs
      exact hs ▸ h.insert id _ rfl newID hstore
    | error e =>
      simp only [hstore,Option.some.injEq] at hs
      exact hs ▸ h
  | delete id f =>
    cases hs
    have hf : row.cert.fingerprint = fingerprint := (Table.mem_of_find? hrow).2
    have hother : ¬ id = userID ∨ ¬ f = fingerprint := by simpa [Action.spares] using hspares
    refine ⟨⟨row,Table.find?_delete_spared hrow ?_,huser⟩,h.user⟩
    rw [huser,hf,Bool.and_eq_false_iff,decide_eq_false_iff_not,decide_eq_false_iff_not]
    exact hother.imp (fun hne heq => hne heq.symm) fun hne heq => hne heq.symm
  | login client =>
    cases hs
    exact h.after_login client
  | createUser id name =>
    simp only [step] at hs
    cases hid : db.users id with
    | some other => simp [hid] at hs
    | none =>
      simp only [hid,Option.isSome_none,Bool.false_eq_true,if_false,Option.some.injEq] at hs
      subst hs
      refine ⟨⟨row,hrow,huser⟩,?_⟩
      have hne : userID ≠ id := by
        intro heq
        rw [← heq,h.user] at hid
        cases hid
      exact (if_neg hne).trans h.user
  | deleteUser id =>
    cases hs
    have hne : id ≠ userID := by simpa [Action.spares] using hspares
    refine ⟨⟨row,Table.find?_delete_spared hrow ?_,huser⟩,(if_neg hne.symm).trans h.user⟩
    rw [huser]
    exact decide_eq_false hne.symm

theorem run_pinned (hspares : ∀ a ∈ acts, a.spares userID fingerprint = true)
    (hr : Runs.run (step lib base backend) db acts = some db') : Pinned db' fingerprint userID username :=
  (Runs.AllStates.of_steps
    (Pinned · fingerprint userID username) h (fun _ h => h) (fun _ _ _ h hg hs => step_pinned h hg hs)
    (Runs.AllSteps.of_forall fun a ha _ => hspares a ha)).last hr

end

/-- The claim about one CREATE, for one backend. -/
structure Sound (lib : Library) (base : Env) (backend : Backend) (db : DeviceCerts.Database) (userID : Int)
    (username : String) (client : Client) (raw : List UInt8) (msg : Message) (newID : Int) : Prop where
  /-- Once created, the certificate lets its user in until it is deleted. -/
  login : (handleClientCert lib base backend db userID client msg newID).1 = created →
    ∀ acts db', (∀ a ∈ acts, a.spares userID (lib.sha512 raw) = true) →
      Runs.run (step lib base backend) (handleClientCert lib base backend db userID client msg newID).2 acts =
        some db' →
      ∀ client' : Client, client'.cert = some raw →
        AuthenticatesAs (DeviceCerts.login lib base backend db' client').1 username
  label : (handleClientCert lib base backend db userID client msg newID).1 = created →
    ∀ row, db.certs.find? (lib.sha512 raw) = some row →
      ∃ row', (handleClientCert lib base backend db userID client msg newID).2.certs.find? (lib.sha512 raw) =
        some row' ∧ row'.cert.label = row.cert.label
  other : ∀ row, db.certs.find? (lib.sha512 raw) = some row → row.user ≠ userID →
    (handleClientCert lib base backend db userID client msg newID).1.command = "FAIL"
  again : ∀ row, db.certs.find? (lib.sha512 raw) = some row → row.user = userID →
    (handleClientCert lib base backend db userID client msg newID).1 = created

theorem handleClientCert_create (backend : Backend)
    (db : DeviceCerts.Database) (userID newID : Int) (hauth : base.config.clientCertAuth = true)
    (hcert : client.cert = some raw) (hmsg : lib.upper (msg.param 0) = "CREATE") (hlen : 2 ≤ msg.params.length) :
    handleClientCert lib base backend db userID client msg newID =
      match storeDeviceCertificate backend db userID
          ⟨0,msg.param 1,lib.sha512 raw,client.now,client.ip⟩ newID with
      | .ok db => (created,db)
      | .error .duplicate => (created,db)
      | .error .other => (fail ["INTERNAL_ERROR","CREATE","Could not create device certificate"],db) := by
  have hne : msg.params.isEmpty = false := by
    cases hp : msg.params with
    | nil => simp [hp] at hlen
    | cons p ps => rfl
  have hlt : ¬ msg.params.length < 2 := by omega
  simp only [handleClientCert,hne,hauth,hmsg,hlt,createCert,hcert]
  rfl

theorem store_new (cert : DeviceCertificate) (backend : Backend)
    (hnew : db.certs.NewID newID) (huser : db.users userID = some username) (hid : cert.id = 0)
    (hf : cert.fingerprint = f) (hnone : db.certs.find? f = none) :
    ∃ db', storeDeviceCertificate backend db userID cert newID = .ok db' ∧ Pinned db' f userID username := by
  subst hf
  rw [storeDeviceCertificate,if_pos hid,huser,Option.isNone_some,dif_pos hnone, dif_pos hnew]
  refine ⟨_,rfl,⟨⟨⟨userID,{ cert with id := newID }⟩,?_,rfl⟩,huser⟩⟩
  rw [Table.find?_insert,if_pos rfl]

theorem store_pinned (cert : DeviceCertificate) (backend : Backend) (newID : Int)
    (huser : db.users userID = some username) (hid : cert.id = 0) (hf : cert.fingerprint = f)
    (hrow : db.certs.find? f = some row) :
    storeDeviceCertificate backend db userID cert newID = .error (uniqueViolation backend true) := by
  subst hf
  have hne : db.certs.find? cert.fingerprint ≠ none := by simp [hrow]
  rw [storeDeviceCertificate,if_pos hid,huser,Option.isNone_some,if_neg Bool.false_ne_true,dif_neg hne]

end

/-- Both backends keep the promises of CREATE and answer alike if and only if nobody has pinned the
certificate before, and the user has a name. -/
theorem create_sound_iff (lib : Library) (base : Env) (db : DeviceCerts.Database) (userID newID : Int)
    (username : String) (client : Client) (raw : List UInt8) (msg : Message)
    (hauth : base.config.clientCertAuth = true) (huser : db.users userID = some username)
    (hcert : client.cert = some raw) (hmsg : lib.upper (msg.param 0) = "CREATE")
    (hlen : 2 ≤ msg.params.length) (hnew : db.certs.NewID newID) :
    (Sound lib base .sqlite db userID username client raw msg newID ∧
      Sound lib base .postgres db userID username client raw msg newID ∧
      (handleClientCert lib base .sqlite db userID client msg newID).1 =
        (handleClientCert lib base .postgres db userID client msg newID).1) ↔
    db.certs.find? (lib.sha512 raw) = none ∧ username ≠ "" := by
  have hcreate := fun backend => handleClientCert_create backend db userID newID hauth hcert hmsg hlen
  cases hfind : db.certs.find? (lib.sha512 raw) with
  | some row =>
    have hsqlite := store_pinned ⟨0,msg.param 1,lib.sha512 raw,client.now,client.ip⟩ .sqlite newID huser rfl rfl hfind
    have hpostgres := store_pinned ⟨0,msg.param 1,lib.sha512 raw,client.now,client.ip⟩
      .postgres newID huser rfl rfl hfind
    refine iff_of_false (fun h => ?_) fun h => ?_
    · have heq := h.2.2
      rw [hcreate,hcreate,hsqlite,hpostgres] at heq
      simp [uniqueViolation,created,fail,message] at heq
    · cases h.1
  | none =>
    have hsound : ∀ backend, username ≠ "" → Sound lib base backend db userID username client raw msg newID := by
      intro backend hname
      obtain ⟨db',hs,hpinned⟩ := store_new ⟨0,msg.param 1,lib.sha512 raw,client.now,client.ip⟩
        backend hnew huser rfl rfl hfind
      refine ⟨fun _ acts db'' hspares hr client' hcert' => ?_,fun _ row hrow => ?_,fun row hrow => ?_,
        fun row hrow => ?_⟩
      · rw [hcreate,hs] at hr
        refine ⟨hname,⟨username,"","",false⟩,?_,rfl⟩
        rw [login_verdict]
        exact (run_pinned hpinned hspares hr).verdict hauth hcert' rfl backend
      all_goals
        rw [hfind] at hrow
        cases hrow
    have hanswer : ∀ backend, (handleClientCert lib base backend db userID client msg newID).1 = created := by
      intro backend
      obtain ⟨db',hs,_⟩ := store_new ⟨0,msg.param 1,lib.sha512 raw,client.now,client.ip⟩
        backend hnew huser rfl rfl hfind
      rw [hcreate,hs]
    constructor
    · intro h
      have hlogin := h.1.login (hanswer .sqlite) [] _ (fun _ h => absurd h List.not_mem_nil) rfl client hcert
      exact ⟨rfl,hlogin.1⟩
    · intro h
      exact ⟨hsound .sqlite h.2,hsound .postgres h.2,(hanswer .sqlite).trans (hanswer .postgres).symm⟩

/-- Certificates that are their own fingerprints. -/
def plainLib : Library where
  unicode := .ascii
  sha512 cert := cert
  next _ _ _ := ⟨none,none,.failed⟩

def certServer : Env where
  config := ⟨"irc.example","","","","",true,false⟩
  authPlain := none
  authOAuthBearer := none
  getUser _ _ := .error .hidden
  peerCertificate := none
  getDeviceCertificate _ := .ok none
  getUsernameByID _ := .error .hidden
  storeDeviceCertificate _ _ := .ok ()
  now := 0
  remoteIP := ""

def aliceAndBob (id : Int) : Option String := if id = 1 then some "alice" else if id = 2 then some "bob" else none

/-- Bob has pinned the certificate 7. -/
def bobPinned : DeviceCerts.Database := ⟨aliceAndBob,.single ⟨2,⟨1,"phone",[7],0,""⟩⟩ Int.one_pos⟩

def device (cert : List UInt8) : Client := ⟨some cert,"10.0.0.1",5⟩

/-- Alice pins another certificate. -/
theorem another_cert_pinned : Sound plainLib certServer .sqlite bobPinned 1 "alice" (device [8]) [8]
      (message "CLIENTCERT" ["CREATE","laptop"]) 2 ∧
    Sound plainLib certServer .postgres bobPinned 1 "alice" (device [8]) [8]
      (message "CLIENTCERT" ["CREATE","laptop"]) 2 ∧
    (handleClientCert plainLib certServer .sqlite bobPinned 1 (device [8])
        (message "CLIENTCERT" ["CREATE","laptop"]) 2).1 =
      (handleClientCert plainLib certServer .postgres bobPinned 1 (device [8])
        (message "CLIENTCERT" ["CREATE","laptop"]) 2).1 :=
  (create_sound_iff plainLib certServer bobPinned 1 2 "alice" (device [8]) [8]
    (message "CLIENTCERT" ["CREATE","laptop"]) rfl rfl rfl rfl (Nat.le_refl 2) (by decide)).mpr
    ⟨rfl,by decide⟩

/-- Alice shows the certificate that Bob has pinned: PostgreSQL answers CREATE, and the next login
with it is one of Bob. Bob shows it again: SQLite answers FAIL. -/
theorem pinned_cert_answers : (handleClientCert plainLib certServer .postgres bobPinned 1 (device [7])
      (message "CLIENTCERT" ["CREATE","laptop"]) 2).1 = created ∧
    (login plainLib certServer .postgres (handleClientCert plainLib certServer .postgres bobPinned 1 (device [7])
      (message "CLIENTCERT" ["CREATE","laptop"]) 2).2 (device [7])).1 = .login ⟨"bob","","",false⟩ ∧
    (handleClientCert plainLib certServer .sqlite bobPinned 2 (device [7])
      (message "CLIENTCERT" ["CREATE","phone"]) 2).1 =
        fail ["INTERNAL_ERROR","CREATE","Could not create device certificate"] :=
  ⟨rfl,rfl,rfl⟩

end Sake.Proofs.DeviceCerts
