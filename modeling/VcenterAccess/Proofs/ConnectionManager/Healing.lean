import VcenterAccess.Proofs.ConnectionManager.Caching
import VcenterAccess.Proofs.ConnectionManager.Refreshing

/-!
# What a Secret heals

A server is served if its vCenter takes the credential that its Secret holds, a client can be
created for every URL, and nothing fails but logins that are rejected (`VirtualCenter.Served`).
Whatever credentials its connection has from earlier, a connect to it then succeeds, unless the
vCenter never gets to judge those credentials: the session manager hands out no token for them,
or they are no certificate with its key (`Responder.Stuck`).  Such a failure says nothing about
what the vCenter would take, so it is returned as it is and the Secret is not looked at.  This
needs revisions to determine data, since a Secret of the cached revision is not read anew.
-/

namespace VcenterAccess

open Program

/-- The fault that a question is answered with. -/
def Question.fault? (question : Question) (answer : question.Answer) : Option Fault :=
  match question, answer with
  | .newClient .., .error fault => some fault
  | .login .., .error fault => some fault
  | .issueToken .., .error fault => some fault
  | .loginByToken .., .error fault => some fault
  | .cloneSession .., .error fault => some fault
  | .userSession _, .error fault => some fault
  | .logout _, .error fault => some fault
  | _, _ => none

namespace Responder

variable {ω : Type} (r : Responder ω) (good : ω → Prop)

/-- A fresh login of a connection with some credentials succeeds in good states. -/
def Admits (c : Connection) (credentials : SessionCredentials) : Prop :=
  match LoginStrategy.select credentials with
  | .sharedSession url token => ∀ s, good s →
      ∃ fresh, (r (.sharedToken c.tokenSource { url, token }) s).1 = .ok fresh ∧
        ∀ client, (r (.cloneSession client fresh)
          (r (.sharedToken c.tokenSource { url, token }) s).2).1 = .ok ()
  | .certificate certificate privateKey =>
      ∃ keyPair, KeyPair.ofPem certificate privateKey = .ok keyPair ∧ ∀ s client, good s →
        ∃ signer, (r (.issueToken client keyPair) s).1 = .ok signer ∧
          (r (.loginByToken client signer) (r (.issueToken client keyPair) s).2).1 = .ok ()
  | .password username password => ∀ s client, good s →
      (r (.login client username password) s).1 = .ok ()

/-- The failures of a login before the vCenter judges the credentials. -/
inductive Stuck (c : Connection) (credentials : SessionCredentials) : ConnectionError → Prop where
  /-- The session manager hands out no token. -/
  | token {url token : String} {cause : SharedTokenError} {s : ω}
      (managed : LoginStrategy.select credentials = .sharedSession url token) (now : good s)
      (refused : (r (.sharedToken c.tokenSource { url, token }) s).1 = .error cause) :
      Stuck c credentials (.getSharedToken url cause)
  /-- Certificate and private key do not load. -/
  | keyPair {certificate privateKey : String} {cause : KeyPairError}
      (certified : LoginStrategy.select credentials = .certificate certificate privateKey)
      (broken : KeyPair.ofPem certificate privateKey = .error cause) :
      Stuck c credentials (.loadKeyPair cause)

/-- Good states stay good, and nothing fails in them but logins that are rejected.  In particular
a client can be created for every URL: this never fails, not even as a rejected login. -/
structure Sane : Prop where
  stays : ∀ question s, good s → good (r question s).2
  rejects : ∀ (question : Question) s fault, good s →
    question.fault? (r question s).1 = some fault → fault.isInvalidLogin = true
  /-- A client can be created for every URL. -/
  creates : ∀ url anchor agent s, good s → ∃ client, (r (.newClient url anchor agent) s).1 = .ok client

variable {r good}

/-- Good states stay good. -/
theorem Sane.alone (h : r.Sane good) {α : Type} (p : Program α) {s : Scene ω}
    (hs : good s.outside) : good (p.alone r s).scene.outside := by
  induction p generalizing s with
  | done a => exact hs
  | perform operation next ih =>
      refine ih _ ?_
      cases operation with
      | ask question => exact h.stays question s.outside hs
      | _ => exact hs

end Responder

/-! ## One login -/

namespace Connection

variable {ω : Type} {r : Responder ω} {good : ω → Prop} {c : Connection} {client : Client}
  {state : LoginState} {s : Scene ω}

/-- A login with credentials that are admitted succeeds. -/
theorem logIn_of_admits (hsane : r.Sane good) (hadmits : r.Admits good c state.credentials)
    (hs : good s.outside) : ((c.logIn client state).alone r s).result = .ok () := by
  unfold logIn
  unfold Responder.Admits at hadmits
  cases hselect : LoginStrategy.select state.credentials with
  | sharedSession url token =>
      rw [hselect] at hadmits
      simp only
      rw [alone_bind]
      have hkept := hsane.alone (cloneKept client state.sharedToken) hs
      generalize (cloneKept client state.sharedToken).alone r s = kept at hkept ⊢
      cases hresult : kept.result with
      | true => rfl
      | false =>
          obtain ⟨fresh, hfresh, hclone⟩ := hadmits kept.scene.outside hkept
          change ((c.cloneFresh client state url token).alone r kept.scene).result = _
          rw [cloneFresh, alone_ask_bind, hfresh]
          simp only
          rw [alone_ask_bind, hclone client]
          rfl
  | certificate certificate privateKey =>
      rw [hselect] at hadmits
      obtain ⟨keyPair, hload, hadmits⟩ := hadmits
      obtain ⟨signer, hissue, hlogin⟩ := hadmits s.outside client hs
      simp only
      rw [loginByCertificate, hload]
      simp only
      rw [alone_ask_bind, hissue]
      simp only
      rw [alone_ask_bind, hlogin]
      rfl
  | password username password =>
      rw [hselect] at hadmits
      simp only
      rw [loginByPassword, alone_ask_bind, hadmits s.outside client hs]
      rfl

/-! Every failure is a rejection, or the login gets stuck. -/

variable {e : ConnectionError}

theorem failure_of_cloneFresh (hsane : r.Sane good) (hs : good s.outside) {url token : String}
    (hselect : LoginStrategy.select state.credentials = .sharedSession url token)
    (he : ((c.cloneFresh client state url token).alone r s).result = .error e) :
    e.isInvalidLogin = true ∨ r.Stuck good c state.credentials e := by
  rw [cloneFresh, alone_ask_bind] at he
  cases hfresh : (r (.sharedToken c.tokenSource { url, token }) s.outside).1 with
  | error cause =>
      rw [hfresh] at he
      cases he
      exact .inr (.token hselect hs hfresh)
  | ok fresh =>
      have hs' := hsane.stays (.sharedToken c.tokenSource { url, token }) s.outside hs
      rw [hfresh] at he
      simp only at he
      rw [alone_ask_bind] at he
      cases hclone : (r (.cloneSession client fresh)
          (r (.sharedToken c.tokenSource { url, token }) s.outside).2).1 with
      | error cause =>
          rw [hclone] at he
          cases he
          exact .inl (hsane.rejects (.cloneSession client fresh) _ cause hs' (by rw [hclone]; rfl))
      | ok _ =>
          rw [hclone] at he
          cases he

theorem failure_of_loginByCertificate (hsane : r.Sane good) (hs : good s.outside)
    {certificate privateKey : String}
    (hselect : LoginStrategy.select state.credentials = .certificate certificate privateKey)
    (he : ((loginByCertificate client certificate privateKey).alone r s).result = .error e) :
    e.isInvalidLogin = true ∨ r.Stuck good c state.credentials e := by
  rw [loginByCertificate] at he
  cases hload : KeyPair.ofPem certificate privateKey with
  | error cause =>
      rw [hload] at he
      cases he
      exact .inr (.keyPair hselect hload)
  | ok keyPair =>
      rw [hload] at he
      simp only at he
      rw [alone_ask_bind] at he
      have hs' := hsane.stays (.issueToken client keyPair) s.outside hs
      cases hissue : (r (.issueToken client keyPair) s.outside).1 with
      | error cause =>
          rw [hissue] at he
          cases he
          exact .inl (hsane.rejects (.issueToken client keyPair) _ cause hs (by rw [hissue]; rfl))
      | ok signer =>
          rw [hissue] at he
          simp only at he
          rw [alone_ask_bind] at he
          cases hlogin : (r (.loginByToken client signer)
              (r (.issueToken client keyPair) s.outside).2).1 with
          | error cause =>
              rw [hlogin] at he
              cases he
              exact .inl (hsane.rejects (.loginByToken client signer) _ cause hs'
                (by rw [hlogin]; rfl))
          | ok _ =>
              rw [hlogin] at he
              cases he

theorem failure_of_loginByPassword (hsane : r.Sane good) (hs : good s.outside)
    {username password : String}
    (he : ((loginByPassword client username password).alone r s).result = .error e) :
    e.isInvalidLogin = true := by
  rw [loginByPassword, alone_ask_bind] at he
  cases hlogin : (r (.login client username password) s.outside).1 with
  | error cause =>
      rw [hlogin] at he
      cases he
      exact hsane.rejects (.login client username password) _ cause hs (by rw [hlogin]; rfl)
  | ok _ =>
      rw [hlogin] at he
      cases he

theorem failure_of_logIn (hsane : r.Sane good) (hs : good s.outside)
    (he : ((c.logIn client state).alone r s).result = .error e) :
    e.isInvalidLogin = true ∨ r.Stuck good c state.credentials e := by
  rw [logIn] at he
  cases hselect : LoginStrategy.select state.credentials with
  | sharedSession url token =>
      rw [hselect] at he
      simp only at he
      rw [alone_bind] at he
      have hkept := hsane.alone (cloneKept client state.sharedToken) hs
      generalize (cloneKept client state.sharedToken).alone r s = kept at hkept he
      cases hresult : kept.result with
      | true =>
          rw [hresult] at he
          cases he
      | false =>
          rw [hresult] at he
          exact failure_of_cloneFresh hsane hkept hselect he
  | certificate certificate privateKey =>
      rw [hselect] at he
      exact failure_of_loginByCertificate hsane hs hselect he
  | password username password =>
      rw [hselect] at he
      exact .inl (failure_of_loginByPassword hsane hs he)

/-! ## One attempt -/

/-- What a login with a new client comes to: it fails as the login of the client does. -/
theorem alone_newClient (hsane : r.Sane good) (hs : good s.outside)
    {url : Url} (hurl : c.options.sdkUrl = .ok url) :
    ∃ client s', good s'.outside ∧ (∀ e, (c.newClient.alone r s).result = .error e ↔
      ((c.logIn client (s.memory.login c.number)).alone r s').result = .error e) := by
  unfold newClient
  rw [hurl]
  simp only
  rw [alone_locked, createAndLogIn, alone_operate_bind, alone_ask_bind]
  obtain ⟨client, hclient⟩ := hsane.creates url c.options.trustAnchor userAgent s.outside hs
  have hs' := hsane.stays (.newClient url c.options.trustAnchor userAgent) s.outside hs
  refine ⟨client, ⟨s.memory, _⟩, hs', fun e => ?_⟩
  simp only [Operation.alone]
  rw [hclient]
  simp only
  rw [alone_bind]
  cases hlogin : ((c.logIn client (s.memory.login c.number)).alone r
      ⟨s.memory, (r (.newClient url c.options.trustAnchor userAgent) s.outside).2⟩).result with
  | error cause => exact ⟨fun h => by cases h; rfl, fun h => by cases h; rfl⟩
  | ok _ => exact ⟨nofun, nofun⟩

/-- A connect fails as some login of a client with what the connection has. -/
theorem exists_of_failure (hsane : r.Sane good) (hs : good s.outside) {url : Url}
    (hurl : c.options.sdkUrl = .ok url) (he : (c.connect.alone r s).result = .error e) :
    ∃ client s', good s'.outside ∧
      ((c.logIn client (s.memory.login c.number)).alone r s').result = .error e := by
  have hrenew : ∀ s' : Scene ω, good s'.outside →
      s'.memory.login c.number = s.memory.login c.number →
      (c.renew.alone r s').result = .error e → ∃ client s', good s'.outside ∧
        ((c.logIn client (s.memory.login c.number)).alone r s').result = .error e := by
    intro s' hs' hlogin he
    obtain ⟨client, s'', hs'', hnew⟩ := alone_newClient (c := c) hsane hs' hurl
    rw [renew, alone_bind] at he
    cases hresult : (c.newClient.alone r s').result with
    | error cause =>
        rw [hresult] at he
        cases he
        exact ⟨client, s'', hs'', hlogin ▸ (hnew e).mp hresult⟩
    | ok _ =>
        rw [hresult] at he
        cases he
  rw [connect, alone_locked, ensureSession] at he
  simp only at he
  rw [alone_operate_bind] at he
  cases hclient : s.memory.client c.number with
  | none =>
      simp only [Operation.alone, hclient] at he
      exact hrenew s hs rfl he
  | some client =>
      simp only [Operation.alone, hclient] at he
      rw [alone_ask_bind] at he
      have hs' := hsane.stays (.userSession client) s.outside hs
      have hdropped := hrenew ⟨s.memory.setClient c.number none, _⟩ hs' (Memory.login_setClient ..)
      generalize (r (.userSession client) s.outside).1 = session at he
      rcases session with cause | _ | session
      · exact hdropped he
      · exact hdropped he
      · cases he

variable (c r s) in
/-- A connect leaves all caches. -/
theorem cache_connect (n : Nat) :
    (c.connect.alone r s).scene.memory.cache n = s.memory.cache n :=
  cache_of_uncached (uncached_connect.along (path_alone s c.connect)) (runs_alone s c.connect) n

/-- With credentials that are admitted, a connect succeeds. -/
theorem connect_of_admits (hsane : r.Sane good) (hs : good s.outside) {url : Url}
    (hurl : c.options.sdkUrl = .ok url)
    (hadmits : r.Admits good c (s.memory.login c.number).credentials) :
    (c.connect.alone r s).result = .ok () := by
  cases hresult : (c.connect.alone r s).result with
  | ok _ => rfl
  | error e =>
      obtain ⟨client, s', hs', he⟩ := exists_of_failure hsane hs hurl hresult
      cases he.symm.trans (logIn_of_admits hsane hadmits hs')

/-- A connect fails because a login is rejected, or gets stuck with what the connection has. -/
theorem failure_of_connect (hsane : r.Sane good) (hs : good s.outside) {url : Url}
    (hurl : c.options.sdkUrl = .ok url) (he : (c.connect.alone r s).result = .error e) :
    e.isInvalidLogin = true ∨ r.Stuck good c (s.memory.login c.number).credentials e := by
  obtain ⟨client, s', hs', hlogin⟩ := exists_of_failure hsane hs hurl he
  exact failure_of_logIn hsane hs' hlogin

end Connection

/-! ## One call -/

/-- A server is served in good states: its URL can be parsed, and its Secret holds a
credential that its vCenter takes.  Creating a client never fails in these states, and all that
fails is a login that is rejected (`Responder.Sane`). -/
structure VirtualCenter.Served {ω : Type} (v : VirtualCenter) (server : String)
    (r : Responder ω) (good : ω → Prop) (source : SecretSource) (secret : Secret)
    (credential : Credential) : Prop where
  sane : r.Sane good
  url : ∃ url, v.connection.options.sdkUrl = .ok url
  configured : v.source = some source
  listed : ∀ s, good s → (r (.listedSecret source.store source.reference) s).1 = some secret
  holds : ∃ table, secret.credentials = .ok table ∧ table.get? server = some credential
  admits : r.Admits good v.connection (.ofCredential credential)

namespace SecretSource

variable {ω : Type} {r : Responder ω} {s : Scene ω}

/-- A look-up serves the credential of the Secret that is listed. -/
theorem getCredential_of_listed (source : SecretSource) {server : String} {seen : List Secret}
    {secret : Secret} {table : CredentialTable} {credential : Credential}
    (hbacked : (s.memory.cache source.number).Backed seen)
    (hseen : CredentialManager.RevisionsDetermineData (secret :: seen))
    (hlisted : (r (.listedSecret source.store source.reference) s.outside).1 = some secret)
    (htable : secret.credentials = .ok table) (hcredential : table.get? server = some credential) :
    ((source.getCredential server).alone r s).result = .ok credential := by
  obtain ⟨cache, hrefresh, rfl⟩ := (hbacked.mono fun s hs => List.mem_cons_of_mem _ hs).exists_refresh
    hseen (List.mem_cons_self ..) htable source.reference
  rw [getCredential, alone_serve]
  simp only [hlisted, hrefresh]
  rw [CredentialManager.find, SecretCache.credential?, hcredential]

end SecretSource

theorem Responder.Stuck.not_isInvalidLogin {ω : Type} {r : Responder ω} {good : ω → Prop}
    {c : Connection} {credentials : SessionCredentials} {cause : ConnectionError}
    (h : r.Stuck good c credentials cause) : cause.isInvalidLogin = false := by
  cases h <;> rfl

namespace ConnectionManager

variable {ω : Type} {r : Responder ω} {good : ω → Prop} {s : Scene ω} {m : ConnectionManager}
  {server : String} {v : VirtualCenter} {source : SecretSource} {secret : Secret}
  {credential : Credential} {seen : List Secret}

/-- A connect that goes one of the ways to a server that is served succeeds, or its first
attempt gets stuck. -/
theorem result_of_served (hbacked : (s.memory.cache source.number).Backed seen)
    (hs : good s.outside) (hserved : v.Served server r good source secret credential)
    (hseen : CredentialManager.RevisionsDetermineData (secret :: seen))
    {e : Ending ω (Except ManagerError Connection)} (hcourse : v.Course r s server e) :
    e.result = .ok v.connection ∨
      ∃ cause, (v.connection.connect.alone r s).result = .error cause ∧
        r.Stuck good v.connection (v.login s).credentials cause := by
  obtain ⟨url, hurl⟩ := hserved.url
  obtain ⟨table, htable, hcredential⟩ := hserved.holds
  have hfind : ((source.getCredential server).alone r
      (v.connection.connect.alone r s).scene).result = .ok credential := by
    refine source.getCredential_of_listed ?_ hseen ?_ htable hcredential
    · rw [v.connection.cache_connect]
      exact hbacked
    · exact hserved.listed _ (hserved.sane.alone _ hs)
  cases hcourse with
  | connected => exact .inl rfl
  | @failed first cause attempt failure reason =>
      subst attempt
      refine .inr ⟨cause, failure, ?_⟩
      rcases Connection.failure_of_connect hserved.sane hs hurl failure with hrejected | hstuck
      · rcases reason with haccepted | hnone
        · cases hrejected.symm.trans haccepted
        · cases hserved.configured.symm.trans hnone
      · exact hstuck
  | unrefreshed attempt _ _ configured refresh missing =>
      subst attempt refresh
      cases hserved.configured.symm.trans configured
      cases hfind.symm.trans missing
  | @refreshed first second _ _ lookup found update attempt _ _ configured refresh hfound replace
      retry _ used =>
      subst attempt refresh
      cases hserved.configured.symm.trans configured
      obtain rfl : credential = found := Except.ok.inj (hfind.symm.trans hfound)
      have hgood : good update.scene.outside := by
        subst replace
        exact hserved.sane.alone _ (hserved.sane.alone _ (hserved.sane.alone _ hs))
      have hsecond : second.result = .ok () := by
        subst retry
        refine Connection.connect_of_admits hserved.sane hgood hurl ?_
        have hused : (update.scene.memory.login v.connection.number).credentials = _ := used
        rw [hused]
        exact hserved.admits
      refine .inl ?_
      simp only [hsecond]
      rfl

/-- Rotation in the Secret heals the connection, unless the vCenter never gets to judge what
the connection has from earlier.  That the server is served includes that creating a client for a
URL never fails. -/
theorem connect_heals (hreached : m.Reached s.memory seen)
    (hknown : m.virtualCenters.get? server = some v) (hs : good s.outside)
    (hserved : v.Served server r good source secret credential)
    (hseen : CredentialManager.RevisionsDetermineData (secret :: seen)) :
    let first := v.connection.connect.alone r s
    let e := (m.connect server).alone r s
    Machine.Ends r s (m.connect server) e ∧
      ((∀ cause, first.result = .error cause →
          ¬ r.Stuck good v.connection (v.login s).credentials cause) →
        e.result = .ok v.connection) ∧
      ∀ cause, first.result = .error cause →
        r.Stuck good v.connection (v.login s).credentials cause →
          e.result = .error (.connect server cause) ∧ listings e.steps = [] := by
  have hcourse := course_connect (r := r) (s := s) hknown
  refine ⟨Machine.ends_alone r (m.bracketed_connect server) s, fun hfree => ?_, ?_⟩
  · rcases result_of_served (hreached.backed source.number) hs hserved hseen hcourse with
      hok | ⟨cause, hfailure, hstuck⟩
    · exact hok
    · exact absurd hstuck (hfree cause hfailure)
  · intro cause hfailure hstuck
    have hjudged := hstuck.not_isInvalidLogin
    generalize (m.connect server).alone r s = e at hcourse ⊢
    cases hcourse with
    | connected attempt taken =>
        subst attempt
        cases hfailure.symm.trans taken
    | failed attempt failure _ unlisted =>
        subst attempt
        cases hfailure.symm.trans failure
        exact ⟨rfl, unlisted⟩
    | unrefreshed attempt failure rejected =>
        subst attempt
        cases hfailure.symm.trans failure
        cases hjudged.symm.trans rejected
    | refreshed attempt failure rejected =>
        subst attempt
        cases hfailure.symm.trans failure
        cases hjudged.symm.trans rejected

/-! ## A rotation to look at -/

/-- The vCenter with the new password serves its server. -/
theorem served_newLock : onlyVcenter.Served "vcenter" newLock (fun _ => True) oneSource rotated
    { user := "k8s", password := "new" } := by
  constructor
  case sane =>
    refine ⟨fun _ _ _ => trivial, fun question _ fault _ hfault => ?_, fun _ _ _ _ _ => ⟨_, rfl⟩⟩
    cases question with
    | login client username password =>
        by_cases hnew : password = "new"
        · simp [newLock, hnew, Question.fault?] at hfault
        · simp only [newLock, hnew, if_false, Question.fault?, Option.some.injEq] at hfault
          rw [← hfault]
          rfl
    | issueToken => cases hfault; rfl
    | loginByToken => cases hfault; rfl
    | cloneSession => cases hfault; rfl
    | _ => cases hfault
  case url =>
    have hparsed : (ConnectionOptions.sdkUrl { hostname := "vcenter" }).isOk = true := by
      decide +kernel
    change ∃ url, ConnectionOptions.sdkUrl { hostname := "vcenter" } = .ok url
    cases hurl : ConnectionOptions.sdkUrl { hostname := "vcenter" } with
    | ok url => exact ⟨url, rfl⟩
    | error cause =>
        rw [hurl] at hparsed
        cases hparsed
  case configured => rfl
  case listed => exact fun _ _ => rfl
  case holds =>
    have hread : rotated.credentials.toOption.bind (Table.get? · "vcenter") =
        some { user := "k8s", password := "new" } := by decide +kernel
    cases htable : rotated.credentials with
    | ok table =>
        rw [htable] at hread
        exact ⟨table, rfl, hread⟩
    | error cause =>
        rw [htable] at hread
        cases hread
  case admits =>
    have hselect : LoginStrategy.select
        (.ofCredential { user := "k8s", password := "new" }) = .password "k8s" "new" := by
      decide +kernel
    unfold Responder.Admits
    rw [hselect]
    exact fun _ _ _ => rfl

/-- The old password is rejected, and the new one of the Secret heals the connection. -/
theorem connect_heals_password :
    let s : Scene Unit := ⟨({} : Memory).start 0 { username := "k8s", password := "old" }, ()⟩
    oneServer.Reached s.memory [] ∧ oneServer.virtualCenters.get? "vcenter" = some onlyVcenter ∧
      CredentialManager.RevisionsDetermineData [rotated] ∧
      ((oneServer.connect "vcenter").alone newLock s).result = .ok onlyVcenter.connection := by
  intro s
  have hreached : oneServer.Reached s.memory [] := .insert .new _ _ _
  have hseen : CredentialManager.RevisionsDetermineData [rotated] := by decide +kernel
  have hselect : LoginStrategy.select (onlyVcenter.login s).credentials = .password "k8s" "old" := by
    decide +kernel
  refine ⟨hreached, rfl, hseen,
    (connect_heals hreached rfl trivial served_newLock hseen).2.1 fun cause _ hstuck => ?_⟩
  cases hstuck with
  | token managed => cases hselect.symm.trans managed
  | keyPair certified => cases hselect.symm.trans certified

/-- A certificate that does not load is not healed, although the Secret holds a password that
the vCenter takes. -/
theorem connect_not_healed :
    let s : Scene Unit := ⟨({} : Memory).start 0
      { username := "-----BEGIN CERTIFICATE-----\nAAAA\n-----END CERTIFICATE-----\n"
        password := "stale" }, ()⟩
    oneServer.Reached s.memory [] ∧ oneServer.virtualCenters.get? "vcenter" = some onlyVcenter ∧
      onlyVcenter.Served "vcenter" newLock (fun _ => True) oneSource rotated
        { user := "k8s", password := "new" } ∧
      CredentialManager.RevisionsDetermineData [rotated] ∧
      ((oneServer.connect "vcenter").alone newLock s).result =
        .error (.connect "vcenter" (.loadKeyPair .unreadableChain)) :=
  ⟨.insert .new _ _ _, rfl, served_newLock, by decide +kernel, by decide +kernel⟩

/-! ## A Secret that changes under its revision -/

/-- The Secret with the old password, under the revision that `rotated` has. -/
def unrevised : Secret :=
  CredentialManager.revision "2" [("vcenter.username", "k8s"), ("vcenter.password", "old")]

/-- A vCenter that takes no password, while the Secret holds the old one. -/
def noLogin : Responder Unit
  | .login .., s => (.error .invalidLogin, s)
  | .listedSecret .., s => (some unrevised, s)
  | question, s => newLock question s

/-- Connect while the Secret still holds the old password. -/
def connectedBefore : List (Move Unit Result) :=
  .begin (oneServer.program (.connect "vcenter")) :: List.replicate 26 (.step 0)

/-- What is kept then: the connection has the old password, and so has the cache. -/
def oldLogin : Memory :=
  ((Machine.idle (({} : Memory).start 0 {}) ()).run noLogin.outside connectedBefore).shared.memory

/-- Nothing is healed by a Secret that got its new password without a new revision: the cache
takes it for the Secret that was read before, and serves the old password. -/
theorem connect_heals_needs_revisions :
    let s : Scene Unit := ⟨oldLogin, ()⟩
    (∃ seen, oneServer.Reached oldLogin seen ∧
        ¬ CredentialManager.RevisionsDetermineData (rotated :: seen)) ∧
      oneServer.virtualCenters.get? "vcenter" = some onlyVcenter ∧
      onlyVcenter.Served "vcenter" newLock (fun _ => True) oneSource rotated
        { user := "k8s", password := "new" } ∧
      (∀ cause, ¬ newLock.Stuck (fun _ => True) onlyVcenter.connection
        (onlyVcenter.login s).credentials cause) ∧
      ((oneServer.connect "vcenter").alone newLock s).result =
        .error (.connect "vcenter" (.login "k8s" .invalidLogin)) := by
  intro s
  have hreached : oneServer.Reached (({} : Memory).start 0 {}) [] := .insert .new _ _ _
  have hcalls : oneServer.Answers connectedBefore := by
    rintro p (_ | ⟨_, hp⟩)
    · exact ⟨_, rfl⟩
    · cases hp
  have hselect : LoginStrategy.select (onlyVcenter.login s).credentials = .password "k8s" "old" := by
    decide +kernel
  refine ⟨⟨_, hreached.run noLogin.outside () hcalls, by decide +kernel⟩, rfl, served_newLock,
    fun cause hstuck => ?_, by decide +kernel⟩
  cases hstuck with
  | token managed => cases hselect.symm.trans managed
  | keyPair certified => cases hselect.symm.trans certified

end ConnectionManager

end VcenterAccess
