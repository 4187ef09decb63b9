import VcenterAccess.Proofs.Connection.View

/-!
# The conversation of a connect

What a connect asks, and in which order, is written down here without a program: as the
conversations that can follow from a stored client and from what the next login uses
(`Connection.Converses`).  A connect holds these conversations and no others
(`Connection.ends_connect`), whatever is answered.

It follows that a connect authenticates at most once, or once more after the token that
was kept was turned down, that it asks nothing else and changes nothing while there is a
session, and that it reports the first failure that it cannot make up for.
-/

namespace VcenterAccess

open Program

/-- The token that is kept was turned down, or none is kept. -/
inductive Client.TurnedDown (client : Client) : Option String → List Exchange → Prop where
  | absent : TurnedDown client none []
  | rejected (token : String) (cause : Fault) :
      TurnedDown client (some token) [⟨.cloneSession client token, .error cause⟩]

/-- What is asked to take over the session of a fresh token, and what comes of it. -/
inductive Connection.TakesFresh (c : Connection) (client : Client) (url token : String) :
    List Exchange → Except ConnectionError Unit → Prop where
  /-- The session manager hands out no token. -/
  | unfetched (cause : SharedTokenError) :
      TakesFresh c client url token [⟨.sharedToken c.tokenSource { url, token }, .error cause⟩]
        (.error (.getSharedToken url cause))
  /-- It does, and the vCenter says what it makes of the token. -/
  | fetched (fresh : String) (answer : Except Fault Unit) :
      TakesFresh c client url token
        [⟨.sharedToken c.tokenSource { url, token }, .ok fresh⟩,
          ⟨.cloneSession client fresh, answer⟩]
        (answer.mapError .cloneSession)

/-- What is asked to log a client in, and what comes of it. -/
inductive Connection.LogsIn (c : Connection) (client : Client) (kept : Option String) :
    LoginStrategy → List Exchange → Except ConnectionError Unit → Prop where
  /-- The session of the token that is kept is taken over. -/
  | kept {url token accepted : String} (hkept : kept = some accepted) :
      LogsIn c client kept (.sharedSession url token)
        [⟨.cloneSession client accepted, .ok ()⟩] (.ok ())
  | fresh {url token : String} {turned rest : List Exchange}
      {outcome : Except ConnectionError Unit} (hturned : client.TurnedDown kept turned)
      (hfresh : c.TakesFresh client url token rest outcome) :
      LogsIn c client kept (.sharedSession url token) (turned ++ rest) outcome
  /-- The certificate and the private key are no pair, so nothing is asked. -/
  | unpaired {certificate privateKey : String} {cause : KeyPairError}
      (hpair : KeyPair.ofPem certificate privateKey = .error cause) :
      LogsIn c client kept (.certificate certificate privateKey) [] (.error (.loadKeyPair cause))
  | unissued {certificate privateKey : String} {keyPair : KeyPair}
      (hpair : KeyPair.ofPem certificate privateKey = .ok keyPair) (cause : Fault) :
      LogsIn c client kept (.certificate certificate privateKey)
        [⟨.issueToken client keyPair, .error cause⟩] (.error (.issueToken cause))
  | issued {certificate privateKey : String} {keyPair : KeyPair}
      (hpair : KeyPair.ofPem certificate privateKey = .ok keyPair) (signer : Signer)
      (answer : Except Fault Unit) :
      LogsIn c client kept (.certificate certificate privateKey)
        [⟨.issueToken client keyPair, .ok signer⟩, ⟨.loginByToken client signer, answer⟩]
        (answer.mapError .loginByToken)
  | password {username password : String} (answer : Except Fault Unit) :
      LogsIn c client kept (.password username password)
        [⟨.login client username password, answer⟩] (answer.mapError (.login username))

/-- What is asked to create a client for a URL and to log it in, and what comes of it. -/
inductive Connection.Creates (c : Connection) (s : LoginState) (url : Url) :
    List Exchange → Except ConnectionError Client → Prop where
  | uncreated (cause : Fault) :
      Creates c s url [⟨.newClient url c.options.trustAnchor userAgent, .error cause⟩]
        (.error (.createClient url cause))
  | refused {client : Client} {es : List Exchange} {e : ConnectionError}
      (hlogin : c.LogsIn client s.sharedToken (LoginStrategy.select s.credentials) es (.error e)) :
      Creates c s url (⟨.newClient url c.options.trustAnchor userAgent, .ok client⟩ :: es)
        (.error e)
  /-- Only a client that is logged in is made to send requests again. -/
  | created {client : Client} {es : List Exchange}
      (hlogin : c.LogsIn client s.sharedToken (LoginStrategy.select s.credentials) es (.ok ()))
      (retrying : Client) :
      Creates c s url
        (⟨.newClient url c.options.trustAnchor userAgent, .ok client⟩ ::
          (es ++ [⟨.withRetry client c.retryBudget, retrying⟩]))
        (.ok retrying)

/-- What is asked to get a client that is logged in, and what comes of it. -/
inductive Connection.Renews (c : Connection) (s : LoginState) :
    List Exchange → Except ConnectionError Client → Prop where
  /-- The host makes no URL, so nothing is asked. -/
  | unparsed {cause : UrlError} (hurl : c.options.sdkUrl = .error cause) :
      Renews c s [] (.error (.parseUrl c.options.hostPort cause))
  | parsed {url : Url} {es : List Exchange} {result : Except ConnectionError Client}
      (hurl : c.options.sdkUrl = .ok url) (hcreates : c.Creates s url es result) :
      Renews c s es result

/-- What a connect asks that finds a client, or none, and what comes of it. -/
inductive Connection.Converses (c : Connection) :
    Option Client → LoginState → List Exchange → Except ConnectionError Unit → Prop where
  | absent {s : LoginState} {es : List Exchange} {result : Except ConnectionError Client}
      (hrenews : c.Renews s es result) : Converses c none s es (result.map fun _ => ())
  /-- The client has a session. -/
  | valid (client : Client) (s : LoginState) (session : UserSession) :
      Converses c (some client) s [⟨.userSession client, .ok (some session)⟩] (.ok ())
  /-- It has none, or does not say. -/
  | expired (client : Client) {s : LoginState} {answer : Except Fault (Option UserSession)}
      (hanswer : ∀ session, answer ≠ .ok (some session)) {es : List Exchange}
      {result : Except ConnectionError Client} (hrenews : c.Renews s es result) :
      Converses c (some client) s (⟨.userSession client, answer⟩ :: es) (result.map fun _ => ())

/-! ## Authenticating, and failing -/

/-- Whether a question authenticates a client. -/
def Question.authenticates : Question → Bool
  | .login .. => true
  | .loginByToken .. => true
  | .cloneSession .. => true
  | _ => false

/-- The exchanges that authenticate, or try to. -/
def authentications (es : List Exchange) : List Exchange :=
  es.filter fun e => e.question.authenticates

/-- The failure of an exchange, as a connect reports it. -/
def Exchange.failure? : Exchange → Option ConnectionError
  | ⟨.newClient url .., .error cause⟩ => some (.createClient url cause)
  | ⟨.sharedToken _ options, .error cause⟩ => some (.getSharedToken options.url cause)
  | ⟨.cloneSession .., .error cause⟩ => some (.cloneSession cause)
  | ⟨.issueToken .., .error cause⟩ => some (.issueToken cause)
  | ⟨.loginByToken .., .error cause⟩ => some (.loginByToken cause)
  | ⟨.login _ username _, .error cause⟩ => some (.login username cause)
  | _ => none

/-- The first failure that cannot be made up for.  A token that is kept may be turned down,
once. -/
def firstFailure : Option String → List Exchange → Option ConnectionError
  | _, [] => none
  | some _, ⟨.cloneSession .., .error _⟩ :: es => firstFailure none es
  | kept, e :: es => e.failure?.or (firstFailure kept es)

/-- A failure without a question. -/
inductive Connection.OwnFailure (c : Connection) : LoginStrategy → ConnectionError → Prop where
  /-- The host makes no URL. -/
  | parseUrl {strategy : LoginStrategy} {cause : UrlError} (hurl : c.options.sdkUrl = .error cause) :
      OwnFailure c strategy (.parseUrl c.options.hostPort cause)
  /-- The certificate and the private key are no pair. -/
  | loadKeyPair {certificate privateKey : String} {cause : KeyPairError}
      (hpair : KeyPair.ofPem certificate privateKey = .error cause) :
      OwnFailure c (.certificate certificate privateKey) (.loadKeyPair cause)

/-- The first failure is reported.  If nothing failed that was asked, there is nothing to
report but a failure without a question. -/
def Connection.Reports (c : Connection) (strategy : LoginStrategy) :
    Option ConnectionError → Except ConnectionError Unit → Prop
  | some e, outcome => outcome = .error e
  | none, .error e => c.OwnFailure strategy e
  | none, .ok _ => True

/-! ## A connect holds these conversations -/

namespace Connection

variable {σ : Type} {c : Connection} {v : View c.number σ} {st : σ} {es : List Exchange}
  {client : Client} {s : LoginState} {outcome : Except ConnectionError Unit}

theorem ends_cloneKept {token : Option String} {accepted : Bool} :
    v.Ends st (cloneKept client token) es accepted ↔
      (accepted = false ∧ client.TurnedDown token es) ∨
        ∃ kept, accepted = true ∧ token = some kept ∧ es = [⟨.cloneSession client kept, .ok ()⟩] := by
  cases token with
  | none =>
      rw [cloneKept, View.ends_pure]
      constructor
      · rintro ⟨rfl, rfl⟩
        exact .inl ⟨rfl, .absent⟩
      · rintro (⟨rfl, ⟨⟩⟩ | ⟨kept, -, ⟨⟩, -⟩)
        exact ⟨rfl, rfl⟩
  | some token =>
      rw [cloneKept, View.ends_ask]
      constructor
      · rintro ⟨answer, rest, hrest, rfl⟩
        cases answer with
        | ok _ =>
            obtain ⟨rfl, rfl⟩ := View.ends_pure.mp hrest
            exact .inr ⟨token, rfl, rfl, rfl⟩
        | error cause =>
            obtain ⟨rfl, rfl⟩ := View.ends_pure.mp hrest
            exact .inl ⟨rfl, .rejected token cause⟩
      · rintro (⟨rfl, hturned⟩ | ⟨kept, rfl, hkept, rfl⟩)
        · cases hturned with
          | rejected _ cause => exact ⟨.error cause, [], View.ends_pure.mpr ⟨rfl, rfl⟩, rfl⟩
        · cases hkept
          exact ⟨.ok (), [], View.ends_pure.mpr ⟨rfl, rfl⟩, rfl⟩

theorem ends_cloneFresh {url token : String} :
    v.Ends st (c.cloneFresh client s url token) es outcome ↔
      c.TakesFresh client url token es outcome := by
  rw [cloneFresh, View.ends_ask]
  constructor
  · rintro ⟨answer, rest, hrest, rfl⟩
    cases answer with
    | error cause =>
        obtain ⟨rfl, rfl⟩ := View.ends_pure.mp hrest
        exact .unfetched cause
    | ok fresh =>
        obtain ⟨answer, last, hlast, rfl⟩ := View.ends_ask.mp hrest
        have hend : outcome = answer.mapError .cloneSession ∧ last = [] := by
          cases answer with
          | error cause => exact View.ends_pure.mp hlast
          | ok _ =>
              have hkept := View.ends_setLogin.mp hlast
              exact View.ends_pure.mp hkept
        obtain ⟨rfl, rfl⟩ := hend
        exact .fetched fresh answer
  · intro hfresh
    cases hfresh with
    | unfetched cause => exact ⟨.error cause, [], View.ends_pure.mpr ⟨rfl, rfl⟩, rfl⟩
    | fetched fresh answer =>
        refine ⟨.ok fresh, _, View.ends_ask.mpr ⟨answer, [], ?_, rfl⟩, rfl⟩
        cases answer with
        | error cause => exact View.ends_pure.mpr ⟨rfl, rfl⟩
        | ok _ => exact View.ends_setLogin.mpr (View.ends_pure.mpr ⟨rfl, rfl⟩)

theorem ends_loginByCertificate {kept : Option String} {certificate privateKey : String} :
    v.Ends st (loginByCertificate client certificate privateKey) es outcome ↔
      c.LogsIn client kept (.certificate certificate privateKey) es outcome := by
  unfold loginByCertificate
  constructor
  · intro hends
    split at hends
    · next cause hpair =>
        obtain ⟨rfl, rfl⟩ := View.ends_pure.mp hends
        exact .unpaired hpair
    · next keyPair hpair =>
        obtain ⟨answer, rest, hrest, rfl⟩ := View.ends_ask.mp hends
        cases answer with
        | error cause =>
            obtain ⟨rfl, rfl⟩ := View.ends_pure.mp hrest
            exact .unissued hpair cause
        | ok signer =>
            obtain ⟨answer, last, hlast, rfl⟩ := View.ends_ask.mp hrest
            have hend : outcome = answer.mapError .loginByToken ∧ last = [] := by
              cases answer <;> exact View.ends_pure.mp hlast
            obtain ⟨rfl, rfl⟩ := hend
            exact .issued hpair signer answer
  · intro hlogin
    cases hlogin with
    | unpaired hpair =>
        simp only [hpair]
        exact View.ends_pure.mpr ⟨rfl, rfl⟩
    | unissued hpair cause =>
        simp only [hpair]
        exact View.ends_ask.mpr ⟨.error cause, [], View.ends_pure.mpr ⟨rfl, rfl⟩, rfl⟩
    | issued hpair signer answer =>
        simp only [hpair]
        refine View.ends_ask.mpr ⟨.ok signer, _, View.ends_ask.mpr ⟨answer, [], ?_, rfl⟩, rfl⟩
        cases answer <;> exact View.ends_pure.mpr ⟨rfl, rfl⟩

theorem ends_loginByPassword {kept : Option String} {username password : String} :
    v.Ends st (loginByPassword client username password) es outcome ↔
      c.LogsIn client kept (.password username password) es outcome := by
  rw [loginByPassword, View.ends_ask]
  constructor
  · rintro ⟨answer, rest, hrest, rfl⟩
    have hlast : outcome = answer.mapError (.login username) ∧ rest = [] := by
      cases answer <;> exact View.ends_pure.mp hrest
    obtain ⟨rfl, rfl⟩ := hlast
    exact .password answer
  · intro hlogin
    cases hlogin with
    | password answer =>
        refine ⟨answer, [], ?_, rfl⟩
        cases answer <;> exact View.ends_pure.mpr ⟨rfl, rfl⟩

theorem ends_logIn :
    v.Ends st (c.logIn client s) es outcome ↔
      c.LogsIn client s.sharedToken (LoginStrategy.select s.credentials) es outcome := by
  unfold logIn
  generalize LoginStrategy.select s.credentials = strategy
  cases strategy with
  | sharedSession url token =>
      constructor
      · intro hends
        obtain ⟨accepted, turned, rest, _, hkept, hrest, rfl⟩ := hends.of_bind
        rcases ends_cloneKept.mp hkept with ⟨rfl, hturned⟩ | ⟨kept, rfl, hsome, rfl⟩
        · exact .fresh hturned (ends_cloneFresh.mp hrest)
        · obtain ⟨rfl, rfl⟩ := View.ends_pure.mp hrest
          exact .kept hsome
      · intro hlogin
        cases hlogin with
        | @kept _ _ accepted hsome =>
            have hkept : v.Ends st (cloneKept client s.sharedToken)
                [⟨.cloneSession client accepted, .ok ()⟩] true :=
              ends_cloneKept.mpr (.inr ⟨accepted, rfl, hsome, rfl⟩)
            exact hkept.bind fun _ => View.ends_pure.mpr ⟨rfl, rfl⟩
        | fresh hturned hfresh =>
            refine View.Ends.bind (ends_cloneKept.mpr (.inl ⟨rfl, hturned⟩)) fun _ => ?_
            exact ends_cloneFresh.mpr hfresh
  | certificate certificate privateKey => exact ends_loginByCertificate
  | password username password => exact ends_loginByPassword

theorem ends_createAndLogIn {url : Url} {result : Except ConnectionError Client} :
    v.Ends st (c.createAndLogIn url) es result ↔ c.Creates (v.login st) url es result := by
  rw [createAndLogIn, View.ends_getLogin, View.ends_ask]
  constructor
  · rintro ⟨answer, rest, hends, rfl⟩
    cases answer with
    | error cause =>
        obtain ⟨rfl, rfl⟩ := View.ends_pure.mp hends
        exact .uncreated cause
    | ok client =>
        obtain ⟨outcome, login, last, _, hlogin, hlast, rfl⟩ := hends.of_bind
        have hlogin := ends_logIn.mp hlogin
        cases outcome with
        | error e =>
            obtain ⟨rfl, rfl⟩ := View.ends_pure.mp hlast
            rw [List.append_nil]
            exact .refused hlogin
        | ok _ =>
            obtain ⟨retrying, none, hend, rfl⟩ := View.ends_ask.mp hlast
            obtain ⟨rfl, rfl⟩ := View.ends_pure.mp hend
            exact .created hlogin retrying
  · intro hcreates
    cases hcreates with
    | uncreated cause => exact ⟨.error cause, [], View.ends_pure.mpr ⟨rfl, rfl⟩, rfl⟩
    | @refused client es e hlogin =>
        refine ⟨.ok client, es, ?_, rfl⟩
        rw [← List.append_nil es]
        exact (ends_logIn.mpr hlogin).bind fun _ => View.ends_pure.mpr ⟨rfl, rfl⟩
    | @created client es hlogin retrying =>
        refine ⟨.ok client, _, (ends_logIn.mpr hlogin).bind fun _ => ?_, rfl⟩
        exact View.ends_ask.mpr ⟨retrying, [], View.ends_pure.mpr ⟨rfl, rfl⟩, rfl⟩

theorem ends_newClient {result : Except ConnectionError Client} :
    v.Ends st c.newClient es result ↔ c.Renews (v.login st) es result := by
  unfold newClient
  constructor
  · intro hends
    split at hends
    · next cause hurl =>
        obtain ⟨rfl, rfl⟩ := View.ends_pure.mp hends
        exact .unparsed hurl
    · next url hurl =>
        rw [View.ends_locked, ends_createAndLogIn, v.login_after _ _ rfl] at hends
        exact .parsed hurl hends
  · intro hrenews
    cases hrenews with
    | unparsed hurl =>
        rw [hurl]
        exact View.ends_pure.mpr ⟨rfl, rfl⟩
    | parsed hurl hcreates =>
        rw [hurl]
        change v.Ends st (locked (.credentials c.number) (c.createAndLogIn _)) es result
        rw [View.ends_locked, ends_createAndLogIn, v.login_after _ _ rfl]
        exact hcreates

theorem ends_renew :
    v.Ends st c.renew es outcome ↔
      ∃ result, c.Renews (v.login st) es result ∧ outcome = result.map fun _ => () := by
  constructor
  · intro hends
    obtain ⟨result, es, rest, _, hrenews, hrest, rfl⟩ := View.Ends.of_bind hends
    have hend : (outcome = result.map fun _ => ()) ∧ rest = [] := by
      cases result with
      | error e => exact View.ends_pure.mp hrest
      | ok client =>
          have hpublished := View.ends_setClient.mp hrest
          exact View.ends_pure.mp hpublished
    obtain ⟨rfl, rfl⟩ := hend
    rw [List.append_nil]
    exact ⟨result, ends_newClient.mp hrenews, rfl⟩
  · rintro ⟨result, hrenews, rfl⟩
    rw [← List.append_nil es]
    refine View.Ends.bind (ends_newClient.mpr hrenews) fun _ => ?_
    cases result with
    | error e => exact View.ends_pure.mpr ⟨rfl, rfl⟩
    | ok client => exact View.ends_setClient.mpr (View.ends_pure.mpr ⟨rfl, rfl⟩)

/-- A client is dropped before another one is asked for. -/
theorem ends_dropped :
    v.Ends st (operate (.setClient c.number none) >>= fun _ => c.renew) es outcome ↔
      ∃ result, c.Renews (v.login st) es result ∧ outcome = result.map fun _ => () := by
  rw [View.ends_setClient, ends_renew, v.login_after _ _ rfl]

/-- What a connect asks is one of the conversations, and each of them can happen. -/
theorem ends_connect :
    v.Ends st c.connect es outcome ↔ c.Converses (v.client st) (v.login st) es outcome := by
  rw [connect, View.ends_locked, ensureSession, View.ends_getClient, v.client_after _ _ rfl]
  have hlogin : ∀ x y : Step, x.operation.changesLogin = false → y.operation.changesLogin = false →
      v.login (v.after (v.after st x) y) = v.login st := fun x y hx hy => by
    rw [v.login_after _ _ hy, v.login_after _ _ hx]
  generalize v.client st = found
  cases found with
  | none =>
      refine ends_renew.trans ?_
      rw [hlogin _ _ rfl rfl]
      constructor
      · rintro ⟨result, hrenews, rfl⟩
        exact .absent hrenews
      · rintro ⟨hrenews⟩
        exact ⟨_, hrenews, rfl⟩
  | some client =>
      refine View.ends_ask.trans ?_
      constructor
      · rintro ⟨answer, rest, hrest, rfl⟩
        match answer, hrest with
        | .ok (some session), hrest =>
            obtain ⟨rfl, rfl⟩ := View.ends_pure.mp hrest
            exact .valid client _ session
        | .ok none, hrest =>
            obtain ⟨result, hrenews, rfl⟩ := ends_dropped.mp hrest
            rw [v.login_after _ _ rfl, hlogin _ _ rfl rfl] at hrenews
            exact .expired client (by simp) hrenews
        | .error cause, hrest =>
            obtain ⟨result, hrenews, rfl⟩ := ends_dropped.mp hrest
            rw [v.login_after _ _ rfl, hlogin _ _ rfl rfl] at hrenews
            exact .expired client (by simp) hrenews
      · intro hconverses
        cases hconverses with
        | valid _ _ session => exact ⟨_, [], View.ends_pure.mpr ⟨rfl, rfl⟩, rfl⟩
        | @expired _ _ answer hanswer es result hrenews =>
            refine ⟨answer, es, ?_, rfl⟩
            match answer, hanswer with
            | .ok (some session), hanswer => exact absurd rfl (hanswer session)
            | .ok none, _ =>
                refine ends_dropped.mpr ⟨result, ?_, rfl⟩
                rwa [v.login_after _ _ rfl, hlogin _ _ rfl rfl]
            | .error cause, _ =>
                refine ends_dropped.mpr ⟨result, ?_, rfl⟩
                rwa [v.login_after _ _ rfl, hlogin _ _ rfl rfl]

/-! ## What follows -/

theorem LogsIn.authentications_cases {kept : Option String} {strategy : LoginStrategy}
    (hlogin : c.LogsIn client kept strategy es outcome) :
    (authentications es).length ≤ 1 ∨ ∃ token cause last, kept = some token ∧
      authentications es = [⟨.cloneSession client token, .error cause⟩, last] := by
  cases hlogin with
  | fresh hturned hfresh =>
      cases hturned with
      | absent => cases hfresh <;> exact .inl (by simp [authentications, Question.authenticates])
      | rejected token cause =>
          cases hfresh with
          | unfetched _ => exact .inl (by simp [authentications, Question.authenticates])
          | fetched fresh answer => exact .inr ⟨token, cause, _, rfl, rfl⟩
  | _ => exact .inl (by simp [authentications, Question.authenticates])

theorem TakesFresh.reports {url token : String} {strategy : LoginStrategy}
    (hfresh : c.TakesFresh client url token es outcome) :
    c.Reports strategy (firstFailure none es) outcome := by
  cases hfresh with
  | unfetched cause => exact rfl
  | fetched fresh answer =>
      cases answer with
      | error cause => exact rfl
      | ok _ => exact trivial

theorem LogsIn.reports {kept : Option String} {strategy : LoginStrategy}
    (hlogin : c.LogsIn client kept strategy es outcome) :
    c.Reports strategy (firstFailure kept es) outcome := by
  cases hlogin with
  | kept hkept => exact trivial
  | fresh hturned hfresh =>
      cases hturned with
      | absent => exact hfresh.reports
      | rejected token cause => exact hfresh.reports
  | unpaired hpair => exact .loadKeyPair hpair
  | unissued hpair cause => exact rfl
  | issued hpair signer answer =>
      cases answer with
      | error cause => exact rfl
      | ok _ => exact trivial
  | password answer =>
      cases answer with
      | error cause => exact rfl
      | ok _ => exact trivial

/-- That a client is made to send requests again cannot fail. -/
theorem firstFailure_withRetry {kept : Option String} {budget : RetryBudget} {retrying : Client} :
    firstFailure kept (es ++ [⟨.withRetry client budget, retrying⟩]) = firstFailure kept es := by
  fun_induction firstFailure kept es with
  | case1 kept => rfl
  | case2 _ _ _ _ es ih => exact ih
  | case3 kept e es hother ih =>
      rw [List.cons_append, firstFailure, ih]
      exact hother

theorem Creates.reports {url : Url} {result : Except ConnectionError Client}
    (hcreates : c.Creates s url es result) :
    c.Reports (LoginStrategy.select s.credentials) (firstFailure s.sharedToken es)
      (result.map fun _ => ()) := by
  cases hcreates with
  | uncreated cause => exact rfl
  | refused hlogin => exact hlogin.reports
  | @created client es hlogin retrying =>
      have hfirst := hlogin.reports
      rw [← firstFailure_withRetry] at hfirst
      exact hfirst

theorem Renews.reports {result : Except ConnectionError Client} (hrenews : c.Renews s es result) :
    c.Reports (LoginStrategy.select s.credentials) (firstFailure s.sharedToken es)
      (result.map fun _ => ()) := by
  cases hrenews with
  | unparsed hurl => exact .parseUrl hurl
  | parsed hurl hcreates => exact hcreates.reports

theorem Renews.authentications_cases {result : Except ConnectionError Client}
    (hrenews : c.Renews s es result) :
    (authentications es).length ≤ 1 ∨ ∃ client token cause last, s.sharedToken = some token ∧
      authentications es = [⟨.cloneSession client token, .error cause⟩, last] := by
  cases hrenews with
  | unparsed hurl => exact .inl (Nat.zero_le 1)
  | parsed hurl hcreates =>
      cases hcreates with
      | uncreated cause => exact .inl (Nat.zero_le 1)
      | @refused client es e hlogin => exact hlogin.authentications_cases.imp id fun h => ⟨client, h⟩
      | @created client es hlogin retrying =>
          have hsame : authentications (es ++ [⟨.withRetry client c.retryBudget, retrying⟩]) =
              authentications es := by
            simp [authentications, Question.authenticates]
          have hcases := hlogin.authentications_cases
          rw [← hsame] at hcases
          exact hcases.imp id fun h => ⟨client, h⟩

/-- Nobody asks a client for its session who has no client. -/
theorem Renews.not_userSession {result : Except ConnectionError Client}
    (hrenews : c.Renews s es result) (client : Client)
    (answer : Except Fault (Option UserSession)) : ⟨.userSession client, answer⟩ ∉ es := by
  have hlogin : ∀ {client' : Client} {es : List Exchange} {outcome : Except ConnectionError Unit},
      c.LogsIn client' s.sharedToken (LoginStrategy.select s.credentials) es outcome →
      ⟨.userSession client, answer⟩ ∉ es := by
    intro client' es outcome hlogin
    generalize s.sharedToken = kept, LoginStrategy.select s.credentials = strategy at hlogin
    cases hlogin with
    | fresh hturned hfresh => cases hturned <;> cases hfresh <;> simp
    | _ => simp
  cases hrenews with
  | unparsed hurl => simp
  | parsed hurl hcreates =>
      cases hcreates with
      | uncreated cause => simp
      | refused h => simpa using hlogin h
      | created h retrying => simpa using hlogin h

/-- A connect does no more than it has to. -/
structure Thrifty (c : Connection) (found : Option Client) (s : LoginState) (h : List Step)
    (outcome : Except ConnectionError Unit) : Prop where
  /-- While the client has a session, it is kept, and nothing else is asked. -/
  valid : ∀ client session, ⟨.userSession client, .ok (some session)⟩ ∈ exchanges h →
    found = some client ∧ h = c.idling client session ∧ outcome = .ok ()
  /-- It authenticates once at most, or once more after the token that was kept was turned
  down. -/
  once : (authentications (exchanges h)).length ≤ 1 ∨
    ∃ client token cause last, s.sharedToken = some token ∧
      authentications (exchanges h) = [⟨.cloneSession client token, .error cause⟩, last]
  reports : c.Reports (LoginStrategy.select s.credentials)
    (firstFailure s.sharedToken (exchanges h)) outcome

/-- A connect that got by with one question found a session. -/
theorem Connected.eq_idling {h : List Step} (hc : c.Connected h (.ok ())) {e : Exchange}
    (he : exchanges h = [e]) : ∃ client session, h = c.idling client session := by
  rcases hc with ⟨client, session, -, rfl⟩ | ⟨g, rfl, client, -, opening, rest, -, rfl, hproduces⟩
  · exact ⟨client, session, rfl⟩
  · obtain ⟨url, fresh, auth, -, -, hrest⟩ := hproduces
    have hlength := congrArg List.length he
    simp only [exchanges_append, hrest, List.length_append, List.length_cons, List.length_nil]
      at hlength
    omega

theorem Converses.thrifty {found : Option Client} {h : List Step}
    (hpath : c.connect.Path h (.done outcome))
    (hconverses : c.Converses found s (exchanges h) outcome) : c.Thrifty found s h outcome := by
  have hconnected : c.Connected h outcome := by
    have hresult := (obeys_connect.result hpath).2
    rwa [connecting, Rule.guarded, Rule.after_ofHistory, List.nil_append] at hresult
  generalize hes : exchanges h = es at hconverses
  cases hconverses with
  | absent hrenews =>
      refine ⟨fun client session hmem => ?_, ?_, ?_⟩
      · rw [hes] at hmem
        exact absurd hmem (hrenews.not_userSession client _)
      · rw [hes]
        exact hrenews.authentications_cases
      · rw [hes]
        exact hrenews.reports
  | valid client s session =>
      obtain ⟨client', session', rfl⟩ := hconnected.eq_idling hes
      cases hes
      refine ⟨fun other session' hmem => ?_, .inl (Nat.zero_le 1), trivial⟩
      cases List.mem_singleton.mp hmem
      exact ⟨rfl, rfl, rfl⟩
  | @expired client s answer hanswer es result hrenews =>
      refine ⟨fun other session hmem => ?_, ?_, ?_⟩
      · rw [hes] at hmem
        rcases List.mem_cons.mp hmem with heq | hmem
        · cases heq
          exact absurd rfl (hanswer session)
        · exact absurd hmem (hrenews.not_userSession other _)
      · rw [hes]
        exact hrenews.authentications_cases
      · rw [hes]
        exact hrenews.reports

/-- A connect that finds a client, or none, and what it logs in with, holds exactly the
conversations that follow from these, whatever is answered and whoever left them there.  If
nobody interferes, it finds what is kept.  Either way it is thrifty. -/
theorem connect_conversation (c : Connection) (found : Option Client) (s : LoginState)
    (outcome : Except ConnectionError Unit) :
    (∀ es, (∃ h, c.connect.Path h (.done outcome) ∧ (∀ x ∈ h, x.Finds c.number found s) ∧
      exchanges h = es) ↔ c.Converses found s es outcome) ∧
    (∀ m : Memory, m.client c.number = found → m.login c.number = s → ∀ es,
      (∃ h m', c.connect.Path h (.done outcome) ∧ m.Runs h m' ∧ exchanges h = es) ↔
        c.Converses found s es outcome) ∧
    ∀ h, c.connect.Path h (.done outcome) → (∀ x ∈ h, x.Finds c.number found s) →
      c.Thrifty found s h outcome := by
  have hfound : ∀ es, (∃ h, c.connect.Path h (.done outcome) ∧
      (∀ x ∈ h, x.Finds c.number found s) ∧ exchanges h = es) ↔ c.Converses found s es outcome := by
    intro es
    simp only [← View.shows_ofFound (s := ())]
    exact ends_connect (v := View.ofFound c.number found s)
  refine ⟨hfound, ?_, fun h hpath hfinds => ?_⟩
  · rintro m rfl rfl es
    simp only [exists_and_left, exists_and_right, ← View.shows_ofMemory (n := c.number)]
    exact ends_connect (v := View.ofMemory c.number)
  · exact ((hfound _).mp ⟨h, hpath, hfinds, rfl⟩).thrifty hpath

end Connection

end VcenterAccess
