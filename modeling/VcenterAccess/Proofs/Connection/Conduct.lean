import VcenterAccess.Connection.Command
import VcenterAccess.Proofs.Machine.Guarding

/-!
# How connections conduct themselves

Each call to a connection has a rule that says what it may do after what it did: when it
may publish a client, what it may ask, and how it may change what the next login uses.
The rules speak of the history of one call only.  What a call knows of the client and of
the login is what it read or wrote under the lock (`knownClient`, `knownLogin`).

Every function of a connection is shown to keep to the rule of the calls that use it,
from the innermost outwards, with what its history looks like afterwards.
-/

namespace VcenterAccess

open Text

/-- Whether an operation stores a client. -/
def Operation.publishes : Operation → Bool
  | .setClient _ (some _) => true
  | _ => false

/-- Whether an operation changes what a next login uses. -/
def Operation.changesLogin : Operation → Bool
  | .setLogin .. => true
  | _ => false

/-- No step is of some kind. -/
def Free (kind : Operation → Bool) (h : List Step) : Prop := ∀ x ∈ h, kind x.operation = false

theorem Free.concat {kind : Operation → Bool} {h : List Step} {x : Step} (hh : Free kind h)
    (hx : kind x.operation = false) : Free kind (h ++ [x]) :=
  List.forall_mem_append.mpr ⟨hh, List.forall_mem_singleton.mpr hx⟩

/-- Whether a question presents credentials, or what they were exchanged for. -/
def Question.isLogin : Question → Bool
  | .login .. => true
  | .issueToken .. => true
  | .loginByToken .. => true
  | .cloneSession .. => true
  | .sharedToken .. => true
  | _ => false

/-- Whether a session was taken over. -/
def Exchange.takesOver : Exchange → Bool
  | ⟨.cloneSession .., .ok _⟩ => true
  | _ => false

/-- No session was taken over. -/
def NoTakeover (es : List Exchange) : Prop := ∀ e ∈ es, e.takesOver = false

namespace LoginStrategy

variable {credentials : SessionCredentials}

/-- A session manager is used if there is a URL of one. -/
theorem select_eq_sharedSession_iff {url token : String} :
    select credentials = .sharedSession url token ↔ credentials.sessionManagerUrl ≠ "" ∧
      credentials.sessionManagerUrl = url ∧ credentials.sessionManagerToken = token := by
  unfold select
  by_cases hurl : credentials.sessionManagerUrl = ""
  · by_cases hpem : isPem credentials.username = true <;> simp [hurl, hpem]
  · simp [hurl]

/-- A certificate is used if there is no session manager and the user name is one. -/
theorem select_eq_certificate_iff {certificate privateKey : String} :
    select credentials = .certificate certificate privateKey ↔
      credentials.sessionManagerUrl = "" ∧ isPem credentials.username = true ∧
        credentials.username = certificate ∧ credentials.password = privateKey := by
  unfold select
  by_cases hurl : credentials.sessionManagerUrl = ""
  · by_cases hpem : isPem credentials.username = true <;> simp [hurl, hpem]
  · simp [hurl]

/-- A password is used if there is neither a session manager nor a certificate. -/
theorem select_eq_password_iff {username password : String} :
    select credentials = .password username password ↔
      credentials.sessionManagerUrl = "" ∧ isPem credentials.username = false ∧
        credentials.username = username ∧ credentials.password = password := by
  unfold select
  by_cases hurl : credentials.sessionManagerUrl = ""
  · by_cases hpem : isPem credentials.username = true <;> simp [hurl, hpem]
  · simp [hurl]

end LoginStrategy

/-- What may be asked in order to log in with some credentials. -/
def SessionCredentials.Permits (x : SessionCredentials) : Question → Prop
  | .login _ username password => x.sessionManagerUrl = "" ∧ isPem x.username = false ∧
      username = x.username ∧ password = x.password
  | .issueToken _ keyPair => x.sessionManagerUrl = "" ∧ isPem x.username = true ∧
      KeyPair.ofPem x.username x.password = .ok keyPair
  | .loginByToken .. => x.sessionManagerUrl = "" ∧ isPem x.username = true
  | .cloneSession .. => x.sessionManagerUrl ≠ ""
  | .sharedToken _ options => x.sessionManagerUrl ≠ "" ∧ options.url = x.sessionManagerUrl ∧
      options.token = x.sessionManagerToken ∧ options.insecure = false
  | _ => True

/-- The last exchange fetched a token at the session manager of some credentials. -/
def SessionCredentials.Fetched (credentials : SessionCredentials) (es : List Exchange)
    (token : String) : Prop :=
  ∃ before source, es = before ++ [⟨.sharedToken source
    { url := credentials.sessionManagerUrl, token := credentials.sessionManagerToken }, .ok token⟩]

/-- The last exchanges fetched a token and took its session over, and no other session was
taken over before. -/
def SessionCredentials.Accepted (credentials : SessionCredentials) (es : List Exchange)
    (token : String) : Prop :=
  ∃ before client, credentials.Fetched before token ∧ NoTakeover before ∧
    es = before ++ [⟨.cloneSession client token, .ok ()⟩]

/-- A client was authenticated, and the last of these exchanges was the one that did it. -/
inductive Client.Authenticated (client : Client) : List Exchange → Prop where
  /-- It took over the session of a token that was kept. -/
  | kept (token : String) : Authenticated client [⟨.cloneSession client token, .ok ()⟩]
  /-- It took over the session of a token that was fetched. -/
  | fetched (source : TokenSource) (options : SharedTokenOptions) (token : String) :
      Authenticated client
        [⟨.sharedToken source options, .ok token⟩, ⟨.cloneSession client token, .ok ()⟩]
  /-- The token that was kept was turned down. -/
  | refetched (kept : String) (cause : Fault) (source : TokenSource) (options : SharedTokenOptions)
      (token : String) :
      Authenticated client
        [⟨.cloneSession client kept, .error cause⟩, ⟨.sharedToken source options, .ok token⟩,
          ⟨.cloneSession client token, .ok ()⟩]
  /-- It logged in with a token that was issued for a certificate. -/
  | certificate (keyPair : KeyPair) (signer : Signer) :
      Authenticated client
        [⟨.issueToken client keyPair, .ok signer⟩, ⟨.loginByToken client signer, .ok ()⟩]
  /-- It logged in with user and password. -/
  | password (username password : String) :
      Authenticated client [⟨.login client username password, .ok ()⟩]

namespace Connection

variable (c : Connection)

/-- How far a call is with its locks. -/
def locking (h : List Step) : Locking := lockingAfter c.connectLock h

/-- What a call knows of the client. -/
def knownClient (h : List Step) : Option (Option Client) :=
  (clientCell c.connectLock c.number).known h

/-- What a call knows of what the next login uses. -/
def knownLogin (h : List Step) : Option LoginState := (loginCell c.connectLock c.number).known h

/-- How a connect starts that needs a new client. -/
inductive Opening : List Step → Prop where
  /-- There is no client. -/
  | absent : Opening [⟨.acquire (.connect c.connectLock), ()⟩, ⟨.getClient c.number, none⟩]
  /-- There is one, but no session of it is reported. -/
  | expired (client : Client) (answer : Except Fault (Option UserSession))
      (h : ∀ session, answer ≠ .ok (some session)) :
      Opening [⟨.acquire (.connect c.connectLock), ()⟩, ⟨.getClient c.number, some client⟩,
        ⟨.ask (.userSession client), answer⟩, ⟨.setClient c.number none, ()⟩]

/-- How a connect goes that finds a session. -/
def idling (client : Client) (session : UserSession) : List Step :=
  [⟨.acquire (.connect c.connectLock), ()⟩, ⟨.getClient c.number, some client⟩,
    ⟨.ask (.userSession client), .ok (some session)⟩, ⟨.release (.connect c.connectLock), ()⟩]

theorem idling_eq_concat (client : Client) (session : UserSession) :
    c.idling client session = [⟨.acquire (.connect c.connectLock), ()⟩,
      ⟨.getClient c.number, some client⟩, ⟨.ask (.userSession client), .ok (some session)⟩] ++
      [⟨.release (.connect c.connectLock), ()⟩] := rfl

/-- The exchanges produce a client: a new one is created for the vCenter, authenticated,
and made to send requests again. -/
def Produces (es : List Exchange) (client : Client) : Prop :=
  ∃ url fresh auth, c.options.sdkUrl = .ok url ∧ fresh.Authenticated auth ∧
    es = ⟨.newClient url c.options.trustAnchor userAgent, .ok fresh⟩ :: auth ++
      [⟨.withRetry fresh c.retryBudget, client⟩]

/-- A client may be published: this call produced it, and nothing was asked since. -/
def Publishes (h : List Step) (client : Client) : Prop :=
  ∃ opening rest, c.Opening opening ∧ h = opening ++ rest ∧ c.Produces (exchanges rest) client

/-- A connect may keep a token for the next time: it fetched it with what it logs in with,
and took its session over. -/
structure MayKeep (h : List Step) (s : LoginState) (token : String) : Prop where
  known : c.knownLogin h = some s
  unchanged : Free Operation.changesLogin h
  managed : s.credentials.sessionManagerUrl ≠ ""
  accepted : s.credentials.Accepted (exchanges h) token

/-- What a connect may do. -/
def MayConnect (h : List Step) : Operation → Prop
  | .setClient n client => n = c.number ∧ ∀ k, client = some k → c.Publishes h k
  | .setLogin n login => n = c.number ∧ ∃ s token, c.MayKeep h s token ∧
      login = { s with sharedToken := some token }
  | .ask question => Free Operation.publishes h ∧
      (question.isLogin = true → NoTakeover (exchanges h) ∧
        ∃ s, c.knownLogin h = some s ∧ s.credentials.Permits question) ∧
      ∀ client token, question = .cloneSession client token → ∃ s, c.knownLogin h = some s ∧
        (s.sharedToken = some token ∨ s.credentials.Fetched (exchanges h) token)
  | _ => True

/-- What a logout may do. -/
def MayLogOut (_ : List Step) : Operation → Prop
  | .setClient n client => n = c.number ∧ client = none
  | .setLogin .. => False
  | .ask question => question.isLogin = false
  | _ => True

/-- What a change of credentials may do. -/
def MayUpdate (credentials : SessionCredentials) (h : List Step) : Operation → Prop
  | .acquire lock => lock = .credentials c.number ∧ h = []
  | .release lock => lock = .credentials c.number ∧
      ∃ s, c.knownLogin h = some s ∧ s.credentials = credentials
  | .setClient .. => False
  | .setLogin n login => n = c.number ∧ ∃ s, c.knownLogin h = some s ∧ login = s.update credentials
  | .ask _ => False
  | _ => True

/-- The rule of a connect. -/
def connecting : Rule (List Step) := .guarded c.connectLock c.MayConnect

/-- The rule of a logout. -/
def loggingOut : Rule (List Step) := .guarded c.connectLock c.MayLogOut

/-- The rule of a change of credentials. -/
def updating (credentials : SessionCredentials) : Rule (List Step) :=
  .guarded c.connectLock (c.MayUpdate credentials)

/-- A connect without a client went on after its opening with `es`. -/
structure Talking (opening h : List Step) (es : List Exchange) : Prop where
  client : c.knownClient h = some none
  unpublished : Free Operation.publishes h
  talk : ∃ rest, h = opening ++ rest ∧ exchanges rest = es

/-- It only holds its connect lock. -/
structure Renewing (opening h : List Step) (es : List Exchange) : Prop
    extends c.Talking opening h es where
  held : (c.locking h).held = [.connect c.connectLock]

/-- It holds both locks, and can log in. -/
structure LoggingIn (opening h : List Step) (es : List Exchange) : Prop
    extends c.Talking opening h es where
  locking : c.locking h = ⟨[.credentials c.number, .connect c.connectLock], false⟩

/-- It uses what it read, and did not change it. -/
structure LoggingInWith (s : LoginState) (opening h : List Step) (es : List Exchange) : Prop
    extends c.LoggingIn opening h es where
  login : c.knownLogin h = some s
  unchanged : Free Operation.changesLogin h
  untaken : NoTakeover (exchanges h)

variable {c} {opening h : List Step} {es : List Exchange} {s : LoginState} {x : Step}

theorem locking_concat :
    c.locking (h ++ [x]) = (Rule.twoPhase c.connectLock).next (c.locking h) x :=
  Rule.after_concat ..

theorem Talking.concat (ht : c.Talking opening h es)
    (hx : (clientCell c.connectLock c.number).learn (some none) x = some none)
    (hpublishes : x.operation.publishes = false) :
    c.Talking opening (h ++ [x]) (es ++ x.exchange?.toList) := by
  obtain ⟨hclient, hunpublished, rest, rfl, rfl⟩ := ht
  refine ⟨?_, hunpublished.concat hpublishes, rest ++ [x], List.append_assoc .., ?_⟩
  · rw [knownClient, Cell.known_concat, ← knownClient, hclient]
    exact hx
  · rw [exchanges_append, exchanges_cons]
    exact congrArg _ (List.append_nil _)

/-- A step that neither asks nor shows anything of the client. -/
theorem Talking.silent (ht : c.Talking opening h es) (hexchange : x.exchange? = none)
    (hx : (clientCell c.connectLock c.number).learn (some none) x = some none)
    (hpublishes : x.operation.publishes = false) : c.Talking opening (h ++ [x]) es := by
  have := ht.concat hx hpublishes
  rwa [hexchange, Option.toList_none, List.append_nil] at this

theorem LoggingIn.mem_connect (hl : c.LoggingIn opening h es) :
    .connect c.connectLock ∈ (c.locking h).held := by
  rw [hl.locking]
  simp

theorem LoggingIn.mem_credentials (hl : c.LoggingIn opening h es) :
    .credentials c.number ∈ (c.locking h).held := by
  rw [hl.locking]
  simp

/-! ## Logging in -/

theorem LoggingIn.ask (hl : c.LoggingIn opening h es) (question : Question)
    (answer : question.Answer) :
    c.LoggingIn opening (h ++ [⟨.ask question, answer⟩]) (es ++ [⟨question, answer⟩]) where
  toTalking := hl.toTalking.concat rfl rfl
  locking := locking_concat.trans hl.locking

theorem LoggingIn.ask_append {auth : List Exchange} (hl : c.LoggingIn opening h (es ++ auth))
    (question : Question) (answer : question.Answer) :
    c.LoggingIn opening (h ++ [⟨.ask question, answer⟩])
      (es ++ (auth ++ [⟨question, answer⟩])) := by
  rw [← List.append_assoc]
  exact hl.ask question answer

theorem exchanges_ask {question : Question} (answer : question.Answer) :
    exchanges (h ++ [⟨.ask question, answer⟩]) = exchanges h ++ [⟨question, answer⟩] := by
  rw [exchanges_append]
  rfl

theorem knownLogin_ask {question : Question} {answer : question.Answer} :
    c.knownLogin (h ++ [⟨.ask question, answer⟩]) = c.knownLogin h := Cell.known_concat ..

theorem LoggingInWith.ask (hl : c.LoggingInWith s opening h es) (question : Question)
    (answer : question.Answer) (hx : (⟨question, answer⟩ : Exchange).takesOver = false) :
    c.LoggingInWith s opening (h ++ [⟨.ask question, answer⟩]) (es ++ [⟨question, answer⟩]) where
  toLoggingIn := hl.toLoggingIn.ask question answer
  login := knownLogin_ask.trans hl.login
  unchanged := hl.unchanged.concat rfl
  untaken := by
    rw [exchanges_ask]
    exact List.forall_mem_append.mpr ⟨hl.untaken, List.forall_mem_singleton.mpr hx⟩

theorem LoggingInWith.ask_append {auth : List Exchange}
    (hl : c.LoggingInWith s opening h (es ++ auth)) (question : Question)
    (answer : question.Answer) (hx : (⟨question, answer⟩ : Exchange).takesOver = false) :
    c.LoggingInWith s opening (h ++ [⟨.ask question, answer⟩])
      (es ++ (auth ++ [⟨question, answer⟩])) := by
  rw [← List.append_assoc]
  exact hl.ask question answer hx

variable {α : Type} {returns : List Step → α → Prop} {question : Question}
  {f : question.Answer → Program α}

/-- A question of a login. -/
theorem obeys_ask (hl : c.LoggingInWith s opening h es)
    (hpermits : s.credentials.Permits question)
    (hoffer : ∀ client token, question = .cloneSession client token →
      s.sharedToken = some token ∨ s.credentials.Fetched (exchanges h) token)
    (hf : ∀ answer, (f answer).Obeys c.connecting returns (h ++ [⟨.ask question, answer⟩])) :
    (Program.ask question >>= f).Obeys c.connecting returns h := by
  refine .operate ⟨hl.mem_connect, hl.unpublished, ?_, ?_⟩ hf
  · exact fun _ => ⟨hl.untaken, s, hl.login, hpermits⟩
  · exact fun client token hq => ⟨s, hl.login, hoffer client token hq⟩

theorem obeys_cloneKept {client : Client} {url token : String}
    (hl : c.LoggingInWith s opening h es)
    (hselect : LoginStrategy.select s.credentials = .sharedSession url token) :
    (cloneKept client s.sharedToken).Obeys c.connecting
      (fun h' accepted => ∃ attempt,
        if accepted then c.LoggingIn opening h' (es ++ attempt) ∧ client.Authenticated attempt
        else c.LoggingInWith s opening h' (es ++ attempt) ∧
          (attempt = [] ∨ ∃ kept cause, attempt = [⟨.cloneSession client kept, .error cause⟩]))
      h := by
  unfold cloneKept
  split
  · exact ⟨[], by rwa [List.append_nil], .inl rfl⟩
  · next kept hkept =>
      refine obeys_ask hl (LoginStrategy.select_eq_sharedSession_iff.mp hselect).1 ?_ fun answer => ?_
      · rintro _ _ ⟨⟩
        exact .inl hkept
      · cases answer with
        | ok answer => exact ⟨_, hl.toLoggingIn.ask _ _, .kept kept⟩
        | error cause => exact ⟨_, hl.ask _ _ rfl, .inr ⟨kept, cause, rfl⟩⟩

theorem LoggingIn.setLogin (hl : c.LoggingIn opening h es) (login : LoginState) :
    c.LoggingIn opening (h ++ [⟨.setLogin c.number login, ()⟩]) es where
  toTalking := hl.toTalking.silent rfl rfl rfl
  locking := locking_concat.trans hl.locking

/-- What a login of a client leaves. -/
def LoggedIn (c : Connection) (client : Client) (opening : List Step) (es : List Exchange)
    (h : List Step) (outcome : Except ConnectionError Unit) : Prop :=
  ∃ auth, c.LoggingIn opening h (es ++ auth) ∧
    match outcome with
    | .ok _ => client.Authenticated auth
    | .error _ => Free Operation.changesLogin h

theorem LoggingInWith.failed {auth : List Exchange} (hl : c.LoggingInWith s opening h (es ++ auth))
    (client : Client) (e : ConnectionError) : c.LoggedIn client opening es h (.error e) :=
  ⟨auth, hl.toLoggingIn, hl.unchanged⟩

theorem obeys_cloneFresh {client : Client} {url token : String} {attempt : List Exchange}
    (hl : c.LoggingInWith s opening h (es ++ attempt))
    (hattempt : attempt = [] ∨
      ∃ kept cause, attempt = [⟨.cloneSession client kept, .error cause⟩])
    (hselect : LoginStrategy.select s.credentials = .sharedSession url token) :
    (c.cloneFresh client s url token).Obeys c.connecting (c.LoggedIn client opening es) h := by
  obtain ⟨hurl, rfl, rfl⟩ := LoginStrategy.select_eq_sharedSession_iff.mp hselect
  refine obeys_ask hl ⟨hurl, rfl, rfl, rfl⟩ (fun _ _ => nofun) fun answer => ?_
  have hfetch := hl.ask_append _ answer rfl
  cases answer with
  | error cause => exact hfetch.failed client _
  | ok fresh =>
      refine obeys_ask hfetch hurl (fun _ _ hq => ?_) fun answer => ?_
      · cases hq
        exact .inr ⟨exchanges h, c.tokenSource, exchanges_ask _⟩
      cases answer with
      | error cause => exact (hfetch.ask_append (.cloneSession client fresh) (.error cause) rfl).failed client _
      | ok answer =>
          have hclone := hfetch.toLoggingIn.ask_append (.cloneSession client fresh) (.ok answer)
          refine .operate ⟨hclone.mem_credentials, rfl, s, fresh, ?_, rfl⟩ fun _ => ?_
          · exact {
              known := knownLogin_ask.trans hfetch.login
              unchanged := hfetch.unchanged.concat rfl
              managed := hurl
              accepted := ⟨_, client, ⟨exchanges h, c.tokenSource, exchanges_ask _⟩,
                hfetch.untaken, exchanges_ask _⟩ }
          · refine ⟨_, hclone.setLogin _, ?_⟩
            rcases hattempt with rfl | ⟨kept, cause, rfl⟩
            · exact .fetched ..
            · exact .refetched ..

theorem obeys_loginByCertificate {client : Client} {certificate privateKey : String}
    (hl : c.LoggingInWith s opening h (es ++ []))
    (hselect : LoginStrategy.select s.credentials = .certificate certificate privateKey) :
    (loginByCertificate client certificate privateKey).Obeys c.connecting
      (c.LoggedIn client opening es) h := by
  obtain ⟨hurl, hpem, rfl, rfl⟩ := LoginStrategy.select_eq_certificate_iff.mp hselect
  unfold loginByCertificate
  split
  · exact hl.failed client _
  · next keyPair hload =>
      refine obeys_ask hl ⟨hurl, hpem, hload⟩ (fun _ _ => nofun) fun answer => ?_
      have hissue := hl.ask_append _ answer rfl
      cases answer with
      | error cause => exact hissue.failed client _
      | ok signer =>
          refine obeys_ask hissue ⟨hurl, hpem⟩ (fun _ _ => nofun) fun answer => ?_
          have hlogin := hissue.ask_append _ answer rfl
          cases answer with
          | error cause => exact hlogin.failed client _
          | ok answer => exact ⟨_, hlogin.toLoggingIn, .certificate keyPair signer⟩

theorem obeys_loginByPassword {client : Client} {username password : String}
    (hl : c.LoggingInWith s opening h (es ++ []))
    (hselect : LoginStrategy.select s.credentials = .password username password) :
    (loginByPassword client username password).Obeys c.connecting
      (c.LoggedIn client opening es) h := by
  obtain ⟨hurl, hpem, rfl, rfl⟩ := LoginStrategy.select_eq_password_iff.mp hselect
  refine obeys_ask hl ⟨hurl, hpem, rfl, rfl⟩ (fun _ _ => nofun) fun answer => ?_
  have hlogin := hl.ask_append _ answer rfl
  cases answer with
  | error cause => exact hlogin.failed client _
  | ok answer => exact ⟨_, hlogin.toLoggingIn, .password _ _⟩

theorem obeys_logIn {client : Client} (hl : c.LoggingInWith s opening h es) :
    (c.logIn client s).Obeys c.connecting (c.LoggedIn client opening es) h := by
  have hstart : c.LoggingInWith s opening h (es ++ []) := by rwa [List.append_nil]
  unfold logIn
  split
  · next url token hselect =>
      refine .bind (obeys_cloneKept hl hselect) ?_
      rintro h' accepted ⟨attempt, hattempt⟩
      cases accepted with
      | true => exact ⟨attempt, hattempt⟩
      | false => exact obeys_cloneFresh hattempt.1 hattempt.2 hselect
  · next certificate privateKey hselect => exact obeys_loginByCertificate hstart hselect
  · next username password hselect => exact obeys_loginByPassword hstart hselect

/-! ## Connecting -/

/-- A question that is none of a login. -/
theorem obeys_plain_ask (hheld : .connect c.connectLock ∈ (c.locking h).held)
    (hunpublished : Free Operation.publishes h) (hplain : question.isLogin = false)
    (hf : ∀ answer, (f answer).Obeys c.connecting returns (h ++ [⟨.ask question, answer⟩])) :
    (Program.ask question >>= f).Obeys c.connecting returns h := by
  refine .operate ⟨hheld, hunpublished, fun hlogin => ?_, fun client token hq => ?_⟩ hf
  · rw [hplain] at hlogin
    cases hlogin
  · rw [hq] at hplain
    cases hplain

theorem LoggingIn.getLogin (hl : c.LoggingIn opening h es) (hu : Free Operation.changesLogin h)
    (hn : NoTakeover (exchanges h)) (s : LoginState) :
    c.LoggingInWith s opening (h ++ [⟨.getLogin c.number, s⟩]) es where
  toTalking := hl.toTalking.silent rfl rfl rfl
  locking := locking_concat.trans hl.locking
  login := Cell.known_of_shows? (if_pos rfl)
  unchanged := hu.concat rfl
  untaken := by rwa [exchanges_concat_silent rfl]

theorem obeys_createAndLogIn {url : Url} (hurl : c.options.sdkUrl = .ok url)
    (hl : c.LoggingIn opening h []) (hu : Free Operation.changesLogin h)
    (hn : NoTakeover (exchanges h)) :
    (c.createAndLogIn url).Obeys c.connecting
      (fun h' outcome => ∃ es, c.LoggingIn opening h' es ∧
        match outcome with
        | .ok client => c.Produces es client
        | .error _ => Free Operation.changesLogin h') h := by
  refine .operate ⟨hl.mem_credentials, trivial⟩ fun s => ?_
  have hread := hl.getLogin hu hn s
  refine obeys_plain_ask hread.mem_connect hread.unpublished rfl fun answer => ?_
  have hcreate := hread.ask _ answer rfl
  cases answer with
  | error cause => exact ⟨_, hcreate.toLoggingIn, hcreate.unchanged⟩
  | ok fresh =>
      refine .bind (obeys_logIn hcreate) ?_
      rintro h' outcome ⟨auth, hlogin, hauth⟩
      cases outcome with
      | error e => exact ⟨_, hlogin, hauth⟩
      | ok _ =>
          refine obeys_plain_ask hlogin.mem_connect hlogin.unpublished rfl fun client => ?_
          exact ⟨_, hlogin.ask _ client, url, fresh, auth, hurl, hauth, rfl⟩

theorem obeys_newClient (hr : c.Renewing opening h []) (hfirst : (c.locking h).released = false)
    (hu : Free Operation.changesLogin h) (hn : NoTakeover (exchanges h)) :
    c.newClient.Obeys c.connecting
      (fun h' outcome => ∃ es, c.Renewing opening h' es ∧
        match outcome with
        | .ok client => c.Produces es client
        | .error _ => Free Operation.changesLogin h') h := by
  unfold newClient
  split
  · exact ⟨[], hr, hu⟩
  · next url hurl =>
      have htake : c.LoggingIn opening (h ++ [⟨.acquire (.credentials c.number), ()⟩]) [] := by
        refine ⟨hr.toTalking.silent rfl rfl rfl, locking_concat.trans ?_⟩
        change (⟨_ :: (c.locking h).held, (c.locking h).released⟩ : Locking) = _
        rw [hr.held, hfirst]
      have htaken : NoTakeover (exchanges (h ++ [⟨.acquire (.credentials c.number), ()⟩])) := by
        rwa [exchanges_concat_silent rfl]
      refine .locked ⟨⟨hfirst, ?_⟩, trivial⟩
        (obeys_createAndLogIn hurl htake (hu.concat rfl) htaken) ?_
      · change Lock.credentials c.number ∉ (c.locking h).held
        rw [hr.held]
        simp
      · rintro h' outcome ⟨es, hl, houtcome⟩
        have hgive : c.Renewing opening (h' ++ [⟨.release (.credentials c.number), ()⟩]) es := by
          refine ⟨hl.toTalking.silent rfl ?_ rfl, ?_⟩
          · simp [Cell.learn, clientCell]
          · rw [locking_concat, hl.locking]
            exact List.erase_cons_head ..
        refine ⟨⟨hl.mem_credentials, trivial⟩, es, hgive, ?_⟩
        cases outcome with
        | ok client => exact houtcome
        | error e => exact houtcome.concat rfl

theorem Publishes.silent {client : Client} (hp : c.Publishes h client)
    (hexchange : x.exchange? = none) : c.Publishes (h ++ [x]) client := by
  obtain ⟨opening, rest, hopening, rfl, hes⟩ := hp
  refine ⟨opening, rest ++ [x], hopening, List.append_assoc .., ?_⟩
  rwa [exchanges_concat_silent hexchange]

/-- How far a connect is before it gives its connect lock back, if it did not find a
session: it has published the client that it produced, or there is none. -/
def Renewed (c : Connection) (h : List Step) : Except ConnectionError Unit → Prop
  | .ok _ => ∃ client, c.knownClient h = some (some client) ∧ c.Publishes h client
  | .error _ => c.knownClient h = some none ∧ Free Operation.changesLogin h

/-- After its opening, a connect can renew the client. -/
theorem Opening.renewing (hopening : c.Opening opening) : c.Renewing opening opening [] := by
  refine ⟨⟨?_, ?_, [], (List.append_nil _).symm, rfl⟩, ?_⟩
  · cases hopening <;> simp [knownClient, Cell.known, Cell.learn, clientCell, Step.client?]
  · cases hopening <;> simp [Free, Operation.publishes]
  · cases hopening <;> rfl

theorem Opening.released (hopening : c.Opening opening) :
    (c.locking opening).released = false := by
  cases hopening <;> rfl

theorem Opening.unchanged (hopening : c.Opening opening) : Free Operation.changesLogin opening := by
  cases hopening <;> simp [Free, Operation.changesLogin]

theorem Opening.untaken (hopening : c.Opening opening) : NoTakeover (exchanges opening) := by
  cases hopening <;> simp [NoTakeover, exchanges, Step.exchange?, Exchange.takesOver]

theorem obeys_renew (hopening : c.Opening opening) :
    c.renew.Obeys c.connecting
      (fun h outcome => (c.locking h).held = [.connect c.connectLock] ∧ c.Renewed h outcome)
      opening := by
  refine .bind (obeys_newClient hopening.renewing hopening.released hopening.unchanged
    hopening.untaken) ?_
  rintro h' outcome ⟨es, hr', houtcome⟩
  cases outcome with
  | error e => exact ⟨hr'.held, hr'.client, houtcome⟩
  | ok client =>
      obtain ⟨rest, rfl, rfl⟩ := hr'.talk
      have hpublishes : c.Publishes (opening ++ rest) client :=
        ⟨opening, rest, hopening, rfl, houtcome⟩
      refine .operate ⟨?_, rfl, ?_⟩ fun _ => ⟨?_, client, ?_, hpublishes.silent rfl⟩
      · change Lock.connect c.connectLock ∈ (c.locking _).held
        rw [hr'.held]
        simp
      · rintro _ ⟨⟩
        exact hpublishes
      · exact (congrArg Locking.held locking_concat).trans hr'.held
      · exact Cell.known_of_shows? (if_pos rfl)

/-- What a connect leaves. -/
def Connected (c : Connection) (h : List Step) (outcome : Except ConnectionError Unit) : Prop :=
  (∃ client session, outcome = .ok () ∧ h = c.idling client session) ∨
    ∃ g, h = g ++ [⟨.release (.connect c.connectLock), ()⟩] ∧ c.Renewed g outcome

/-- What a connect knows of the client when it gives back its lock. -/
theorem Connected.last {outcome : Except ConnectionError Unit} (hc : c.Connected (h ++ [x]) outcome) :
    x.operation = .release (.connect c.connectLock) ∧
      ∃ client, c.knownClient h = some client ∧ (client.isSome = true ↔ outcome = .ok ()) := by
  rcases hc with ⟨client, session, rfl, heq⟩ | ⟨g, heq, hrenewed⟩
  · obtain ⟨rfl, hx⟩ := List.append_inj' (heq.trans (c.idling_eq_concat client session)) rfl
    cases hx
    refine ⟨rfl, some client, ?_, by simp⟩
    simp [knownClient, Cell.known, Cell.learn, clientCell, Step.client?]
  · obtain ⟨rfl, hx⟩ := List.append_inj' heq rfl
    cases hx
    refine ⟨rfl, ?_⟩
    cases outcome with
    | ok _ =>
        obtain ⟨client, hknown, -⟩ := hrenewed
        exact ⟨some client, hknown, by simp⟩
    | error e => exact ⟨none, hrenewed.1, by simp⟩

/-- A connect that fails changes nothing that the next login uses. -/
theorem Connected.unchanged {e : ConnectionError} (hc : c.Connected h (.error e)) :
    Free Operation.changesLogin h := by
  rcases hc with ⟨_, _, ⟨⟩, -⟩ | ⟨g, rfl, -, hfree⟩
  exact hfree.concat rfl

theorem Renewed.connected {outcome : Except ConnectionError Unit} (hr : c.Renewed h outcome) :
    c.Connected (h ++ [⟨.release (.connect c.connectLock), ()⟩]) outcome :=
  .inr ⟨h, rfl, hr⟩

/-- How far a connect is before it gives its connect lock back. -/
def Ensured (c : Connection) (h : List Step) (outcome : Except ConnectionError Unit) : Prop :=
  (c.locking h).held = [.connect c.connectLock] ∧
    c.Connected (h ++ [⟨.release (.connect c.connectLock), ()⟩]) outcome

theorem obeys_renew_ensured (hopening : c.Opening opening) :
    c.renew.Obeys c.connecting c.Ensured opening :=
  .mono id (fun _ _ => rfl) (fun _ _ => id) (fun _ _ hr => ⟨hr.1, hr.2.connected⟩)
    (obeys_renew hopening) rfl

theorem obeys_ensureSession :
    c.ensureSession.Obeys c.connecting c.Ensured [⟨.acquire (.connect c.connectLock), ()⟩] := by
  refine .operate ⟨List.mem_cons_self .., trivial⟩ fun client => ?_
  cases client with
  | none => exact obeys_renew_ensured .absent
  | some client =>
      have hfree : Free Operation.publishes [⟨.acquire (.connect c.connectLock), ()⟩,
          ⟨.getClient c.number, some client⟩] := by
        simp [Free, Operation.publishes]
      refine obeys_plain_ask (List.mem_cons_self ..) hfree rfl fun answer => ?_
      have hexpired : (∀ session, answer ≠ .ok (some session)) →
          (Program.operate (.setClient c.number none) >>= fun _ => c.renew).Obeys c.connecting
            c.Ensured [⟨.acquire (.connect c.connectLock), ()⟩,
              ⟨.getClient c.number, some client⟩, ⟨.ask (.userSession client), answer⟩] := by
        intro hanswer
        refine .operate ⟨List.mem_cons_self .., rfl, fun _ => nofun⟩ fun _ => ?_
        exact obeys_renew_ensured (.expired client answer hanswer)
      match answer, hexpired with
      | .ok (some session), _ => exact ⟨rfl, .inl ⟨client, session, rfl, rfl⟩⟩
      | .ok none, hexpired => exact hexpired (by simp)
      | .error cause, hexpired => exact hexpired (by simp)

/-- A connect keeps to its rule, and leaves what its result says. -/
theorem obeys_connect :
    c.connect.Obeys c.connecting (fun h outcome => (c.locking h).held = [] ∧ c.Connected h outcome)
      [] := by
  refine .locked ⟨⟨rfl, List.not_mem_nil⟩, trivial⟩ obeys_ensureSession ?_
  rintro h outcome ⟨hheld, hconnected⟩
  refine ⟨⟨?_, trivial⟩, ?_, hconnected⟩
  · change Lock.connect c.connectLock ∈ (c.locking h).held
    rw [hheld]
    exact List.mem_cons_self ..
  · refine (congrArg Locking.held locking_concat).trans ?_
    change (c.locking h).held.erase _ = []
    rw [hheld]
    exact List.erase_cons_head ..

/-! ## Logging out and changing credentials -/

/-- A logout keeps to its rule, and leaves no client. -/
theorem obeys_logout :
    c.logout.Obeys c.loggingOut
      (fun h _ => (c.locking h).held = [] ∧
        ∃ g, h = g ++ [⟨.release (.connect c.connectLock), ()⟩] ∧ c.knownClient g = some none)
      [] := by
  refine .operate ⟨⟨rfl, List.not_mem_nil⟩, trivial⟩ fun _ => ?_
  refine .operate ⟨List.mem_cons_self .., trivial⟩ fun client => ?_
  cases client with
  | none =>
      refine .operate ⟨List.mem_cons_self .., trivial⟩ fun _ => ⟨?_, _, rfl, ?_⟩
      · exact List.erase_cons_head ..
      · exact Cell.known_of_shows? (if_pos rfl)
  | some client =>
      refine .operate ⟨List.mem_cons_self .., rfl, rfl⟩ fun _ => ?_
      refine .operate ⟨List.mem_cons_self .., rfl⟩ fun _ => ?_
      refine .operate ⟨List.mem_cons_self .., trivial⟩ fun _ => ⟨?_, _, rfl, ?_⟩
      · exact List.erase_cons_head ..
      · exact (Cell.known_concat ..).trans (Cell.known_of_shows? (if_pos rfl))

/-- A change of credentials keeps to its rule. -/
theorem obeys_updateCredentials (credentials : SessionCredentials) :
    (c.updateCredentials credentials).Obeys (c.updating credentials)
      (fun h _ => (c.locking h).held = [] ∧
        ∃ g, h = g ++ [⟨.release (.credentials c.number), ()⟩]) [] := by
  refine .operate ⟨⟨rfl, List.not_mem_nil⟩, rfl, rfl⟩ fun _ => ?_
  refine .operate ⟨List.mem_cons_self .., trivial⟩ fun s => ?_
  refine .operate ⟨List.mem_cons_self .., rfl, s, ?_, rfl⟩ fun _ => ?_
  · exact Cell.known_of_shows? (if_pos rfl)
  refine .operate ⟨List.mem_cons_self .., rfl, s.update credentials, ?_, rfl⟩ fun _ => ?_
  · exact Cell.known_of_shows? (if_pos rfl)
  · exact ⟨List.erase_cons_head .., _, rfl⟩

end Connection

end VcenterAccess
