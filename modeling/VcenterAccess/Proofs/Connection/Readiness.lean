import VcenterAccess.Proofs.Connection.Secrecy
import VcenterAccess.Proofs.Credential.History
import VcenterAccess.Proofs.Machine.Moves
import VcenterAccess.Proofs.Secret.RoundTrip
import VcenterAccess.Simulator.World

/-!
# Credentials of a Secret suffice for a login

A Secret can only be read if each of its credentials is complete: a user comes with a
password and a session manager with a token, and one of the two pairs is there.  Session
credentials take the four values over as they are, so whatever strategy they select has all
that it needs (`Credential.suits_select`).

A session manager is only asked by a connect that has read its credentials under their lock.
If the connect blames it for its failure, it gave that answer (`Connection.blames_connect`);
and with credentials of a Secret it was asked with a URL and a token, so the blame is never
that one of them is empty.
-/

namespace VcenterAccess

open Text

/-! ## What is read suffices -/

/-- The credential was read from some payload. -/
def Credential.FromSecret (c : Credential) : Prop :=
  ∃ (p : SecretPayload) (T : CredentialTable) (s : String), p.parse = .ok T ∧ T.get? s = some c

/-- The session credentials are those of a credential that was read from some payload. -/
def SessionCredentials.FromSecret (x : SessionCredentials) : Prop :=
  ∃ c : Credential, c.FromSecret ∧ x = .ofCredential c

namespace Credential

variable {c : Credential}

theorem FromSecret.not_faulty (h : c.FromSecret) : ¬ c.Faulty := by
  obtain ⟨p, T, s, hparse, hget⟩ := h
  exact (SecretPayload.legible_of_parse hparse).complete s c hget

/-- A session manager comes with a token. -/
theorem token_ne_empty (h : ¬ c.Faulty) (hurl : c.sessionManagerUrl ≠ "") :
    c.sessionManagerToken ≠ "" :=
  fun htoken => h (.inr (.inr (.inr ⟨hurl, htoken⟩)))

/-- Without a session manager there are a user and a password. -/
theorem login_ne_empty (h : ¬ c.Faulty) (hurl : c.sessionManagerUrl = "") :
    c.user ≠ "" ∧ c.password ≠ "" := by
  have htoken : c.sessionManagerToken = "" := by
    by_contra htoken
    exact h (.inr (.inr (.inl ⟨hurl, htoken⟩)))
  have huser : c.user ≠ "" := by
    intro huser
    by_cases hpassword : c.password = ""
    · exact h (.inl ⟨huser, hpassword, hurl, htoken⟩)
    · exact h (.inr (.inl (.inl ⟨huser, hpassword⟩)))
  exact ⟨huser, fun hpassword => h (.inr (.inl (.inr ⟨huser, hpassword⟩)))⟩

theorem usesSessionManager_iff : c.usesSessionManager = true ↔ c.sessionManagerUrl ≠ "" := by
  simp [usesSessionManager]

theorem usesSessionManager_eq_false_iff :
    c.usesSessionManager = false ↔ c.sessionManagerUrl = "" := by
  simp [usesSessionManager]

/-- A strategy for a credential, with all that the strategy needs. -/
inductive Suits (c : Credential) : LoginStrategy → Prop where
  | sharedSession : c.usesSessionManager = true → c.sessionManagerUrl ≠ "" →
      c.sessionManagerToken ≠ "" →
      Suits c (.sharedSession c.sessionManagerUrl c.sessionManagerToken)
  | certificate : c.usesSessionManager = false → c.user ≠ "" → c.password ≠ "" →
      Suits c (.certificate c.user c.password)
  | password : c.usesSessionManager = false → c.user ≠ "" → c.password ≠ "" →
      Suits c (.password c.user c.password)

/-- A credential that is not faulty selects a strategy with all that it needs. -/
theorem suits_select (h : ¬ c.Faulty) : c.Suits (.select (.ofCredential c)) := by
  cases hselect : LoginStrategy.select (.ofCredential c) with
  | sharedSession url token =>
      obtain ⟨hurl, rfl, rfl⟩ := LoginStrategy.select_eq_sharedSession_iff.mp hselect
      exact .sharedSession (usesSessionManager_iff.mpr hurl) hurl (token_ne_empty h hurl)
  | certificate certificate privateKey =>
      obtain ⟨hurl, -, rfl, rfl⟩ := LoginStrategy.select_eq_certificate_iff.mp hselect
      obtain ⟨huser, hpassword⟩ := login_ne_empty h hurl
      exact .certificate (usesSessionManager_eq_false_iff.mpr hurl) huser hpassword
  | password username password =>
      obtain ⟨hurl, -, rfl, rfl⟩ := LoginStrategy.select_eq_password_iff.mp hselect
      obtain ⟨huser, hpassword⟩ := login_ne_empty h hurl
      exact .password (usesSessionManager_eq_false_iff.mpr hurl) huser hpassword

end Credential

/-- Session credentials from a Secret that name a session manager have a token for it. -/
theorem SessionCredentials.FromSecret.token_ne_empty {x : SessionCredentials} (h : x.FromSecret)
    (hurl : x.sessionManagerUrl ≠ "") : x.sessionManagerToken ≠ "" := by
  obtain ⟨c, hc, rfl⟩ := h
  exact Credential.token_ne_empty hc.not_faulty hurl

namespace CredentialManager

/-- Whatever a manager hands out was read from a payload. -/
theorem fromSecret_of_serves {m : CredentialManager} {seen : List Secret} (hm : m.Backed seen)
    {call : Call} {c : Credential} (h : (m.call call).1.Serves c) : c.FromSecret := by
  have hmore : m.Backed (seen ++ call.listed.toList) :=
    hm.imp id fun ⟨s, hs, hread⟩ => ⟨s, List.mem_append_left _ hs, hread⟩
  obtain ⟨s, -, table, server, hparse, hget⟩ :=
    exists_parse_of_serves hmore (fun s hs => by simp [hs]) h
  exact ⟨s.payload, table, server, hparse, hget⟩

end CredentialManager

/-! ## Asking a session manager -/

namespace SharedTokenOptions

variable {exchange : SharedTokenOptions → Except HttpFailure HttpResponse} {o : SharedTokenOptions}

/-- What an exchange says is never that the URL or the token is empty. -/
theorem judge_ne_missing (o : SharedTokenOptions) (outcome : Except HttpFailure HttpResponse) :
    o.judge outcome ≠ .error .emptyUrl ∧ o.judge outcome ≠ .error .emptyToken := by
  cases outcome with
  | error cause => exact ⟨nofun, nofun⟩
  | ok response =>
      simp only [judge, SharedToken.ofResponse]
      split
      · exact ⟨nofun, nofun⟩
      · split
        · exact ⟨nofun, nofun⟩
        · split <;> exact ⟨nofun, nofun⟩

theorem request_of_complete (hurl : o.url ≠ "") (htoken : o.token ≠ "") :
    o.request exchange = o.judge (exchange o) := by
  have hmissing : o.missing? = none := by
    unfold missing?
    rw [if_neg (by rwa [String.isEmpty_iff]), if_neg (by rwa [String.isEmpty_iff])]
  rw [request, hmissing]

theorem request_of_no_token (hurl : o.url ≠ "") (htoken : o.token = "") :
    o.request exchange = .error .emptyToken := by
  have hmissing : o.missing? = some .emptyToken := by
    unfold missing?
    rw [if_neg (by rwa [String.isEmpty_iff]), if_pos (by rwa [String.isEmpty_iff])]
  rw [request, hmissing]

/-- With a URL, nobody complains that there is none. -/
theorem url_eq_empty_of_request (h : o.request exchange = .error .emptyUrl) : o.url = "" := by
  by_contra hurl
  by_cases htoken : o.token = ""
  · rw [request_of_no_token hurl htoken] at h
    cases h
  · rw [request_of_complete hurl htoken] at h
    exact (o.judge_ne_missing _).1 h

/-- With a URL and a token, nobody complains that there is no token. -/
theorem token_eq_empty_of_request (hurl : o.url ≠ "")
    (h : o.request exchange = .error .emptyToken) : o.token = "" := by
  by_contra htoken
  rw [request_of_complete hurl htoken] at h
  exact (o.judge_ne_missing _).2 h

end SharedTokenOptions

/-- Session managers are asked over some network, which may answer differently each time. -/
def Outside.ReachesSessionManagers {ω : Type} (o : Outside ω) : Prop :=
  ∀ task waits options s answer,
    (o.turn task waits (.sharedToken .sessionManager options) s).1 = some answer →
    ∃ exchange, answer = options.request exchange

/-- So does the simulated outside. -/
theorem World.reachesSessionManagers_outside : World.outside.ReachesSessionManagers := by
  intro task waits options w answer hanswer
  cases waits with
  | true => cases hanswer
  | false =>
      cases hanswer
      exact ⟨SharedTokenOptions.exchange w.network, rfl⟩

/-! ## Who is blamed -/

/-- Everything is allowed, and remembered. -/
def Rule.anything : Rule (List Step) := .ofHistory fun _ _ => True

theorem Program.obeys_anything {α : Type} (p : Program α) (h : List Step) :
    p.Obeys .anything (fun _ _ => True) h := by
  induction p generalizing h with
  | done a => trivial
  | perform operation next ih => exact ⟨trivial, fun answer => ih answer _⟩

namespace Connection

variable {c : Connection} {h : List Step}

/-- If an outcome blames the session manager, it was asked and gave that answer. -/
def Blames (c : Connection) {α : Type} (h : List Step) (outcome : Except ConnectionError α) :
    Prop :=
  ∀ url cause, outcome = .error (.getSharedToken url cause) →
    ∃ options : SharedTokenOptions, options.url = url ∧
      ⟨.ask (.sharedToken c.tokenSource options), .error cause⟩ ∈ h

theorem Blames.concat {α : Type} {outcome : Except ConnectionError α} (hb : c.Blames h outcome)
    (x : Step) : c.Blames (h ++ [x]) outcome := by
  intro url cause houtcome
  obtain ⟨options, hurl, hmem⟩ := hb url cause houtcome
  exact ⟨options, hurl, List.mem_append_left _ hmem⟩

theorem blames_cloneFresh {client : Client} {s : LoginState} {url token : String} :
    (c.cloneFresh client s url token).Obeys .anything c.Blames h := by
  refine .operate trivial fun answer => ?_
  cases answer with
  | error cause =>
      intro url' cause' hblamed
      cases hblamed
      exact ⟨{ url, token }, rfl, List.mem_append_right _ (List.mem_singleton_self _)⟩
  | ok fresh =>
      refine .operate trivial fun answer => ?_
      cases answer with
      | error cause => exact nofun
      | ok _ => exact .operate trivial fun _ => nofun

theorem blames_loginByCertificate {client : Client} {certificate privateKey : String} :
    (loginByCertificate client certificate privateKey).Obeys .anything c.Blames h := by
  unfold loginByCertificate
  split
  · exact nofun
  · refine .operate trivial fun answer => ?_
    cases answer with
    | error cause => exact nofun
    | ok signer => exact .operate trivial fun answer => by cases answer <;> exact nofun

theorem blames_loginByPassword {client : Client} {username password : String} :
    (loginByPassword client username password).Obeys .anything c.Blames h :=
  .operate trivial fun answer => by cases answer <;> exact nofun

theorem blames_logIn {client : Client} {s : LoginState} :
    (c.logIn client s).Obeys .anything c.Blames h := by
  unfold logIn
  split
  · refine .bind (Program.obeys_anything _ _) fun _ accepted _ => ?_
    cases accepted with
    | true => exact nofun
    | false => exact blames_cloneFresh
  · exact blames_loginByCertificate
  · exact blames_loginByPassword

theorem blames_newClient : c.newClient.Obeys .anything c.Blames h := by
  unfold newClient
  split
  · exact nofun
  · refine .locked (I := c.Blames) trivial ?_ fun _ _ hblames => ⟨trivial, hblames.concat _⟩
    refine .operate trivial fun s => .operate trivial fun answer => ?_
    cases answer with
    | error cause => exact nofun
    | ok client =>
        refine .bind blames_logIn fun h' outcome hblames => ?_
        cases outcome with
        | error e =>
            rintro url cause ⟨⟩
            exact hblames url cause rfl
        | ok _ => exact .operate trivial fun _ => nofun

theorem blames_renew : c.renew.Obeys .anything c.Blames h := by
  refine .bind blames_newClient fun h' outcome hblames => ?_
  cases outcome with
  | error e =>
      rintro url cause ⟨⟩
      exact hblames url cause rfl
  | ok client => exact .operate trivial fun _ => nofun

theorem blames_ensureSession : c.ensureSession.Obeys .anything c.Blames h := by
  refine .operate trivial fun client => ?_
  cases client with
  | none => exact blames_renew
  | some client =>
      refine .operate trivial fun answer => ?_
      match answer with
      | .ok (some session) => exact nofun
      | .ok none => exact .operate trivial fun _ => blames_renew
      | .error cause => exact .operate trivial fun _ => blames_renew

/-- A connect that blames the session manager has that answer of it. -/
theorem blames_connect : c.connect.Obeys .anything c.Blames h :=
  .locked (I := c.Blames) trivial blames_ensureSession fun _ _ hblames =>
    ⟨trivial, hblames.concat _⟩

end Connection

/-! ## Along a run -/

namespace Fleet

open Connection (Reply)

section

variable {ω : Type} {f : Fleet} {o : Outside ω} {memory : Memory} {outside : ω}
  {actions : List (Action ω)} {k n : Nat} {url : String} {cause : SharedTokenError}

/-- A connect that blames the session manager asked it along the run. -/
theorem exists_asked (hcall : (callsOf actions)[k]? = some (.connect n))
    (hr : (k, .connected (.error (.getSharedToken url cause))) ∈
      (f.run o memory outside actions).results) :
    ∃ (options : SharedTokenOptions) (before later : List Event), options.url = url ∧
      f.trace o memory outside actions =
        before ++ ⟨k, .ask (.sharedToken (f.tokenSource n) options), .error cause⟩ :: later := by
  obtain ⟨p, hprogram, hpath⟩ := (f.account o memory outside List.prefix_rfl).result _ hr
  rw [List.getElem?_map, hcall] at hprogram
  cases hprogram
  have hobeys : (f.program (.connect n)).Obeys .anything
      (fun h reply => ∀ outcome, reply = .connected outcome → (f.connection n).Blames h outcome)
      [] := by
    refine .bind Connection.blames_connect ?_
    rintro h outcome hblames _ ⟨⟩
    exact hblames
  have hblames := hobeys.result hpath _ rfl
  rw [Rule.anything, Rule.after_ofHistory] at hblames
  obtain ⟨options, hurl, hmem⟩ := hblames url cause rfl
  obtain ⟨before, later, htrace⟩ := List.append_of_mem (mem_stepsOf.mp hmem)
  exact ⟨options, before, later, hurl, htrace⟩

/-- It asked with the credentials of the last change that was completed before it took the
credentials lock, and these name a session manager. -/
theorem exists_credentials_of_blamed (hcall : (callsOf actions)[k]? = some (.connect n))
    (hr : (k, .connected (.error (.getSharedToken url cause))) ∈
      (f.run o memory outside actions).results) :
    ∃ (x : SessionCredentials) (options : SharedTokenOptions) (before after : List Event),
      f.trace o memory outside actions = before ++ ⟨k, .acquire (.credentials n), ()⟩ :: after ∧
      x = credentialsAfter (callsOf actions) n (memory.login n).credentials before ∧
      x.sessionManagerUrl ≠ "" ∧ x.sessionManagerUrl = url ∧
      options.url = x.sessionManagerUrl ∧ options.token = x.sessionManagerToken ∧
      ⟨k, .ask (.sharedToken (f.tokenSource n) options), .error cause⟩ ∈
        f.trace o memory outside actions := by
  obtain ⟨options, before, later, rfl, htrace⟩ := exists_asked hcall hr
  have hlog := f.log_run o memory outside (List.prefix_rfl (l := actions))
  have hruns := (f.account o memory outside (List.prefix_rfl (l := actions))).memory
  rw [htrace, List.append_cons] at hlog
  rw [htrace, List.map_append] at hruns
  obtain ⟨middle, hbefore, -⟩ := Memory.runs_append.mp hruns
  have hallows := hlog.of_append.allows_last hcall
  obtain ⟨n', s, hconnect, -, hknown, ⟨hurl, heq, htoken, -⟩, -⟩ := allows_ask hallows rfl
  cases hconnect
  obtain ⟨first, after, rfl, hs⟩ :=
    hlog.of_append.of_append.credentials_of_login hbefore hcall hknown
  have hmem : ⟨k, .ask (.sharedToken (f.tokenSource n) options), .error cause⟩ ∈
      f.trace o memory outside actions := by
    rw [htrace]
    exact List.mem_append_right _ (List.mem_cons_self ..)
  rw [List.append_assoc, List.cons_append] at htrace
  exact ⟨s.credentials, options, first, _, htrace, hs, hurl, heq.symm, heq, htoken, hmem⟩

end

/-- Whatever is read from a Secret suffices for a login: it names a vCenter, is trimmed, and
selects a strategy that it has everything for.  A manager hands nothing else out.  So a connect
that uses credentials of a Secret is never told by a session manager that the URL or the token
is empty, however calls interleave and whatever the network answers. -/
theorem login_of_secret :
    (∀ (p : SecretPayload) (T : CredentialTable), p.parse = .ok T → ∀ s c, T.get? s = some c →
      s ≠ "" ∧ (∀ field, ¬ EndsInNewline (c.field field)) ∧
      ((∃ url token, LoginStrategy.select (.ofCredential c) = .sharedSession url token ∧
          url ≠ "" ∧ token ≠ "") ↔ c.usesSessionManager = true) ∧
      (c.usesSessionManager = false → ∃ user secret, user ≠ "" ∧ secret ≠ "" ∧
        (LoginStrategy.select (.ofCredential c) = .certificate user secret ∨
          LoginStrategy.select (.ofCredential c) = .password user secret))) ∧
    (∀ (reference : SecretReference) (calls : List CredentialManager.Call) call c,
      (((CredentialManager.start reference).after calls).call call).1.Serves c → c.FromSecret) ∧
    ∀ (ω : Type) (f : Fleet) (o : Outside ω) (credentials : Nat → SessionCredentials) (outside : ω)
      (actions : List (Action ω)) (k n : Nat) (url : String) (cause : SharedTokenError),
      o.ReachesSessionManagers → f.tokenSource n = .sessionManager →
      (callsOf actions)[k]? = some (.connect n) →
      (k, .connected (.error (.getSharedToken url cause))) ∈
        (f.run o (start credentials) outside actions).results →
      cause ≠ .emptyUrl ∧
      (∃ before after, f.trace o (start credentials) outside actions =
        before ++ ⟨k, .acquire (.credentials n), ()⟩ :: after) ∧
      ∀ before after, f.trace o (start credentials) outside actions =
          before ++ ⟨k, .acquire (.credentials n), ()⟩ :: after →
        (credentialsAfter (callsOf actions) n (credentials n) before).FromSecret →
        cause ≠ .emptyToken := by
  refine ⟨fun p T hparse s c hget => ?_, fun reference calls call c hserves => ?_, ?_⟩
  · have hlegible := SecretPayload.legible_of_parse hparse
    have hsuits := Credential.suits_select (hlegible.complete s c hget)
    refine ⟨hlegible.named s c hget, hlegible.trimmed s c hget, ?_, fun hunmanaged => ?_⟩
    · generalize LoginStrategy.select (.ofCredential c) = strategy at hsuits
      cases hsuits with
      | sharedSession hmanaged hurl htoken =>
          exact ⟨fun _ => hmanaged, fun _ => ⟨_, _, rfl, hurl, htoken⟩⟩
      | certificate hunmanaged _ _ => simp [hunmanaged]
      | password hunmanaged _ _ => simp [hunmanaged]
    · generalize LoginStrategy.select (.ofCredential c) = strategy at hsuits
      cases hsuits with
      | sharedSession hmanaged _ _ => cases hmanaged.symm.trans hunmanaged
      | certificate _ huser hpassword => exact ⟨_, _, huser, hpassword, .inl rfl⟩
      | password _ huser hpassword => exact ⟨_, _, huser, hpassword, .inr rfl⟩
  · have hbacked := CredentialManager.backed_after
      (CredentialManager.backed_start reference (CredentialManager.listedSecrets calls))
      fun s hs => hs
    exact CredentialManager.fromSecret_of_serves hbacked hserves
  · intro ω f o credentials outside actions k n url cause hreaches hsource hcall hr
    obtain ⟨x, options, before, after, htrace, hx, hurl, -, hasked, htoken, hmem⟩ :=
      exists_credentials_of_blamed hcall hr
    rw [hsource] at hmem
    obtain ⟨waits, s, hanswer⟩ := Machine.exists_turn_of_mem_trace hmem
    obtain ⟨exchange, hrequest⟩ := hreaches k waits options s _ hanswer
    have hset : options.url ≠ "" := by rwa [hasked]
    refine ⟨?_, ⟨before, after, htrace⟩, fun before' after' htrace' hsecret => ?_⟩
    · rintro rfl
      exact hset (SharedTokenOptions.url_eq_empty_of_request hrequest.symm)
    · rintro rfl
      have hdisciplined :=
        (f.log_run o (start credentials) outside (List.prefix_rfl (l := actions))).disciplined k
      rw [htrace] at hdisciplined
      obtain rfl := acquire_once hdisciplined (htrace.symm.trans htrace')
      have hempty := SharedTokenOptions.token_eq_empty_of_request hset hrequest.symm
      rw [htoken, hx] at hempty
      rw [hx] at hurl
      exact hsecret.token_ne_empty hurl hempty

/-- A vCenter whose session managers cannot be reached. -/
def unreachable : Outside Unit where
  ask _ question s :=
    (match question with
      | .newClient .. => some (.ok { number := 1 })
      | .sharedToken _ options => some (options.request fun _ => .error .connect)
      | _ => none, s)
  collect _ _ s := (none, s)
  cancel _ s := ([], s)

theorem reachesSessionManagers_unreachable : unreachable.ReachesSessionManagers := by
  intro task waits options s answer hanswer
  cases waits with
  | true => cases hanswer
  | false =>
      cases hanswer
      exact ⟨_, rfl⟩

/-- Why a connect failed. -/
def failure? : Reply → Option ConnectionError
  | .connected (.error e) => some e
  | _ => none

/-- Somebody changes the credentials of a connection and connects then. -/
def changing (x : SessionCredentials) : List (Action Unit) :=
  [.call (.update 0 x), .call (.connect 0)] ++ List.replicate 5 (.step 0) ++
    List.replicate 9 (.step 1)

/-- What connects along it fail with. -/
def failures (x : SessionCredentials) : List (Nat × Option ConnectionError) :=
  (oneVcenter.run unreachable (start fun _ => {}) () (changing x)).results.map fun r =>
    (r.1, failure? r.2)

theorem mem_results_of_failures {x : SessionCredentials} {k : Nat} {e : ConnectionError}
    (h : (k, some e) ∈ failures x) : (k, .connected (.error e)) ∈
      (oneVcenter.run unreachable (start fun _ => {}) () (changing x)).results := by
  obtain ⟨⟨k', reply⟩, hreply, heq⟩ := List.mem_map.mp h
  obtain ⟨rfl, hfailure⟩ := Prod.mk.inj heq
  unfold failure? at hfailure
  split at hfailure
  · next hsome =>
      cases hfailure
      exact hsome ▸ hreply
  · cases hfailure

/-- Whether a connect takes the credentials lock of the first connection. -/
def takesCredentials (e : Event) : Bool :=
  e.task == 1 &&
    match e.step.operation with
    | .acquire lock => lock == .credentials 0
    | _ => false

/-- What happens before and after it does. -/
theorem split_of_takesCredentials {events : List Event} {i : Nat}
    (h : (events[i]?).any takesCredentials = true) :
    events = events.take i ++ ⟨1, .acquire (.credentials 0), ()⟩ :: events.drop (i + 1) := by
  obtain ⟨e, he, htakes⟩ := (Option.any_eq_true ..).mp h
  obtain ⟨hlt, rfl⟩ := List.getElem?_eq_some_iff.mp he
  have htaken : events[i] = ⟨1, .acquire (.credentials 0), ()⟩ := by
    obtain ⟨htask, hlock⟩ := Bool.and_eq_true_iff.mp htakes
    generalize events[i] = e at htask hlock
    obtain ⟨task, operation, answer⟩ := e
    obtain rfl : task = 1 := eq_of_beq htask
    cases operation with
    | acquire lock =>
        obtain rfl : lock = .credentials 0 := eq_of_beq hlock
        rfl
    | _ => cases hlock
  rw [← htaken, ← List.drop_eq_getElem_cons hlt, List.take_append_drop]

/-- A Secret for a vCenter that has a session manager. -/
def managed : Secret where
  name := "vcenter"
  data := some (.ofTexts [("vcenter.vc-session-manager-url", "https://sm/\n"),
    ("vcenter.vc-session-manager-token", "token\n")])

/-- What is read from it. -/
def managedCredential : Credential where
  sessionManagerUrl := "https://sm/"
  sessionManagerToken := "token"

/-- What it is blamed for. -/
def unanswered : SharedTokenError := .sendRequest "https://sm/" .connect

/-- The session manager is asked with a token then, and cannot be reached. -/
theorem login_of_secret_unreachable :
    managedCredential.FromSecret ∧
      (∃ url token, LoginStrategy.select (.ofCredential managedCredential) =
        .sharedSession url token ∧ url ≠ "" ∧ token ≠ "") ∧
      failures (.ofCredential managedCredential) =
        [(0, none), (1, some (.getSharedToken "https://sm/" unanswered))] ∧
      unanswered ≠ .emptyUrl ∧ unanswered ≠ .emptyToken := by
  have hparse : managed.payload.parse = .ok (Table.ofList [("vcenter", managedCredential)]) :=
    SecretPayload.toOption_eq_some_iff.mp (by decide +kernel)
  have hget : (Table.ofList [("vcenter", managedCredential)]).get? "vcenter" =
      some managedCredential := by
    decide +kernel
  obtain ⟨-, -, hmanaged, -⟩ := login_of_secret.1 managed.payload _ hparse "vcenter" _ hget
  have hsecret : managedCredential.FromSecret := by
    refine login_of_secret.2.1 ⟨"kube-system", "vcenter"⟩ []
      ⟨some managed, .credential "vcenter"⟩ _ ?_
    rw [CredentialManager.call_of_ok (s := managed) rfl rfl hparse]
    exact CredentialManager.serves_lookUp hget
  have hfailures : failures (.ofCredential managedCredential) =
      [(0, none), (1, some (.getSharedToken "https://sm/" unanswered))] := by
    decide +kernel
  have hresult : (1, .connected (.error (.getSharedToken "https://sm/" unanswered))) ∈
      (oneVcenter.run unreachable (start fun _ => {}) ()
        (changing (.ofCredential managedCredential))).results :=
    mem_results_of_failures (by simp [hfailures])
  have hcredentials : credentialsAfter (callsOf (changing (.ofCredential managedCredential))) 0 {}
      ((oneVcenter.trace unreachable (start fun _ => {}) ()
        (changing (.ofCredential managedCredential))).take 6) =
      .ofCredential managedCredential := by
    decide +kernel
  obtain ⟨hurl, -, htoken⟩ := login_of_secret.2.2 Unit oneVcenter unreachable (fun _ => {}) ()
    (changing (.ofCredential managedCredential)) 1 0 _ _ reachesSessionManagers_unreachable rfl rfl
    hresult
  refine ⟨hsecret, hmanaged.mpr rfl, hfailures, hurl,
    htoken _ _ (split_of_takesCredentials (i := 6) (by decide +kernel)) ?_⟩
  rw [hcredentials]
  exact ⟨managedCredential, hsecret, rfl⟩

/-- Whoever pushes credentials of another origin can still leave the token out. -/
example : failures { sessionManagerUrl := "https://sm/" } =
    [(0, none), (1, some (.getSharedToken "https://sm/" .emptyToken))] := by
  decide +kernel

end Fleet

end VcenterAccess
