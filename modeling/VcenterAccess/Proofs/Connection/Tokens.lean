import VcenterAccess.Proofs.Connection.Keeping
import VcenterAccess.Proofs.SharedToken.Answering

/-!
# No empty token is offered

A connection only asks for shared tokens where it was told to (`Connection.asks_connect`), and
it only offers a vCenter what it was given there, by the same connect or by an earlier one.  A
session manager that is asked over some network never gives an empty token.  So with it as the
source of tokens no vCenter is offered one, along any run of calls (`Fleet.ne_empty_of_allows`).
-/

namespace VcenterAccess

namespace Connection

/-- Shared tokens are only asked for at the source of the connection. -/
def AsksSource (c : Connection) : Operation → Prop
  | .ask (.sharedToken source _) => source = c.tokenSource
  | _ => True

variable {c : Connection}

theorem asks_cloneKept {client : Client} {token : Option String} :
    (cloneKept client token).Uses c.AsksSource := by
  cases token with
  | none => trivial
  | some token => exact .operate trivial fun answer => by cases answer <;> trivial

theorem asks_cloneFresh {client : Client} {s : LoginState} {url token : String} :
    (c.cloneFresh client s url token).Uses c.AsksSource := by
  refine .operate rfl fun answer => ?_
  cases answer with
  | error cause => trivial
  | ok fresh =>
      refine .operate trivial fun answer => ?_
      cases answer with
      | error cause => trivial
      | ok _ => exact .operate trivial fun _ => trivial

theorem asks_loginByCertificate {client : Client} {certificate privateKey : String} :
    (loginByCertificate client certificate privateKey).Uses c.AsksSource := by
  unfold loginByCertificate
  split
  · trivial
  · refine .operate trivial fun answer => ?_
    cases answer with
    | error cause => trivial
    | ok signer => exact .operate trivial fun answer => by cases answer <;> trivial

theorem asks_loginByPassword {client : Client} {username password : String} :
    (loginByPassword client username password).Uses c.AsksSource :=
  .operate trivial fun answer => by cases answer <;> trivial

theorem asks_logIn {client : Client} {s : LoginState} : (c.logIn client s).Uses c.AsksSource := by
  unfold logIn
  split
  · refine .bind asks_cloneKept fun accepted => ?_
    cases accepted with
    | true => trivial
    | false => exact asks_cloneFresh
  · exact asks_loginByCertificate
  · exact asks_loginByPassword

theorem asks_newClient : c.newClient.Uses c.AsksSource := by
  unfold newClient
  split
  · trivial
  · refine .locked trivial ?_ trivial
    refine .operate trivial fun s => .operate trivial fun answer => ?_
    cases answer with
    | error cause => trivial
    | ok client =>
        refine .bind asks_logIn fun outcome => ?_
        cases outcome with
        | error e => trivial
        | ok _ => exact .operate trivial fun _ => trivial

theorem asks_renew : c.renew.Uses c.AsksSource := by
  refine .bind asks_newClient fun outcome => ?_
  cases outcome with
  | error e => trivial
  | ok client => exact .operate trivial fun _ => trivial

theorem asks_ensureSession : c.ensureSession.Uses c.AsksSource := by
  refine .operate trivial fun client => ?_
  cases client with
  | none => exact asks_renew
  | some client =>
      refine .operate trivial fun answer => ?_
      match answer with
      | .ok (some session) => trivial
      | .ok none => exact .operate trivial fun _ => asks_renew
      | .error cause => exact .operate trivial fun _ => asks_renew

theorem asks_connect : c.connect.Uses c.AsksSource := .locked trivial asks_ensureSession trivial

end Connection

namespace Fleet

open Connection (Reply)

section

variable {ω : Type} {f : Fleet} {o : Outside ω} {credentials : Nat → SessionCredentials}
  {outside : ω} {actions : List (Action ω)} {n k : Nat}

/-- What a connect asks for a token is the source of its connection. -/
theorem source_eq_tokenSource (memory : Memory) (hcall : (callsOf actions)[k]? = some (.connect n))
    {source : TokenSource} {options : SharedTokenOptions} {answer : Except SharedTokenError String}
    (h : ⟨.ask (.sharedToken source options), answer⟩ ∈
      stepsOf k (f.trace o memory outside actions)) :
    source = f.tokenSource n := by
  have haccount := f.account o memory outside (List.prefix_rfl (l := actions))
  have hperforms := haccount.performed k (f.program (.connect n)) (by
    rw [List.getElem?_map, hcall, Option.map_some])
  have huses : (f.program (.connect n)).Uses (f.connection n).AsksSource :=
    .bind Connection.asks_connect fun _ => trivial
  exact huses.performs (fun _ => trivial) hperforms _ h

/-- A session manager gives no empty token. -/
theorem ne_empty_of_fetched (hreaches : o.ReachesSessionManagers)
    (hsource : f.tokenSource n = .sessionManager) {memory : Memory}
    (hcall : (callsOf actions)[k]? = some (.connect n)) {es : List Exchange}
    (hes : es <+: exchanges (stepsOf k (f.trace o memory outside actions)))
    {x : SessionCredentials} {token : String} (hfetched : x.Fetched es token) : token ≠ "" := by
  obtain ⟨before, source, rfl⟩ := hfetched
  have hmem := mem_exchanges.mp (hes.subset (List.mem_append_right _ (List.mem_singleton_self _)))
  obtain rfl : source = .sessionManager := (source_eq_tokenSource memory hcall hmem).trans hsource
  obtain ⟨waits, s, hanswer⟩ := Machine.exists_turn_of_mem_trace (mem_stepsOf.mp hmem)
  obtain ⟨exchange, hrequest⟩ := hreaches k waits _ s _ hanswer
  exact SharedTokenOptions.token_ne_empty_of_request hrequest.symm

/-- A connect that is about to offer a vCenter a token has one that is not empty. -/
theorem ne_empty_of_allows (hreaches : o.ReachesSessionManagers)
    (hsource : f.tokenSource n = .sessionManager) {events : List Event} {later : List Event}
    (htrace : f.trace o (start credentials) outside actions = events ++ later)
    (hcall : (callsOf actions)[k]? = some (.connect n)) {client : Client} {token : String}
    (hallows : (f.rule (.connect n)).allows (stepsOf k events)
      (.ask (.cloneSession client token))) : token ≠ "" := by
  have hlog := f.log_run o (start credentials) outside (List.prefix_rfl (l := actions))
  have hruns := (f.account o (start credentials) outside (List.prefix_rfl (l := actions))).memory
  have hprefix : events <+: f.trace o (start credentials) outside actions :=
    htrace ▸ List.prefix_append ..
  rw [htrace] at hlog
  rw [htrace, List.map_append] at hruns
  obtain ⟨middle, hbefore, -⟩ := Memory.runs_append.mp hruns
  obtain ⟨_, s, ⟨⟩, -, hknown, -, hoffer⟩ := allows_ask hallows rfl
  obtain rfl := hlog.of_append.login_of_known hbefore hknown
  rcases hoffer client token rfl with hkept | hfetched
  · obtain ⟨-, j, es, hj, hes, before, _, hfetched, -, rfl⟩ :=
      hlog.of_append.sourced hbefore rfl hkept
    have hes := hes.trans (prefix_exchanges (prefix_stepsOf j hprefix))
    exact ne_empty_of_fetched hreaches hsource hj ((List.prefix_append ..).trans hes) hfetched
  · exact ne_empty_of_fetched hreaches hsource hcall
      (prefix_exchanges (prefix_stepsOf k hprefix)) hfetched

end

/-- Asking a session manager ends in the verdict on what comes out of the exchange, which takes
place only if there are a URL and a token to ask with.  With session managers as its source of
tokens a connection never offers a vCenter an empty one, along any run of calls. -/
theorem shared_tokens :
    (∀ (options : SharedTokenOptions)
      (exchange : SharedTokenOptions → Except HttpFailure HttpResponse) r,
      options.request exchange = r ↔ options.Verdict (exchange options) r) ∧
    (∀ (options : SharedTokenOptions)
      (exchange : SharedTokenOptions → Except HttpFailure HttpResponse) sent,
      (SharedTokenOptions.requestIn (SharedTokenOptions.recorded exchange) options).run sent =
        (options.request exchange, sent ++ if options.Complete then [options] else [])) ∧
    ∀ (ω : Type) (f : Fleet) (o : Outside ω) (credentials : Nat → SessionCredentials) (outside : ω)
      (actions : List (Action ω)) (n : Nat), o.ReachesSessionManagers →
      f.tokenSource n = .sessionManager →
      (∀ k client token answer, (callsOf actions)[k]? = some (.connect n) →
        ⟨k, .ask (.cloneSession client token), answer⟩ ∈
          f.trace o (start credentials) outside actions → token ≠ "") ∧
      ∀ t ∈ (f.run o (start credentials) outside actions).tasks, ∀ client token next,
        t.program = .perform (.ask (.cloneSession client token)) next →
        (callsOf actions)[t.number]? = some (.connect n) → token ≠ "" := by
  refine ⟨fun options exchange r => ⟨?_, SharedTokenOptions.Verdict.request_eq⟩,
    fun options exchange => SharedTokenOptions.requestIn_recorded,
    fun ω f o credentials outside actions n hreaches hsource => ⟨?_, ?_⟩⟩
  · rintro rfl
    exact options.verdict_request exchange
  · intro k client token answer hcall hmem
    obtain ⟨before, later, htrace⟩ := List.append_of_mem hmem
    have hlog := f.log_run o (start credentials) outside (List.prefix_rfl (l := actions))
    rw [htrace, List.append_cons] at hlog
    exact ne_empty_of_allows hreaches hsource htrace hcall (hlog.of_append.allows_last hcall)
  · intro t ht client token next hp hcall
    obtain ⟨call, hcall', hallows⟩ := pending List.prefix_rfl ht hp
    obtain rfl : call = .connect n := Option.some.inj (hcall'.symm.trans hcall)
    exact ne_empty_of_allows hreaches hsource (List.append_nil _).symm hcall hallows

/-- What a session manager answers that hands out a token. -/
def handingOut : HttpResponse where
  status := .ok
  body := Text.Utf8.ofText "\x7b\"token\": \"shared\"\x7d"

/-- A vCenter with a session manager that hands out a token. -/
def generous : Outside Unit where
  ask _ question s :=
    (match question with
      | .newClient .. => some (.ok { number := 1 })
      | .cloneSession .. => some (.ok ())
      | .sharedToken _ options => some (options.request fun _ => .ok handingOut)
      | _ => none, s)
  collect _ _ s := (none, s)
  cancel _ s := ([], s)

theorem reachesSessionManagers_generous : generous.ReachesSessionManagers := by
  intro task waits options s answer hanswer
  cases waits with
  | true => cases hanswer
  | false =>
      cases hanswer
      exact ⟨_, rfl⟩

/-- The tokens that vCenters are offered, each with the call that does so. -/
def offers (events : List Event) : List (Nat × String) :=
  events.filterMap fun e =>
    match e.step.operation with
    | .ask (.cloneSession _ token) => some (e.task, token)
    | _ => none

theorem exists_of_mem_offers {events : List Event} {k : Nat} {token : String}
    (h : (k, token) ∈ offers events) :
    ∃ client answer, ⟨k, .ask (.cloneSession client token), answer⟩ ∈ events := by
  obtain ⟨⟨task, operation, answer⟩, he, hoffer⟩ := List.mem_filterMap.mp h
  simp only at hoffer
  split at hoffer
  · cases hoffer
    exact ⟨_, answer, he⟩
  · cases hoffer

/-- Credentials that name the session manager. -/
def managerCredentials : SessionCredentials where
  sessionManagerUrl := "https://sm/"
  sessionManagerToken := "manager"

/-- What the session manager is asked with. -/
def managerOptions : SharedTokenOptions where
  url := managerCredentials.sessionManagerUrl
  token := managerCredentials.sessionManagerToken

/-- What is offered when somebody connects. -/
def offersOfConnect : List (Nat × String) :=
  offers (oneVcenter.trace generous (start fun _ => managerCredentials) ()
    (.call (.connect 0) :: List.replicate 8 (.step 0)))

/-- The session manager is asked for a token, and the vCenter is offered the one it gives. -/
theorem shared_tokens_generous :
    managerOptions.request (fun _ => .ok handingOut) = .ok "shared" ∧
      offersOfConnect = [(0, "shared")] ∧ "shared" ≠ "" := by
  have hdecodes : SharedToken.decode? handingOut.body = some "shared" := by decide +kernel
  have hverdict : managerOptions.Verdict (.ok handingOut) (.ok "shared") :=
    .judged (by decide) (.token rfl (SharedToken.decode?_eq_some_iff.mp hdecodes) (by decide))
  have hoffers : offersOfConnect = [(0, "shared")] := by decide +kernel
  have hmem : (0, "shared") ∈ offersOfConnect := hoffers ▸ List.mem_singleton_self _
  obtain ⟨client, answer, hasked⟩ := exists_of_mem_offers hmem
  have hrun := shared_tokens.2.2 Unit oneVcenter generous (fun _ => managerCredentials) ()
    (.call (.connect 0) :: List.replicate 8 (.step 0)) 0 reachesSessionManagers_generous rfl
  exact ⟨(shared_tokens.1 _ _ _).mpr hverdict, hoffers, hrun.1 0 client _ answer rfl hasked⟩

end Fleet

end VcenterAccess
