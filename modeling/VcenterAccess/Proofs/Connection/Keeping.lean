import VcenterAccess.Proofs.Connection.Secrecy

/-!
# Where kept tokens come from

A connection keeps the shared token whose session it took over last, so that its next login
need not fetch one.  The token was fetched with the URL and the token of the session manager
that the connection has now, and then its session was taken over (`Log.sourced`): a change of
either forgets it.

Only two kinds of calls change what is kept, and each at one step (`nextLogin_cases`).  A
connect takes over one session at most, so one that gets on with the kept token does not
replace it.
-/

namespace VcenterAccess

namespace SessionCredentials

variable {x y : SessionCredentials} {es : List Exchange} {token : String}

/-- They name one session manager, and one token for it. -/
def SameManager (x y : SessionCredentials) : Prop :=
  x.sessionManagerUrl = y.sessionManagerUrl ∧ x.sessionManagerToken = y.sessionManagerToken

theorem Fetched.of_sameManager (h : x.Fetched es token) (hxy : x.SameManager y) :
    y.Fetched es token := by
  obtain ⟨before, source, rfl⟩ := h
  exact ⟨before, source, by rw [hxy.1, hxy.2]⟩

theorem Accepted.of_sameManager (h : x.Accepted es token) (hxy : x.SameManager y) :
    y.Accepted es token := by
  obtain ⟨before, client, hfetched, huntaken, rfl⟩ := h
  exact ⟨before, client, hfetched.of_sameManager hxy, huntaken, rfl⟩

end SessionCredentials

namespace LoginState

variable {s : LoginState} {y : SessionCredentials}

theorem update_of_sameManager (h : s.credentials.SameManager y) :
    s.update y = { s with credentials := y } := by
  simp [update, h.1, h.2]

theorem update_of_not_sameManager (h : ¬ s.credentials.SameManager y) :
    s.update y = { credentials := y } := by
  have hpair : ¬ (s.credentials.sessionManagerUrl = y.sessionManagerUrl ∧
      s.credentials.sessionManagerToken = y.sessionManagerToken) := h
  simp [update, hpair]

end LoginState

namespace Fleet

open Connection (Reply)

/-- A connect fetched a token with some credentials, and took its session over. -/
def Sourced (calls : List Call) (n : Nat) (events : List Event) (credentials : SessionCredentials)
    (token : String) : Prop :=
  credentials.sessionManagerUrl ≠ "" ∧ ∃ k es, calls[k]? = some (.connect n) ∧
    es <+: exchanges (stepsOf k events) ∧ credentials.Accepted es token

section

variable {f : Fleet} {calls : List Call} {events later : List Event} {n k : Nat}

theorem Sourced.mono {credentials : SessionCredentials} {token : String}
    (h : Sourced calls n events credentials token) (hlater : events <+: later) :
    Sourced calls n later credentials token := by
  obtain ⟨hurl, k, es, hcall, hes, haccepted⟩ := h
  exact ⟨hurl, k, es, hcall, hes.trans (prefix_exchanges (prefix_stepsOf k hlater)), haccepted⟩

namespace Log

/-- A token that is kept was fetched with the current credentials. -/
theorem sourced (hlog : f.Log calls events) {start m : Memory}
    (hruns : start.Runs (events.map Event.step) m) (hstart : (start.login n).sharedToken = none)
    {token : String} (htoken : (m.login n).sharedToken = some token) :
    Sourced calls n events (m.login n).credentials token := by
  induction events using List.reverseRecOn generalizing m with
  | nil =>
      obtain rfl : start = m := hruns
      rw [hstart] at htoken
      cases htoken
  | append_singleton events e ih =>
      obtain ⟨k, x⟩ := e
      rw [List.map_append] at hruns
      obtain ⟨before, hbefore, -, rfl⟩ := Memory.runs_concat.mp hruns
      have hlogBefore := hlog.of_append
      rcases login_after_cases n before x with hkept | ⟨login, hx, hset⟩
      case inl =>
        rw [hkept] at htoken ⊢
        exact (ih hlogBefore hbefore htoken).mono (List.prefix_append ..)
      case inr =>
        obtain ⟨call, hcall, hallows⟩ := hlog.last
        rw [hx] at hallows
        rw [hset] at htoken ⊢
        obtain ⟨s, hknown, ⟨rfl, fetched, rfl, hkeep⟩ | ⟨y, rfl, rfl⟩⟩ := allows_setLogin hallows
        case inl =>
          cases htoken
          refine ⟨hkeep.managed, k, exchanges (stepsOf k events), hcall, ?_, hkeep.accepted⟩
          exact prefix_exchanges (prefix_stepsOf k (List.prefix_append ..))
        case inr =>
          by_cases hsame : s.credentials.SameManager y
          · rw [LoginState.update_of_sameManager hsame] at htoken ⊢
            have hlogin := hlogBefore.login_of_known hbefore hknown
            obtain ⟨hurl, j, es, hj, hes, haccepted⟩ :=
              (ih hlogBefore hbefore (by rw [hlogin]; exact htoken)).mono
                (List.prefix_append _ [⟨k, x⟩])
            rw [hlogin] at hurl haccepted
            exact ⟨hsame.1 ▸ hurl, j, es, hj, hes, haccepted.of_sameManager hsame⟩
          · rw [LoginState.update_of_not_sameManager hsame] at htoken
            cases htoken

/-- Between two times at which a call knows what the next login uses, only the call itself
changes it: the call took the lock once, before the first of both times. -/
theorem login_unchanged (hlog : f.Log calls (events ++ later)) {m m' : Memory}
    (hruns : m.Runs (later.map Event.step) m') {s s' : LoginState}
    (hfirst : (f.connection n).knownLogin (stepsOf k events) = some s)
    (hlast : (f.connection n).knownLogin (stepsOf k (events ++ later)) = some s')
    (hfree : Free Operation.changesLogin (stepsOf k later)) : m'.login n = m.login n := by
  have hown : ∀ e ∈ later, e.step.operation.lock f.connectLock = .credentials n → e.task = k := by
    obtain ⟨before, after, hevents, -⟩ := exists_of_held hlog.of_append.exclusive
      hlog.of_append.disciplined (Cell.lock_mem_of_known (hlog.of_append.disciplined k) hfirst)
    obtain ⟨before', after', hwhole, hown⟩ := exists_of_held hlog.exclusive hlog.disciplined
      (Cell.lock_mem_of_known (hlog.disciplined k) hlast)
    rw [hevents, List.append_assoc, List.cons_append] at hwhole
    have hdisciplined := hlog.disciplined k
    rw [hevents, List.append_assoc, List.cons_append] at hdisciplined
    obtain rfl := acquire_once hdisciplined hwhole
    obtain ⟨-, rfl⟩ := List.cons_eq_cons.mp (List.append_cancel_left hwhole)
    exact fun e he => hown e (List.mem_append_right _ he)
  clear hlog hlast
  induction later using List.reverseRecOn generalizing m' with
  | nil =>
      obtain rfl : m = m' := hruns
      rfl
  | append_singleton later e ih =>
      rw [List.map_append] at hruns
      obtain ⟨middle, hbefore, -, rfl⟩ := Memory.runs_concat.mp hruns
      rw [stepsOf_append] at hfree
      rcases login_after_cases n middle e.step with hkept | ⟨login, hx, -⟩
      · rw [hkept]
        exact ih hbefore (fun x hx => hfree x (List.mem_append_left _ hx))
          fun e he => hown e (List.mem_append_left _ he)
      · obtain rfl := hown e (by simp) (by rw [hx]; rfl)
        have := hfree e.step (List.mem_append_right _ (mem_stepsOf.mpr (by simp)))
        rw [hx] at this
        cases this

end Log

end

section

variable {ω : Type} (f : Fleet) (o : Outside ω) (credentials : Nat → SessionCredentials)
  (outside : ω) (actions : List (Action ω)) (n : Nat)

/-- What the next login of a connection uses after some actions. -/
def nextLogin : LoginState :=
  (f.run o (start credentials) outside actions).shared.memory.login n

/-- A call leaves the token that a connection keeps. -/
def LeavesToken (k : Nat) : Prop :=
  ∀ first, first ++ [.step k] <+: actions →
    (f.nextLogin o credentials outside (first ++ [.step k]) n).sharedToken =
      (f.nextLogin o credentials outside first n).sharedToken

/-- What is so with the token that a connection keeps along some actions. -/
structure TokenKeeping : Prop where
  /-- It was fetched with the current credentials, and then its session was taken over. -/
  sourced : ∀ token, (f.nextLogin o credentials outside actions n).sharedToken = some token →
    Sourced (callsOf actions) n (f.trace o (start credentials) outside actions)
      (f.nextLogin o credentials outside actions n).credentials token
  /-- It only changes if a connect keeps the token that it fetched and succeeds, or if
  a change of credentials brings another session manager or token for it. -/
  changed : ∀ first a, first ++ [a] <+: actions →
    (f.nextLogin o credentials outside (first ++ [a]) n).sharedToken =
        (f.nextLogin o credentials outside first n).sharedToken ∨
      (∃ k token, a = .step k ∧ (callsOf actions)[k]? = some (.connect n) ∧
        (f.nextLogin o credentials outside (first ++ [a]) n).sharedToken = some token ∧
        (f.nextLogin o credentials outside first n).credentials.Accepted
          (exchanges (stepsOf k (f.trace o (start credentials) outside first))) token ∧
        ∀ reply, (k, reply) ∈ (f.run o (start credentials) outside actions).results →
          reply = .connected (.ok ())) ∨
      ∃ k y, a = .step k ∧ (callsOf actions)[k]? = some (.update n y) ∧
        ¬ (f.nextLogin o credentials outside first n).credentials.SameManager y ∧
        (f.nextLogin o credentials outside (first ++ [a]) n).sharedToken = none
  /-- A connect that fails leaves it. -/
  failed : ∀ k e, (k, .connected (.error e)) ∈ (f.run o (start credentials) outside actions).results →
    f.LeavesToken o credentials outside actions n k
  /-- A connect that takes its session over leaves it. -/
  reused : ∀ first k client token, first ++ [.step k] <+: actions →
    (callsOf actions)[k]? = some (.connect n) →
    (f.nextLogin o credentials outside first n).sharedToken = some token →
    f.trace o (start credentials) outside (first ++ [.step k]) =
      f.trace o (start credentials) outside first ++
        [⟨k, .ask (.cloneSession client token), .ok ()⟩] →
    f.LeavesToken o credentials outside actions n k
  /-- A logout leaves it. -/
  loggedOut : ∀ k j, (callsOf actions)[k]? = some (.logOut j) →
    f.LeavesToken o credentials outside actions n k
  /-- Other users and passwords leave it. -/
  sameManager : ∀ first k y, first ++ [.step k] <+: actions →
    (callsOf actions)[k]? = some (.update n y) →
    (f.nextLogin o credentials outside first n).credentials.SameManager y →
    (f.nextLogin o credentials outside (first ++ [.step k]) n).sharedToken =
      (f.nextLogin o credentials outside first n).sharedToken
  /-- A vCenter is only offered what was fetched with the current credentials. -/
  offered : ∀ t ∈ (f.run o (start credentials) outside actions).tasks, ∀ client token next,
    t.program = .perform (.ask (.cloneSession client token)) next →
    (callsOf actions)[t.number]? = some (.connect n) →
    (f.nextLogin o credentials outside actions n).credentials.sessionManagerUrl ≠ "" ∧
      ∃ k es, (callsOf actions)[k]? = some (.connect n) ∧
        es <+: exchanges (stepsOf k (f.trace o (start credentials) outside actions)) ∧
        (f.nextLogin o credentials outside actions n).credentials.Fetched es token

variable {f o credentials outside actions} {first : List (Action ω)} {a : Action ω}

/-- An action leaves what the next login uses, or is the step of a call that changes it. -/
theorem nextLogin_cases (hfirst : first ++ [a] <+: actions) :
    f.nextLogin o credentials outside (first ++ [a]) n = f.nextLogin o credentials outside first n ∨
      ∃ k call login, a = .step k ∧ (callsOf actions)[k]? = some call ∧
        f.trace o (start credentials) outside (first ++ [a]) =
          f.trace o (start credentials) outside first ++ [⟨k, .setLogin n login, ()⟩] ∧
        f.nextLogin o credentials outside (first ++ [a]) n = login ∧
        ((call = .connect n ∧ ∃ token,
            login = { f.nextLogin o credentials outside first n with sharedToken := some token } ∧
            (f.connection n).MayKeep
              (stepsOf k (f.trace o (start credentials) outside first))
              (f.nextLogin o credentials outside first n) token) ∨
          ∃ y, call = .update n y ∧
            login = (f.nextLogin o credentials outside first n).update y) := by
  rcases f.move_cases o (start credentials) outside first a with hsame | ⟨k, x, rfl, htrace, -, hmemory⟩
  case inl => exact .inl (congrArg (·.login n) hsame)
  case inr =>
    have hlog := f.log_run o (start credentials) outside hfirst
    rw [htrace] at hlog
    have hruns := (f.account o (start credentials) outside (List.prefix_append first [.step k])).memory
    rcases login_after_cases n (f.run o (start credentials) outside first).shared.memory x with
      hkept | ⟨login, hx, hset⟩
    · refine .inl ?_
      rw [nextLogin, hmemory, hkept]
      rfl
    · obtain ⟨call, hcall, hallows⟩ := hlog.last
      rw [hx] at hallows
      obtain ⟨s, hknown, hchange⟩ := allows_setLogin hallows
      obtain rfl : f.nextLogin o credentials outside first n = s :=
        hlog.of_append.login_of_known hruns hknown
      obtain ⟨operation, answer⟩ := x
      obtain rfl : operation = .setLogin n login := hx
      refine .inr ⟨k, call, login, rfl, hcall, htrace, ?_, hchange⟩
      rw [nextLogin, hmemory, hset]

/-- A connect that changes what the next login uses does not fail. -/
theorem reply_of_keep {k : Nat} {login : LoginState} (hfirst : first ++ [a] <+: actions)
    (htrace : f.trace o (start credentials) outside (first ++ [a]) =
      f.trace o (start credentials) outside first ++ [⟨k, .setLogin n login, ()⟩])
    (hcall : (callsOf actions)[k]? = some (.connect n)) {reply : Reply}
    (hreply : (k, reply) ∈ (f.run o (start credentials) outside actions).results) :
    reply = .connected (.ok ()) := by
  obtain ⟨outcome, rfl, hconnected⟩ := fulfils List.prefix_rfl hreply hcall
  cases outcome with
  | ok _ => rfl
  | error e =>
      exfalso
      have hmem : (⟨.setLogin n login, ()⟩ : Step) ∈
          stepsOf k (f.trace o (start credentials) outside actions) := by
        refine mem_stepsOf.mpr ((f.prefix_trace o (start credentials) outside hfirst).subset ?_)
        rw [htrace]
        simp
      have hchanges := hconnected.unchanged _ hmem
      cases hchanges

/-- A connect that fails leaves the token. -/
theorem leavesToken_of_failed {k : Nat} {e : ConnectionError}
    (hfailed : (k, .connected (.error e)) ∈ (f.run o (start credentials) outside actions).results) :
    f.LeavesToken o credentials outside actions n k := by
  intro first hfirst
  rcases nextLogin_cases n hfirst with hsame |
    ⟨_, call, login, ⟨⟩, hcall, htrace, -, ⟨rfl, -⟩ | ⟨y, rfl, -⟩⟩
  · rw [hsame]
  · cases reply_of_keep n hfirst htrace hcall hfailed
  · cases (fulfils List.prefix_rfl hfailed hcall).1

/-- A connect that takes over the session of the kept token leaves the token.  If it stores one
later, that is the kept one; and had it stored one earlier, it would take over a second session. -/
theorem leavesToken_of_reused {k : Nat} {client : Client} {token : String}
    (hfirst : first ++ [.step k] <+: actions) (hcall : (callsOf actions)[k]? = some (.connect n))
    (htoken : (f.nextLogin o credentials outside first n).sharedToken = some token)
    (htrace : f.trace o (start credentials) outside (first ++ [.step k]) =
      f.trace o (start credentials) outside first ++
        [⟨k, .ask (.cloneSession client token), .ok ()⟩]) :
    f.LeavesToken o credentials outside actions n k := by
  intro last hlast
  have hlog := f.log_run o (start credentials) outside hfirst
  rw [htrace] at hlog
  have hallows := hlog.allows_last hcall
  obtain ⟨_, s, ⟨⟩, huntaken, hknown, -, -⟩ := allows_ask hallows rfl
  rcases nextLogin_cases n hlast with hsame |
    ⟨_, call, login, ⟨⟩, hcall', hset, hlogin, ⟨rfl, fresh, rfl, hkeep⟩ | ⟨y, rfl, -⟩⟩
  case inl => rw [hsame]
  case inr.inr => cases hcall'.symm.trans hcall
  case inr.inl =>
    obtain ⟨before, client', -, hbefore, hes⟩ := hkeep.accepted
    rw [hlogin]
    have hne : first ++ [.step k] ≠ last ++ [.step k] := by
      intro heq
      obtain rfl : first = last := List.append_cancel_right heq
      cases List.append_cancel_left (htrace.symm.trans hset)
    rcases List.prefix_or_prefix_of_prefix hfirst hlast with hle | hle
    case inl =>
      have hle := (List.prefix_concat_iff.mp hle).resolve_left hne
      obtain ⟨later, hlater⟩ := f.prefix_trace o (start credentials) outside hle
      rw [htrace, List.append_assoc] at hlater
      have hsame : fresh = token := by
        have hmem : (⟨.cloneSession client token, .ok ()⟩ : Exchange) ∈
            exchanges (stepsOf k (f.trace o (start credentials) outside last)) := by
          rw [← hlater, stepsOf_append, exchanges_append]
          exact List.mem_append_right _ (by simp [stepsOf, exchanges, Step.exchange?])
        rw [hes] at hmem
        rcases List.mem_append.mp hmem with hmem | hmem
        · cases hbefore _ hmem
        · cases List.mem_singleton.mp hmem
          rfl
      have hruns := runs_of_trace hlater.symm
      have hlogLast := f.log_run o (start credentials) outside ((List.prefix_append ..).trans hlast)
      have hunchanged := hkeep.unchanged
      have hknownLast := hkeep.known
      rw [← hlater] at hlogLast hunchanged hknownLast
      rw [stepsOf_append] at hunchanged
      have hlogin : f.nextLogin o credentials outside last n =
          f.nextLogin o credentials outside first n :=
        hlogLast.login_unchanged hruns hknown hknownLast
          fun x hx => hunchanged x (List.mem_append_right _ hx)
      rw [hlogin, htoken, hsame]
    case inr =>
      have hle := (List.prefix_concat_iff.mp hle).resolve_left hne.symm
      have hmem : (⟨.cloneSession client' fresh, .ok ()⟩ : Exchange) ∈
          exchanges (stepsOf k (f.trace o (start credentials) outside last)) := by
        rw [hes]
        simp
      have hbetween := f.prefix_trace o (start credentials) outside
        ((List.prefix_append last [.step k]).trans hle)
      cases huntaken _ ((prefix_exchanges (prefix_stepsOf k hbetween)).subset hmem)

end

/-- Along every run of calls, a token is only kept for the session manager that it was fetched
from, and only a connect that fetched it or a change of the session manager changes it. -/
theorem token_keeping {ω : Type} (f : Fleet) (o : Outside ω)
    (credentials : Nat → SessionCredentials) (outside : ω) (actions : List (Action ω)) (n : Nat) :
    f.TokenKeeping o credentials outside actions n where
  sourced token htoken := by
    have hruns := (f.account o (start credentials) outside (List.prefix_rfl (l := actions))).memory
    exact (f.log_run o (start credentials) outside List.prefix_rfl).sourced hruns rfl htoken
  changed first a hfirst := by
    rcases nextLogin_cases n hfirst with hsame |
      ⟨k, call, login, rfl, hcall, htrace, hlogin, ⟨rfl, token, rfl, hkeep⟩ | ⟨y, rfl, rfl⟩⟩
    · exact .inl (congrArg _ hsame)
    · refine .inr (.inl ⟨k, token, rfl, hcall, congrArg _ hlogin, hkeep.accepted, ?_⟩)
      exact fun reply => reply_of_keep n hfirst htrace hcall
    · rw [hlogin]
      by_cases hsame : (f.nextLogin o credentials outside first n).credentials.SameManager y
      · rw [LoginState.update_of_sameManager hsame]
        exact .inl rfl
      · exact .inr (.inr ⟨k, y, rfl, hcall, hsame,
          congrArg _ (LoginState.update_of_not_sameManager hsame)⟩)
  failed k e hfailed := leavesToken_of_failed n hfailed
  reused first k client token hfirst hcall htoken htrace :=
    leavesToken_of_reused n hfirst hcall htoken htrace
  loggedOut k j hcall := by
    intro first hfirst
    rcases nextLogin_cases n hfirst with hsame |
      ⟨_, call, login, ⟨⟩, hcall', -, -, ⟨rfl, -⟩ | ⟨y, rfl, -⟩⟩
    · rw [hsame]
    · cases hcall'.symm.trans hcall
    · cases hcall'.symm.trans hcall
  sameManager first k y hfirst hcall hmanager := by
    rcases nextLogin_cases n hfirst with hsame |
      ⟨_, call, login, ⟨⟩, hcall', -, hlogin, ⟨rfl, -⟩ | ⟨y', rfl, rfl⟩⟩
    · rw [hsame]
    · cases hcall'.symm.trans hcall
    · cases hcall'.symm.trans hcall
      rw [hlogin, LoginState.update_of_sameManager hmanager]
  offered t ht client token next hp hcall := by
    have hlog := f.log_run o (start credentials) outside (List.prefix_rfl (l := actions))
    have hruns := (f.account o (start credentials) outside (List.prefix_rfl (l := actions))).memory
    obtain ⟨call, hcall', hallows⟩ := pending List.prefix_rfl ht hp
    obtain rfl : call = .connect n := Option.some.inj (hcall'.symm.trans hcall)
    obtain ⟨_, s, ⟨⟩, -, hknown, hpermits, hoffer⟩ := allows_ask hallows rfl
    obtain rfl : f.nextLogin o credentials outside actions n = s :=
      hlog.login_of_known hruns hknown
    refine ⟨hpermits, ?_⟩
    rcases hoffer client token rfl with hkept | hfetched
    · obtain ⟨-, k, es, hk, hes, before, _, hfetched, -, rfl⟩ := hlog.sourced hruns rfl hkept
      exact ⟨k, before, hk, (List.prefix_append ..).trans hes, hfetched⟩
    · exact ⟨t.number, _, hcall, List.prefix_rfl, hfetched⟩

example : (oneVcenter.nextLogin welcoming
    (fun _ => { sessionManagerUrl := "https://sessions", sessionManagerToken := "manager" }) ()
    (.call (.connect 0) :: List.replicate 12 (.step 0)) 0).sharedToken = some "shared" := by
  decide +kernel

end Fleet

end VcenterAccess
