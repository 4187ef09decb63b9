import VcenterAccess.Proofs.Connection.Attempt
import VcenterAccess.Proofs.ConnectionManager.Calls
import VcenterAccess.Proofs.Credential.Revision

/-!
# When credentials are refreshed

To connect to a server, a connection manager makes an attempt with the credentials that
the connection has.  Only if the vCenter rejects them, and if there is a source of
credentials, they are looked up there; only a credential that is found takes their place
and gets a second attempt.  Whatever the vCenter, the session manager and the store
answer, a connect goes one of these ways (`VirtualCenter.Course`), and there is a client
afterwards if and only if it returned the connection.
-/

namespace VcenterAccess

open Program

/-- The Secret that a step looks up, with its store. -/
def Step.listing? : Step → Option (Nat × SecretReference)
  | ⟨.ask (.listedSecret store reference), _⟩ => some (store, reference)
  | _ => none

/-- The Secrets that some steps look up, in turn. -/
def listings (h : List Step) : List (Nat × SecretReference) := h.filterMap Step.listing?

theorem listings_append (g h : List Step) : listings (g ++ h) = listings g ++ listings h :=
  List.filterMap_append

/-- How often some steps take the connect lock of a connection. -/
def Connection.attempts (c : Connection) (h : List Step) : Nat :=
  h.countP fun x => x.operation.takes (.connect c.connectLock)

theorem Connection.attempts_append (c : Connection) (g h : List Step) :
    c.attempts (g ++ h) = c.attempts g + c.attempts h :=
  List.countP_append

variable {ω : Type} (r : Responder ω) (s : Scene ω)

/-! ## What calls are made of -/

namespace Connection

variable {c : Connection}

theorem listing?_of_touches {x : Step} (h : c.Touches x.operation) : x.listing? = none := by
  obtain ⟨operation, answer⟩ := x
  cases operation with
  | ask question =>
      cases question with
      | listedSecret store reference => exact absurd rfl (h store reference)
      | _ => rfl
  | _ => rfl

theorem takes_of_touches {x : Step} (h : c.Touches x.operation) :
    x.operation.takes (.connect c.connectLock) = false := by
  obtain ⟨operation, answer⟩ := x
  cases operation with
  | acquire lock =>
      obtain rfl : lock = .credentials c.number := h
      rfl
  | _ => rfl

variable (c)

/-- A connect looks no Secret up, and is one attempt. -/
theorem listings_connect :
    listings (c.connect.alone r s).steps = [] ∧ c.attempts (c.connect.alone r s).steps = 1 := by
  obtain ⟨g, hsteps, htouches⟩ := c.exists_of_connect r s
  have hlistings : listings g = [] :=
    List.filterMap_eq_nil_iff.mpr fun x hx => listing?_of_touches (htouches x hx)
  have hattempts : c.attempts g = 0 :=
    List.countP_eq_zero.mpr fun x hx => by simp [takes_of_touches (htouches x hx)]
  rw [hsteps]
  constructor
  · rw [listings_append]
    change listings g ++ [] = []
    rw [hlistings, List.append_nil]
  · simpa [attempts, Operation.takes] using hattempts

theorem client_connect :
    ((c.connect.alone r s).scene.memory.client c.number).isSome = true ↔
      (c.connect.alone r s).result = .ok () :=
  client_of_path (path_alone ..) (runs_alone ..)

theorem credentials_connect :
    ((c.connect.alone r s).scene.memory.login c.number).credentials =
      (s.memory.login c.number).credentials :=
  credentials_of_path (path_alone ..) (runs_alone ..)

variable {c} in
theorem login_connect {e : ConnectionError} (h : (c.connect.alone r s).result = .error e) :
    (c.connect.alone r s).scene.memory.login c.number = s.memory.login c.number := by
  have hpath := path_alone (r := r) s c.connect
  rw [h] at hpath
  exact login_of_path hpath (runs_alone ..) c.number

theorem alone_updateCredentials (credentials : SessionCredentials) :
    (c.updateCredentials credentials).alone r s =
      ⟨(), [⟨.acquire (.credentials c.number), ()⟩, ⟨.getLogin c.number, s.memory.login c.number⟩,
          ⟨.setLogin c.number ((s.memory.login c.number).update credentials), ()⟩,
          ⟨.release (.credentials c.number), ()⟩],
        { s with memory :=
            s.memory.setLogin c.number ((s.memory.login c.number).update credentials) }⟩ := rfl

end Connection

namespace SecretSource

variable (source : SecretSource) {α : Type} (read : SecretCache → Except LookupError α)

/-- What a look-up comes to. -/
theorem alone_serve :
    (source.serve read).alone r s =
      let listed := r (.listedSecret source.store source.reference) s.outside
      let old := s.memory.cache source.number
      let start : List Step := [⟨.acquire (.cache source.number), ()⟩,
        ⟨.ask (.listedSecret source.store source.reference), listed.1⟩,
        ⟨.getCache source.number, old⟩]
      match CredentialManager.refreshCache source.reference old listed.1 with
      | .error e =>
          ⟨.error e, start ++ [⟨.release (.cache source.number), ()⟩], ⟨s.memory, listed.2⟩⟩
      | .ok cache =>
          ⟨read cache, start ++ [⟨.setCache source.number cache, ()⟩,
              ⟨.release (.cache source.number), ()⟩],
            ⟨s.memory.setCache source.number cache, listed.2⟩⟩ := by
  rw [serve, alone_locked, alone_ask_bind, alone_operate_bind]
  dsimp only [Operation.alone]
  cases CredentialManager.refreshCache source.reference (s.memory.cache source.number)
    (r (.listedSecret source.store source.reference) s.outside).1 <;> rfl

/-- A look-up looks its Secret up once and makes no attempt to connect, and it leaves all
that is kept about connections. -/
theorem listings_getCredential (server : String) :
    listings ((source.getCredential server).alone r s).steps = [(source.store, source.reference)] ∧
      (∀ c : Connection, c.attempts ((source.getCredential server).alone r s).steps = 0) ∧
      ((source.getCredential server).alone r s).scene.memory.connection = s.memory.connection := by
  rw [getCredential, alone_serve]
  dsimp only
  split <;> exact ⟨rfl, fun _ => rfl, rfl⟩

end SecretSource

/-! ## A call -/

namespace VirtualCenter

variable (v : VirtualCenter) (server : String)

/-- What the outcome of the last attempt comes to. -/
def outcome : Except ConnectionError Unit → Except ManagerError Connection
  | .ok _ => .ok v.connection
  | .error cause => .error (.connect server cause)

/-- What the next login of the connection uses. -/
def login (s : Scene ω) : LoginState := s.memory.login v.connection.number

/-- The ways that a connect to a server can go. -/
inductive Course : Ending ω (Except ManagerError Connection) → Prop where
  /-- The vCenter takes the credentials. -/
  | connected {first : Ending ω (Except ConnectionError Unit)}
      (attempt : v.connection.connect.alone r s = first) (taken : first.result = .ok ())
      (unlisted : listings first.steps = [])
      (kept : (v.login first.scene).credentials = (v.login s).credentials) :
      Course ⟨.ok v.connection, first.steps, first.scene⟩
  /-- The attempt fails for another reason than the credentials, or there are no others. -/
  | failed {first : Ending ω (Except ConnectionError Unit)} {cause : ConnectionError}
      (attempt : v.connection.connect.alone r s = first) (failure : first.result = .error cause)
      (reason : cause.isInvalidLogin = false ∨ v.source = none)
      (unlisted : listings first.steps = []) (kept : v.login first.scene = v.login s) :
      Course ⟨.error (.connect server cause), first.steps, first.scene⟩
  /-- The credentials are rejected, and no other can be had. -/
  | unrefreshed {first : Ending ω (Except ConnectionError Unit)} {cause : ConnectionError}
      {source : SecretSource} {lookup : Ending ω (Except LookupError Credential)}
      {reason : LookupError}
      (attempt : v.connection.connect.alone r s = first) (failure : first.result = .error cause)
      (rejected : cause.isInvalidLogin = true) (configured : v.source = some source)
      (refresh : (source.getCredential server).alone r first.scene = lookup)
      (missing : lookup.result = .error reason)
      (once : listings (first.steps ++ lookup.steps) = [(source.store, source.reference)])
      (kept : v.login lookup.scene = v.login s) :
      Course ⟨.error (.refreshCredentials server reason), first.steps ++ lookup.steps,
        lookup.scene⟩
  /-- The credentials are rejected, and the credential that was found gets an attempt. -/
  | refreshed {first second : Ending ω (Except ConnectionError Unit)} {cause : ConnectionError}
      {source : SecretSource} {lookup : Ending ω (Except LookupError Credential)}
      {credential : Credential} {update : Ending ω Unit}
      (attempt : v.connection.connect.alone r s = first) (failure : first.result = .error cause)
      (rejected : cause.isInvalidLogin = true) (configured : v.source = some source)
      (refresh : (source.getCredential server).alone r first.scene = lookup)
      (found : lookup.result = .ok credential)
      (replace : (v.connection.updateCredentials (.ofCredential credential)).alone r
        lookup.scene = update)
      (retry : v.connection.connect.alone r update.scene = second)
      (once : listings (first.steps ++ (lookup.steps ++ (update.steps ++ second.steps))) =
        [(source.store, source.reference)])
      (used : (v.login update.scene).credentials = .ofCredential credential)
      (kept : (v.login second.scene).credentials = .ofCredential credential) :
      Course ⟨v.outcome server second.result,
        first.steps ++ (lookup.steps ++ (update.steps ++ second.steps)), second.scene⟩

/-- What holds of every connect to a server. -/
structure Refreshes (e : Ending ω (Except ManagerError Connection)) : Prop where
  course : v.Course r s server e
  /-- There are two attempts at most. -/
  attempts : v.connection.attempts e.steps ≤ 2
  /-- Whoever gets the connection gets one with a client. -/
  client_of_ok : ∀ c, e.result = .ok c →
    c = v.connection ∧ ∃ client, e.scene.memory.client c.number = some client
  /-- A failure leaves no client. -/
  client_of_error : ∀ cause, e.result = .error cause →
    e.scene.memory.client v.connection.number = none

variable {v server r s}

theorem Course.attempts_le {e : Ending ω (Except ManagerError Connection)}
    (h : v.Course r s server e) : v.connection.attempts e.steps ≤ 2 := by
  cases h with
  | connected attempt =>
      subst attempt
      rw [(v.connection.listings_connect r s).2]
      exact Nat.le_succ 1
  | failed attempt =>
      subst attempt
      rw [(v.connection.listings_connect r s).2]
      exact Nat.le_succ 1
  | unrefreshed attempt _ _ _ refresh =>
      subst attempt refresh
      rw [Connection.attempts_append, (v.connection.listings_connect r s).2,
        (SecretSource.listings_getCredential r _ _ _).2.1]
      exact Nat.le_succ 1
  | refreshed attempt _ _ _ refresh _ replace retry =>
      subst attempt refresh replace retry
      rw [Connection.attempts_append, Connection.attempts_append, Connection.attempts_append,
        (v.connection.listings_connect r s).2, (SecretSource.listings_getCredential r _ _ _).2.1,
        (v.connection.listings_connect r _).2]
      exact Nat.le_refl 2

variable (server) in
theorem client_of_outcome {first : Ending ω (Except ConnectionError Unit)}
    (hfirst : v.connection.connect.alone r s = first) :
    (first.scene.memory.client v.connection.number).isSome = true ↔
      v.outcome server first.result = .ok v.connection := by
  subst hfirst
  rw [v.connection.client_connect r s]
  cases (v.connection.connect.alone r s).result with
  | ok _ => exact ⟨fun _ => rfl, fun _ => rfl⟩
  | error cause => exact ⟨nofun, nofun⟩

/-- There is a client afterwards if and only if the connection was returned. -/
theorem Course.client {e : Ending ω (Except ManagerError Connection)}
    (h : v.Course r s server e) :
    (e.scene.memory.client v.connection.number).isSome = true ↔ e.result = .ok v.connection := by
  cases h with
  | connected attempt taken =>
      have hclient := client_of_outcome server attempt
      rw [taken] at hclient
      exact hclient
  | failed attempt failure =>
      have hclient := client_of_outcome server attempt
      rw [failure] at hclient
      exact hclient
  | @unrefreshed first _ _ lookup _ attempt failure _ _ refresh =>
      have hclient := client_of_outcome server attempt
      rw [failure] at hclient
      have hsame : lookup.scene.memory.client v.connection.number =
          first.scene.memory.client v.connection.number := by
        subst refresh
        exact congrArg (fun connection => (connection v.connection.number).client)
          (SecretSource.listings_getCredential r _ _ _).2.2
      rw [hsame]
      exact ⟨fun h => absurd (hclient.mp h) nofun, nofun⟩
  | refreshed _ _ _ _ _ _ _ retry => exact client_of_outcome server retry

theorem Course.refreshes {e : Ending ω (Except ManagerError Connection)}
    (h : v.Course r s server e) : v.Refreshes r s server e where
  course := h
  attempts := h.attempts_le
  client_of_ok := by
    have hclient := h.client
    intro c hc
    have hown : e.result = .ok v.connection ∨ ∃ cause, e.result = .error cause := by
      cases h with
      | connected => exact .inl rfl
      | failed => exact .inr ⟨_, rfl⟩
      | unrefreshed => exact .inr ⟨_, rfl⟩
      | @refreshed first second =>
          cases hsecond : second.result with
          | ok _ => exact .inl (by simp [outcome])
          | error cause => exact .inr ⟨.connect server cause, by simp [outcome]⟩
    rcases hown with hown | ⟨cause, hown⟩
    · obtain rfl : c = v.connection := Except.ok.inj (hc.symm.trans hown)
      exact ⟨rfl, Option.isSome_iff_exists.mp (hclient.mpr hc)⟩
    · exact absurd (hc.symm.trans hown) nofun
  client_of_error cause hcause := by
    refine Option.not_isSome_iff_eq_none.mp fun hsome => ?_
    exact absurd (hcause.symm.trans (h.client.mp hsome)) nofun

end VirtualCenter

namespace ConnectionManager

variable {r s} {m : ConnectionManager} {server : String} {v : VirtualCenter}

variable (server) in
/-- Credentials that are rejected are looked up, and tried if they are found. -/
theorem course_connectRefreshed {source : SecretSource}
    {first : Ending ω (Except ConnectionError Unit)} {cause : ConnectionError}
    (hfirst : v.connection.connect.alone r s = first) (hfailure : first.result = .error cause)
    (hrejected : cause.isInvalidLogin = true) (hsource : v.source = some source) :
    v.Course r s server
      (((v.connectRefreshed server source >>= fun
          | .error e => (pure (.error e) : Program (Except ManagerError Connection))
          | .ok _ => pure (.ok v.connection)).alone r first.scene).after first) := by
  obtain ⟨hunlisted, -⟩ := v.connection.listings_connect r s
  have hkept : v.login first.scene = v.login s := by
    rw [← hfirst] at hfailure ⊢
    exact Connection.login_connect r s hfailure
  rw [hfirst] at hunlisted
  obtain ⟨honce, -, hconnection⟩ := source.listings_getCredential r first.scene server
  rw [VirtualCenter.connectRefreshed, alone_bind, alone_bind]
  generalize hrefresh : (source.getCredential server).alone r first.scene = lookup at *
  cases hlookup : lookup.result with
  | error reason =>
      have hend : v.Course r s server _ := .unrefreshed hfirst hfailure hrejected hsource hrefresh
        hlookup (by rw [listings_append, hunlisted, honce]; rfl)
        (by rw [← hkept]; exact congrArg (fun k => (k v.connection.number).login) hconnection)
      simpa [Ending.after] using hend
  | ok credential =>
      rw [alone_bind, alone_bind]
      generalize hreplace : (v.connection.updateCredentials (.ofCredential credential)).alone r
        lookup.scene = update
      obtain ⟨hagain, -⟩ := v.connection.listings_connect r update.scene
      have hcredentials := v.connection.credentials_connect r update.scene
      have hused : (v.login update.scene).credentials = .ofCredential credential := by
        subst hreplace
        rw [Connection.alone_updateCredentials, VirtualCenter.login, Memory.login_setLogin]
        rfl
      have hupdate : listings update.steps = [] := by
        subst hreplace
        rfl
      generalize hretry : v.connection.connect.alone r update.scene = second at *
      have hend : v.Course r s server _ := .refreshed hfirst hfailure hrejected hsource hrefresh
        hlookup hreplace hretry
        (by simp [listings_append, hunlisted, honce, hupdate, hagain])
        hused (hcredentials.trans hused)
      cases hresult : second.result with
      | ok _ => simpa [Ending.after, hresult, VirtualCenter.outcome] using hend
      | error cause => simpa [Ending.after, hresult, VirtualCenter.outcome] using hend

/-- A connect to a known server goes one of the ways. -/
theorem course_connect (hknown : m.virtualCenters.get? server = some v) :
    v.Course r s server ((m.connect server).alone r s) := by
  rw [connect, hknown]
  dsimp only
  rw [alone_bind, VirtualCenter.connect, alone_bind]
  obtain ⟨hunlisted, -⟩ := v.connection.listings_connect r s
  have hcredentials := v.connection.credentials_connect r s
  generalize hfirst : v.connection.connect.alone r s = first at hunlisted hcredentials ⊢
  cases hresult : first.result with
  | ok _ =>
      have hend : v.Course r s server _ := .connected hfirst hresult hunlisted hcredentials
      simpa [Ending.after] using hend
  | error cause =>
      cases hfilter : v.source.filter fun _ => cause.isInvalidLogin with
      | none =>
          have hreason : cause.isInvalidLogin = false ∨ v.source = none := by
            cases hsource : v.source with
            | none => exact .inr rfl
            | some source =>
                refine .inl (Bool.eq_false_iff.mpr fun hrejected => ?_)
                simp [hsource, hrejected] at hfilter
          have hkept : v.login first.scene = v.login s := by
            rw [← hfirst] at hresult ⊢
            exact Connection.login_connect r s hresult
          have hend : v.Course r s server _ := .failed hfirst hresult hreason hunlisted hkept
          simpa [Ending.after, hfilter] using hend
      | some source =>
          obtain ⟨hsource, hrejected⟩ := Option.filter_eq_some_iff.mp hfilter
          have hend := course_connectRefreshed server hfirst hresult hrejected hsource
          rw [alone_bind, Ending.after_after] at hend
          simp only [hfilter]
          exact hend

end ConnectionManager


/-- Credentials are refreshed exactly when they should be: whatever is answered, a machine
that only connects to a server comes to an end, without a step if the server is not known,
and on one of the ways if it is. -/
theorem ConnectionManager.connect_refreshes (m : ConnectionManager) (server : String) :
    let e := (m.connect server).alone r s
    Machine.Ends r s (m.connect server) e ∧
      (m.virtualCenters.get? server = none →
        e = ⟨.error (.unknownVirtualCenter server), [], s⟩) ∧
      ∀ v, m.virtualCenters.get? server = some v → v.Refreshes r s server e := by
  refine ⟨Machine.ends_alone r (m.bracketed_connect server) s, ?_, ?_⟩
  · intro hunknown
    rw [connect, hunknown]
    rfl
  · exact fun v hknown => (course_connect hknown).refreshes

/-! ## A rotation to look at -/

namespace ConnectionManager

/-- Where the credentials of a server are. -/
def oneSource : SecretSource := ⟨0, ⟨"kube-system", "vcenter"⟩, 0⟩

/-- A connection manager with this server. -/
def oneServer : ConnectionManager :=
  ({} : ConnectionManager).insert { hostname := "vcenter" } (some oneSource)

/-- Its vCenter. -/
def onlyVcenter : VirtualCenter :=
  ⟨({} : ConnectionManager).nextConnection { hostname := "vcenter" }, some oneSource⟩

/-- The Secret with a new password. -/
def rotated : Secret :=
  CredentialManager.revision "2" [("vcenter.username", "k8s"), ("vcenter.password", "new")]

/-- A vCenter that takes the new password only. -/
def newLock : Responder Unit
  | .newClient .., s => (.ok { number := 1 }, s)
  | .login _ _ password, s => (if password = "new" then .ok () else .error .invalidLogin, s)
  | .issueToken .., s => (.error .invalidLogin, s)
  | .loginByToken .., s => (.error .invalidLogin, s)
  | .cloneSession .., s => (.error .invalidLogin, s)
  | .userSession _, s => (.ok (some { user := "k8s" }), s)
  | .logout _, s => (.ok (), s)
  | .withRetry client budget, s => ({ client with retries := some budget }, s)
  | .sharedToken .., s => (.error .emptyUrl, s)
  | .listedSecret .., s => (some rotated, s)

/-- The old password is rejected, and the connection gets the new one. -/
theorem connect_refreshes_rotation :
    let s : Scene Unit := ⟨Memory.ofCredentials [{ username := "k8s", password := "old" }], ()⟩
    let e := (oneServer.connect "vcenter").alone newLock s
    oneServer.virtualCenters.get? "vcenter" = some onlyVcenter ∧
      onlyVcenter.Refreshes newLock s "vcenter" e ∧ e.result = .ok onlyVcenter.connection ∧
      listings e.steps = [(0, ⟨"kube-system", "vcenter"⟩)] :=
  ⟨rfl, (connect_refreshes newLock _ oneServer "vcenter").2.2 onlyVcenter rfl, by decide +kernel,
    by decide +kernel⟩

end ConnectionManager

end VcenterAccess
