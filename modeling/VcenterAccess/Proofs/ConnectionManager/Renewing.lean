import VcenterAccess.Proofs.Connection.Attempt
import VcenterAccess.Proofs.ConnectionManager.Calls

/-!
# How credentials are renewed

Between its attempts, a connect to a server looks a credential up and pushes it into the
connection.  From the moment when it has the cache, what it does next is determined by
what it found out so far (`Rule.renewing`): the Secret that is listed, the cache, the
credential that the cache holds for the server, and what the next login uses.
-/

namespace VcenterAccess

open Program

/-- How far a connect is with other credentials. -/
inductive Renewal where
  /-- It has not begun to look them up, or has pushed them. -/
  | idle
  /-- It has the cache. -/
  | taken
  /-- It knows what is listed. -/
  | listed (secret : Option Secret)
  /-- It knows what is cached. -/
  | read (secret : Option Secret) (old : SecretCache)
  /-- It has brought the cache up to date. -/
  | served (cache : SecretCache)
  /-- It has found a credential, and given the cache back. -/
  | found (credential : Credential)
  /-- It has the credentials of the connection. -/
  | granted (credential : Credential)
  /-- It knows what the next login uses. -/
  | ready (credential : Credential) (login : LoginState)

/-- What a connect to a server does to renew the credentials. -/
def Rule.renewing (v : VirtualCenter) (server : String) : Rule Renewal where
  next
    | .idle, ⟨.acquire (.cache _), _⟩ => .taken
    | .taken, ⟨.ask (.listedSecret ..), secret⟩ => .listed secret
    | .listed secret, ⟨.getCache _, old⟩ => .read secret old
    | .read _ _, ⟨.setCache _ cache, _⟩ => .served cache
    | .read _ _, _ => .idle
    | .served cache, _ =>
        match CredentialManager.find server cache with
        | .error _ => .idle
        | .ok credential => .found credential
    | .found credential, _ => .granted credential
    | .granted credential, ⟨.getLogin _, login⟩ => .ready credential login
    | .ready _ _, _ => .idle
    | renewal, _ => renewal
  allows
    | .idle, .acquire (.cache n) => ∃ source, v.source = some source ∧ n = source.number
    | .idle, .release (.cache _) => False
    | .idle, .getCache _ => False
    | .idle, .setCache .. => False
    | .idle, .ask (.listedSecret ..) => False
    | .idle, _ => True
    | .taken, operation => ∃ source, v.source = some source ∧
        operation = .ask (.listedSecret source.store source.reference)
    | .listed _, operation => ∃ source, v.source = some source ∧
        operation = .getCache source.number
    | .read secret old, operation => ∃ source, v.source = some source ∧
        match CredentialManager.refreshCache source.reference old secret with
        | .error _ => operation = .release (.cache source.number)
        | .ok cache => operation = .setCache source.number cache
    | .served _, operation => ∃ source, v.source = some source ∧
        operation = .release (.cache source.number)
    | .found _, operation => operation = .acquire (.credentials v.connection.number)
    | .granted _, operation => operation = .getLogin v.connection.number
    | .ready credential login, operation =>
        operation = .setLogin v.connection.number (login.update (.ofCredential credential))

variable {v : VirtualCenter} {server : String}

/-! ## Connects keep to it -/

/-- What a connection does concerns no cache. -/
def Operation.Uncached : Operation → Prop
  | .acquire (.cache _) => False
  | .release (.cache _) => False
  | .getCache _ => False
  | .setCache .. => False
  | .ask (.listedSecret ..) => False
  | _ => True

namespace Connection

variable {c : Connection}

theorem uncached_of_touches {operation : Operation} (h : c.Touches operation) :
    operation.Uncached := by
  cases operation with
  | acquire lock =>
      obtain rfl : lock = .credentials c.number := h
      trivial
  | release lock =>
      obtain rfl : lock = .credentials c.number := h
      trivial
  | getCache n => exact h
  | setCache n cache => exact h
  | ask question =>
      cases question with
      | listedSecret store reference => exact h store reference rfl
      | _ => trivial
  | _ => trivial

theorem uncached_connect : c.connect.Uses Operation.Uncached :=
  .locked trivial (uses_ensureSession.mono fun _ => uncached_of_touches) trivial

theorem uncached_logout : c.logout.Uses Operation.Uncached :=
  .locked trivial (uses_dropSession.mono fun _ => uncached_of_touches) trivial

theorem uncached_updateCredentials (credentials : SessionCredentials) :
    (c.updateCredentials credentials).Uses Operation.Uncached :=
  .locked trivial (.operate trivial fun _ => ⟨trivial, fun _ => trivial⟩) trivial

end Connection

/-- Nothing else than look-ups concerns a connect that has not begun one. -/
theorem Rule.renewing_uncached {operation : Operation} (h : operation.Uncached) :
    (renewing v server).allows .idle operation ∧
      ∀ answer, (renewing v server).next .idle ⟨operation, answer⟩ = .idle := by
  cases operation with
  | acquire lock =>
      cases lock with
      | cache n => exact h.elim
      | _ => exact ⟨trivial, fun _ => rfl⟩
  | release lock =>
      cases lock with
      | cache n => exact h.elim
      | _ => exact ⟨trivial, fun _ => rfl⟩
  | getCache n => exact h.elim
  | setCache n cache => exact h.elim
  | ask question =>
      cases question with
      | listedSecret store reference => exact h.elim
      | _ => exact ⟨trivial, fun _ => rfl⟩
  | _ => exact ⟨trivial, fun _ => rfl⟩

/-- What a look-up leaves. -/
def Renewal.Answers : Renewal → Except LookupError Credential → Prop
  | renewal, .error _ => renewal = .idle
  | renewal, .ok credential => renewal = .found credential

/-- How far a look-up is before it gives the cache back. -/
def Renewal.LookedUp (source : SecretSource) (server : String) (renewal : Renewal)
    (answer : Except LookupError Credential) : Prop :=
  (∃ secret old e, renewal = .read secret old ∧ answer = .error e ∧
      CredentialManager.refreshCache source.reference old secret = .error e) ∨
    ∃ cache, renewal = .served cache ∧ answer = CredentialManager.find server cache

theorem SecretSource.obeys_getCredential {source : SecretSource} (hsource : v.source = some source) :
    (source.getCredential server).Obeys (.renewing v server) Renewal.Answers .idle := by
  refine .locked (I := Renewal.LookedUp source server) ⟨source, hsource, rfl⟩ ?_ ?_
  · refine .operate ⟨source, hsource, rfl⟩ fun secret => ?_
    refine .operate ⟨source, hsource, rfl⟩ fun old => ?_
    change Program.Obeys (.renewing v server) (Renewal.LookedUp source server) (.read secret old) _
    split
    · next e hrefresh => exact .inl ⟨secret, old, e, rfl, rfl, hrefresh⟩
    · next cache hrefresh =>
        refine .operate ⟨source, hsource, ?_⟩ fun _ => .inr ⟨cache, rfl, rfl⟩
        rw [hrefresh]
  · rintro _ _ (⟨secret, old, e, rfl, rfl, hrefresh⟩ | ⟨cache, rfl, rfl⟩)
    · refine ⟨⟨source, hsource, ?_⟩, rfl⟩
      rw [hrefresh]
    · refine ⟨⟨source, hsource, rfl⟩, ?_⟩
      change Renewal.Answers (match CredentialManager.find server cache with
        | .error _ => .idle
        | .ok credential => .found credential) _
      cases CredentialManager.find server cache <;> rfl

theorem VirtualCenter.conforms_renewing : v.Conforms server (.renewing v server) .idle Renewal.Answers where
  connect := Connection.uncached_connect.obeys fun _ => Rule.renewing_uncached
  lookup source hsource := SecretSource.obeys_getCredential hsource
  missed _ _ h := h
  push := by
    rintro _ credential rfl
    refine .operate rfl fun _ => .operate rfl fun login => ?_
    exact .operate rfl fun _ => .operate trivial fun _ => rfl

/-- A connect to a server keeps to the rule. -/
theorem ConnectionManager.obeys_renewing {m : ConnectionManager}
    (hknown : m.virtualCenters.get? server = some v) :
    (m.connect server).Obeys (.renewing v server) (fun renewal _ => renewal = .idle) .idle := by
  refine obeys_connect fun v' hknown' => ?_
  obtain rfl : v' = v := Option.some.inj (hknown'.symm.trans hknown)
  exact VirtualCenter.conforms_renewing.obeys

/-! ## One step -/

/-- What a step that is allowed is, and where it leads. -/
inductive Renewal.Leads (v : VirtualCenter) (server : String) : Renewal → Step → Renewal → Prop where
  /-- A step that concerns no look-up. -/
  | stay {operation : Operation} (h : operation.Uncached) (answer : operation.Answer) :
      Leads v server .idle ⟨operation, answer⟩ .idle
  | take {source : SecretSource} (h : v.source = some source) :
      Leads v server .idle ⟨.acquire (.cache source.number), ()⟩ .taken
  | list {source : SecretSource} (h : v.source = some source) (secret : Option Secret) :
      Leads v server .taken ⟨.ask (.listedSecret source.store source.reference), secret⟩
        (.listed secret)
  | read {source : SecretSource} (h : v.source = some source) (secret : Option Secret)
      (old : SecretCache) :
      Leads v server (.listed secret) ⟨.getCache source.number, old⟩ (.read secret old)
  | serve {source : SecretSource} (h : v.source = some source) {secret : Option Secret}
      {old cache : SecretCache}
      (hrefresh : CredentialManager.refreshCache source.reference old secret = .ok cache) :
      Leads v server (.read secret old) ⟨.setCache source.number cache, ()⟩ (.served cache)
  | fail {source : SecretSource} (h : v.source = some source) {secret : Option Secret}
      {old : SecretCache} {e : LookupError}
      (hrefresh : CredentialManager.refreshCache source.reference old secret = .error e) :
      Leads v server (.read secret old) ⟨.release (.cache source.number), ()⟩ .idle
  | find {source : SecretSource} (h : v.source = some source) {cache : SecretCache}
      {credential : Credential}
      (hfind : CredentialManager.find server cache = .ok credential) :
      Leads v server (.served cache) ⟨.release (.cache source.number), ()⟩ (.found credential)
  | miss {source : SecretSource} (h : v.source = some source) {cache : SecretCache}
      {e : LookupError} (hfind : CredentialManager.find server cache = .error e) :
      Leads v server (.served cache) ⟨.release (.cache source.number), ()⟩ .idle
  | grant (credential : Credential) :
      Leads v server (.found credential) ⟨.acquire (.credentials v.connection.number), ()⟩
        (.granted credential)
  | look (credential : Credential) (login : LoginState) :
      Leads v server (.granted credential) ⟨.getLogin v.connection.number, login⟩
        (.ready credential login)
  | push (credential : Credential) (login : LoginState) :
      Leads v server (.ready credential login)
        ⟨.setLogin v.connection.number (login.update (.ofCredential credential)), ()⟩ .idle

theorem Renewal.leads_of_allows {renewal : Renewal} {x : Step}
    (h : (Rule.renewing v server).allows renewal x.operation) :
    Leads v server renewal x ((Rule.renewing v server).next renewal x) := by
  obtain ⟨operation, answer⟩ := x
  cases renewal with
  | idle =>
      by_cases hstay : operation.Uncached
      · rw [(Rule.renewing_uncached hstay).2 answer]
        exact .stay hstay answer
      · cases operation with
        | acquire lock =>
            cases lock with
            | cache n =>
                obtain ⟨source, hsource, rfl⟩ := h
                exact .take hsource
            | _ => exact absurd trivial hstay
        | release lock =>
            cases lock with
            | cache n => exact h.elim
            | _ => exact absurd trivial hstay
        | getCache n => exact h.elim
        | setCache n cache => exact h.elim
        | ask question =>
            cases question with
            | listedSecret store reference => exact h.elim
            | _ => exact absurd trivial hstay
        | _ => exact absurd trivial hstay
  | taken =>
      obtain ⟨source, hsource, rfl⟩ := h
      exact .list hsource answer
  | listed secret =>
      obtain ⟨source, hsource, rfl⟩ := h
      exact .read hsource secret answer
  | read secret old =>
      obtain ⟨source, hsource, h⟩ := h
      split at h
      · next e hrefresh =>
          obtain rfl : operation = _ := h
          exact .fail hsource hrefresh
      · next cache hrefresh =>
          obtain rfl : operation = _ := h
          exact .serve hsource hrefresh
  | served cache =>
      obtain ⟨source, hsource, rfl⟩ := h
      change Leads v server _ _ (match CredentialManager.find server cache with
        | .error _ => .idle
        | .ok credential => .found credential)
      cases hfind : CredentialManager.find server cache with
      | error e => exact .miss hsource hfind
      | ok credential => exact .find hsource hfind
  | found credential =>
      obtain rfl : operation = _ := h
      exact .grant credential
  | granted credential =>
      obtain rfl : operation = _ := h
      exact .look credential answer
  | ready credential login =>
      obtain rfl : operation = _ := h
      exact .push credential login

end VcenterAccess
