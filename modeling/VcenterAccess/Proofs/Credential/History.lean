import VcenterAccess.Credential.Manager
import VcenterAccess.Proofs.Secret.Parsing

/-!
# Histories of a credential manager

A history is a list of calls.  A call comes with what the lister reports at its
time, so histories range over all ways in which the listed Secret can change
between calls.

A call either leaves the manager alone or replaces Secret and credentials
together after a successful reading (`call_cases`).  So the cache always holds a
Secret that was listed once, with the credentials read from it, or nothing at
all (`backed_after`).  Credentials that were read are never nothing
(`SecretPayload.isEmpty_of_parse`), hence a filled cache stays filled.
-/

namespace VcenterAccess

namespace CredentialManager

/-! ## Calls and histories -/

/-- What a manager is asked for. -/
inductive Request where
  | credential (server : String)
  | all
deriving DecidableEq, Repr

/-- What a manager answers. -/
inductive Answer where
  | credential (result : Except LookupError Credential)
  | all (result : Except LookupError CredentialTable)

/-- A call of a manager, with the Secret that the lister reports at its time. -/
structure Call where
  listed : Option Secret
  request : Request

def call (m : CredentialManager) (c : Call) : Answer × CredentialManager :=
  match c.request with
  | .credential server =>
      let (result, m') := m.getCredential c.listed server
      (.credential result, m')
  | .all =>
      let (result, m') := m.credentials c.listed
      (.all result, m')

/-- The manager after a history. -/
def after (m : CredentialManager) (calls : List Call) : CredentialManager :=
  calls.foldl (fun m c => (m.call c).2) m

/-- The answers along a history. -/
def answers : CredentialManager → List Call → List Answer
  | _, [] => []
  | m, c :: calls => (m.call c).1 :: answers (m.call c).2 calls

/-- A manager that was not called yet. -/
def start (reference : SecretReference) : CredentialManager := { reference }

/-- The Secrets that the lister reports along a history. -/
def listedSecrets (calls : List Call) : List Secret := calls.filterMap Call.listed

/-- The answer that a table of credentials gives to a request. -/
def Request.lookUp (table : CredentialTable) : Request → Answer
  | .credential server =>
      .credential (match table.get? server with
        | some c => .ok c
        | none => .error (.notFound server))
  | .all => .all (.ok table)

/-- The answer to a request that fails. -/
def Request.fail (e : LookupError) : Request → Answer
  | .credential _ => .credential (.error e)
  | .all => .all (.error e)

theorem after_cons (m : CredentialManager) (c : Call) (calls : List Call) :
    m.after (c :: calls) = (m.call c).2.after calls := rfl

theorem answers_cons (m : CredentialManager) (c : Call) (calls : List Call) :
    m.answers (c :: calls) = (m.call c).1 :: (m.call c).2.answers calls := rfl

/-- What holds of all listed Secrets holds of the first call's and of the later ones. -/
theorem forall_listedSecrets_cons {P : Secret → Prop} {c : Call} {calls : List Call} :
    (∀ s ∈ listedSecrets (c :: calls), P s) ↔
      (∀ s, c.listed = some s → P s) ∧ ∀ s ∈ listedSecrets calls, P s := by
  unfold listedSecrets
  constructor
  · intro h
    refine ⟨fun s hs => h s ?_, fun s hs => h s ?_⟩
    · exact List.mem_filterMap.mpr ⟨c, List.mem_cons_self .., hs⟩
    · obtain ⟨c', hc', hs'⟩ := List.mem_filterMap.mp hs
      exact List.mem_filterMap.mpr ⟨c', List.mem_cons_of_mem _ hc', hs'⟩
  · rintro ⟨hfirst, hlater⟩ s hs
    obtain ⟨c', hc', hs'⟩ := List.mem_filterMap.mp hs
    rcases List.mem_cons.mp hc' with rfl | hc'
    · exact hfirst s hs'
    · exact hlater s (List.mem_filterMap.mpr ⟨c', hc', hs'⟩)

/-! ## What a call does -/

variable {m : CredentialManager} {c : Call}

/-- A call refreshes the cache, and then reads from it. -/
theorem call_eq (m : CredentialManager) (c : Call) :
    m.call c = match refreshCache m.reference m.cache c.listed with
      | .error e => (c.request.fail e, m)
      | .ok cache => (c.request.lookUp cache.credentials, { m with cache }) := by
  obtain ⟨listed, request⟩ := c
  cases request with
  | credential server =>
      simp only [call, getCredential, serve]
      cases refreshCache m.reference m.cache listed with
      | error e => rfl
      | ok cache => rfl
  | all =>
      simp only [call, credentials, serve]
      cases refreshCache m.reference m.cache listed with
      | error e => rfl
      | ok cache => rfl

/-- There is nothing new to read: no Secret is listed, or the cached revision. -/
def Settled (m : CredentialManager) (listed : Option Secret) : Prop :=
  listed = none ∨ ∃ s, listed = some s ∧ m.cache.isCurrent s = true

theorem call_of_settled (h : m.Settled c.listed) :
    m.call c = (c.request.lookUp m.cache.credentials, m) := by
  have hrefresh : refreshCache m.reference m.cache c.listed = .ok m.cache := by
    rcases h with h | ⟨s, h, hcurrent⟩
    · rw [h]
      rfl
    · rw [h, refreshCache, if_pos hcurrent]
  rw [call_eq, hrefresh]

/-- A Secret that is not current is read. -/
theorem refreshCache_of_stale {reference : SecretReference} {cache : SecretCache} {s : Secret}
    (h : cache.isCurrent s = false) :
    refreshCache reference cache (some s) = match s.payload.parse with
      | .ok table => .ok ⟨some s, table⟩
      | .error e => .error (.parseSecret e reference) := by
  rw [refreshCache, if_neg (by rw [h]; exact Bool.false_ne_true)]
  rfl

theorem call_of_error {s : Secret} {e : ParseError} (h : c.listed = some s)
    (hcurrent : m.cache.isCurrent s = false) (he : s.payload.parse = .error e) :
    m.call c = (c.request.fail (.parseSecret e m.reference), m) := by
  rw [call_eq, h, refreshCache_of_stale hcurrent, he]

theorem call_of_ok {s : Secret} {table : CredentialTable} (h : c.listed = some s)
    (hcurrent : m.cache.isCurrent s = false) (hok : s.payload.parse = .ok table) :
    m.call c = (c.request.lookUp table, { m with cache := ⟨some s, table⟩ }) := by
  rw [call_eq, h, refreshCache_of_stale hcurrent, hok]

/-- The three things that can happen to the listed Secret: it need not be read,
it cannot be read, or it is read. -/
theorem call_cases (m : CredentialManager) (listed : Option Secret) :
    m.Settled listed ∨ ∃ s, listed = some s ∧ m.cache.isCurrent s = false ∧
      ((∃ e, s.payload.parse = .error e) ∨ ∃ table, s.payload.parse = .ok table) := by
  cases listed with
  | none => exact .inl (.inl rfl)
  | some s =>
      cases hcurrent : m.cache.isCurrent s with
      | true => exact .inl (.inr ⟨s, rfl, hcurrent⟩)
      | false =>
          refine .inr ⟨s, rfl, hcurrent, ?_⟩
          cases hparse : s.payload.parse with
          | error e => exact .inl ⟨e, rfl⟩
          | ok table => exact .inr ⟨table, rfl⟩

/-- No call changes which Secret the manager serves. -/
theorem reference_call (m : CredentialManager) (c : Call) :
    (m.call c).2.reference = m.reference := by
  rcases m.call_cases c.listed with h | ⟨s, h, hcurrent, ⟨e, he⟩ | ⟨table, hok⟩⟩
  · rw [call_of_settled h]
  · rw [call_of_error h hcurrent he]
  · rw [call_of_ok h hcurrent hok]

theorem reference_after (calls : List Call) (m : CredentialManager) :
    (m.after calls).reference = m.reference := by
  induction calls generalizing m with
  | nil => rfl
  | cons c calls ih => rw [after_cons, ih, reference_call]

/-- What changes the cache is a listed Secret that was read. -/
theorem cache_call (m : CredentialManager) (c : Call) :
    (m.call c).2.cache = m.cache ∨ ∃ s table, c.listed = some s ∧
      s.payload.parse = .ok table ∧ (m.call c).2.cache = ⟨some s, table⟩ := by
  rcases m.call_cases c.listed with h | ⟨s, h, hcurrent, ⟨e, he⟩ | ⟨table, hok⟩⟩
  · rw [call_of_settled h]
    exact .inl rfl
  · rw [call_of_error h hcurrent he]
    exact .inl rfl
  · rw [call_of_ok h hcurrent hok]
    exact .inr ⟨s, table, h, hok, rfl⟩

/-! ## The cache along a history -/

/-- The cache is blank, or holds a Secret among `seen` with what is read from it. -/
def Backed (m : CredentialManager) (seen : List Secret) : Prop :=
  (m.cache.secret = none ∧ m.cache.credentials = ∅) ∨
    ∃ s ∈ seen, m.cache.secret = some s ∧ s.payload.parse = .ok m.cache.credentials

theorem backed_start (reference : SecretReference) (seen : List Secret) :
    (start reference).Backed seen :=
  .inl ⟨rfl, rfl⟩

theorem backed_call {seen : List Secret} (hm : m.Backed seen)
    (hc : ∀ s, c.listed = some s → s ∈ seen) : (m.call c).2.Backed seen := by
  rcases m.cache_call c with h | ⟨s, table, hs, hok, h⟩
  · unfold Backed
    rw [h]
    exact hm
  · unfold Backed
    rw [h]
    exact .inr ⟨s, hc s hs, rfl, hok⟩

/-- The invariant of a history. -/
theorem backed_after {seen : List Secret} {calls : List Call} (hm : m.Backed seen)
    (h : ∀ s ∈ listedSecrets calls, s ∈ seen) : (m.after calls).Backed seen := by
  induction calls generalizing m with
  | nil => exact hm
  | cons c calls ih =>
      obtain ⟨hc, hrest⟩ := forall_listedSecrets_cons.mp h
      rw [after_cons]
      exact ih (backed_call hm hc) hrest

theorem isEmpty_call (h : m.cache.credentials.isEmpty = false) :
    (m.call c).2.cache.credentials.isEmpty = false := by
  rcases m.cache_call c with hc | ⟨s, table, -, hok, hc⟩
  · rw [hc]
    exact h
  · rw [hc]
    exact SecretPayload.isEmpty_of_parse hok

theorem isEmpty_after {calls : List Call} (h : m.cache.credentials.isEmpty = false) :
    (m.after calls).cache.credentials.isEmpty = false := by
  induction calls generalizing m with
  | nil => exact h
  | cons c calls ih =>
      rw [after_cons]
      exact ih (isEmpty_call h)

/-- While no Secret is listed, every request is answered from the cache as it is. -/
theorem answers_absent (requests : List Request) (m : CredentialManager) :
    m.answers (requests.map (Call.mk none)) =
      requests.map (Request.lookUp m.cache.credentials) := by
  induction requests with
  | nil => rfl
  | cons r requests ih =>
      have hcall : m.call ⟨none, r⟩ = (r.lookUp m.cache.credentials, m) :=
        call_of_settled (.inl rfl)
      rw [List.map_cons, answers_cons, hcall, ih, List.map_cons]

/-! ## What answers hand out -/

/-- The credentials that an answer hands out. -/
def Answer.Serves : Answer → Credential → Prop
  | .credential result, x => result = .ok x
  | .all result, x => ∃ table server, result = .ok table ∧ table.get? server = some x

theorem serves_lookUp {table : CredentialTable} {server : String} {x : Credential}
    (h : table.get? server = some x) : (Request.lookUp table (.credential server)).Serves x := by
  change (match table.get? server with
    | some x => .ok x
    | none => .error (.notFound server) : Except LookupError Credential) = .ok x
  rw [h]

/-- Whatever is looked up in a table is an entry of it. -/
theorem exists_get?_of_serves {request : Request} {table : CredentialTable} {x : Credential}
    (h : (request.lookUp table).Serves x) : ∃ server, table.get? server = some x := by
  cases request with
  | credential server =>
      refine ⟨server, ?_⟩
      change (match table.get? server with
        | some x => .ok x
        | none => .error (.notFound server) : Except LookupError Credential) = .ok x at h
      split at h
      · next y hget =>
          cases h
          exact hget
      · cases h
  | all =>
      obtain ⟨_, server, htable, hget⟩ := h
      cases htable
      exact ⟨server, hget⟩

theorem not_serves_fail {request : Request} {e : LookupError} {x : Credential} :
    ¬ (request.fail e).Serves x := by
  cases request with
  | credential server => exact nofun
  | all => exact fun ⟨_, _, h, _⟩ => nomatch h

/-- Whatever a manager hands out was read from a Secret that backs it, or that is listed. -/
theorem exists_parse_of_serves {seen : List Secret} (hm : m.Backed seen)
    (hc : ∀ s, c.listed = some s → s ∈ seen) {x : Credential} (h : (m.call c).1.Serves x) :
    ∃ s ∈ seen, ∃ table server, s.payload.parse = .ok table ∧ table.get? server = some x := by
  have hbacked := backed_call hm hc
  rw [call_eq] at h hbacked
  split at h
  · exact (not_serves_fail h).elim
  · next cache hrefresh =>
      rw [hrefresh] at hbacked
      obtain ⟨server, hget⟩ := exists_get?_of_serves h
      rcases hbacked with ⟨-, hblank⟩ | ⟨s, hs, -, hparse⟩
      · have hblank : cache.credentials = ∅ := hblank
        rw [hblank] at hget
        cases (Table.get?_empty server).symm.trans hget
      · exact ⟨s, hs, cache.credentials, server, hparse, hget⟩

/-- Along every history the cache is backed by a listed Secret, a call changes
it as a whole or not at all, a filled cache stays filled, and the answers stay
the same while no Secret is listed. -/
theorem cache_along_history (reference : SecretReference) (calls : List Call) :
    let m := (start reference).after calls
    m.Backed (listedSecrets calls) ∧
      (∀ c : Call, m.Settled c.listed →
        m.call c = (c.request.lookUp m.cache.credentials, m)) ∧
      (∀ (c : Call) (s : Secret) (e : ParseError), c.listed = some s →
        m.cache.isCurrent s = false → s.payload.parse = .error e →
        m.call c = (c.request.fail (.parseSecret e reference), m)) ∧
      (∀ c : Call, (m.call c).2.cache = m.cache ∨ ∃ s table, c.listed = some s ∧
        s.payload.parse = .ok table ∧ (m.call c).2.cache = ⟨some s, table⟩) ∧
      (m.cache.credentials.isEmpty = false →
        ∀ later, (m.after later).cache.credentials.isEmpty = false) ∧
      ∀ requests : List Request, m.answers (requests.map (Call.mk none)) =
        requests.map (Request.lookUp m.cache.credentials) := by
  intro m
  have hreference : m.reference = reference := reference_after calls (start reference)
  refine ⟨?_, fun c => call_of_settled, fun c s e hc hcurrent he => ?_, m.cache_call,
    fun h later => isEmpty_after h, fun requests => answers_absent requests m⟩
  · exact backed_after (backed_start reference _) fun s hs => hs
  · rw [call_of_error hc hcurrent he, hreference]

end CredentialManager

end VcenterAccess
