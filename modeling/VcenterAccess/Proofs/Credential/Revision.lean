import VcenterAccess.Proofs.Credential.History

/-!
# The revision check is only an optimisation

A manager does not read a Secret again whose object and revision are the cached
ones.  `EagerManager` is a manager without this check: it reads the listed Secret
at every call and remembers the last credentials it could read.

If an object's revision determines its values, both give the same answers along
every history (`answers_eq_eager`).  The invariant is `Agrees`: both hold the same
credentials, and the cached Secret is a listed one that reads as them.  A Secret
that passes the check then has the values of the cached one, so reading it would
give the credentials that are held already.
-/

namespace VcenterAccess

open CredentialManager

/-- A manager that reads the listed Secret at every call. -/
structure EagerManager where
  reference : SecretReference
  /-- The last credentials that could be read. -/
  table : CredentialTable := ∅

namespace EagerManager

def call (m : EagerManager) (c : Call) : Answer × EagerManager :=
  match c.listed with
  | none => (c.request.lookUp m.table, m)
  | some s =>
      match s.payload.parse with
      | .error e => (c.request.fail (.parseSecret e m.reference), m)
      | .ok table => (c.request.lookUp table, { m with table })

def answers : EagerManager → List Call → List Answer
  | _, [] => []
  | m, c :: calls => (m.call c).1 :: answers (m.call c).2 calls

def start (reference : SecretReference) : EagerManager := { reference }

variable {m : EagerManager} {c : Call} {s : Secret}

theorem call_of_absent (h : c.listed = none) : m.call c = (c.request.lookUp m.table, m) := by
  rw [call, h]

theorem call_of_error {e : ParseError} (h : c.listed = some s) (he : s.payload.parse = .error e) :
    m.call c = (c.request.fail (.parseSecret e m.reference), m) := by
  simp only [call, h, he]

theorem call_of_ok {table : CredentialTable} (h : c.listed = some s)
    (hok : s.payload.parse = .ok table) :
    m.call c = (c.request.lookUp table, { m with table }) := by
  simp only [call, h, hok]

end EagerManager

namespace CredentialManager

/-- The answer that a Secret gives to a request, whatever came before. -/
def Request.readFrom (reference : SecretReference) (s : Secret) (r : Request) : Answer :=
  match s.payload.parse with
  | .error e => r.fail (.parseSecret e reference)
  | .ok table => r.lookUp table

/-- Secrets of one object and one revision have the same values. -/
def RevisionsDetermineData (secrets : List Secret) : Prop :=
  ∀ s ∈ secrets, ∀ t ∈ secrets,
    s.uid = t.uid → s.revision.isSome = true → s.revision = t.revision → s.data = t.data

instance (secrets : List Secret) : Decidable (RevisionsDetermineData secrets) :=
  inferInstanceAs (Decidable (∀ s ∈ secrets, ∀ t ∈ secrets,
    s.uid = t.uid → s.revision.isSome = true → s.revision = t.revision → s.data = t.data))

/-- The Secret that passes the revision check is one of the cached object and revision. -/
theorem isCurrent_iff {cache : SecretCache} {s : Secret} :
    cache.isCurrent s = true ↔ ∃ cached, cache.secret = some cached ∧ cached.uid = s.uid ∧
      cached.revision.isSome = true ∧ cached.revision = s.revision := by
  unfold SecretCache.isCurrent
  cases cache.secret with
  | none => exact ⟨fun h => (nomatch h), fun ⟨_, h, _⟩ => (nomatch h)⟩
  | some cached =>
      simp only [Bool.and_eq_true, beq_iff_eq, and_assoc, Option.some.injEq, exists_eq_left']

/-- Both managers serve the same Secret and hold the same credentials, which are
those of the cached Secret. -/
structure Agrees (seen : List Secret) (m : CredentialManager) (e : EagerManager) : Prop where
  reference : m.reference = e.reference
  table : m.cache.credentials = e.table
  backed : m.Backed seen

variable {seen : List Secret} {m : CredentialManager} {e : EagerManager} {c : Call}

/-- A Secret that passes the revision check reads as the cached credentials. -/
theorem Agrees.parse_of_isCurrent (h : Agrees seen m e) (hseen : RevisionsDetermineData seen)
    {s : Secret} (hs : s ∈ seen) (hcurrent : m.cache.isCurrent s = true) :
    s.payload.parse = .ok e.table := by
  obtain ⟨cached, hcached, huid, hset, hrevision⟩ := isCurrent_iff.mp hcurrent
  rcases h.backed with ⟨hnone, -⟩ | ⟨t, ht, hsecret, hok⟩
  · rw [hnone] at hcached
    cases hcached
  · rw [hcached] at hsecret
    cases hsecret
    have hdata : s.payload = cached.payload := by
      unfold Secret.payload
      rw [hseen cached ht s hs huid hset hrevision]
    rw [hdata, hok, h.table]

/-- One call: the same answer, and still the same credentials. -/
theorem Agrees.call (h : Agrees seen m e) (hseen : RevisionsDetermineData seen)
    (hc : ∀ s, c.listed = some s → s ∈ seen) :
    (m.call c).1 = (e.call c).1 ∧ Agrees seen (m.call c).2 (e.call c).2 := by
  have hbacked := backed_call h.backed hc
  rcases m.call_cases c.listed with hsettled | ⟨s, hs, hcurrent, ⟨cause, herror⟩ | ⟨table, hok⟩⟩
  · have heager : e.call c = (c.request.lookUp e.table, e) := by
      rcases hsettled with hnone | ⟨s, hs, hcurrent⟩
      · exact EagerManager.call_of_absent hnone
      · exact EagerManager.call_of_ok hs (h.parse_of_isCurrent hseen (hc s hs) hcurrent)
    rw [call_of_settled hsettled] at hbacked ⊢
    rw [heager, h.table]
    exact ⟨rfl, h.reference, h.table, hbacked⟩
  · rw [call_of_error hs hcurrent herror] at hbacked ⊢
    rw [EagerManager.call_of_error hs herror, h.reference]
    exact ⟨rfl, h.reference, h.table, hbacked⟩
  · rw [call_of_ok hs hcurrent hok] at hbacked ⊢
    rw [EagerManager.call_of_ok hs hok]
    exact ⟨rfl, h.reference, rfl, hbacked⟩

/-- A whole history: the same answers. -/
theorem Agrees.answers {calls : List Call} (h : Agrees seen m e)
    (hseen : RevisionsDetermineData seen) (hcalls : ∀ s ∈ listedSecrets calls, s ∈ seen) :
    m.answers calls = e.answers calls := by
  induction calls generalizing m e with
  | nil => rfl
  | cons c calls ih =>
      obtain ⟨hc, hrest⟩ := forall_listedSecrets_cons.mp hcalls
      obtain ⟨hanswer, hnext⟩ := h.call hseen hc
      rw [answers_cons, EagerManager.answers, hanswer, ih hnext hrest]

end CredentialManager

namespace EagerManager

open CredentialManager

theorem reference_call (m : EagerManager) (c : Call) : (m.call c).2.reference = m.reference := by
  cases h : c.listed with
  | none => rw [call_of_absent h]
  | some s =>
      cases hparse : s.payload.parse with
      | error e => rw [call_of_error h hparse]
      | ok table => rw [call_of_ok h hparse]

/-- Where a Secret is listed, the answer is read from it. -/
theorem answers_listed {m : EagerManager} {s : Secret} {r : Request} {calls : List Call}
    {n : Nat} (h : calls[n]? = some ⟨some s, r⟩) :
    (m.answers calls)[n]? = some (r.readFrom m.reference s) := by
  induction calls generalizing m n with
  | nil => cases h
  | cons c calls ih =>
      cases n with
      | zero =>
          rw [List.getElem?_cons_zero, Option.some.injEq] at h
          subst h
          rw [answers, List.getElem?_cons_zero, Request.readFrom]
          cases hparse : s.payload.parse with
          | error e => rw [call_of_error rfl hparse]
          | ok table => rw [call_of_ok rfl hparse]
      | succ n =>
          rw [List.getElem?_cons_succ] at h
          rw [answers, List.getElem?_cons_succ, ih h, reference_call]

end EagerManager

namespace CredentialManager

/-- If revisions determine values, the revision check changes no answer, and
where a Secret is listed the answer depends on it and the request alone. -/
theorem answers_eq_eager (reference : SecretReference) (calls : List Call)
    (h : RevisionsDetermineData (listedSecrets calls)) :
    (start reference).answers calls = (EagerManager.start reference).answers calls ∧
      ∀ (n : Nat) (s : Secret) (r : Request), calls[n]? = some ⟨some s, r⟩ →
        ((start reference).answers calls)[n]? = some (r.readFrom reference s) := by
  have hstart : Agrees (listedSecrets calls) (start reference) (EagerManager.start reference) :=
    ⟨rfl, rfl, backed_start reference _⟩
  have heq := hstart.answers h fun s hs => hs
  refine ⟨heq, fun n s r hn => ?_⟩
  rw [heq]
  exact EagerManager.answers_listed hn

/-- A revision of a Secret with the given values. -/
def revision (n : String) (values : List (String × String)) : Secret where
  ns := some "kube-system"
  name := "vcenter"
  uid := some "3f2a"
  revision := some n
  data := some (SecretPayload.ofTexts values)

/-- The Secret is read, breaks, is rolled back, goes away and comes back without data. -/
def rotation : List Call :=
  [⟨some (revision "1" [("a.username", "u"), ("a.password", "p")]), .credential "a"⟩,
    ⟨some (revision "2" [("a.usernam", "v")]), .credential "a"⟩,
    ⟨some (revision "1" [("a.username", "u"), ("a.password", "p")]), .all⟩,
    ⟨none, .credential "a"⟩,
    ⟨some { name := "vcenter", uid := some "77c1" }, .credential "a"⟩,
    ⟨none, .credential "b"⟩]

/-- The second revision is reported although the first one is cached. -/
theorem answers_eq_eager_rotation :
    RevisionsDetermineData (listedSecrets rotation) ∧
      (start ⟨"kube-system", "vcenter"⟩).answers rotation =
        (EagerManager.start ⟨"kube-system", "vcenter"⟩).answers rotation ∧
      ((start ⟨"kube-system", "vcenter"⟩).answers rotation)[1]? =
        some (Request.readFrom ⟨"kube-system", "vcenter"⟩ (revision "2" [("a.usernam", "v")])
          (.credential "a")) := by
  have h : RevisionsDetermineData (listedSecrets rotation) := by decide +kernel
  obtain ⟨heq, hlisted⟩ := answers_eq_eager ⟨"kube-system", "vcenter"⟩ rotation h
  exact ⟨h, heq, hlisted 1 _ _ rfl⟩

end CredentialManager

end VcenterAccess
