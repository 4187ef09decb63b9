import Mathlib.Order.Defs.PartialOrder
import VcenterAccess.Proofs.Credential.Revision

/-!
# What one answer is read from

An answer is a failure to read the Secret that is listed, or it is looked up in one table: that
of one Secret that was listed, or none if nothing that was listed could be read
(`CredentialManager.whole_call`).

If Secrets of one object and revision are the same, and all can be read, the cache holds the
Secret that was listed last (`CredentialManager.shows_after`), so every answer is read from that
one.
-/

namespace VcenterAccess

namespace CredentialManager

variable {c : Call} {reference : SecretReference} {calls : List Call}

theorem after_concat (m : CredentialManager) (calls : List Call) (c : Call) :
    m.after (calls ++ [c]) = ((m.after calls).call c).2 := by
  simp [after]

theorem listedSecrets_concat (calls : List Call) (c : Call) :
    listedSecrets (calls ++ [c]) = listedSecrets calls ++ c.listed.toList := by
  cases hlisted : c.listed <;> simp [listedSecrets, hlisted]

theorem prefix_listedSecrets {more : List Call} (h : calls <+: more) :
    listedSecrets calls <+: listedSecrets more :=
  h.filterMap _

/-- A call fails to read what is listed, or answers from the cache that it leaves. -/
theorem call_served (m : CredentialManager) (c : Call) :
    (m.call c).1 = c.request.lookUp (m.call c).2.cache.credentials ∨
      ∃ s e, c.listed = some s ∧ s.credentials = .error e ∧
        (m.call c).1 = c.request.fail (.parseSecret e m.reference) := by
  rcases m.call_cases c.listed with hsettled | ⟨s, hs, hcurrent, ⟨e, he⟩ | ⟨table, hok⟩⟩
  · rw [call_of_settled hsettled]
    exact .inl rfl
  · rw [call_of_error hs hcurrent he]
    exact .inr ⟨s, e, hs, he, rfl⟩
  · rw [call_of_ok hs hcurrent hok]
    exact .inl rfl

/-! ## One table -/

/-- How a call answers after others: from one table as a whole, or not at all. -/
inductive Answer.Whole (reference : SecretReference) (calls : List Call) (c : Call) :
    Answer → Prop where
  /-- Nothing that was listed could be read. -/
  | blank (h : ∀ s ∈ listedSecrets (calls ++ [c]), ∃ e, s.credentials = .error e) :
      Whole reference calls c (c.request.lookUp ∅)
  /-- The table of one Secret that was listed. -/
  | table {s : Secret} {table : CredentialTable} (hs : s ∈ listedSecrets (calls ++ [c]))
      (hread : s.credentials = .ok table) : Whole reference calls c (c.request.lookUp table)
  /-- The Secret that is listed cannot be read. -/
  | failed {s : Secret} {e : ParseError} (hs : c.listed = some s)
      (hread : s.credentials = .error e) :
      Whole reference calls c (c.request.fail (.parseSecret e reference))

/-- While the cache is blank, nothing that was listed could be read. -/
theorem unread_of_blank (h : ((start reference).after calls).cache.secret = none) :
    ∀ s ∈ listedSecrets calls, ∃ e, s.credentials = .error e := by
  induction calls using List.reverseRecOn with
  | nil => exact nofun
  | append_singleton calls c ih =>
      rw [after_concat] at h
      rw [listedSecrets_concat]
      rcases ((start reference).after calls).call_cases c.listed with
        (hnone | ⟨s, hs, hcurrent⟩) | ⟨s, hs, hcurrent, ⟨e, he⟩ | ⟨table, hok⟩⟩
      · rw [call_of_settled (.inl hnone)] at h
        rw [hnone]
        simpa using ih h
      · obtain ⟨cached, hcached, -⟩ := isCurrent_iff.mp hcurrent
        rw [call_of_settled (.inr ⟨s, hs, hcurrent⟩)] at h
        cases hcached.symm.trans h
      · rw [call_of_error hs hcurrent he] at h
        rw [hs]
        intro t ht
        rcases List.mem_append.mp ht with ht | ht
        · exact ih h t ht
        · obtain rfl := List.mem_singleton.mp ht
          exact ⟨e, he⟩
      · rw [call_of_ok hs hcurrent hok] at h
        cases h

/-- Every answer is read from one table as a whole, or says what is wrong with the Secret. -/
theorem whole_call (reference : SecretReference) (calls : List Call) (c : Call) :
    (((start reference).after calls).call c).1.Whole reference calls c := by
  rcases ((start reference).after calls).call_served c with hserved | ⟨s, e, hs, he, hfailed⟩
  · rw [hserved, ← after_concat]
    rcases backed_after (backed_start reference _) fun s hs => hs with
      ⟨hnone, hblank⟩ | ⟨s, hs, -, hread⟩
    · rw [hblank]
      exact .blank (unread_of_blank hnone)
    · exact .table hs hread
  · rw [hfailed, reference_after]
    exact .failed hs he

/-! ## The last revision -/

/-- Secrets of one object and one set revision are the same, and all can be read. -/
structure Distinguished (secrets : List Secret) : Prop where
  eq_of_revision : ∀ s ∈ secrets, ∀ t ∈ secrets, s.uid = t.uid → s.revision.isSome = true →
    s.revision = t.revision → s = t
  readable : ∀ s ∈ secrets, ∃ table, s.credentials = .ok table

theorem Distinguished.mono {secrets more : List Secret} (h : Distinguished more)
    (hmore : ∀ s ∈ secrets, s ∈ more) : Distinguished secrets where
  eq_of_revision s hs t ht := h.eq_of_revision s (hmore s hs) t (hmore t ht)
  readable s hs := h.readable s (hmore s hs)

/-- The Secret that was listed last. -/
def newest (calls : List Call) : Option Secret := (listedSecrets calls).getLast?

theorem newest_concat (calls : List Call) (c : Call) :
    newest (calls ++ [c]) = c.listed.or (newest calls) := by
  rw [newest, listedSecrets_concat]
  cases c.listed <;> simp [newest]

theorem mem_of_newest {s : Secret} (h : newest calls = some s) : s ∈ listedSecrets calls :=
  List.mem_of_getLast? h

end CredentialManager

/-- The cache holds a Secret with what is read from it, or is blank if there is none. -/
def SecretCache.Shows (cache : SecretCache) : Option Secret → Prop
  | none => cache = {}
  | some s => cache.secret = some s ∧ s.credentials = .ok cache.credentials

namespace CredentialManager

variable {c : Call} {reference : SecretReference} {calls : List Call}

/-- The cache holds what was listed last, as nothing else passes the revision check. -/
theorem shows_after (h : Distinguished (listedSecrets calls)) :
    ((start reference).after calls).cache.Shows (newest calls) := by
  induction calls using List.reverseRecOn with
  | nil => rfl
  | append_singleton calls c ih =>
      have hshows := ih (h.mono fun s hs => by
        rw [listedSecrets_concat]
        exact List.mem_append_left _ hs)
      have hlisted : ∀ s, c.listed = some s → s ∈ listedSecrets (calls ++ [c]) := by
        intro s hs
        simp [listedSecrets_concat, hs]
      rw [after_concat, newest_concat]
      rcases ((start reference).after calls).call_cases c.listed with
        (hnone | ⟨s, hs, hcurrent⟩) | ⟨s, hs, hcurrent, ⟨e, he⟩ | ⟨table, hok⟩⟩
      · rw [call_of_settled (.inl hnone), hnone]
        exact hshows
      · rw [call_of_settled (.inr ⟨s, hs, hcurrent⟩), hs]
        obtain ⟨cached, hcached, huid, hset, hrevision⟩ := isCurrent_iff.mp hcurrent
        cases hnewest : newest calls with
        | none =>
            rw [hnewest] at hshows
            have hblank : ((start reference).after calls).cache = {} := hshows
            rw [hblank] at hcached
            cases hcached
        | some t =>
            rw [hnewest] at hshows
            obtain rfl : t = cached := Option.some.inj (hshows.1.symm.trans hcached)
            have ht : t ∈ listedSecrets (calls ++ [c]) := by
              rw [listedSecrets_concat]
              exact List.mem_append_left _ (mem_of_newest hnewest)
            obtain rfl := h.eq_of_revision t ht s (hlisted s hs) huid hset hrevision
            exact hshows
      · obtain ⟨table, hok⟩ := h.readable s (hlisted s hs)
        cases hok.symm.trans he
      · rw [call_of_ok hs hcurrent hok, hs]
        exact ⟨rfl, hok⟩

/-- The answer to a request that is read from a Secret, or from nothing. -/
def Request.readNewest (reference : SecretReference) (r : Request) : Option Secret → Answer
  | none => r.lookUp ∅
  | some s => r.readFrom reference s

/-- Every answer is read from the Secret that was listed last. -/
theorem call_of_distinguished (h : Distinguished (listedSecrets (calls ++ [c]))) :
    (((start reference).after calls).call c).1 =
      c.request.readNewest reference (newest (calls ++ [c])) := by
  rcases ((start reference).after calls).call_served c with hserved | ⟨s, e, hs, he, -⟩
  · have hshows : ((start reference).after (calls ++ [c])).cache.Shows (newest (calls ++ [c])) :=
      shows_after h
    rw [hserved, ← after_concat]
    generalize ((start reference).after (calls ++ [c])).cache = cache at hshows
    cases hnewest : newest (calls ++ [c]) with
    | none =>
        rw [hnewest] at hshows
        obtain rfl : cache = {} := hshows
        rfl
    | some s =>
        rw [hnewest] at hshows
        have hread : s.payload.parse = .ok cache.credentials := hshows.2
        rw [Request.readNewest, Request.readFrom, hread]
  · obtain ⟨table, hok⟩ := h.readable s (by simp [listedSecrets_concat, hs])
    cases hok.symm.trans he

/-- If revisions only move forward, later calls find a later one. -/
theorem exists_newest_of_le {ρ : Type} [Preorder ρ] {age : Secret → ρ} {before later : List Call}
    (h : (listedSecrets (before ++ later)).Pairwise fun s t => age s ≤ age t) {s : Secret}
    (hs : newest before = some s) : ∃ t, newest (before ++ later) = some t ∧ age s ≤ age t := by
  induction later using List.reverseRecOn with
  | nil =>
      rw [List.append_nil]
      exact ⟨s, hs, le_rfl⟩
  | append_singleton later c ih =>
      rw [← List.append_assoc] at h ⊢
      rw [listedSecrets_concat] at h
      obtain ⟨hbefore, -, hlast⟩ := List.pairwise_append.mp h
      obtain ⟨t, ht, hle⟩ := ih hbefore
      rw [newest_concat]
      cases hlisted : c.listed with
      | none => exact ⟨t, ht, hle⟩
      | some u =>
          rw [hlisted] at hlast
          exact ⟨u, rfl, le_trans hle (hlast t (mem_of_newest ht) u (List.mem_singleton_self u))⟩

end CredentialManager

end VcenterAccess
