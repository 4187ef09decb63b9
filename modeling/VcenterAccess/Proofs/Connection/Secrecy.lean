import VcenterAccess.Proofs.Connection.Fleet

/-!
# Which credentials a login uses

The credentials of a connection are those of the last change that was completed, that is,
that gave the credentials lock back, or the first ones (`credentialsAfter`).  In between,
while a change is under way, nobody else has the lock; so whoever gets it finds the
credentials of the last completed change (`Log.credentials_of_login`).

A connect reads them once, under the lock, and keeps the lock until it is logged in.  So
everything that it presents comes from the one value that was current when it took the
lock (`login_credentials`), and goes only where that value sends it
(`SessionCredentials.Permits`).
-/

namespace VcenterAccess.Fleet

open Connection (Reply)

/-- The credentials of a change that an event completes. -/
def completed? (calls : List Call) (n : Nat) (e : Event) : Option SessionCredentials :=
  match calls[e.task]?, e.step.operation with
  | some (.update k credentials), .release _ => if k = n then some credentials else none
  | _, _ => none

/-- The credentials of a connection after the changes that were completed. -/
def credentialsAfter (calls : List Call) (n : Nat) (first : SessionCredentials)
    (events : List Event) : SessionCredentials :=
  (events.filterMap (completed? calls n)).getLastD first

section

variable {f : Fleet} {calls : List Call} {events later : List Event} {n k : Nat} {x : Step}
  {first : SessionCredentials} {credentials : SessionCredentials}

theorem credentialsAfter_append (h : ∀ e ∈ later, completed? calls n e = none) :
    credentialsAfter calls n first (events ++ later) = credentialsAfter calls n first events := by
  have hnil : later.filterMap (completed? calls n) = [] := List.filterMap_eq_nil_iff.mpr h
  rw [credentialsAfter, List.filterMap_append, hnil, List.append_nil, credentialsAfter]

theorem credentialsAfter_concat {e : Event} (h : completed? calls n e = some credentials) :
    credentialsAfter calls n first (events ++ [e]) = credentials := by
  have hone : [e].filterMap (completed? calls n) = [credentials] := by simp [h]
  rw [credentialsAfter, List.filterMap_append, hone, List.getLastD_concat]

/-- What completes a change is a step of it that gives a lock back. -/
theorem completed?_eq_some {e : Event} (h : completed? calls n e = some credentials) :
    calls[e.task]? = some (.update n credentials) ∧
      ∃ lock, e.step.operation = .release lock := by
  unfold completed? at h
  split at h
  · next k y lock hcall hoperation =>
      obtain ⟨rfl, heq⟩ := Option.ite_none_right_eq_some.mp h
      cases heq
      exact ⟨hcall, lock, hoperation⟩
  · cases h

theorem completed?_of_release {lock : Lock} (hcall : calls[k]? = some (.update n credentials))
    (hx : x.operation = .release lock) : completed? calls n ⟨k, x⟩ = some credentials := by
  simp [completed?, hcall, hx]

namespace Log

/-- Somebody changes the credentials of a connection. -/
def Changing (calls : List Call) (n : Nat) (events : List Event) : Prop :=
  ∃ k credentials, calls[k]? = some (.update n credentials) ∧
    Lock.credentials n ∈ heldAfter (stepsOf k events)

/-- What completes a change is under its lock, and the change is known then. -/
theorem known_of_completed? (hlog : f.Log calls (events ++ [⟨k, x⟩]))
    (h : completed? calls n ⟨k, x⟩ = some credentials) :
    x.operation = .release (.credentials n) ∧
      ∃ s, (f.connection n).knownLogin (stepsOf k events) = some s ∧ s.credentials = credentials := by
  obtain ⟨hcall, lock, hx⟩ := completed?_eq_some h
  have hallows := hlog.allows_last hcall
  rw [show x.operation = .release lock from hx] at hallows ⊢
  obtain ⟨-, rfl, hknown⟩ := hallows
  exact ⟨rfl, hknown⟩

theorem release_of_completed? (hlog : f.Log calls events) {e : Event} (he : e ∈ events)
    (h : completed? calls n e = some credentials) :
    e.step.operation = .release (.credentials n) := by
  obtain ⟨before, after, rfl⟩ := List.append_of_mem he
  rw [← List.singleton_append, ← List.append_assoc] at hlog
  exact (hlog.of_append.known_of_completed? h).1

/-- Who reads or writes what the next login uses has the lock, so nobody else changes it. -/
theorem not_changing (hlog : f.Log calls events) {s : LoginState}
    (hcall : calls[k]? = some (.connect n))
    (hknown : (f.connection n).knownLogin (stepsOf k events) = some s) :
    ¬ Changing calls n events := by
  rintro ⟨j, y, hj, hheld⟩
  obtain rfl : j = k := holder_unique hlog.exclusive hheld
    (Cell.lock_mem_of_known (hlog.disciplined k) hknown)
  cases hj.symm.trans hcall

/-- What a call knows of the next login is so. -/
theorem login_of_known (hlog : f.Log calls events) {start m : Memory}
    (hruns : start.Runs (events.map Event.step) m) {s : LoginState}
    (hknown : (f.connection n).knownLogin (stepsOf k events) = some s) : m.login n = s :=
  Cell.read_of_known hlog.exclusive hlog.disciplined hruns hknown

/-- Unless somebody changes them, the credentials are those of the last completed change. -/
theorem credentials_eq (hlog : f.Log calls events) {start m : Memory}
    (hruns : start.Runs (events.map Event.step) m) (hcalm : ¬ Changing calls n events) :
    (m.login n).credentials = credentialsAfter calls n (start.login n).credentials events := by
  induction events using List.reverseRecOn generalizing m with
  | nil =>
      obtain rfl : start = m := hruns
      rfl
  | append_singleton events e ih =>
      obtain ⟨k, x⟩ := e
      rw [List.map_append] at hruns
      obtain ⟨before, hbefore, -, rfl⟩ := Memory.runs_concat.mp hruns
      cases hcompleted : completed? calls n ⟨k, x⟩ with
      | some y =>
          obtain ⟨hx, s, hknown, rfl⟩ := hlog.known_of_completed? hcompleted
          rw [credentialsAfter_concat hcompleted]
          rcases login_after_cases n before x with hkept | ⟨login, hset, -⟩
          · rw [hkept, hlog.of_append.login_of_known hbefore hknown]
          · rw [hx] at hset
            cases hset
      | none =>
          rw [credentialsAfter_append (by simpa using hcompleted)]
          have hcalmBefore : ¬ Changing calls n events := by
            rintro ⟨j, y, hj, hheld⟩
            refine hcalm ⟨j, y, hj, ?_⟩
            by_cases hkj : k = j
            · subst hkj
              rw [stepsOf_concat_same, heldAfter_concat]
              refine mem_next_of_mem hheld fun hx => ?_
              rw [completed?_of_release hj hx] at hcompleted
              cases hcompleted
            · rwa [stepsOf_concat_other _ hkj]
          have hcredentials := ih hlog.of_append hbefore hcalmBefore
          rcases login_after_cases n before x with hkept | ⟨login, hx, hset⟩
          · rw [hkept, hcredentials]
          · obtain ⟨call, hcall, hallows⟩ := hlog.last
            rw [hx] at hallows
            obtain ⟨s, hknown, ⟨-, token, rfl, -⟩ | ⟨y, rfl, -⟩⟩ := allows_setLogin hallows
            · rw [hlog.of_append.login_of_known hbefore hknown] at hcredentials
              rw [hset, ← hcredentials]
            · refine absurd ⟨k, y, hcall, ?_⟩ hcalm
              rw [stepsOf_concat_same, heldAfter_concat]
              refine mem_next_of_mem ?_ (by simp [hx])
              exact Cell.lock_mem_of_known (hlog.of_append.disciplined k) hknown

/-- A connect that knows what it logs in with knows the credentials of the last change that
was completed before it took the credentials lock.  For changes are completed under that lock. -/
theorem credentials_of_login (hlog : f.Log calls events) {start m : Memory}
    (hruns : start.Runs (events.map Event.step) m) {s : LoginState}
    (hcall : calls[k]? = some (.connect n))
    (hknown : (f.connection n).knownLogin (stepsOf k events) = some s) :
    ∃ before after, events = before ++ ⟨k, .acquire (.credentials n), ()⟩ :: after ∧
      s.credentials = credentialsAfter calls n (start.login n).credentials before := by
  have hheld : Lock.credentials n ∈ heldAfter (stepsOf k events) :=
    Cell.lock_mem_of_known (hlog.disciplined k) hknown
  obtain ⟨before, after, rfl, hown⟩ := exists_of_held hlog.exclusive hlog.disciplined hheld
  refine ⟨before, after, rfl, ?_⟩
  have hcredentials := hlog.credentials_eq hruns (hlog.not_changing hcall hknown)
  rw [hlog.login_of_known hruns hknown] at hcredentials
  rw [hcredentials]
  refine credentialsAfter_append fun e he => ?_
  cases hcompleted : completed? calls n e with
  | none => rfl
  | some y =>
      have hx := hlog.release_of_completed? (List.mem_append_right before he) hcompleted
      rcases List.mem_cons.mp he with rfl | he
      · cases hx
      · have htask : e.task = k := hown e he (by rw [hx]; rfl)
        have hupdate := (completed?_eq_some hcompleted).1
        rw [htask] at hupdate
        cases hupdate.symm.trans hcall

end Log

end

/-- Whatever a connect presents comes from one value: the credentials of the last change
that was completed before it took the credentials lock, which it takes only once.  Each part of
them goes only where that value sends it. -/
theorem login_credentials {ω : Type} (f : Fleet) (o : Outside ω)
    (credentials : Nat → SessionCredentials) (outside : ω) (actions : List (Action ω)) (k : Nat) :
    ∃ x : SessionCredentials, ∀ first, first <+: actions →
      ∀ t ∈ (f.run o (start credentials) outside first).tasks, t.number = k →
      ∀ question next, t.program = .perform (.ask question) next → question.isLogin = true →
      x.Permits question ∧ ∃ n before after, (callsOf actions)[k]? = some (.connect n) ∧
        f.trace o (start credentials) outside first =
          before ++ ⟨k, .acquire (.credentials n), ()⟩ :: after ∧
        x = credentialsAfter (callsOf actions) n (credentials n) before := by
  have hlog := f.log_run o (start credentials) outside (List.prefix_rfl (l := actions))
  have hvalue : ∃ x : SessionCredentials, ∀ n before after,
      (callsOf actions)[k]? = some (.connect n) →
      f.trace o (start credentials) outside actions =
        before ++ ⟨k, .acquire (.credentials n), ()⟩ :: after →
      x = credentialsAfter (callsOf actions) n (credentials n) before := by
    by_cases htaken : ∃ n before after, (callsOf actions)[k]? = some (.connect n) ∧
        f.trace o (start credentials) outside actions =
          before ++ ⟨k, .acquire (.credentials n), ()⟩ :: after
    · obtain ⟨n, before, after, hcall, htrace⟩ := htaken
      refine ⟨credentialsAfter (callsOf actions) n (credentials n) before,
        fun n' before' after' hcall' htrace' => ?_⟩
      cases hcall.symm.trans hcall'
      have hdisciplined := hlog.disciplined k
      rw [htrace] at hdisciplined
      rw [acquire_once hdisciplined (htrace.symm.trans htrace')]
    · exact ⟨credentials 0, fun n before after hcall htrace =>
        (htaken ⟨n, before, after, hcall, htrace⟩).elim⟩
  obtain ⟨x, hx⟩ := hvalue
  refine ⟨x, fun first hfirst t ht hk question next hp hlogin => ?_⟩
  subst hk
  obtain ⟨call, hcall, hallows⟩ := pending hfirst ht hp
  obtain ⟨n, s, rfl, -, hknown, hpermits, -⟩ := allows_ask hallows hlogin
  have hruns := (f.account o (start credentials) outside hfirst).memory
  obtain ⟨before, after, htrace, hs⟩ :=
    (f.log_run o (start credentials) outside hfirst).credentials_of_login hruns hcall hknown
  obtain ⟨later, hlater⟩ := f.prefix_trace o (start credentials) outside hfirst
  rw [htrace, List.append_assoc] at hlater
  have hvalue := hx n before _ hcall hlater.symm
  have hcredentials : s.credentials = x := hs.trans hvalue.symm
  rw [hcredentials] at hpermits
  exact ⟨hpermits, n, before, after, hcall, htrace, hvalue⟩

/-- The change comes after the connect has begun, but before it takes the credentials lock. -/
example : (oneVcenter.trace welcoming (start fun _ => { username := "k8s", password := "old" }) ()
    ([.call (.connect 0), .step 0, .call (.update 0 { username := "k8s", password := "new" })] ++
      List.replicate 5 (.step 1) ++ List.replicate 6 (.step 0))).any fun e =>
        match e.step.operation with
        | .ask (.login _ _ password) => password == "new"
        | _ => false := by
  decide +kernel

end VcenterAccess.Fleet
