import VcenterAccess.Proofs.Connection.Fleet

/-!
# Which clients are published

Whatever client a connection has, one connect made it from beginning to end: created it
for the vCenter, authenticated it, and had it send requests again; and that connect asked
nothing else of the outside afterwards (`Log.published`).

A connect or a logout knows the client when it gives back the connect lock, and nobody
but another connect or logout of the same connection changes it then
(`Log.client_of_later`).  So its result tells whether there is a client
(`publishing`).
-/

namespace VcenterAccess.Fleet

open Connection (Reply)

/-- Whether a call may change the client of a connection. -/
def Call.changesClient (n : Nat) : Call → Bool
  | .connect k => k = n
  | .logOut k => k = n
  | .update .. => false

variable {f : Fleet} {calls : List Call} {events later : List Event} {n k : Nat} {x : Step}

namespace Log

/-- Only connects and logouts of a connection change its client. -/
theorem client_after (hlog : f.Log calls (events ++ [⟨k, x⟩]))
    (hcalm : ∀ call, calls[k]? = some call → call.changesClient n = false) (m : Memory) :
    (m.after x).client n = m.client n := by
  rcases client_after_cases n m x with hkept | ⟨client, hx, -⟩
  · exact hkept
  · obtain ⟨call, hcall, hallows⟩ := hlog.last
    have hcalm := hcalm call hcall
    rw [hx] at hallows
    rcases allows_setClient hallows with ⟨rfl, -⟩ | ⟨rfl, -⟩ <;> simp [Call.changesClient] at hcalm

/-- What calls do that do not change a client leaves it. -/
theorem client_of_later (hlog : f.Log calls (events ++ later))
    (hcalm : ∀ e ∈ later, ∀ call, calls[e.task]? = some call → call.changesClient n = false)
    {m m' : Memory} (hruns : m.Runs (later.map Event.step) m') : m'.client n = m.client n := by
  induction later using List.reverseRecOn generalizing m' with
  | nil =>
      obtain rfl : m = m' := hruns
      rfl
  | append_singleton later e ih =>
      rw [← List.append_assoc] at hlog
      rw [List.map_append] at hruns
      obtain ⟨middle, hbefore, -, rfl⟩ := Memory.runs_concat.mp hruns
      rw [hlog.client_after (hcalm e (by simp)) middle]
      exact ih hlog.of_append (fun e he => hcalm e (List.mem_append_left _ he)) hbefore

/-- A connect that published a client asks nothing any more. -/
theorem exchange?_eq_none (hlog : f.Log calls (events ++ [⟨k, x⟩]))
    (hcall : calls[k]? = some (.connect n))
    (hpublished : ¬ VcenterAccess.Free Operation.publishes (stepsOf k events)) :
    x.exchange? = none := by
  have hallows := hlog.allows_last hcall
  obtain ⟨operation, answer⟩ := x
  cases operation with
  | ask question => exact absurd hallows.2.1 hpublished
  | _ => rfl

/-- A client that is there was published by one connect, which asked nothing since. -/
theorem published (hlog : f.Log calls events) {start m : Memory}
    (hruns : start.Runs (events.map Event.step) m) (hstart : start.client n = none)
    {client : Client} (hclient : m.client n = some client) :
    ∃ k, calls[k]? = some (.connect n) ∧
      (f.connection n).Publishes (stepsOf k events) client ∧
      ¬ VcenterAccess.Free Operation.publishes (stepsOf k events) := by
  induction events using List.reverseRecOn generalizing m with
  | nil =>
      obtain rfl : start = m := hruns
      rw [hstart] at hclient
      cases hclient
  | append_singleton events e ih =>
      obtain ⟨j, x⟩ := e
      rw [List.map_append] at hruns
      obtain ⟨before, hbefore, -, rfl⟩ := Memory.runs_concat.mp hruns
      rcases client_after_cases n before x with hkept | ⟨client', hx, hset⟩
      case inl =>
        rw [hkept] at hclient
        obtain ⟨k, hcall, hpublishes, hpublished⟩ := ih hlog.of_append hbefore hclient
        refine ⟨k, hcall, ?_⟩
        by_cases hjk : j = k
        · subst hjk
          have hsilent := hlog.exchange?_eq_none hcall hpublished
          rw [stepsOf_concat_same]
          exact ⟨hpublishes.silent hsilent,
            fun hfree => hpublished fun y hy => hfree y (List.mem_append_left _ hy)⟩
        · rw [stepsOf_concat_other _ hjk]
          exact ⟨hpublishes, hpublished⟩
      case inr =>
        obtain rfl : client' = some client := hset.symm.trans hclient
        obtain ⟨call, hcall, hallows⟩ := hlog.last
        rw [hx] at hallows
        rcases allows_setClient hallows with ⟨rfl, hpublishes⟩ | ⟨-, hnone⟩
        · refine ⟨j, hcall, ?_⟩
          rw [stepsOf_concat_same]
          refine ⟨(hpublishes client rfl).silent ?_, fun hfree => ?_⟩
          · exact Step.exchange?_eq_none (by simp [hx])
          · have := hfree x (by simp)
            rw [hx] at this
            cases this
        · cases hnone

/-- One connect produced the client that is there, published it, and asked nothing since. -/
theorem exists_produces (hlog : f.Log calls events) {start m : Memory}
    (hruns : start.Runs (events.map Event.step) m) (hstart : start.client n = none)
    {client : Client} (hclient : m.client n = some client) :
    ∃ k probe es, calls[k]? = some (.connect n) ∧
      ¬ VcenterAccess.Free Operation.publishes (stepsOf k events) ∧
      exchanges (stepsOf k events) = probe ++ es ∧ (∀ e ∈ probe, e.question.isLogin = false) ∧
      (f.connection n).Produces es client := by
  obtain ⟨k, hcall, ⟨opening, rest, hopening, hsteps, hes⟩, hpublished⟩ :=
    hlog.published hruns hstart hclient
  refine ⟨k, exchanges opening, exchanges rest, hcall, hpublished, ?_, ?_, hes⟩
  · rw [hsteps, exchanges_append]
  · cases hopening <;> simp [exchanges, Step.exchange?, Question.isLogin]

/-- Who gives back the connect lock leaves the client that it knows, as long as nobody
changes it. -/
theorem client_of_last {before after : List Event} (hlog : f.Log calls (before ++ ⟨k, x⟩ :: after))
    {start m : Memory} (hruns : start.Runs ((before ++ ⟨k, x⟩ :: after).map Event.step) m)
    {client : Option Client}
    (hknown : (f.connection n).knownClient (stepsOf k before) = some client)
    (hx : x.operation = .release (.connect f.connectLock))
    (hcalm : ∀ e ∈ after, ∀ call, calls[e.task]? = some call → call.changesClient n = false) :
    m.client n = client := by
  have hcut : before ++ ⟨k, x⟩ :: after = (before ++ [⟨k, x⟩]) ++ after := by simp
  rw [hcut] at hlog hruns
  rw [List.map_append] at hruns
  obtain ⟨middle, hmiddle, hafter⟩ := Memory.runs_append.mp hruns
  rw [List.map_append] at hmiddle
  obtain ⟨m', hbefore, -, rfl⟩ := Memory.runs_concat.mp hmiddle
  rw [hlog.client_of_later hcalm hafter]
  have hlogBefore : f.Log calls before := hlog.of_append.of_append
  have hread : m'.client n = client := Cell.read_of_known hlogBefore.exclusive
    hlogBefore.disciplined hbefore hknown
  rcases client_after_cases n m' x with hkept | ⟨_, hset, -⟩
  · exact hkept.trans hread
  · rw [hx] at hset
    cases hset

/-- After the last step of a connect or logout, its steps are those before and that one. -/
theorem stepsOf_of_last {before after : List Event} {call : Call} (hcall : calls[k]? = some call)
    (hchanges : call.changesClient n = true)
    (hcalm : ∀ e ∈ after, ∀ call, calls[e.task]? = some call → call.changesClient n = false) :
    stepsOf k (before ++ ⟨k, x⟩ :: after) = stepsOf k before ++ [x] := by
  have hafter : stepsOf k after = [] := by
    refine stepsOf_eq_nil fun e he heq => ?_
    have hfalse := hcalm e he call (heq ▸ hcall)
    rw [hchanges] at hfalse
    cases hfalse
  have hcut : before ++ ⟨k, x⟩ :: after = (before ++ [⟨k, x⟩]) ++ after := by simp
  rw [hcut, stepsOf_append, hafter, List.append_nil, stepsOf_concat_same]

end Log

/-- What is so with the client of a connection after some calls. -/
structure Publishing {ω : Type} (f : Fleet) (n : Nat) (calls : List Call) (trace : List Event)
    (m : Machine ω Reply) : Prop where
  /-- One connect produced the client, and asked nothing of the outside since. -/
  produced : ∀ client, m.shared.memory.client n = some client →
    ∃ k probe es, calls[k]? = some (.connect n) ∧ exchanges (stepsOf k trace) = probe ++ es ∧
      (∀ e ∈ probe, e.question.isLogin = false) ∧ (f.connection n).Produces es client
  /-- If a connect made the last step, there is a client just if the connect succeeded. -/
  connected : ∀ before last after, trace = before ++ last :: after →
    (∀ e ∈ after, ∀ call, calls[e.task]? = some call → call.changesClient n = false) →
    calls[last.task]? = some (.connect n) → ∀ outcome,
    (last.task, .connected outcome) ∈ m.results →
    ((m.shared.memory.client n).isSome = true ↔ outcome = .ok ())
  /-- If a logout made the last step, there is no client. -/
  loggedOut : ∀ before last after, trace = before ++ last :: after →
    (∀ e ∈ after, ∀ call, calls[e.task]? = some call → call.changesClient n = false) →
    calls[last.task]? = some (.logOut n) → ∀ reply, (last.task, reply) ∈ m.results →
    m.shared.memory.client n = none

/-- Clients are only published authenticated and with retries, along every run of calls.
What a connect or logout leaves is what its result says, and a change of credentials
leaves every client. -/
theorem publishing {ω : Type} (f : Fleet) (o : Outside ω) (credentials : Nat → SessionCredentials)
    (outside : ω) (actions : List (Action ω)) (n : Nat) :
    f.Publishing n (callsOf actions) (f.trace o (start credentials) outside actions)
        (f.run o (start credentials) outside actions) ∧
      ((f.connection n).retryBudget.remaining =
        if (f.options n).retries.getD 0 = 0 then 3 else (f.options n).retries.getD 0) ∧
      ∀ first k j update, first ++ [.step k] <+: actions →
        (callsOf actions)[k]? = some (.update j update) →
        (f.run o (start credentials) outside (first ++ [.step k])).shared.memory.client n =
          (f.run o (start credentials) outside first).shared.memory.client n := by
  have hall : actions <+: actions := List.prefix_rfl
  have hlog := f.log_run o (start credentials) outside hall
  have hruns := (f.account o (start credentials) outside hall).memory
  refine ⟨⟨?produced, ?connected, ?loggedOut⟩, RetryBudget.remaining_ofCount _, ?updated⟩
  case produced =>
    intro client hclient
    obtain ⟨k, probe, es, hcall, -, hproduced⟩ := hlog.exists_produces hruns rfl hclient
    exact ⟨k, probe, es, hcall, hproduced⟩
  case connected =>
    rintro before ⟨k, x⟩ after htrace hcalm hcall outcome hresult
    obtain ⟨outcome, ⟨⟩, hconnected⟩ := fulfils hall hresult hcall
    rw [htrace] at hlog hruns hconnected
    rw [Log.stepsOf_of_last hcall (by simp [Call.changesClient]) hcalm] at hconnected
    obtain ⟨hrelease, client, hknown, hiff⟩ := hconnected.last
    rw [hlog.client_of_last hruns hknown hrelease hcalm]
    exact hiff
  case loggedOut =>
    rintro before ⟨k, x⟩ after htrace hcalm hcall reply hresult
    obtain ⟨-, g, hsteps, hknown⟩ := fulfils hall hresult hcall
    rw [htrace] at hlog hruns hsteps
    rw [Log.stepsOf_of_last hcall (by simp [Call.changesClient]) hcalm] at hsteps
    obtain ⟨rfl, hx⟩ := List.append_inj' hsteps rfl
    cases hx
    exact hlog.client_of_last hruns hknown rfl hcalm
  case updated =>
    intro first k j update hfirst hcall
    rcases f.move_cases o (start credentials) outside first (.step k) with hsame | ⟨k, x, ⟨⟩, htrace, -, hmemory⟩
    · rw [hsame]
    · have hlog := f.log_run o (start credentials) outside hfirst
      rw [htrace] at hlog
      rw [hmemory]
      refine hlog.client_after (fun call hcall' => ?_) _
      obtain rfl : call = .update j update := Option.some.inj (hcall'.symm.trans hcall)
      rfl

example : (oneVcenter.run welcoming (start fun _ => { username := "k8s", password := "old" }) ()
    (.call (.connect 0) :: List.replicate 11 (.step 0))).shared.memory.client 0 =
      some { number := 1, retries := some { remaining := 3 } } := by
  decide +kernel

end VcenterAccess.Fleet
