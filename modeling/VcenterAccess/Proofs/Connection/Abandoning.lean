import VcenterAccess.Proofs.Connection.Publishing
import VcenterAccess.Proofs.Machine.Resuming

/-!
# Calls that are abandoned

A connect changes what others can rely on at two steps only: where it keeps a token, and
where it publishes its client.  Nothing is awaited after either of them
(`Connection.obeys_committing_connect`), so a connect that is abandoned has done neither: all
that it may have done is to drop a client that had no session.  A logout never does either.

Whoever is abandoned gives its locks back and leaves all queues, and nothing else is left of
it (`Fleet.abandoning`).
-/

namespace VcenterAccess

open Program

/-- Whether an operation changes what others can rely on. -/
def Operation.commits (operation : Operation) : Bool :=
  operation.changesLogin || operation.publishes

/-- Nothing is awaited after others can rely on a change.  The state says whether they can. -/
def Rule.committing : Rule Bool where
  next committed x := committed || x.operation.commits
  allows committed operation := committed = true → operation.isAwaited = false

theorem Rule.after_committing (committed : Bool) (h : List Step) :
    Rule.committing.after committed h = (committed || h.any fun x => x.operation.commits) := by
  induction h generalizing committed with
  | nil => simp
  | cons x h ih =>
      rw [after_cons, ih, List.any_cons, ← Bool.or_assoc]
      rfl

/-! ## Nothing is awaited after a commitment -/

namespace Connection

variable {c : Connection} {client : Client} {s : LoginState}

theorem obeys_committing_cloneKept {token : Option String} :
    (cloneKept client token).Obeys .committing (fun committed _ => committed = false) false := by
  cases token with
  | none => rfl
  | some token => exact .operate nofun fun answer => by cases answer <;> rfl

theorem obeys_committing_cloneFresh {url token : String} :
    (c.cloneFresh client s url token).Obeys .committing (fun _ _ => True) false := by
  refine .operate nofun fun answer => ?_
  cases answer with
  | error cause => trivial
  | ok fresh =>
      refine .operate nofun fun answer => ?_
      cases answer with
      | error cause => trivial
      | ok _ => exact .operate nofun fun _ => trivial

theorem obeys_committing_loginByCertificate {certificate privateKey : String} :
    (loginByCertificate client certificate privateKey).Obeys .committing (fun _ _ => True)
      false := by
  unfold loginByCertificate
  split
  · trivial
  · refine .operate nofun fun answer => ?_
    cases answer with
    | error cause => trivial
    | ok signer => exact .operate nofun fun answer => by cases answer <;> trivial

theorem obeys_committing_logIn :
    (c.logIn client s).Obeys .committing (fun _ _ => True) false := by
  unfold logIn
  split
  · refine .bind obeys_committing_cloneKept ?_
    rintro _ accepted rfl
    cases accepted with
    | true => trivial
    | false => exact obeys_committing_cloneFresh
  · exact obeys_committing_loginByCertificate
  · exact .operate nofun fun answer => by cases answer <;> trivial

/-- A connection that has logged in may have a token kept by then; what it does after that is not
awaited. -/
theorem obeys_committing_newClient : c.newClient.Obeys .committing (fun _ _ => True) false := by
  unfold newClient
  split
  · trivial
  · refine .locked (I := fun _ _ => True) nofun ?_ fun _ _ _ => ⟨fun _ => rfl, trivial⟩
    refine .operate nofun fun s => .operate nofun fun answer => ?_
    cases answer with
    | error cause => trivial
    | ok client =>
        refine .bind obeys_committing_logIn fun committed outcome _ => ?_
        cases outcome with
        | error e => trivial
        | ok _ => exact .operate (fun _ => rfl) fun _ => trivial

theorem obeys_committing_renew : c.renew.Obeys .committing (fun _ _ => True) false := by
  refine .bind obeys_committing_newClient fun committed outcome _ => ?_
  cases outcome with
  | error e => trivial
  | ok client => exact .operate (fun _ => rfl) fun _ => trivial

theorem obeys_committing_connect : c.connect.Obeys .committing (fun _ _ => True) false := by
  refine .locked (I := fun _ _ => True) nofun ?_ fun _ _ _ => ⟨fun _ => rfl, trivial⟩
  refine .operate nofun fun client => ?_
  cases client with
  | none => exact obeys_committing_renew
  | some client =>
      refine .operate nofun fun answer => ?_
      match answer with
      | .ok (some session) => trivial
      | .ok none => exact .operate nofun fun _ => obeys_committing_renew
      | .error cause => exact .operate nofun fun _ => obeys_committing_renew

theorem obeys_committing_logout : c.logout.Obeys .committing (fun _ _ => True) false := by
  refine .locked (I := fun _ _ => True) nofun ?_ fun _ _ _ => ⟨fun _ => rfl, trivial⟩
  refine .operate nofun fun client => ?_
  cases client with
  | none => trivial
  | some client => exact .operate nofun fun _ => .operate nofun fun _ => trivial

end Connection

namespace Fleet

open Connection (Reply)

variable {f : Fleet} {call : Call} {n : Nat} {h : List Step}

/-- Nothing is awaited after a call has committed itself. -/
theorem obeys_committing (hcall : call.changesClient n = true) :
    (f.program call).Obeys .committing (fun _ _ => True) false := by
  cases call with
  | connect k => exact .bind Connection.obeys_committing_connect fun _ _ => id
  | logOut k => exact .bind Connection.obeys_committing_logout fun _ _ => id
  | update k credentials => cases hcall

/-- A call that waits has not committed itself. -/
theorem free_commits_of_awaited (hcall : call.changesClient n = true) {operation : Operation}
    {next : operation.Answer → Program Reply}
    (hpath : (f.program call).Path h (.perform operation next))
    (hawaited : operation.isAwaited = true) : Free Operation.commits h := by
  have hallows := (obeys_committing hcall).pending hpath
  rw [Rule.after_committing, Bool.false_or] at hallows
  intro x hx
  by_contra hcommits
  have hany : (h.any fun x => x.operation.commits) = true :=
    List.any_eq_true.mpr ⟨x, hx, by simpa using hcommits⟩
  rw [hallows hany] at hawaited
  cases hawaited

/-- A call begins with the connect lock. -/
theorem mem_acquire_of_path (hcall : call.changesClient n = true) {q : Program Reply}
    (hpath : (f.program call).Path h q) (hne : h ≠ []) :
    ⟨.acquire (.connect f.connectLock), ()⟩ ∈ h := by
  cases call with
  | connect k =>
      cases hpath with
      | refl => exact absurd rfl hne
      | step _ => exact List.mem_cons_self ..
  | logOut k =>
      cases hpath with
      | refl => exact absurd rfl hne
      | step _ => exact List.mem_cons_self ..
  | update k credentials => cases hcall

/-- A call that waits after its beginning has the connect lock. -/
theorem mem_held_of_awaited (hcall : call.changesClient n = true) {operation : Operation}
    {next : operation.Answer → Program Reply}
    (hpath : (f.program call).Path h (.perform operation next))
    (hawaited : operation.isAwaited = true) (hne : h ≠ []) :
    .connect f.connectLock ∈ heldAfter h := by
  have htaken := mem_acquire_of_path hcall hpath hne
  have hall := (obeys_program call).along hpath
  have hallows := (obeys_program call).pending hpath
  obtain ⟨may, hrule⟩ := f.exists_guarded call
  rw [hrule] at hall hallows
  rw [Rule.guarded, Rule.after_ofHistory, List.nil_append] at hallows
  obtain ⟨hallows, -⟩ := hallows
  cases operation with
  | acquire lock => exact lock_mem_of_mem (disciplined_of_guarded hall) hallows.1 htaken
  | ask question => exact held_lockingAfter f.connectLock h ▸ hallows
  | _ => cases hawaited

/-- What a step leaves of the clients of connections, if it does not publish one. -/
def Spares (n : Nat) (x : Step) : Prop :=
  ∀ (kept : Memory) j, (kept.after x).client j = kept.client j ∨
    j = n ∧ (kept.after x).client j = none

/-- A call that has not committed itself leaves what the next logins use, and at most drops
the client of its own connection. -/
theorem spares_of_free (hcall : call.changesClient n = true) (hall : (f.rule call).Allows [] h)
    (hfree : Free Operation.commits h) {x : Step} (hx : x ∈ h) :
    Spares n x ∧ ∀ (kept : Memory) j, (kept.after x).login j = kept.login j := by
  have hcommits := hfree x hx
  rw [Operation.commits, Bool.or_eq_false_iff] at hcommits
  refine ⟨fun kept j => ?_, fun kept j => ?_⟩
  · rcases client_after_cases j kept x with heq | ⟨client, hop, heq⟩
    · exact .inl heq
    · cases client with
      | some client =>
          rw [hop] at hcommits
          cases hcommits.2
      | none =>
          obtain ⟨g, g', rfl⟩ := List.append_of_mem hx
          have hallows := hall g x (by simp)
          obtain ⟨may, hrule⟩ := f.exists_guarded call
          rw [hop] at hallows
          have hchanges : call = .connect j ∨ call = .logOut j := by
            rcases allows_setClient hallows with ⟨hconnect, -⟩ | ⟨hlogOut, -⟩
            · exact .inl hconnect
            · exact .inr hlogOut
          refine .inr ⟨?_, heq⟩
          rcases hchanges with rfl | rfl <;> simpa [Call.changesClient] using hcall
  · rcases login_after_cases j kept x with heq | ⟨login, hop, -⟩
    · exact heq
    · rw [hop] at hcommits
      cases hcommits.1

/-- What is done under other locks than the connect lock leaves all clients. -/
theorem spares_of_lock {x : Step} (hlock : x.operation.lock f.connectLock ≠ .connect f.connectLock) :
    Spares n x := by
  intro kept j
  rcases client_after_cases j kept x with heq | ⟨client, hop, -⟩
  · exact .inl heq
  · rw [hop] at hlock
    exact absurd rfl hlock

/-- What some steps leave of the clients. -/
theorem client_of_spares {hs : List Step} (hspares : ∀ x ∈ hs, Spares n x) {m m' : Memory}
    (hruns : m.Runs hs m') (j : Nat) :
    m'.client j = m.client j ∨ j = n ∧ m'.client j = none := by
  induction hs generalizing m with
  | nil =>
      obtain rfl : m = m' := hruns
      exact .inl rfl
  | cons x hs ih =>
      obtain ⟨hx, hspares⟩ := List.forall_mem_cons.mp hspares
      rcases ih hspares hruns.2 with heq | hnone
      · rcases hx m j with heq' | ⟨rfl, hnone⟩
        · exact .inl (heq.trans heq')
        · exact .inr ⟨rfl, heq.trans hnone⟩
      · exact .inr hnone

section

variable {ω : Type} {o : Outside ω} {memory : Memory} {outside : ω} {first : List (Action ω)}
  {k : Nat}

/-- A step along a run is made at some point of it. -/
theorem exists_earlier {before after : List Event} {x : Step}
    (htrace : f.trace o memory outside first = before ++ ⟨k, x⟩ :: after)
    (hne : ∀ lock, x.operation ≠ .release lock) :
    ∃ earlier, earlier ++ [.step k] <+: first ∧ f.trace o memory outside earlier = before ∧
      f.trace o memory outside (earlier ++ [.step k]) = before ++ [⟨k, x⟩] := by
  obtain ⟨g, rest, hmoves, hbefore, hevents, -⟩ := Machine.exists_step_of_trace htrace hne
  obtain ⟨earlier, last, rfl, rfl, hlast⟩ := List.map_eq_append_iff.mp hmoves
  obtain ⟨a, rest, rfl, ha, rfl⟩ := List.map_eq_cons_iff.mp hlast
  obtain rfl : a = .step k := by
    cases a <;> cases ha
    rfl
  refine ⟨earlier, by simp, hbefore, ?_⟩
  rw [trace, List.map_append, Machine.trace_append, hbefore]
  exact congrArg (before ++ ·) ((List.append_nil _).trans hevents)

theorem orderly (f : Fleet) (o : Outside ω) (memory : Memory) (outside : ω)
    (actions : List (Action ω)) : Machine.Orderly (f.run o memory outside actions) := by
  refine Machine.orderly_run memory outside List.prefix_rfl fun p hp => ?_
  rw [begunBy_move] at hp
  obtain ⟨call, -, rfl⟩ := List.mem_map.mp hp
  exact bracketed_program call

/-- Where it leads that a task is abandoned. -/
theorem run_abandon {t : Task Reply} (ht : (f.run o memory outside first).task? k = some t)
    (hawaits : t.isInterruptible = true) :
    f.run o memory outside (first ++ [.abandon k]) =
      { f.run o memory outside first with
        shared := t.abandon o (f.run o memory outside first).shared
        tasks := (f.run o memory outside first).others k } := by
  rw [run, List.map_append, Machine.run_append]
  change (f.run o memory outside first).abandon o k = _
  rw [Machine.abandon, ht, Option.filter_some, if_pos hawaits]

/-- While a call that publishes nothing has the connect lock, others do nothing under it.  So
clients stay, but that its own connection may lose one. -/
theorem clients_since
    (hheld : .connect f.connectLock ∈ heldAfter (stepsOf k (f.trace o memory outside first)))
    (hspares : ∀ x ∈ stepsOf k (f.trace o memory outside first), Spares n x) :
    ∃ earlier, earlier ++ [.step k] <+: first ∧
      f.trace o memory outside (earlier ++ [.step k]) =
        f.trace o memory outside earlier ++ [⟨k, .acquire (.connect f.connectLock), ()⟩] ∧
      ∀ j, (f.run o memory outside first).shared.memory.client j =
          (f.run o memory outside earlier).shared.memory.client j ∨
        j = n ∧ (f.run o memory outside first).shared.memory.client j = none := by
  have hlog := f.log_run o memory outside (List.prefix_rfl (l := first))
  obtain ⟨before, after, htrace, hown⟩ := exists_of_held hlog.exclusive hlog.disciplined hheld
  obtain ⟨earlier, hearlier, rfl, htaken⟩ := exists_earlier htrace nofun
  refine ⟨earlier, hearlier, htaken, fun j => ?_⟩
  refine client_of_spares (fun x hx => ?_) (runs_of_trace htrace) j
  obtain ⟨e, he, rfl⟩ := List.mem_map.mp hx
  by_cases htask : e.task = k
  · refine hspares e.step ?_
    rw [← htask, mem_stepsOf, htrace]
    exact List.mem_append_right _ he
  · refine spares_of_lock (f := f) fun hlock => ?_
    rcases List.mem_cons.mp he with rfl | he
    · exact htask rfl
    · exact htask (hown e he hlock)

end

/-! ## What is left of an abandoned call -/

/-- What is left of a call that is abandoned after some actions, with where that leads.  The
call is a connect or a logout of a connection. -/
structure Abandoned {ω : Type} (f : Fleet) (o : Outside ω) (memory : Memory) (outside : ω)
    (first : List (Action ω)) (k n : Nat) (m : Machine ω Reply) : Prop where
  gone : ∀ t ∈ m.tasks, t.number ≠ k
  /-- It has no lock and waits for none. -/
  unqueued : ∀ lock, k ∉ m.shared.line lock
  quiet : m.tasks = [] → ∀ lock, m.shared.lock lock = .free
  unchanged : m.shared.memory = (f.run o memory outside first).shared.memory
  /-- No step of it changed the credentials, or the token that is kept, of any connection. -/
  login : ∀ x ∈ stepsOf k (f.trace o memory outside first), ∀ (kept : Memory) j,
    (kept.after x).login j = kept.login j
  /-- All that a step of it may have done to clients is to drop that of its connection. -/
  client : ∀ x ∈ stepsOf k (f.trace o memory outside first), Spares n x
  /-- Unless it did nothing, the clients are those of the time when it took the connect lock,
  but that its connection may have none. -/
  since : stepsOf k (f.trace o memory outside first) = [] ∨
    ∃ earlier, earlier ++ [.step k] <+: first ∧
      f.trace o memory outside (earlier ++ [.step k]) =
        f.trace o memory outside earlier ++ [⟨k, .acquire (.connect f.connectLock), ()⟩] ∧
      ∀ j, m.shared.memory.client j = (f.run o memory outside earlier).shared.memory.client j ∨
        j = n ∧ m.shared.memory.client j = none
  /-- Another call produced whatever client there is: it logged the client in and let it send
  requests again. -/
  produced : ∀ j client, m.shared.memory.client j = some client →
    ∃ i probe es, i ≠ k ∧ (callsOf first)[i]? = some (.connect j) ∧
      exchanges (stepsOf i (f.trace o memory outside first)) = probe ++ es ∧
      (∀ e ∈ probe, e.question.isLogin = false) ∧ (f.connection j).Produces es client
  /-- What follows is what follows after every other run that leads to the same. -/
  later : ∀ (memory' : Memory) (outside' : ω) (other : List (Action ω)),
    m.Agrees (f.run o memory' outside' other) →
      Machine.SameFuture o m (f.run o memory' outside' other)

/-- Whoever is abandoned while it connects or logs out leaves no lock, no credentials, no token
and no client behind.  At most the client is gone that its connection had before.  For as it
waits it has not committed itself, and it still has the connect lock that it took at first. -/
theorem abandoning {ω : Type} (f : Fleet) (o : Outside ω) (credentials : Nat → SessionCredentials)
    (outside : ω) (first : List (Action ω)) (k n : Nat) (call : Call)
    (hcall : (callsOf first)[k]? = some call) (hchanges : call.changesClient n = true)
    (hdropped : ((f.run o (start credentials) outside first).task? k).any Task.isInterruptible =
      true) :
    f.Abandoned o (start credentials) outside first k n
      (f.run o (start credentials) outside (first ++ [.abandon k])) := by
  obtain ⟨t, ht, hawaits⟩ := (Option.any_eq_true ..).mp hdropped
  obtain ⟨hmem, rfl⟩ := Machine.mem_of_task? ht
  have hfirst : first <+: first := List.prefix_rfl
  have haccount := f.account o (start credentials) outside hfirst
  have hlog := f.log_run o (start credentials) outside hfirst
  have horderly := f.orderly o (start credentials) outside
  obtain ⟨operation, next, hp, hawaited⟩ := exists_of_isInterruptible hawaits
  obtain ⟨p, hprogram, hpath⟩ := (haccount.task t hmem).path
  obtain rfl : f.program call = p := by
    simpa [hcall] using hprogram
  rw [hp] at hpath
  have hfree := free_commits_of_awaited hchanges hpath hawaited
  have hspares := fun x => spares_of_free (x := x) hchanges (hlog.allowed _ call hcall) hfree
  have hrun := run_abandon ht hawaits
  have hunchanged : (f.run o (start credentials) outside
      (first ++ [.abandon t.number])).shared.memory =
        (f.run o (start credentials) outside first).shared.memory := by
    rw [hrun]
    exact t.memory_abandon
  have hgone : ∀ u ∈ (f.run o (start credentials) outside
      (first ++ [.abandon t.number])).tasks, u.number ≠ t.number := by
    intro u hu
    rw [hrun] at hu
    exact (Machine.mem_others.mp hu).2
  constructor
  case gone => exact hgone
  case unqueued =>
    intro lock hl
    obtain ⟨u, hu, heq, -⟩ := (horderly _).wanted lock _ hl
    exact hgone u hu heq
  case quiet => exact fun hquiet => Machine.lock_eq_free (horderly _) hquiet
  case unchanged => exact hunchanged
  case login => exact fun x hx => (hspares x hx).2
  case client => exact fun x hx => (hspares x hx).1
  case since =>
    refine Classical.or_iff_not_imp_left.mpr fun hne => ?_
    have hheld := mem_held_of_awaited hchanges hpath hawaited hne
    rw [hunchanged]
    exact clients_since hheld fun x hx => (hspares x hx).1
  case produced =>
    intro j client hclient
    rw [hunchanged] at hclient
    obtain ⟨i, probe, es, hconnect, hpublished, hproduced⟩ :=
      hlog.exists_produces haccount.memory rfl hclient
    refine ⟨i, probe, es, ?_, hconnect, hproduced⟩
    rintro rfl
    exact hpublished fun x hx => (Bool.or_eq_false_iff.mp (hfree x hx)).2
  case later =>
    exact fun memory' outside' other hagrees =>
      hagrees.sameFuture (horderly _) (f.orderly o memory' outside' other)

/-- A logout is abandoned while it waits for the vCenter to end the session. -/
theorem abandoning_logout :
    let first : List (Action Unit) := .call (.connect 0) :: List.replicate 11 (.step 0) ++
      .call (.logOut 0) :: List.replicate 4 (.step 1)
    let kept := start fun _ => { username := "k8s", password := "old" }
    (callsOf first)[1]? = some (.logOut 0) ∧
      ((oneVcenter.run welcoming kept () first).task? 1).any Task.isInterruptible = true ∧
      stepsOf 1 (oneVcenter.trace welcoming kept () first) ≠ [] ∧
      oneVcenter.Abandoned welcoming kept () first 1 0
        (oneVcenter.run welcoming kept () (first ++ [.abandon 1])) := by
  intro first kept
  have hcall : (callsOf first)[1]? = some (.logOut 0) := by decide
  have hdropped : ((oneVcenter.run welcoming kept () first).task? 1).any Task.isInterruptible =
      true := by
    decide +kernel
  have hsteps : (stepsOf 1 (oneVcenter.trace welcoming kept () first)).length = 3 := by
    decide +kernel
  refine ⟨hcall, hdropped, ?_, abandoning oneVcenter welcoming _ () first 1 0 (.logOut 0) hcall rfl
    hdropped⟩
  exact List.ne_nil_of_length_pos (by rw [hsteps]; decide)

end Fleet

end VcenterAccess
