import VcenterAccess.Proofs.Connection.Conduct

/-!
# Calls to connections

A fleet is a family of connections that share one connect lock.  Whoever uses them
calls: to connect, to log out, to change the credentials.  Calls are the tasks of a
machine, so along a list of actions they interleave in every possible way, may be
abandoned where they wait, and get whatever answers the outside gives.

What can be relied on along every such run is its log (`Fleet.Log`): no two calls hold
one lock, and every call keeps to its rule (`Fleet.log_run`).
-/

namespace VcenterAccess

open Connection (Reply)

/-- Connections, by number. -/
structure Fleet where
  options : Nat → ConnectionOptions
  /-- Who hands out shared tokens. -/
  tokenSource : Nat → TokenSource
  connectLock : Nat

namespace Fleet

/-- What is asked of a connection. -/
inductive Call where
  | connect (connection : Nat)
  | logOut (connection : Nat)
  | update (connection : Nat) (credentials : SessionCredentials)
deriving DecidableEq

/-- What happens next. -/
inductive Action (ω : Type) where
  /-- Somebody calls. -/
  | call (call : Call)
  /-- A call makes a step. -/
  | step (task : Nat)
  | abandon (task : Nat)
  /-- Something changes outside. -/
  | change (f : ω → ω)

/-- The call of an action. -/
def Action.call? {ω : Type} : Action ω → Option Call
  | call c => some c
  | _ => none

/-- The calls of some actions.  A call has its place among them as its number. -/
def callsOf {ω : Type} (actions : List (Action ω)) : List Call := actions.filterMap Action.call?

variable (f : Fleet)

/-- The connection with a number. -/
def connection (n : Nat) : Connection where
  number := n
  options := f.options n
  connectLock := f.connectLock
  tokenSource := f.tokenSource n

/-- What is done for a call. -/
def program : Call → Program Reply
  | .connect n => (f.connection n).execute .connect
  | .logOut n => (f.connection n).execute .logout
  | .update n credentials => (f.connection n).execute (.update credentials)

/-- The move of an action. -/
def move {ω : Type} : Action ω → Move ω Reply
  | .call call => .begin (f.program call)
  | .step task => .step task
  | .abandon task => .abandon task
  | .change f => .change f

/-- What is kept at first: credentials, but neither clients nor tokens. -/
def start (credentials : Nat → SessionCredentials) : Memory where
  connection n := { login := { credentials := credentials n } }

section

variable {ω : Type} (o : Outside ω) (memory : Memory) (outside : ω) (actions : List (Action ω))

/-- Where some actions lead. -/
def run : Machine ω Reply := (Machine.idle memory outside).run o (actions.map f.move)

/-- What happens along them. -/
def trace : List Event := (Machine.idle memory outside).trace o (actions.map f.move)

end

/-- The rule that a call keeps to. -/
def rule : Call → Rule (List Step)
  | .connect n => (f.connection n).connecting
  | .logOut n => (f.connection n).loggingOut
  | .update n credentials => (f.connection n).updating credentials

/-- What a call leaves. -/
def Fulfils (h : List Step) : Call → Reply → Prop
  | .connect n, reply => ∃ outcome, reply = .connected outcome ∧
      (f.connection n).Connected h outcome
  | .logOut n, reply => reply = .done ∧ ∃ g, h = g ++ [⟨.release (.connect f.connectLock), ()⟩] ∧
      (f.connection n).knownClient g = some none
  | .update n _, reply => reply = .done ∧ ∃ g, h = g ++ [⟨.release (.credentials n), ()⟩]

variable {f}

theorem obeys_program (call : Call) :
    (f.program call).Obeys (f.rule call) (fun h reply => heldAfter h = [] ∧ f.Fulfils h call reply)
      [] := by
  cases call with
  | connect n =>
      refine .bind Connection.obeys_connect fun h outcome hconnected => ?_
      rw [Connection.locking, held_lockingAfter] at hconnected
      exact ⟨hconnected.1, outcome, rfl, hconnected.2⟩
  | logOut n =>
      refine .bind Connection.obeys_logout fun h _ hdone => ?_
      rw [Connection.locking, held_lockingAfter] at hdone
      exact ⟨hdone.1, rfl, hdone.2⟩
  | update n credentials =>
      refine .bind (Connection.obeys_updateCredentials credentials) fun h _ hdone => ?_
      rw [Connection.locking, held_lockingAfter] at hdone
      exact ⟨hdone.1, rfl, hdone.2⟩

/-- Every rule asks for two phases. -/
theorem exists_guarded (f : Fleet) (call : Call) :
    ∃ may, f.rule call = .guarded f.connectLock may := by
  cases call with
  | connect n => exact ⟨_, rfl⟩
  | logOut n => exact ⟨_, rfl⟩
  | update n credentials => exact ⟨_, rfl⟩

theorem bracketed_program (call : Call) : (f.program call).Bracketed := by
  obtain ⟨may, hrule⟩ := f.exists_guarded call
  have hobeys := obeys_program (f := f) call
  rw [hrule] at hobeys
  exact bracketed_of_guarded hobeys fun _ _ hdone => hdone.1

/-- Whatever a call performs is allowed, also if it is abandoned.  A change of credentials can only
be abandoned before its first step. -/
theorem allows_of_performs {call : Call} {h : List Step}
    (hperforms : (f.program call).Performs h) : (f.rule call).Allows [] h := by
  obtain ⟨g, q, hpath, rfl | ⟨operation, next, rfl, hawaited, rfl⟩⟩ := hperforms
  · exact (obeys_program call).along hpath
  · have hall := (obeys_program call).along hpath
    cases call with
    | connect n => exact guarded_giveBack (fun _ _ => trivial) hall
    | logOut n => exact guarded_giveBack (fun _ _ => trivial) hall
    | update n credentials =>
        have hnil : g = [] := by
          have hpending : (f.connection n).MayUpdate credentials ([] ++ g) operation := by
            rw [← Rule.after_ofHistory]
            exact ((obeys_program (.update n credentials)).pending hpath).2
          rw [List.nil_append] at hpending
          cases operation with
          | acquire lock => exact hpending.2
          | ask question => exact hpending.elim
          | _ => cases hawaited
        subst hnil
        exact Rule.allows_nil

/-! ## What a rule allows -/

section

variable {call : Call} {h : List Step} {n : Nat}

theorem allows_setClient {client : Option Client}
    (hallows : (f.rule call).allows h (.setClient n client)) :
    (call = .connect n ∧ ∀ k, client = some k → (f.connection n).Publishes h k) ∨
      (call = .logOut n ∧ client = none) := by
  cases call with
  | connect k =>
      obtain ⟨-, rfl, hpublishes⟩ := hallows
      exact .inl ⟨rfl, hpublishes⟩
  | logOut k =>
      obtain ⟨-, rfl, hnone⟩ := hallows
      exact .inr ⟨rfl, hnone⟩
  | update k credentials => exact hallows.2.elim

theorem allows_setLogin {login : LoginState}
    (hallows : (f.rule call).allows h (.setLogin n login)) :
    ∃ s, (f.connection n).knownLogin h = some s ∧
      ((call = .connect n ∧ ∃ token, login = { s with sharedToken := some token } ∧
          (f.connection n).MayKeep h s token) ∨
        ∃ credentials, call = .update n credentials ∧ login = s.update credentials) := by
  cases call with
  | connect k =>
      obtain ⟨-, rfl, s, token, hkeep, hlogin⟩ := hallows
      exact ⟨s, hkeep.known, .inl ⟨rfl, token, hlogin, hkeep⟩⟩
  | logOut k => exact hallows.2.elim
  | update k credentials =>
      obtain ⟨-, rfl, s, hknown, hlogin⟩ := hallows
      exact ⟨s, hknown, .inr ⟨credentials, rfl, hlogin⟩⟩

/-- Only connects ask what presents credentials, and they know them then. -/
theorem allows_ask {question : Question} (hallows : (f.rule call).allows h (.ask question))
    (hlogin : question.isLogin = true) :
    ∃ n s, call = .connect n ∧ NoTakeover (exchanges h) ∧
      (f.connection n).knownLogin h = some s ∧ s.credentials.Permits question ∧
      ∀ client token, question = .cloneSession client token →
        s.sharedToken = some token ∨ s.credentials.Fetched (exchanges h) token := by
  cases call with
  | connect n =>
      obtain ⟨-, -, hpermits, hoffer⟩ := hallows
      obtain ⟨huntaken, s, hknown, hpermits⟩ := hpermits hlogin
      refine ⟨n, s, rfl, huntaken, hknown, hpermits, fun client token hq => ?_⟩
      obtain ⟨s', hknown', hoffer⟩ := hoffer client token hq
      obtain rfl : s' = s := Option.some.inj (hknown'.symm.trans hknown)
      exact hoffer
  | logOut n =>
      have hplain : question.isLogin = false := hallows.2
      rw [hplain] at hlogin
      cases hlogin
  | update n credentials => exact hallows.2.elim

end

/-! ## Logs -/

/-- What can be relied on along every run of some calls. -/
structure Log (f : Fleet) (calls : List Call) (events : List Event) : Prop where
  exclusive : Exclusive events
  begun : ∀ e ∈ events, e.task < calls.length
  allowed : ∀ k call, calls[k]? = some call → (f.rule call).Allows [] (stepsOf k events)

namespace Log

variable {calls : List Call} {events later : List Event} {k : Nat} {x : Step}

/-- What can be relied on later could be before. -/
theorem of_append (hlog : f.Log calls (events ++ later)) : f.Log calls events where
  exclusive := hlog.exclusive.of_append
  begun e he := hlog.begun e (List.mem_append_left _ he)
  allowed j call hcall := by
    have hall := hlog.allowed j call hcall
    rw [stepsOf_append] at hall
    exact hall.of_append

theorem disciplined (hlog : f.Log calls events) (k : Nat) :
    Disciplined f.connectLock (stepsOf k events) := by
  cases hcall : calls[k]? with
  | none =>
      have hnil : stepsOf k events = [] := by
        refine stepsOf_eq_nil fun e he heq => ?_
        have hlt := hlog.begun e he
        rw [heq] at hlt
        exact absurd (List.getElem?_eq_none_iff.mp hcall) (Nat.not_le.mpr hlt)
      rw [hnil]
      exact Rule.allows_nil
  | some call =>
      obtain ⟨may, hrule⟩ := f.exists_guarded call
      have hall := hlog.allowed k call hcall
      rw [hrule] at hall
      exact disciplined_of_guarded hall

/-- The last step was allowed. -/
theorem allows_last (hlog : f.Log calls (events ++ [⟨k, x⟩])) {call : Call}
    (hcall : calls[k]? = some call) : (f.rule call).allows (stepsOf k events) x.operation := by
  have hall := hlog.allowed k call hcall
  rw [stepsOf_concat_same] at hall
  obtain ⟨may, hrule⟩ := f.exists_guarded call
  rw [hrule] at hall ⊢
  exact (guarded_concat.mp hall).2

/-- The last step is one of a call that was allowed to make it. -/
theorem last (hlog : f.Log calls (events ++ [⟨k, x⟩])) :
    ∃ call, calls[k]? = some call ∧ (f.rule call).allows (stepsOf k events) x.operation := by
  have hlt : k < calls.length := hlog.begun ⟨k, x⟩ (by simp)
  have hcall := List.getElem?_eq_getElem hlt
  exact ⟨_, hcall, hlog.allows_last hcall⟩

end Log

section

variable {ω : Type} {o : Outside ω} {memory : Memory} {outside : ω}
  {actions first : List (Action ω)}

theorem begunBy_move (f : Fleet) (actions : List (Action ω)) :
    begunBy (actions.map f.move) = (callsOf actions).map f.program := by
  induction actions with
  | nil => rfl
  | cons a actions ih =>
      cases a with
      | call call => exact congrArg (List.cons _) ih
      | _ => exact ih

variable (o memory outside)

/-- The trace of some actions accounts for where they lead. -/
theorem account (hfirst : first <+: actions) :
    Machine.Account memory ((callsOf actions).map f.program) (f.trace o memory outside first)
      (f.run o memory outside first) := by
  rw [← begunBy_move]
  refine Machine.account_run memory outside (hfirst.map f.move) fun p hp => ?_
  rw [begunBy_move] at hp
  obtain ⟨call, -, rfl⟩ := List.mem_map.mp hp
  exact bracketed_program call

theorem begun_run (first : List (Action ω)) :
    (f.run o memory outside first).begun = (callsOf first).length := by
  rw [run, Machine.begun_run, begunBy_move, List.length_map]
  exact Nat.zero_add _

/-- The trace of every run is a log. -/
theorem log_run (hfirst : first <+: actions) :
    f.Log (callsOf actions) (f.trace o memory outside first) := by
  have haccount := f.account o memory outside hfirst
  constructor
  · exact haccount.exclusive
  · intro e he
    have hlt := haccount.begun e he
    rw [begun_run] at hlt
    exact Nat.lt_of_lt_of_le hlt (hfirst.filterMap _).length_le
  · intro k call hcall
    refine allows_of_performs (haccount.performed k _ ?_)
    rw [List.getElem?_map, hcall, Option.map_some]

/-- What happened stays so. -/
theorem prefix_trace (hfirst : first <+: actions) :
    f.trace o memory outside first <+: f.trace o memory outside actions := by
  obtain ⟨rest, rfl⟩ := hfirst
  rw [trace, trace, List.map_append, Machine.trace_append]
  exact List.prefix_append ..

variable {o memory outside}

/-- What a call is about to do is allowed. -/
theorem pending (hfirst : first <+: actions) {t : Task Reply}
    (ht : t ∈ (f.run o memory outside first).tasks) {operation : Operation}
    {next : operation.Answer → Program Reply} (hp : t.program = .perform operation next) :
    ∃ call, (callsOf actions)[t.number]? = some call ∧
      (f.rule call).allows (stepsOf t.number (f.trace o memory outside first)) operation := by
  obtain ⟨p, hprogram, hpath⟩ := ((f.account o memory outside hfirst).task t ht).path
  rw [List.getElem?_map] at hprogram
  obtain ⟨call, hcall, rfl⟩ := Option.map_eq_some_iff.mp hprogram
  rw [hp] at hpath
  have hallows := (obeys_program call).pending hpath
  obtain ⟨may, hrule⟩ := f.exists_guarded call
  rw [hrule, Rule.guarded, Rule.after_ofHistory, List.nil_append] at hallows
  refine ⟨call, hcall, ?_⟩
  rw [hrule]
  exact hallows

/-- What a call returned is what it leaves. -/
theorem exists_fulfils (hfirst : first <+: actions) {k : Nat} {reply : Reply}
    (hr : (k, reply) ∈ (f.run o memory outside first).results) :
    ∃ call, (callsOf actions)[k]? = some call ∧
      f.Fulfils (stepsOf k (f.trace o memory outside first)) call reply := by
  obtain ⟨p, hprogram, hpath⟩ := (f.account o memory outside hfirst).result _ hr
  rw [List.getElem?_map] at hprogram
  obtain ⟨call, hcall, rfl⟩ := Option.map_eq_some_iff.mp hprogram
  have hdone := ((obeys_program call).result hpath).2
  obtain ⟨may, hrule⟩ := f.exists_guarded call
  rw [hrule, Rule.guarded, Rule.after_ofHistory, List.nil_append] at hdone
  exact ⟨call, hcall, hdone⟩

theorem fulfils (hfirst : first <+: actions) {k : Nat} {reply : Reply}
    (hr : (k, reply) ∈ (f.run o memory outside first).results) {call : Call}
    (hcall : (callsOf actions)[k]? = some call) :
    f.Fulfils (stepsOf k (f.trace o memory outside first)) call reply := by
  obtain ⟨call', hcall', hfulfils⟩ := exists_fulfils hfirst hr
  cases hcall'.symm.trans hcall
  exact hfulfils

/-- What happens between two times leads from one memory to the other. -/
theorem runs_of_trace {last : List (Action ω)} {later : List Event}
    (htrace : f.trace o memory outside last = f.trace o memory outside first ++ later) :
    (f.run o memory outside first).shared.memory.Runs (later.map Event.step)
      (f.run o memory outside last).shared.memory := by
  have hfirst := (f.account o memory outside (List.prefix_rfl (l := first))).memory
  have hlast := (f.account o memory outside (List.prefix_rfl (l := last))).memory
  rw [htrace, List.map_append] at hlast
  obtain ⟨middle, hmiddle, hlater⟩ := Memory.runs_append.mp hlast
  obtain rfl := hmiddle.unique hfirst
  exact hlater

variable (o memory outside) in
/-- A move leaves the memory, or is a step of a call. -/
theorem move_cases (first : List (Action ω)) (a : Action ω) :
    (f.run o memory outside (first ++ [a])).shared.memory =
        (f.run o memory outside first).shared.memory ∨
      ∃ k x, a = .step k ∧
        f.trace o memory outside (first ++ [a]) = f.trace o memory outside first ++ [⟨k, x⟩] ∧
        (f.run o memory outside first).shared.memory.Tells x ∧
        (f.run o memory outside (first ++ [a])).shared.memory =
          (f.run o memory outside first).shared.memory.after x := by
  have htrace : f.trace o memory outside (first ++ [a]) = f.trace o memory outside first ++
      (f.run o memory outside first).events o (f.move a) := by
    rw [trace, List.map_append, Machine.trace_append]
    exact congrArg _ (List.append_nil _)
  have hmove := runs_of_trace htrace
  cases a with
  | call call => exact .inl hmove.symm
  | change g => exact .inl hmove.symm
  | abandon k =>
      obtain ⟨held, hheld⟩ := (f.run o memory outside first).events_abandon (o := o) k
      have hmove : Memory.Runs _ ((Machine.events o _ (.abandon k)).map Event.step) _ := hmove
      rw [hheld] at hmove
      exact .inl (hmove.unique (Machine.Account.runs_giveBack _ held))
  | step k =>
      have hmove : Memory.Runs _ ((Machine.events o _ (.step k)).map Event.step) _ := hmove
      rcases (f.run o memory outside first).events_step (o := o) k with hnil | ⟨x, hx⟩
      · rw [hnil] at hmove
        exact .inl hmove.symm
      · rw [hx] at hmove
        refine .inr ⟨k, x, rfl, ?_, hmove.1, hmove.2.symm⟩
        rw [htrace]
        exact congrArg _ hx

end

/-! ## A fleet to look at -/

/-- A vCenter and a session manager that let everybody in. -/
def welcoming : Outside Unit where
  ask _ question s :=
    (match question with
      | .newClient .. => some (.ok { number := 1 })
      | .login .. => some (.ok ())
      | .cloneSession .. => some (.ok ())
      | .sharedToken .. => some (.ok "shared")
      | .withRetry client budget => some { client with retries := some budget }
      | .userSession _ => some (.ok (some { user := "k8s" }))
      | _ => none, s)
  collect _ _ s := (none, s)
  cancel _ s := ([], s)

/-- Many connections to one vCenter. -/
def oneVcenter : Fleet where
  options _ := { hostname := "vcenter" }
  tokenSource _ := .sessionManager
  connectLock := 0

end Fleet

end VcenterAccess
