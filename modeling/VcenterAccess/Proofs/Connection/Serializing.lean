import VcenterAccess.Proofs.Connection.Publishing
import VcenterAccess.Proofs.Machine.Replay

/-!
# Calls in sequence

Calls keep to two phases with their locks, so the events of every run can be sorted by calls
(`agree_inOrder`).  Sorted, each call does what it does alone; so the same calls, made one
after the other in that order, do the same (`serializable`).

A change of credentials does not take the connect lock, and may happen while a connect is at
work.  The order is that of the last locks that were taken.  For a connect that logs in this
is the credentials lock; so a change comes before it or after it, whatever the connect asked
of the outside before.
-/

namespace VcenterAccess.Fleet

open Connection (Reply)

/-! ## Connects in sequence -/

/-- Whether a connect failed. -/
def failed : Reply → Bool
  | .connected (.error _) => true
  | _ => false

/-- Whether a client was asked for its session, and it had none or did not say. -/
def missesSession : Exchange → Bool
  | ⟨.userSession _, .ok (some _)⟩ => false
  | ⟨.userSession _, _⟩ => true
  | _ => false

/-- All connects of a connection succeed, no session is found to be over, and nobody logs
out. -/
structure Calm (f : Fleet) (calls : List Call) (n : Nat) (events : List Event) : Prop where
  allowed : ∀ k call, calls[k]? = some call → (f.rule call).Allows [] (stepsOf k events)
  connected : ∀ k, calls[k]? = some (.connect n) →
    (f.connection n).Connected (stepsOf k events) (.ok ())
  session : ∀ k, calls[k]? = some (.connect n) →
    ∀ e ∈ exchanges (stepsOf k events), missesSession e = false
  kept : .logOut n ∉ calls

/-- A connect finds the session of a client. -/
def FindsSession (client : Client) (h : List Step) : Prop :=
  ∃ session, exchanges h = [⟨.userSession client, .ok (some session)⟩]

section

variable {f : Fleet} {calls : List Call} {events : List Event} {n k : Nat} {m m' : Memory}
  {client : Client} {order : List Nat}

/-- What a call does that does not change a client leaves it. -/
theorem client_of_steps {call : Call} {h : List Step} (hall : (f.rule call).Allows [] h)
    (hcall : call.changesClient n = false) (hruns : m.Runs h m') : m'.client n = m.client n := by
  obtain ⟨may, hrule⟩ := f.exists_guarded call
  rw [hrule] at hall
  induction h using List.reverseRecOn generalizing m' with
  | nil =>
      obtain rfl : m = m' := hruns
      rfl
  | append_singleton h x ih =>
      obtain ⟨hbefore, hallows⟩ := guarded_concat.mp hall
      obtain ⟨middle, hmiddle, -, rfl⟩ := Memory.runs_concat.mp hruns
      rcases client_after_cases n middle x with hkept | ⟨client, hx, -⟩
      · rw [hkept, ih hmiddle hbefore]
      · rw [← hrule, hx] at hallows
        rcases allows_setClient hallows with ⟨rfl, -⟩ | ⟨rfl, -⟩ <;>
          simp [Call.changesClient] at hcall

namespace Calm

/-- If there is a client, a connect finds its session, because a session that is over would have
been noticed; and it logs a client in if not. -/
theorem connect (hcalm : f.Calm calls n events) (hcall : calls[k]? = some (.connect n))
    (hruns : m.Runs (stepsOf k events) m') :
    ∃ client, m'.client n = some client ∧
      (m.client n = some client ∧ FindsSession client (stepsOf k events) ∨
        m.client n = none ∧ (f.connection n).Produces (exchanges (stepsOf k events)) client) := by
  have hsession := hcalm.session k hcall
  rcases hcalm.connected k hcall with ⟨client, session, -, hsteps⟩ | ⟨g, hsteps, hrenewed⟩
  case inl =>
    rw [hsteps] at hruns ⊢
    obtain ⟨-, hfound, -, -, rfl⟩ := hruns
    exact ⟨client, hfound.symm, .inl ⟨hfound.symm, session, rfl⟩⟩
  case inr =>
    obtain ⟨client, hknown, opening, rest, hopening, rfl, hes⟩ := hrenewed
    rw [hsteps] at hruns hsession ⊢
    have hclient : m'.client n = some client := by
      obtain ⟨middle, hbefore, -, rfl⟩ := Memory.runs_concat.mp hruns
      exact Cell.read_of_runs hbefore hknown
    refine ⟨client, hclient, .inr ?_⟩
    cases hopening with
    | absent =>
        refine ⟨hruns.2.1.symm, ?_⟩
        rw [exchanges_concat_silent rfl]
        exact hes
    | expired client' answer hanswer =>
        have hpresent := hsession ⟨.userSession client', answer⟩ (mem_exchanges.mpr (by simp))
        cases answer with
        | error cause => cases hpresent
        | ok session =>
            cases session with
            | none => cases hpresent
            | some session => exact absurd rfl (hanswer session)

/-- A call is a connect, or leaves the client. -/
theorem connect_or_keeps (hcalm : f.Calm calls n events) (hk : k < calls.length)
    (hruns : m.Runs (stepsOf k events) m') :
    calls[k]? = some (.connect n) ∨
      calls[k]? ≠ some (.connect n) ∧ m'.client n = m.client n := by
  by_cases hconnect : calls[k]? = some (.connect n)
  · exact .inl hconnect
  · refine .inr ⟨hconnect, ?_⟩
    have hcall := List.getElem?_eq_getElem hk
    have hlogOut : calls[k] ≠ .logOut n := fun h => hcalm.kept (h ▸ List.getElem_mem hk)
    rw [hcall] at hconnect
    refine client_of_steps (hcalm.allowed k _ hcall) ?_ hruns
    cases hcase : calls[k] with
    | connect j => simpa [Call.changesClient, hcase] using hconnect
    | logOut j => simpa [Call.changesClient, hcase] using hlogOut
    | update j credentials => rfl

/-- As soon as there is a client, all connects find its session. -/
theorem all_find (hcalm : f.Calm calls n events) (hbegun : ∀ k ∈ order, k < calls.length)
    (hruns : m.Runs (order.flatMap fun k => stepsOf k events) m')
    (hclient : m.client n = some client) :
    m'.client n = some client ∧ ∀ k ∈ order, calls[k]? = some (.connect n) →
      FindsSession client (stepsOf k events) := by
  induction order generalizing m with
  | nil =>
      obtain rfl : m = m' := hruns
      exact ⟨hclient, by simp⟩
  | cons k order ih =>
      rw [List.flatMap_cons] at hruns
      obtain ⟨hk, hbegun⟩ := List.forall_mem_cons.mp hbegun
      obtain ⟨middle, hfirst, hlater⟩ := Memory.runs_append.mp hruns
      rcases hcalm.connect_or_keeps hk hfirst with hconnect | ⟨hother, hkept⟩
      case inl =>
        obtain ⟨found, hmiddle, ⟨hfound, hfinds⟩ | ⟨hnone, -⟩⟩ := hcalm.connect hconnect hfirst
        · obtain rfl : found = client := Option.some.inj (hfound.symm.trans hclient)
          obtain ⟨hlast, hall⟩ := ih hbegun hlater hmiddle
          exact ⟨hlast, List.forall_mem_cons.mpr ⟨fun _ => hfinds, hall⟩⟩
        · cases hnone.symm.trans hclient
      case inr =>
        obtain ⟨hlast, hall⟩ := ih hbegun hlater (hkept.trans hclient)
        exact ⟨hlast, List.forall_mem_cons.mpr ⟨fun hconnect => absurd hconnect hother, hall⟩⟩

/-- If there is no client at first, the first connect logs one in, and all others find its
session. -/
theorem one_logs_in (hcalm : f.Calm calls n events) (hbegun : ∀ k ∈ order, k < calls.length)
    (hruns : m.Runs (order.flatMap fun k => stepsOf k events) m') (hclient : m.client n = none)
    (hsome : ∃ k ∈ order, calls[k]? = some (.connect n)) :
    ∃ k client, calls[k]? = some (.connect n) ∧
      (f.connection n).Produces (exchanges (stepsOf k events)) client ∧
      m'.client n = some client ∧ ∀ j ∈ order, j ≠ k → calls[j]? = some (.connect n) →
        FindsSession client (stepsOf j events) := by
  induction order generalizing m with
  | nil => simp at hsome
  | cons k order ih =>
      rw [List.flatMap_cons] at hruns
      obtain ⟨hk, hbegun⟩ := List.forall_mem_cons.mp hbegun
      obtain ⟨middle, hfirst, hlater⟩ := Memory.runs_append.mp hruns
      rcases hcalm.connect_or_keeps hk hfirst with hconnect | ⟨hother, hkept⟩
      case inl =>
        obtain ⟨client, hmiddle, ⟨hfound, -⟩ | ⟨-, hproduces⟩⟩ := hcalm.connect hconnect hfirst
        · cases hfound.symm.trans hclient
        · obtain ⟨hlast, hall⟩ := hcalm.all_find hbegun hlater hmiddle
          refine ⟨k, client, hconnect, hproduces, hlast, fun j hj hne => hall j ?_⟩
          exact (List.mem_cons.mp hj).resolve_left hne
      case inr =>
        have hsomeLater : ∃ j ∈ order, calls[j]? = some (.connect n) := by
          obtain ⟨j, hj, hconnect⟩ := hsome
          rcases List.mem_cons.mp hj with rfl | hj
          · exact absurd hconnect hother
          · exact ⟨j, hj, hconnect⟩
        obtain ⟨first, client, hconnect, hproduces, hlast, hall⟩ :=
          ih hbegun hlater (hkept.trans hclient) hsomeLater
        refine ⟨first, client, hconnect, hproduces, hlast, List.forall_mem_cons.mpr ⟨?_, hall⟩⟩
        exact fun _ hconnect => absurd hconnect hother

end Calm

end

/-! ## Sequences of calls -/

section

variable {ω : Type} (f : Fleet) (o : Outside ω) (memory : Memory) (outside : ω)
  (actions : List (Action ω))

/-- A call returned before another was made. -/
def Precedes (j k : Nat) : Prop :=
  ∃ first reply, first <+: actions ∧ (j, reply) ∈ (f.run o memory outside first).results ∧
    (callsOf first).length ≤ k

/-- Every call returned. -/
def AllReturn : Prop :=
  ∀ k < (callsOf actions).length, ∃ reply, (k, reply) ∈ (f.run o memory outside actions).results

/-- The same calls one after the other, with an outside that only gives the answers in
`expected`.  The call in a place of the sequence is the one whose number has that place in
`order`. -/
structure Sequence (order : List Nat) (expected : List Exchange)
    (sequence : List (Action (List Exchange))) : Prop where
  perm : order.Perm (List.range (callsOf actions).length)
  /-- What returned before is called before. -/
  respects : order.Pairwise fun j k => ¬ f.Precedes o memory outside actions k j
  calls : (callsOf sequence).map some = order.map ((callsOf actions)[·]?)
  /-- Nothing is called before all that was called returned. -/
  alone : ∀ first call later, sequence = first ++ .call call :: later →
    (f.run .replay memory expected first).tasks = []
  finished : (f.run .replay memory expected sequence).tasks = []
  /-- All calls return the same. -/
  results : ∀ i reply, (i, reply) ∈ (f.run .replay memory expected sequence).results ↔
    ∃ k, order[i]? = some k ∧ (k, reply) ∈ (f.run o memory outside actions).results
  /-- What a call asks is asked without anything of another call in between. -/
  undivided : talk (f.trace o memory outside actions) =
    order.flatMap fun k =>
      (exchanges (stepsOf k (f.trace o memory outside actions))).map (Prod.mk k)
  /-- They ask the same in the same order, and are answered the same. -/
  talk : (talk (f.trace .replay memory expected sequence)).map (Prod.map (order[·]?) id) =
    (talk (f.trace o memory outside actions)).map (Prod.map some id)
  /-- They leave the same. -/
  memory : (f.run .replay memory expected sequence).shared.memory =
    (f.run o memory outside actions).shared.memory

/-- What some calls do together, they do in sequence. -/
structure Serializable : Prop where
  returned : f.AllReturn o memory outside actions
  sequence : ∃ order expected sequence, f.Sequence o memory outside actions order expected sequence
  /-- Nobody asks while another waits for an answer. -/
  asking : ∀ first, first <+: actions → ∀ t ∈ (f.run o memory outside first).tasks,
    ∀ t' ∈ (f.run o memory outside first).tasks, ∀ question question' next next',
    t.program = .perform (.ask question) next → t'.program = .perform (.ask question') next' →
    t.number = t'.number
  /-- Connects of a connection without a client log in once, unless a login fails, a session
  is over or somebody logs out. -/
  once : ∀ n, memory.client n = none → (∃ k : Nat, (callsOf actions)[k]? = some (.connect n)) →
    .logOut n ∉ callsOf actions →
    (∀ r ∈ (f.run o memory outside actions).results,
      (callsOf actions)[r.1]? = some (.connect n) → failed r.2 = false) →
    (∀ k : Nat, (callsOf actions)[k]? = some (.connect n) →
      ∀ e ∈ exchanges (stepsOf k (f.trace o memory outside actions)), missesSession e = false) →
    ∃ (k : Nat) (client : Client), (callsOf actions)[k]? = some (.connect n) ∧
      (f.connection n).Produces (exchanges (stepsOf k (f.trace o memory outside actions))) client ∧
      (f.run o memory outside actions).shared.memory.client n = some client ∧
      ∀ j : Nat, j ≠ k → (callsOf actions)[j]? = some (.connect n) →
        FindsSession client (stepsOf j (f.trace o memory outside actions))

end

/-- Some calls in sequence: each is made, makes the steps that it made in a trace, and
returns. -/
def inSequence (call : Nat → Call) (events : List Event) :
    Nat → List Nat → List (Action (List Exchange))
  | _, [] => []
  | number, k :: order =>
      .call (call k) :: List.replicate ((stepsOf k events).length + 1) (.step number) ++
        inSequence call events (number + 1) order

/-- A call as a turn. -/
def turn (f : Fleet) (call : Nat → Call) (reply : Nat → Reply) (events : List Event) (k : Nat) :
    Machine.Turn Reply where
  program := f.program (call k)
  steps := stepsOf k events
  result := reply k

theorem map_move_inSequence (f : Fleet) (call : Nat → Call) (reply : Nat → Reply)
    (events : List Event) (number : Nat) (order : List Nat) :
    (inSequence call events number order).map f.move =
      Machine.inTurn number (order.map (f.turn call reply events)) := by
  induction order generalizing number with
  | nil => rfl
  | cons k order ih =>
      rw [inSequence, List.map_append, ih, List.map_cons, List.map_replicate]
      rfl

theorem callsOf_inSequence (call : Nat → Call) (events : List Event) (number : Nat)
    (order : List Nat) : callsOf (inSequence call events number order) = order.map call := by
  induction order generalizing number with
  | nil => rfl
  | cons k order ih =>
      rw [inSequence, callsOf, List.filterMap_append, ← callsOf, ← callsOf, ih]
      simp [callsOf, Action.call?]

section

variable {ω : Type} {f : Fleet} {o : Outside ω} {memory : Memory} {outside : ω}
  {actions first : List (Action ω)}

theorem prefix_results (hfirst : first <+: actions) :
    (f.run o memory outside first).results <+: (f.run o memory outside actions).results := by
  obtain ⟨rest, rfl⟩ := hfirst
  rw [run, run, List.map_append, Machine.run_append]
  exact Machine.prefix_results_run ..

/-- If nobody is abandoned, and nobody is at work any more, all calls have returned. -/
theorem allReturn (hkept : ∀ k, .abandon k ∉ actions)
    (hfinished : (f.run o memory outside actions).tasks = []) :
    f.AllReturn o memory outside actions := by
  intro k hk
  have hmoves : ∀ k, .abandon k ∉ actions.map f.move := by
    intro k hmem
    obtain ⟨a, ha, hmove⟩ := List.mem_map.mp hmem
    cases a with
    | abandon j =>
        cases hmove
        exact hkept _ ha
    | _ => cases hmove
  have hknown := Machine.known_run (o := o) (m := Machine.idle memory outside) hmoves
    (fun _ hlt => absurd hlt (Nat.not_lt_zero _)) k
  rw [← run, begun_run] at hknown
  rcases hknown hk with htask | hresult
  · rw [hfinished] at htask
    cases htask
  · obtain ⟨⟨_, reply⟩, hmem, rfl⟩ := List.mem_map.mp hresult
    exact ⟨reply, hmem⟩

/-- A call returns only once. -/
theorem reply_unique {k : Nat} {reply reply' : Reply}
    (h : (k, reply) ∈ (f.run o memory outside actions).results)
    (h' : (k, reply') ∈ (f.run o memory outside actions).results) : reply = reply' := by
  have haccount := f.account o memory outside (List.prefix_rfl (l := actions))
  obtain ⟨p, hp, hpath⟩ := haccount.result _ h
  obtain ⟨p', hp', hpath'⟩ := haccount.result _ h'
  obtain rfl : p = p' := Option.some.inj (hp.symm.trans hp')
  cases hpath.unique hpath'
  rfl

/-- A call that returned makes no more steps. -/
theorem stepsOf_of_returned (hfirst : first <+: actions) {later : List Event}
    (htrace : f.trace o memory outside actions = f.trace o memory outside first ++ later)
    {k : Nat} {reply : Reply} (hreply : (k, reply) ∈ (f.run o memory outside first).results) :
    stepsOf k later = [] := by
  obtain ⟨p, hp, hpath⟩ := (f.account o memory outside hfirst).result _ hreply
  obtain ⟨p', hp', hpath'⟩ := (f.account o memory outside List.prefix_rfl).result _
    ((prefix_results hfirst).subset hreply)
  obtain rfl : p = p' := Option.some.inj (hp.symm.trans hp')
  rw [htrace, stepsOf_append] at hpath'
  exact hpath.eq_nil_of_done hpath'

theorem Fulfils.ne_nil {h : List Step} {call : Call} {reply : Reply}
    (hf : f.Fulfils h call reply) : h ≠ [] := by
  rintro rfl
  cases call with
  | connect n =>
      obtain ⟨_, -, ⟨_, _, -, heq⟩ | ⟨g, heq, -⟩⟩ := hf
      · cases heq
      · simp at heq
  | logOut n =>
      obtain ⟨-, g, heq, -⟩ := hf
      simp at heq
  | update n credentials =>
      obtain ⟨-, g, heq⟩ := hf
      simp at heq

/-- If all calls returned, the order of their last locks has them all. -/
theorem perm_lockOrder (hreturned : f.AllReturn o memory outside actions) :
    (lockOrder (f.trace o memory outside actions)).Perm (List.range (callsOf actions).length) := by
  have hlog := f.log_run o memory outside (List.prefix_rfl (l := actions))
  refine (List.perm_ext_iff_of_nodup (nodup_lockOrder _) List.nodup_range).mpr fun k => ?_
  rw [List.mem_range]
  constructor
  · intro hk
    obtain ⟨x, hx⟩ := List.exists_mem_of_ne_nil _ (stepsOf_ne_nil hk)
    exact hlog.begun _ (mem_stepsOf.mp hx)
  · intro hk
    obtain ⟨reply, hreply⟩ := hreturned k hk
    obtain ⟨call, -, hfulfils⟩ := exists_fulfils List.prefix_rfl hreply
    exact mem_lockOrder (hlog.disciplined k) hfulfils.ne_nil

/-- Calls that do not overlap keep their order. -/
theorem pairwise_not_precedes (f : Fleet) (o : Outside ω) (memory : Memory) (outside : ω)
    (actions : List (Action ω)) :
    (lockOrder (f.trace o memory outside actions)).Pairwise
      fun j k => ¬ f.Precedes o memory outside actions k j := by
  refine (pairwise_lockOrder_time _).imp fun {j k} htime => ?_
  rintro ⟨first, reply, hfirst, hreply, hlater⟩
  obtain ⟨later, htrace⟩ := f.prefix_trace o memory outside hfirst
  refine htime _ later htrace.symm (stepsOf_eq_nil fun e he heq => ?_)
    (stepsOf_of_returned hfirst htrace.symm hreply)
  have hlt := (f.account o memory outside hfirst).begun e he
  rw [begun_run] at hlt
  omega

/-- Sorted by calls, the steps lead to the same memory. -/
theorem runs_lockOrder (f : Fleet) (o : Outside ω) (memory : Memory) (outside : ω)
    (actions : List (Action ω)) :
    memory.Runs ((lockOrder (f.trace o memory outside actions)).flatMap
      fun k => stepsOf k (f.trace o memory outside actions))
      (f.run o memory outside actions).shared.memory := by
  have hlog := f.log_run o memory outside (List.prefix_rfl (l := actions))
  rw [← map_step_inOrder]
  exact ((agree_inOrder hlog.exclusive hlog.disciplined).runs _ _).mpr
    (f.account o memory outside List.prefix_rfl).memory

/-- Sorted by calls, the talk is the same. -/
theorem talk_lockOrder (f : Fleet) (o : Outside ω) (memory : Memory) (outside : ω)
    (actions : List (Action ω)) :
    talk (f.trace o memory outside actions) =
      (lockOrder (f.trace o memory outside actions)).flatMap fun k =>
        (exchanges (stepsOf k (f.trace o memory outside actions))).map (Prod.mk k) := by
  have hlog := f.log_run o memory outside (List.prefix_rfl (l := actions))
  rw [← talk_inOrder]
  exact (agree_inOrder hlog.exclusive hlog.disciplined).talk.symm

/-- Calls in sequence take the paths again on which they were seen. -/
theorem run_inSequence {call : Nat → Call} {reply : Nat → Reply} {events : List Event}
    {order : List Nat} {final : Memory} {expected : List Exchange}
    (hpath : ∀ k ∈ order, (f.program (call k)).Path (stepsOf k events) (.done (reply k)))
    (hruns : memory.Runs (order.flatMap fun k => stepsOf k events) final)
    (hexpected : exchanges (order.flatMap fun k => stepsOf k events) = expected) :
    (f.run .replay memory expected (inSequence call events 0 order)).Quiet final []
        (0 + (order.map (f.turn call reply events)).length)
        (Machine.resultsInTurn 0 (order.map (f.turn call reply events))) ∧
      f.trace .replay memory expected (inSequence call events 0 order) =
        Machine.eventsInTurn 0 (order.map (f.turn call reply events)) ∧
      (Machine.idle memory expected).Sequential .replay
        ((inSequence call events 0 order).map f.move) := by
  have hsteps : (order.map (f.turn call reply events)).flatMap Machine.Turn.steps =
      order.flatMap fun k => stepsOf k events := List.flatMap_map ..
  have hquiet : (Machine.idle memory expected : Machine _ Reply).Quiet memory
      (exchanges ((order.map (f.turn call reply events)).flatMap Machine.Turn.steps) ++ []) 0 [] :=
    { tasks := rfl
      free := fun _ _ => rfl
      memory := rfl
      outside := by rw [hsteps, hexpected, List.append_nil]; rfl
      begun := rfl
      results := rfl }
  rw [← hsteps] at hruns
  rw [run, trace, map_move_inSequence f call reply]
  refine Machine.run_inTurn (fun t ht => ?_) (fun t ht => ?_) hruns hquiet
  · obtain ⟨k, hk, rfl⟩ := List.mem_map.mp ht
    exact hpath k hk
  · obtain ⟨k, -, rfl⟩ := List.mem_map.mp ht
    exact bracketed_program (call k)

/-- The calls that returned, in the order of their last locks, do the same in sequence: each its
program, with its steps and its reply. -/
theorem exists_sequence (hreturned : f.AllReturn o memory outside actions) :
    ∃ order expected sequence,
      f.Sequence o memory outside actions order expected sequence := by
  have hperm := perm_lockOrder hreturned
  have hlt : ∀ k ∈ lockOrder (f.trace o memory outside actions), k < (callsOf actions).length :=
    fun k hk => List.mem_range.mp (hperm.mem_iff.mp hk)
  obtain ⟨call, hcall⟩ : ∃ call : Nat → Call, ∀ k < (callsOf actions).length,
      (callsOf actions)[k]? = some (call k) :=
    ⟨fun k => (callsOf actions).getD k (.connect 0), fun k hk => by simp [hk]⟩
  have : Nonempty Reply := ⟨.done⟩
  choose! reply hreply using show ∀ k < (callsOf actions).length, _ from hreturned
  have hpath : ∀ k ∈ lockOrder (f.trace o memory outside actions), (f.program (call k)).Path
      (stepsOf k (f.trace o memory outside actions)) (.done (reply k)) := by
    intro k hk
    obtain ⟨p, hp, hpath⟩ := (f.account o memory outside (List.prefix_rfl (l := actions))).result _
      (hreply k (hlt k hk))
    rw [List.getElem?_map, hcall k (hlt k hk)] at hp
    cases hp
    exact hpath
  obtain ⟨hend, htrace, hsequential⟩ := run_inSequence hpath
    (f.runs_lockOrder o memory outside actions) rfl
  refine ⟨_, _, _, {
    perm := hperm
    respects := f.pairwise_not_precedes o memory outside actions
    calls := ?calls
    alone := ?alone
    finished := hend.tasks
    results := ?results
    undivided := f.talk_lockOrder o memory outside actions
    talk := ?talk
    memory := hend.memory }⟩
  case calls =>
    rw [callsOf_inSequence, List.map_map]
    exact List.map_congr_left fun k hk => (hcall k (hlt k hk)).symm
  case alone =>
    intro first call' later heq
    refine hsequential (first.map f.move) (f.program call') (later.map f.move) ?_
    rw [heq, List.map_append]
    rfl
  case results =>
    intro i reply'
    rw [hend.results, Machine.mem_resultsInTurn]
    constructor
    · rintro ⟨j, t, ht, rfl, rfl⟩
      rw [List.getElem?_map] at ht
      obtain ⟨k, hk, rfl⟩ := Option.map_eq_some_iff.mp ht
      rw [Nat.zero_add]
      exact ⟨k, hk, hreply k (hlt k (List.mem_of_getElem? hk))⟩
    · rintro ⟨k, hk, hreply'⟩
      refine ⟨i, f.turn call reply (f.trace o memory outside actions) k, ?_, (Nat.zero_add i).symm,
        reply_unique hreply' (hreply k (hlt k (List.mem_of_getElem? hk)))⟩
      rw [List.getElem?_map, hk, Option.map_some]
  case talk =>
    rw [htrace, Machine.talk_eventsInTurn _ fun i => by rw [Nat.zero_add]]
    conv_rhs => rw [f.talk_lockOrder o memory outside actions, List.map_flatMap]
    simp only [List.map_map]
    rfl

/-- Who asks has the connect lock. -/
theorem mem_held_of_asks {call : Call} {h : List Step} {question : Question}
    (hallows : (f.rule call).allows h (.ask question)) :
    .connect f.connectLock ∈ heldAfter h := by
  obtain ⟨may, hrule⟩ := f.exists_guarded call
  rw [hrule] at hallows
  rw [← held_lockingAfter f.connectLock]
  exact hallows.1

/-- Only one connect of a connection logs in, and all others find its session. -/
theorem Calm.one_of_all {n : Nat}
    (hcalm : f.Calm (callsOf actions) n (f.trace o memory outside actions))
    (hreturned : f.AllReturn o memory outside actions)
    (hclient : memory.client n = none) (hsome : ∃ k : Nat, (callsOf actions)[k]? = some (.connect n)) :
    ∃ (k : Nat) (client : Client), (callsOf actions)[k]? = some (.connect n) ∧
      (f.connection n).Produces (exchanges (stepsOf k (f.trace o memory outside actions))) client ∧
      (f.run o memory outside actions).shared.memory.client n = some client ∧
      ∀ j : Nat, j ≠ k → (callsOf actions)[j]? = some (.connect n) →
        FindsSession client (stepsOf j (f.trace o memory outside actions)) := by
  have hmem : ∀ k, k ∈ lockOrder (f.trace o memory outside actions) ↔
      k < (callsOf actions).length := fun k =>
    (perm_lockOrder hreturned).mem_iff.trans List.mem_range
  have hplace : ∀ k : Nat, (callsOf actions)[k]? = some (.connect n) →
      k ∈ lockOrder (f.trace o memory outside actions) := fun k hk =>
    (hmem k).mpr (List.getElem?_eq_some_iff.mp hk).1
  obtain ⟨k, hk⟩ := hsome
  obtain ⟨first, client, hconnect, hproduces, hlast, hall⟩ := hcalm.one_logs_in
    (fun k hk => (hmem k).mp hk) (f.runs_lockOrder o memory outside actions) hclient
    ⟨k, hplace k hk, hk⟩
  exact ⟨first, client, hconnect, hproduces, hlast, fun j hne hj => hall j (hplace j hj) hne hj⟩

end

/-- Whatever calls do together, if all return, they do one after the other as well, in an
order that respects what returned before what was called. -/
theorem serializable {ω : Type} (f : Fleet) (o : Outside ω) (memory : Memory) (outside : ω)
    (actions : List (Action ω)) (hkept : ∀ k, .abandon k ∉ actions)
    (hfinished : (f.run o memory outside actions).tasks = []) :
    f.Serializable o memory outside actions := by
  have hlog := f.log_run o memory outside (List.prefix_rfl (l := actions))
  have hreturned := allReturn hkept hfinished
  refine ⟨hreturned, exists_sequence hreturned, ?asking, ?once⟩
  case asking =>
    intro first hfirst t ht t' ht' question question' next next' hp hp'
    obtain ⟨call, -, hallows⟩ := pending hfirst ht hp
    obtain ⟨call', -, hallows'⟩ := pending hfirst ht' hp'
    exact holder_unique (f.log_run o memory outside hfirst).exclusive (mem_held_of_asks hallows)
      (mem_held_of_asks hallows')
  case once =>
    intro n hclient hsome hlogOut hsucceeds hsessions
    refine Calm.one_of_all ⟨hlog.allowed, fun k hk => ?_, hsessions, hlogOut⟩ hreturned hclient hsome
    obtain ⟨reply, hreply⟩ := hreturned k (List.getElem?_eq_some_iff.mp hk).1
    obtain ⟨outcome, rfl, hconnected⟩ := fulfils List.prefix_rfl hreply hk
    cases outcome with
    | ok _ => exact hconnected
    | error e => cases hsucceeds _ hreply hk

/-- Two connects, and a change of credentials after the first of them looked for a client. -/
def overlapping : List (Action Unit) :=
  [.call (.connect 0), .step 0, .step 0, .call (.update 0 { username := "k8s", password := "p" }),
    .call (.connect 0), .step 2] ++
    List.replicate 5 (.step 1) ++ List.replicate 9 (.step 0) ++ List.replicate 5 (.step 2)

theorem serializable_overlapping :
    (∀ k, .abandon k ∉ overlapping) ∧ (oneVcenter.run welcoming {} () overlapping).tasks = [] ∧
      oneVcenter.Serializable welcoming {} () overlapping ∧
      ∃ (k : Nat) (client : Client), (callsOf overlapping)[k]? = some (.connect 0) ∧
        (oneVcenter.connection 0).Produces
          (exchanges (stepsOf k (oneVcenter.trace welcoming {} () overlapping))) client := by
  have hkept : ∀ k, .abandon k ∉ overlapping := by simp [overlapping]
  have hfinished : (oneVcenter.run welcoming {} () overlapping).tasks = [] :=
    List.eq_nil_of_length_eq_zero (by decide +kernel)
  have hserializable := serializable oneVcenter welcoming {} () overlapping hkept hfinished
  have hsucceeds : ∀ r ∈ (oneVcenter.run welcoming {} () overlapping).results,
      failed r.2 = false := by decide +kernel
  have hsessions : ∀ e ∈ exchanges
      ((oneVcenter.trace welcoming {} () overlapping).map Event.step), missesSession e = false := by
    decide +kernel
  obtain ⟨k, client, hcall, hproduces, -⟩ := hserializable.once 0 rfl ⟨0, rfl⟩ (by decide)
    (fun r hr _ => hsucceeds r hr) fun k _ e he =>
      hsessions e (mem_exchanges.mpr (List.mem_map_of_mem (mem_stepsOf.mp (mem_exchanges.mp he))))
  exact ⟨hkept, hfinished, hserializable, k, client, hcall, hproduces⟩

end VcenterAccess.Fleet
