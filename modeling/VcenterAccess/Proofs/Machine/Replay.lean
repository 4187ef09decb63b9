import VcenterAccess.Proofs.Machine.Serial

/-!
# One task after the other

A machine is sequential if a task only begins while no other is at work
(`Machine.Sequential`).  Its outside may be a replay, which knows what will be asked
and what is to be answered.

A program that is alone finds every lock free, so it takes the path that its memory and
the answers tell (`run_steps`).  Whatever path it has been seen to take, it takes again
under a replay of its exchanges, from the same memory (`run_alone`).  By induction that
holds for a list of programs, each on its own path (`run_inTurn`).
-/

namespace VcenterAccess

deriving instance DecidableEq for Question

/-- An outside that answers what is asked in turn, and nothing else. -/
def Outside.replay : Outside (List Exchange) where
  ask _ question expected :=
    match expected with
    | [] => (none, [])
    | ⟨next, answer⟩ :: rest =>
        if h : next = question then (some (h ▸ answer), rest) else (none, ⟨next, answer⟩ :: rest)
  collect _ _ expected := (none, expected)
  cancel _ expected := ([], expected)

theorem Outside.replay_ask (task : Nat) (question : Question) (answer : question.Answer)
    (rest : List Exchange) :
    replay.ask task question (⟨question, answer⟩ :: rest) = (some answer, rest) :=
  dif_pos rfl

/-- Some exchanges take place at once, and lead the outside from one state to another. -/
def Outside.Answers {ω : Type} (o : Outside ω) (task : Nat) : ω → List Exchange → ω → Prop
  | s, [], s' => s = s'
  | s, e :: es, s' => ∃ t, o.ask task e.question s = (some e.answer, t) ∧ o.Answers task t es s'

theorem Outside.answers_append {ω : Type} {o : Outside ω} {task : Nat} {s s' : ω}
    {es es' : List Exchange} :
    o.Answers task s (es ++ es') s' ↔ ∃ t, o.Answers task s es t ∧ o.Answers task t es' s' := by
  induction es generalizing s with
  | nil => simp [Answers]
  | cons e es ih =>
      rw [List.cons_append]
      constructor
      · rintro ⟨u, hu, hrest⟩
        obtain ⟨t, hes, hes'⟩ := ih.mp hrest
        exact ⟨t, ⟨u, hu, hes⟩, hes'⟩
      · rintro ⟨t, ⟨u, hu, hes⟩, hes'⟩
        exact ⟨u, hu, ih.mpr ⟨t, hes, hes'⟩⟩

/-- A replay answers what is expected. -/
theorem Outside.answers_replay (task : Nat) (es rest : List Exchange) :
    replay.Answers task (es ++ rest) es rest := by
  induction es with
  | nil => rfl
  | cons e es ih => exact ⟨es ++ rest, replay_ask task e.question e.answer (es ++ rest), ih⟩

/-- Just one task has some locks, and all others are free. -/
def Shared.Alone {ω : Type} (s : Shared ω) (task : Nat) (held : List Lock) : Prop :=
  ∀ lock, s.lock lock = if lock ∈ held then .held task [] else .free

/-- Who is alone need not wait for locks, and gets the answers that are given at once. -/
theorem Operation.perform_alone {ω : Type} {o : Outside ω} {task : Nat} {held : List Lock}
    {s : Shared ω} {operation : Operation} {answer : operation.Answer} {outside : ω}
    (halone : s.Alone task held) (hnodup : held.Nodup)
    (hallows : Rule.bracketing.allows held operation)
    (htells : s.memory.Tells ⟨operation, answer⟩)
    (houtside : o.Answers task s.outside (Step.exchange? ⟨operation, answer⟩).toList outside) :
    (operation.perform o task false held s).answer = some answer ∧
      (operation.perform o task false held s).shared.outside = outside ∧
      (operation.perform o task false held s).shared.Alone task
        (operation.perform o task false held s).held := by
  cases operation with
  | acquire lock =>
      have hfree : s.lock lock = .free := by rw [halone lock, if_neg hallows]
      have hjoined : (s.join lock task).lock lock = .held task [] := by
        rw [Shared.lock_join_self, hfree]
        rfl
      have hwaits : ((s.queue lock task false).lock lock).isAwaitedBy task = false := by
        rw [show s.queue lock task false = s.join lock task from rfl, hjoined]
        rfl
      rw [perform_acquire, hwaits, if_neg Bool.false_ne_true]
      refine ⟨rfl, houtside, fun lock' => ?_⟩
      by_cases hl : lock' = lock
      · subst hl
        exact hjoined.trans (if_pos (List.mem_cons_self ..)).symm
      · have hmem : lock' ∈ lock :: held ↔ lock' ∈ held := by simp [hl]
        change (s.join lock task).lock lock' = if lock' ∈ lock :: held then _ else _
        rw [Shared.lock_join_of_ne hl, halone lock']
        exact (if_congr hmem rfl rfl).symm
  | release lock =>
      refine ⟨rfl, houtside, fun lock' => ?_⟩
      change (s.release lock).lock lock' = if lock' ∈ held.erase lock then _ else _
      by_cases hl : lock' = lock
      · subst hl
        have hmem : lock' ∈ held := hallows
        rw [Shared.lock_release_self, halone lock', if_pos hmem, if_neg hnodup.not_mem_erase]
        rfl
      · rw [Shared.lock_release_of_ne hl, halone lock']
        exact (if_congr (List.mem_erase_of_ne hl) rfl rfl).symm
  | ask question =>
      obtain ⟨_, hask, rfl⟩ := houtside
      exact ⟨congrArg Prod.fst hask, congrArg Prod.snd hask, halone⟩
  | getClient connection =>
      obtain rfl : answer = s.memory.client connection := htells
      exact ⟨rfl, houtside, halone⟩
  | getLogin connection =>
      obtain rfl : answer = s.memory.login connection := htells
      exact ⟨rfl, houtside, halone⟩
  | getCache source =>
      obtain rfl : answer = s.memory.cache source := htells
      exact ⟨rfl, houtside, halone⟩
  | _ => exact ⟨rfl, houtside, halone⟩

namespace Machine

/-- A task only begins while no other is at work. -/
def Sequential {ω α : Type} (o : Outside ω) (m : Machine ω α) (schedule : List (Move ω α)) : Prop :=
  ∀ before p after, schedule = before ++ .begin p :: after → (m.run o before).tasks = []

/-- A machine without tasks, all of whose locks are free. -/
structure Quiet {ω α : Type} (m : Machine ω α) (memory : Memory) (outside : ω) (begun : Nat)
    (results : List (Nat × α)) : Prop where
  tasks : m.tasks = []
  free : ∀ number, m.shared.Alone number []
  memory : m.shared.memory = memory
  outside : m.shared.outside = outside
  begun : m.begun = begun
  results : m.results = results

variable {α : Type} {p : Program α} {h : List Step} {a : α} {number : Nat} {memory : Memory}
  {results : List (Nat × α)}

section

variable {ω : Type} {o : Outside ω} {m : Machine ω α} {outside : ω}

/-- A task that is alone goes on as its path says, and ends. -/
theorem run_steps (hpath : p.Path h (.done a)) {held : List Lock}
    (hobeys : p.Obeys .bracketing (fun held _ => held = []) held) (hnodup : held.Nodup)
    (htasks : m.tasks = [{ number, program := p, held }]) (halone : m.shared.Alone number held)
    (hruns : m.shared.memory.Runs h memory)
    (houtside : o.Answers number m.shared.outside (exchanges h) outside) :
    (m.run o (List.replicate (h.length + 1) (.step number))).Quiet memory outside m.begun
        (m.results ++ [(number, a)]) ∧
      m.trace o (List.replicate (h.length + 1) (.step number)) = h.map (Event.mk number) := by
  generalize hq : Program.done a = q at hpath
  induction hpath generalizing held m with
  | refl =>
      subst hq
      have htask : m.task? number = some { number, program := .done a, held } := by
        simp [task?, htasks]
      obtain ⟨hstep, hevents⟩ := step_of_done (o := o) htask rfl
      obtain rfl : held = [] := hobeys
      have hrun : m.run o [.step number] =
          { m with tasks := m.others number, results := m.results ++ [(number, a)] } := hstep
      have htrace : m.trace o [.step number] = [] := by
        rw [trace, hevents]
        rfl
      refine ⟨?_, htrace⟩
      change (m.run o [.step number]).Quiet ..
      rw [hrun]
      exact
        { tasks := by simp [others, htasks]
          free := fun _ => halone
          memory := hruns
          outside := houtside
          begun := rfl
          results := rfl }
  | @step operation next answer h q hpath ih =>
      have htask : m.task? number = some { number, program := .perform operation next, held } := by
        simp [task?, htasks]
      obtain ⟨htells, hruns⟩ := hruns
      rw [exchanges_cons] at houtside
      obtain ⟨middle, houtside, hlater⟩ := Outside.answers_append.mp houtside
      obtain ⟨hanswer, hmiddle, hshared⟩ :=
        Operation.perform_alone halone hnodup hobeys.1 htells houtside
      obtain ⟨hheld, -, hmemory⟩ := Operation.perform_some hanswer
      obtain ⟨hstep, hevents⟩ := step_of_answer htask rfl rfl hanswer
      have hone : (m.step o number).tasks =
          [{ number
             program := next answer
             held := (operation.perform o number false held m.shared).held }] := by
        rw [hstep]
        simp [replace, htasks]
      have hshares : (m.step o number).shared =
          (operation.perform o number false held m.shared).shared := by
        rw [hstep]
      have hresults : (m.step o number).results = m.results := by
        rw [hstep]
      rw [← hshares] at hmiddle hshared hmemory
      rw [← hmemory] at hruns
      rw [← hmiddle] at hlater
      rw [hheld] at hone hshared
      obtain ⟨hquiet, htrace⟩ := ih (hobeys.2 answer) (nodup_next hnodup hobeys.1) hone hshared
        hruns hlater hq
      rw [begun_step, hresults] at hquiet
      refine ⟨hquiet, ?_⟩
      change m.events o (.step number) ++ (m.step o number).trace o _ = _
      rw [hevents]
      exact congrArg (List.cons _) htrace

end

/-! ## Many tasks in turn -/

/-- What one task does: its program, the steps on its path and its result. -/
structure Turn (α : Type) where
  program : Program α
  steps : List Step
  result : α

/-- The moves of a task that is alone. -/
def Turn.moves (t : Turn α) (number : Nat) : List (Move (List Exchange) α) :=
  .begin t.program :: List.replicate (t.steps.length + 1) (.step number)

/-- The moves of tasks, one after the other. -/
def inTurn : Nat → List (Turn α) → List (Move (List Exchange) α)
  | _, [] => []
  | number, t :: turns => t.moves number ++ inTurn (number + 1) turns

/-- What happens in them. -/
def eventsInTurn : Nat → List (Turn α) → List Event
  | _, [] => []
  | number, t :: turns => t.steps.map (Event.mk number) ++ eventsInTurn (number + 1) turns

/-- What comes out. -/
def resultsInTurn : Nat → List (Turn α) → List (Nat × α)
  | _, [] => []
  | number, t :: turns => (number, t.result) :: resultsInTurn (number + 1) turns

variable {m : Machine (List Exchange) α} {rest : List Exchange}

/-- A task that is alone takes its path again. -/
theorem run_alone {t : Turn α} (hpath : t.program.Path t.steps (.done t.result))
    (hb : t.program.Bracketed) {start : Memory} (hruns : start.Runs t.steps memory)
    (hquiet : m.Quiet start (exchanges t.steps ++ rest) number results) :
    (m.run .replay (t.moves number)).Quiet memory rest (number + 1)
        (results ++ [(number, t.result)]) ∧
      m.trace .replay (t.moves number) = t.steps.map (Event.mk number) := by
  obtain ⟨htasks, hfree, rfl, houtside, rfl, rfl⟩ := hquiet
  have hone : (m.begin t.program).tasks = [{ number := m.begun, program := t.program }] := by
    simp [begin, htasks]
  refine run_steps (m := m.begin t.program) hpath hb List.nodup_nil hone (hfree m.begun) hruns ?_
  change Outside.replay.Answers m.begun m.shared.outside _ _
  rw [houtside]
  exact Outside.answers_replay ..

theorem Sequential.append {ω : Type} {o : Outside ω} {m : Machine ω α}
    {first second : List (Move ω α)} (hfirst : m.Sequential o first)
    (hsecond : (m.run o first).Sequential o second) : m.Sequential o (first ++ second) := by
  intro before p after heq
  rcases List.append_eq_append_iff.mp heq with ⟨middle, rfl, hmiddle⟩ | ⟨middle, rfl, hmiddle⟩
  · rw [run_append]
    exact hsecond middle p after hmiddle
  · cases middle with
    | nil =>
        rw [List.append_nil] at hsecond
        exact hsecond [] p after hmiddle.symm
    | cons x middle =>
        obtain ⟨rfl, -⟩ := List.cons_eq_cons.mp hmiddle
        exact hfirst before p middle rfl

/-- A task that begins alone stays alone. -/
theorem sequential_moves {t : Turn α} (h : m.tasks = []) : m.Sequential .replay (t.moves number) := by
  intro before p after heq
  cases before with
  | nil => exact h
  | cons x before =>
      have hmem : (.begin p : Move (List Exchange) α) ∈
          List.replicate (t.steps.length + 1) (.step number) := by
        rw [(List.cons_eq_cons.mp heq).2]
        simp
      cases (List.mem_replicate.mp hmem).2

/-- Tasks in turn take their paths again. -/
theorem run_inTurn {turns : List (Turn α)}
    (hpath : ∀ t ∈ turns, t.program.Path t.steps (.done t.result))
    (hb : ∀ t ∈ turns, t.program.Bracketed) {start : Memory}
    (hruns : start.Runs (turns.flatMap Turn.steps) memory)
    (hquiet : m.Quiet start (exchanges (turns.flatMap Turn.steps) ++ rest) number results) :
    (m.run .replay (inTurn number turns)).Quiet memory rest (number + turns.length)
        (results ++ resultsInTurn number turns) ∧
      m.trace .replay (inTurn number turns) = eventsInTurn number turns ∧
      m.Sequential .replay (inTurn number turns) := by
  induction turns generalizing m number start results with
  | nil =>
      obtain rfl : start = memory := hruns
      refine ⟨?_, rfl, fun before p after heq => by simp [inTurn] at heq⟩
      rw [resultsInTurn, List.append_nil]
      exact hquiet
  | cons t turns ih =>
      rw [List.flatMap_cons] at hruns hquiet
      obtain ⟨between, hfirst, hlater⟩ := Memory.runs_append.mp hruns
      rw [exchanges_append, List.append_assoc] at hquiet
      obtain ⟨hnext, htrace⟩ := run_alone (hpath t (List.mem_cons_self ..))
        (hb t (List.mem_cons_self ..)) hfirst hquiet
      obtain ⟨hend, hrest, hsequential⟩ := ih (fun u hu => hpath u (List.mem_cons_of_mem _ hu))
        (fun u hu => hb u (List.mem_cons_of_mem _ hu)) hlater hnext
      rw [inTurn, run_append, trace_append, htrace, hrest]
      refine ⟨?_, rfl, (sequential_moves hquiet.tasks).append hsequential⟩
      rw [List.append_assoc] at hend
      rw [List.length_cons, ← Nat.add_assoc, Nat.add_right_comm]
      exact hend

/-- Tasks in turn say what each of them says. -/
theorem talk_eventsInTurn (turn : Nat → Turn α) {label : Nat → Option Nat} {number : Nat}
    {order : List Nat} (hlabel : ∀ i, label (number + i) = order[i]?) :
    (talk (eventsInTurn number (order.map turn))).map (Prod.map label id) =
      order.flatMap fun k => (exchanges (turn k).steps).map (Prod.mk (some k)) := by
  induction order generalizing number with
  | nil => rfl
  | cons k order ih =>
      have hfirst : label number = some k := hlabel 0
      rw [List.map_cons, eventsInTurn, talk_append, List.map_append, talk_map_mk, List.map_map,
        List.flatMap_cons, ih fun i => ?_]
      · refine congrArg (· ++ _) (List.map_congr_left fun e _ => ?_)
        simp [hfirst]
      · rw [Nat.add_assoc, Nat.add_comm 1 i]
        exact hlabel (i + 1)

/-- Results in turn are numbered in turn. -/
theorem mem_resultsInTurn {number i : Nat} {a : α} {turns : List (Turn α)} :
    (i, a) ∈ resultsInTurn number turns ↔
      ∃ j t, turns[j]? = some t ∧ i = number + j ∧ a = t.result := by
  induction turns generalizing number with
  | nil => simp [resultsInTurn]
  | cons t turns ih =>
      rw [resultsInTurn, List.mem_cons, ih]
      constructor
      · rintro (h | ⟨j, u, hu, rfl, rfl⟩)
        · cases h
          exact ⟨0, t, rfl, rfl, rfl⟩
        · exact ⟨j + 1, u, hu, by omega, rfl⟩
      · rintro ⟨j, u, hu, rfl, rfl⟩
        cases j with
        | zero =>
            cases hu
            exact .inl rfl
        | succ j => exact .inr ⟨j, u, hu, by omega, rfl⟩

end Machine

end VcenterAccess
