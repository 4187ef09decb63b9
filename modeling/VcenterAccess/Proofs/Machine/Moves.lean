import VcenterAccess.Proofs.Machine.Holding

/-!
# What a move can be

A move is one of a few things: a task begins, ends, waits, goes on or is abandoned,
something changes outside, or nothing happens (`Machine.Makes`).  An invariant of a machine
is shown for each of them.

Only some of them concern the outside: a task that asks or looks for its answer
(`Outside.turn`), a task that is abandoned while it waits for one, and a change.
-/

namespace VcenterAccess

/-! ## Asking -/

/-- A task asks, or looks for the answer if it waits for one. -/
def Outside.turn {ω : Type} (o : Outside ω) (task : Nat) (waits : Bool) (question : Question)
    (s : ω) : Option question.Answer × ω :=
  if waits then o.collect task question s else o.ask task question s

section

variable {ω : Type} {o : Outside ω} {task : Nat} {waits : Bool} {held : List Lock} {s : Shared ω}

theorem Operation.perform_ask (question : Question) :
    (Operation.ask question).perform o task waits held s =
      ⟨(o.turn task waits question s.outside).1, held,
        { s with outside := (o.turn task waits question s.outside).2 }⟩ := rfl

/-- Only questions change something outside. -/
theorem Operation.outside_perform {operation : Operation}
    (h : ∀ question, operation ≠ .ask question) :
    (operation.perform o task waits held s).shared.outside = s.outside := by
  cases operation with
  | acquire lock =>
      rw [shared_perform_acquire]
      cases waits <;> rfl
  | ask question => exact absurd rfl (h question)
  | _ => rfl

theorem Shared.outside_giveBack (held : List Lock) (s : Shared ω) :
    (held.foldl Shared.release s).outside = s.outside := by
  induction held generalizing s with
  | nil => rfl
  | cons lock held ih =>
      rw [List.foldl_cons, ih]
      rfl

/-- Who is abandoned may give up a question. -/
theorem Task.outside_abandon {α : Type} (t : Task α) :
    (t.abandon o s).outside = s.outside ∨
      (t.abandon o s).outside = (o.cancel t.number s.outside).2 := by
  rw [Task.abandon, Shared.outside_giveBack]
  unfold Task.stopWaiting
  split
  · refine .inl ?_
    unfold Shared.leave
    split <;> rfl
  · exact .inr rfl
  · exact .inl rfl

theorem Task.memory_stopWaiting {α : Type} (t : Task α) :
    (t.stopWaiting o s).memory = s.memory := by
  unfold Task.stopWaiting
  split
  · exact Shared.memory_leave ..
  · rfl
  · rfl

/-- Who is abandoned leaves the memory. -/
theorem Task.memory_abandon {α : Type} (t : Task α) : (t.abandon o s).memory = s.memory :=
  (Shared.memory_giveBack t.held _).trans t.memory_stopWaiting

end

/-! ## Moves -/

namespace Machine

variable {ω α : Type} {o : Outside ω} {m : Machine ω α}

/-- What a move is, with the machine that it leads to and what happens. -/
inductive Makes (o : Outside ω) (m : Machine ω α) :
    Move ω α → Machine ω α → List Event → Prop where
  | begin (p : Program α) : Makes o m (.begin p) (m.begin p) []
  | change (f : ω → ω) : Makes o m (.change f) (m.change f) []
  /-- Nobody is there who could make the move. -/
  | nobody {x : Move ω α} (hx : x.program? = none) : Makes o m x m []
  | finish {t : Task α} {a : α} (ht : m.task? t.number = some t) (hp : t.program = .done a) :
      Makes o m (.step t.number)
        { m with tasks := m.others t.number, results := m.results ++ [(t.number, a)] } []
  | wait {t : Task α} {operation : Operation} {next : operation.Answer → Program α}
      (ht : m.task? t.number = some t) (hp : t.program = .perform operation next)
      (hans : (operation.perform o t.number t.waits t.held m.shared).answer = none) :
      Makes o m (.step t.number)
        { m with
          shared := (operation.perform o t.number t.waits t.held m.shared).shared
          tasks := m.replace t.number { t with waits := true } } []
  | answer {t : Task α} {operation : Operation} {next : operation.Answer → Program α}
      {answer : operation.Answer} (ht : m.task? t.number = some t)
      (hp : t.program = .perform operation next)
      (hans : (operation.perform o t.number t.waits t.held m.shared).answer = some answer) :
      Makes o m (.step t.number)
        { m with
          shared := (operation.perform o t.number t.waits t.held m.shared).shared
          tasks := m.replace t.number
            { t with
              program := next answer
              waits := false
              held := (operation.perform o t.number t.waits t.held m.shared).held } }
        [⟨t.number, operation, answer⟩]
  | abandon {t : Task α} (ht : m.task? t.number = some t) (hawaits : t.isInterruptible = true) :
      Makes o m (.abandon t.number)
        { m with shared := t.abandon o m.shared, tasks := m.others t.number }
        ((giveBack t.held).map (Event.mk t.number))

theorem makes_move (o : Outside ω) (m : Machine ω α) (x : Move ω α) :
    m.Makes o x (m.move o x) (m.events o x) := by
  cases x with
  | begin p => exact .begin p
  | change f => exact .change f
  | step number =>
      change m.Makes o _ (m.step o number) _
      cases ht : m.task? number with
      | none =>
          obtain ⟨hstep, hevents⟩ := step_of_none (o := o) ht
          rw [hstep, hevents]
          exact .nobody rfl
      | some t =>
          obtain ⟨-, rfl⟩ := mem_of_task? ht
          cases hp : t.program with
          | done a =>
              obtain ⟨hstep, hevents⟩ := step_of_done (o := o) ht hp
              rw [hstep, hevents]
              exact .finish ht hp
          | perform operation next =>
              cases hans : (operation.perform o t.number t.waits t.held m.shared).answer with
              | none =>
                  obtain ⟨hstep, hevents⟩ := step_of_wait ht hp rfl hans
                  rw [hstep, hevents, (Operation.perform_none hans).1]
                  exact .wait ht hp hans
              | some answer =>
                  obtain ⟨hstep, hevents⟩ := step_of_answer ht hp rfl hans
                  rw [hstep, hevents]
                  exact .answer ht hp hans
  | abandon number =>
      change m.Makes o _ (m.abandon o number) _
      rw [Machine.abandon, events]
      cases hfilter : (m.task? number).filter Task.isInterruptible with
      | none => exact .nobody rfl
      | some t =>
          obtain ⟨ht, hawaits⟩ := Option.filter_eq_some_iff.mp hfilter
          obtain ⟨-, rfl⟩ := mem_of_task? ht
          exact .abandon ht hawaits

/-- What was answered along a schedule, the outside answered. -/
theorem exists_turn_of_mem_trace {schedule : List (Move ω α)} {k : Nat} {question : Question}
    {answer : question.Answer} (h : ⟨k, .ask question, answer⟩ ∈ m.trace o schedule) :
    ∃ waits s, (o.turn k waits question s).1 = some answer := by
  induction schedule generalizing m with
  | nil => cases h
  | cons x schedule ih =>
      rcases List.mem_append.mp h with h | h
      · have hmakes := makes_move o m x
        generalize m.events o x = events at h hmakes
        generalize m.move o x = m' at hmakes
        cases hmakes with
        | @answer t operation next answer' ht hp hans =>
            cases List.mem_singleton.mp h
            exact ⟨t.waits, m.shared.outside, hans⟩
        | abandon ht hawaits =>
            obtain ⟨x, hx, hevent⟩ := List.mem_map.mp h
            obtain ⟨lock, -, rfl⟩ := List.mem_map.mp hx
            cases hevent
        | _ => cases h
      · exact ih h

end Machine

end VcenterAccess
