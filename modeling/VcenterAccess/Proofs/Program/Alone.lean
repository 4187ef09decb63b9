import VcenterAccess.Proofs.Machine.Replay

/-!
# A program that is alone

Nobody interferes with a program that is alone.  It gets every lock at once and finds in
the memory what it left there, and only it talks to the outside.  What it does is then a
function of where it starts (`Program.alone`), and so are its steps, its result and what
it leaves.

The function says what a machine does that has no other task (`Machine.run_of_alone`,
`Machine.ends_alone`), so whatever is shown of it is shown of the machine.
-/

namespace VcenterAccess

/-- Answers everything that is asked, at once. -/
abbrev Responder (ω : Type) := (question : Question) → ω → question.Answer × ω

/-- What a program finds that is alone. -/
structure Scene (ω : Type) where
  memory : Memory
  /-- The state of what answers. -/
  outside : ω

/-- What a program that is alone comes to. -/
structure Ending (ω α : Type) where
  result : α
  steps : List Step
  scene : Scene ω

/-- An ending after an earlier one. -/
def Ending.after {ω α β : Type} (e : Ending ω α) (first : Ending ω β) : Ending ω α :=
  { e with steps := first.steps ++ e.steps }

theorem Ending.after_after {ω α β γ : Type} (e : Ending ω α) (second : Ending ω β)
    (first : Ending ω γ) : (e.after second).after first = e.after (second.after first) := by
  simp [Ending.after]

variable {ω α β : Type} (r : Responder ω)

/-- The outside that a responder is. -/
def Responder.outside : Outside ω where
  ask _ question s := (some (r question s).1, (r question s).2)
  collect _ question s := (some (r question s).1, (r question s).2)
  cancel _ s := ([], s)

/-- An operation of a program that is alone. -/
def Operation.alone (s : Scene ω) : (operation : Operation) → operation.Answer × Scene ω
  | .acquire _ => ((), s)
  | .release _ => ((), s)
  | .getClient connection => (s.memory.client connection, s)
  | .setClient connection client => ((), { s with memory := s.memory.setClient connection client })
  | .getLogin connection => (s.memory.login connection, s)
  | .setLogin connection login => ((), { s with memory := s.memory.setLogin connection login })
  | .getCache source => (s.memory.cache source, s)
  | .setCache source cache => ((), { s with memory := s.memory.setCache source cache })
  | .ask question => ((r question s.outside).1, { s with outside := (r question s.outside).2 })

namespace Program

/-- A program that is alone. -/
def alone : Program α → Scene ω → Ending ω α
  | .done a, s => ⟨a, [], s⟩
  | .perform operation next, s =>
      let first := operation.alone r s
      let e := (next first.1).alone first.2
      { e with steps := ⟨operation, first.1⟩ :: e.steps }
termination_by structural p => p

variable {r} (s : Scene ω)

@[simp] theorem alone_pure (a : α) : (pure a : Program α).alone r s = ⟨a, [], s⟩ := rfl

theorem alone_perform (operation : Operation) (next : operation.Answer → Program α) :
    (perform operation next).alone r s =
      ((next (operation.alone r s).1).alone r (operation.alone r s).2).after
        ⟨(), [⟨operation, (operation.alone r s).1⟩], (operation.alone r s).2⟩ := rfl

/-- One program after the other. -/
theorem alone_bind (p : Program β) (f : β → Program α) :
    (p >>= f).alone r s =
      ((f (p.alone r s).result).alone r (p.alone r s).scene).after (p.alone r s) := by
  change (p.bind f).alone r s = _
  induction p generalizing s with
  | done b => rfl
  | perform operation next ih =>
      rw [bind, alone_perform, alone_perform, ih]
      exact Ending.after_after ..

/-- An operation, and what goes on from its answer. -/
@[simp] theorem alone_operate_bind (operation : Operation) (f : operation.Answer → Program α) :
    (operate operation >>= f).alone r s =
      ((f (operation.alone r s).1).alone r (operation.alone r s).2).after
        ⟨(), [⟨operation, (operation.alone r s).1⟩], (operation.alone r s).2⟩ := rfl

/-- A question, and what goes on from its answer. -/
@[simp] theorem alone_ask_bind (question : Question) (f : question.Answer → Program α) :
    (ask question >>= f).alone r s =
      ((f (r question s.outside).1).alone r { s with outside := (r question s.outside).2 }).after
        ⟨(), [⟨.ask question, (r question s.outside).1⟩],
          { s with outside := (r question s.outside).2 }⟩ := rfl

/-- Taking a lock and giving it back adds a step before and one after. -/
theorem alone_locked (lock : Lock) (p : Program α) :
    (locked lock p).alone r s =
      { p.alone r s with
        steps := ⟨.acquire lock, ()⟩ :: (p.alone r s).steps ++ [⟨.release lock, ()⟩] } := by
  rw [locked, alone_operate_bind, alone_bind, alone_operate_bind]
  rfl

/-- The steps lead to the result. -/
theorem path_alone (p : Program α) :
    p.Path (p.alone r s).steps (.done (p.alone r s).result) := by
  induction p generalizing s with
  | done a => exact .refl _
  | perform operation next ih => exact .step (ih _ _)

theorem tells_alone (operation : Operation) :
    s.memory.Tells ⟨operation, (operation.alone r s).1⟩ ∧
      (operation.alone r s).2.memory = s.memory.after ⟨operation, (operation.alone r s).1⟩ := by
  cases operation <;> exact ⟨by trivial, rfl⟩

/-- The steps make the memory what it is in the end. -/
theorem runs_alone (p : Program α) :
    s.memory.Runs (p.alone r s).steps (p.alone r s).scene.memory := by
  induction p generalizing s with
  | done a => rfl
  | perform operation next ih =>
      obtain ⟨htells, hafter⟩ := tells_alone (r := r) s operation
      exact ⟨htells, hafter ▸ ih _ _⟩

theorem answers_alone (task : Nat) (operation : Operation) :
    r.outside.Answers task s.outside
      (Step.exchange? ⟨operation, (operation.alone r s).1⟩).toList
      (operation.alone r s).2.outside := by
  cases operation with
  | ask question => exact ⟨_, rfl, rfl⟩
  | _ => rfl

/-- The exchanges are those with the responder. -/
theorem answers_exchanges (p : Program α) (task : Nat) :
    r.outside.Answers task s.outside (exchanges (p.alone r s).steps)
      (p.alone r s).scene.outside := by
  induction p generalizing s with
  | done a => rfl
  | perform operation next ih =>
      rw [show (alone r (perform operation next) s).steps =
        ⟨operation, (operation.alone r s).1⟩ :: _ from rfl, exchanges_cons]
      exact Outside.answers_append.mpr ⟨_, answers_alone s task operation, ih _ _⟩

end Program

/-- A machine without other tasks does with a program what the program does alone. -/
theorem Machine.run_of_alone {p : Program α} (hb : p.Bracketed) (s : Scene ω)
    {m : Machine ω α} {number : Nat} {results : List (Nat × α)}
    (hquiet : m.Quiet s.memory s.outside number results) :
    (m.run r.outside
        (.begin p :: List.replicate ((p.alone r s).steps.length + 1) (.step number))).Quiet
        (p.alone r s).scene.memory (p.alone r s).scene.outside (number + 1)
        (results ++ [(number, (p.alone r s).result)]) ∧
      m.trace r.outside
          (.begin p :: List.replicate ((p.alone r s).steps.length + 1) (.step number)) =
        (p.alone r s).steps.map (Event.mk number) := by
  obtain ⟨htasks, hfree, hmemory, houtside, rfl, rfl⟩ := hquiet
  have hone : (m.begin p).tasks = [{ number := m.begun, program := p }] := by
    simp [begin, htasks]
  refine run_steps (m := m.begin p) (p.path_alone s) hb List.nodup_nil hone (hfree m.begun) ?_ ?_
  · change m.shared.memory.Runs _ _
    rw [hmemory]
    exact p.runs_alone s
  · change r.outside.Answers m.begun m.shared.outside _ _
    rw [houtside]
    exact p.answers_exchanges s m.begun

/-- A new machine that runs a single program comes to an ending. -/
structure Machine.Ends (r : Responder ω) (s : Scene ω) (p : Program α) (e : Ending ω α) : Prop where
  quiet : ((Machine.idle s.memory s.outside).run r.outside
    (.begin p :: List.replicate (e.steps.length + 1) (.step 0))).Quiet
      e.scene.memory e.scene.outside 1 [(0, e.result)]
  trace : (Machine.idle s.memory s.outside).trace r.outside
    (.begin p :: List.replicate (e.steps.length + 1) (.step 0)) = e.steps.map (Event.mk 0)

theorem Machine.ends_alone {p : Program α} (hb : p.Bracketed) (s : Scene ω) :
    Machine.Ends r s p (p.alone r s) := by
  have hidle : (Machine.idle (α := α) s.memory s.outside).Quiet s.memory s.outside 0 [] :=
    ⟨rfl, fun _ _ => rfl, rfl, rfl, rfl, rfl⟩
  obtain ⟨hquiet, htrace⟩ := run_of_alone r hb s hidle
  exact ⟨hquiet, htrace⟩

end VcenterAccess
