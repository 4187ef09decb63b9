import VcenterAccess.Program

/-!
# What a program may do

A program is a tree, so everything that it can do lies on paths from its root: a
path is a list of operations with their answers.  A rule says which operations are
allowed after which steps.  Whether a program obeys a rule is decided on the tree,
for all answers at once (`Program.Obeys`), and holds along every path then
(`Program.Obeys.along`).

A rule keeps a state of its own, which forgets what the rule does not depend on.  If
nothing that a program uses matters to a rule (`Program.Uses`), the program obeys it and
leaves its state.
-/

namespace VcenterAccess

/-- An operation with its answer. -/
structure Step where
  operation : Operation
  answer : operation.Answer

/-- What is allowed, with states `σ` that sum up what was done before. -/
structure Rule (σ : Type) where
  /-- The state after a step. -/
  next : σ → Step → σ
  /-- Whether an operation is allowed in a state. -/
  allows : σ → Operation → Prop

namespace Rule

variable {σ τ : Type}

/-- The state after some steps. -/
def after (r : Rule σ) (s : σ) (h : List Step) : σ := h.foldl r.next s

variable (r : Rule σ) (s : σ)

@[simp] theorem after_nil : r.after s [] = s := rfl

@[simp] theorem after_cons (x : Step) (h : List Step) :
    r.after s (x :: h) = r.after (r.next s x) h := rfl

theorem after_append (g h : List Step) : r.after s (g ++ h) = r.after (r.after s g) h :=
  List.foldl_append

theorem after_concat (h : List Step) (x : Step) :
    r.after s (h ++ [x]) = r.next (r.after s h) x := by
  rw [after_append, after_cons, after_nil]

/-- Every step is allowed after the ones before it. -/
def Allows (h : List Step) : Prop :=
  ∀ before x, before ++ [x] <+: h → r.allows (r.after s before) x.operation

variable {r s}

theorem allows_nil : r.Allows s [] := by
  intro before x h
  simp at h

theorem allows_concat {h : List Step} {x : Step} :
    r.Allows s (h ++ [x]) ↔ r.Allows s h ∧ r.allows (r.after s h) x.operation := by
  constructor
  · intro hall
    exact ⟨fun before y hy => hall before y (hy.trans (List.prefix_append ..)),
      hall h x (List.prefix_rfl)⟩
  · rintro ⟨hall, hx⟩ before y hy
    rcases List.prefix_concat_iff.mp hy with heq | hy
    · obtain ⟨rfl, hyx⟩ := List.append_inj' heq rfl
      cases hyx
      exact hx
    · exact hall before y hy

theorem Allows.of_append {g h : List Step} (hall : r.Allows s (g ++ h)) : r.Allows s g :=
  fun before x hx => hall before x (hx.trans (List.prefix_append ..))

/-- What comes later is allowed after what was before. -/
theorem Allows.rest {g h : List Step} (hall : r.Allows s (g ++ h)) : r.Allows (r.after s g) h := by
  intro before x hx
  rw [← after_append]
  refine hall (g ++ before) x ?_
  rw [List.append_assoc]
  exact (List.prefix_append_right_inj g).mpr hx

theorem Allows.cons {x : Step} {h : List Step} (hx : r.allows s x.operation)
    (hall : r.Allows (r.next s x) h) : r.Allows s (x :: h) := by
  intro before y hy
  cases before with
  | nil =>
      obtain ⟨rfl, -⟩ := List.cons_prefix_cons.mp hy
      exact hx
  | cons z before =>
      rw [List.cons_append] at hy
      obtain ⟨rfl, hrest⟩ := List.cons_prefix_cons.mp hy
      exact hall before y hrest

/-- What is allowed depends on all steps that were done. -/
def ofHistory (may : List Step → Operation → Prop) : Rule (List Step) where
  next h x := h ++ [x]
  allows := may

@[simp] theorem after_ofHistory (may : List Step → Operation → Prop) (g h : List Step) :
    (ofHistory may).after g h = g ++ h := by
  induction h generalizing g with
  | nil => simp
  | cons x h ih => rw [after_cons, ih, ofHistory, List.append_assoc, List.singleton_append]

end Rule

namespace Program

variable {α β σ τ : Type}

/-- The steps `h` lead from a program to what is left of it. -/
inductive Path : Program α → List Step → Program α → Prop where
  | refl (p : Program α) : Path p [] p
  | step {operation : Operation} {next : operation.Answer → Program α}
      {answer : operation.Answer} {h : List Step} {q : Program α} :
      Path (next answer) h q → Path (.perform operation next) (⟨operation, answer⟩ :: h) q

theorem Path.concat {p : Program α} {h : List Step} {operation : Operation}
    {next : operation.Answer → Program α} (hp : Path p h (.perform operation next))
    (answer : operation.Answer) : Path p (h ++ [⟨operation, answer⟩]) (next answer) := by
  generalize hq : Program.perform operation next = q at hp
  induction hp with
  | refl =>
      cases hq
      exact .step (.refl _)
  | step _ ih => exact .step (ih hq)

/-- Nothing follows the end of a program. -/
theorem Path.of_done {a : α} {h : List Step} {q : Program α} (hp : Path (.done a) h q) :
    h = [] ∧ q = .done a := by
  cases hp
  exact ⟨rfl, rfl⟩

/-- The program is the same after the same steps. -/
theorem Path.unique {p q q' : Program α} {h : List Step} (hq : Path p h q) (hq' : Path p h q') :
    q = q' := by
  induction hq with
  | refl =>
      cases hq'
      rfl
  | step _ ih =>
      cases hq' with
      | step hq' => exact ih hq'

theorem Path.of_append {p q : Program α} {g h : List Step} (hp : Path p (g ++ h) q) :
    ∃ r, Path p g r ∧ Path r h q := by
  induction g generalizing p with
  | nil => exact ⟨p, .refl p, hp⟩
  | cons x g ih =>
      cases hp with
      | step hp =>
          obtain ⟨r, hg, hh⟩ := ih hp
          exact ⟨r, .step hg, hh⟩

/-- One program was done after the other. -/
theorem Path.of_bind {p : Program β} {f : β → Program α} {h : List Step} {a : α}
    (hp : Path (p >>= f) h (.done a)) :
    ∃ b g g', Path p g (.done b) ∧ Path (f b) g' (.done a) ∧ h = g ++ g' := by
  change Path (p.bind f) h (.done a) at hp
  induction p generalizing h with
  | done b => exact ⟨b, [], h, .refl _, hp, rfl⟩
  | perform operation next ih =>
      cases hp with
      | step hp =>
          obtain ⟨b, g, g', hg, hg', rfl⟩ := ih _ hp
          exact ⟨b, _, g', .step hg, hg', rfl⟩

/-- One program goes on where the other is done. -/
theorem Path.bind {p : Program β} {f : β → Program α} {g h : List Step} {b : β} {q : Program α}
    (hp : Path p g (.done b)) (hq : Path (f b) h q) : Path (p >>= f) (g ++ h) q := by
  change Path (p.bind f) (g ++ h) q
  induction p generalizing g with
  | done c =>
      obtain ⟨rfl, hdone⟩ := hp.of_done
      cases hdone
      exact hq
  | perform operation next ih =>
      cases hp with
      | step hp => exact .step (ih _ hp)

/-- A program that has ended goes no further. -/
theorem Path.eq_nil_of_done {p q : Program α} {g h : List Step} {a : α}
    (hdone : Path p g (.done a)) (hp : Path p (g ++ h) q) : h = [] := by
  obtain ⟨r, hg, hh⟩ := hp.of_append
  obtain rfl := hg.unique hdone
  exact hh.of_done.1

/-- Whatever is answered, the program only performs what the rule allows, and what it
finds out in the end is in `returns`. -/
def Obeys (r : Rule σ) (returns : σ → α → Prop) : σ → Program α → Prop
  | s, .done a => returns s a
  | s, .perform operation next =>
      r.allows s operation ∧ ∀ answer, Obeys r returns (r.next s ⟨operation, answer⟩) (next answer)
termination_by structural _ p => p

namespace Obeys

variable {r : Rule σ} {returns : σ → α → Prop} {s : σ} {p q : Program α} {h : List Step}

/-- An operation, and what goes on from its answer. -/
theorem operate {operation : Operation} {f : operation.Answer → Program α}
    (hallows : r.allows s operation)
    (hf : ∀ answer, Obeys r returns (r.next s ⟨operation, answer⟩) (f answer)) :
    Obeys r returns s (Program.operate operation >>= f) :=
  ⟨hallows, hf⟩

/-- One program after the other. -/
theorem bind {between : σ → β → Prop} {p : Program β} {f : β → Program α}
    (hp : Obeys r between s p) (hf : ∀ s b, between s b → Obeys r returns s (f b)) :
    Obeys r returns s (p >>= f) := by
  change Obeys r returns s (p.bind f)
  induction p generalizing s with
  | done b => exact hf s b hp
  | perform operation next ih => exact ⟨hp.1, fun answer => ih answer (hp.2 answer)⟩

/-- A program between taking a lock and giving it back. -/
theorem locked {lock : Lock} {I : σ → α → Prop} (htake : r.allows s (.acquire lock))
    (hp : Obeys r I (r.next s ⟨.acquire lock, ()⟩) p)
    (hgive : ∀ s a, I s a →
      r.allows s (.release lock) ∧ returns (r.next s ⟨.release lock, ()⟩) a) :
    Obeys r returns s (Program.locked lock p) := by
  refine operate htake fun _ => bind hp fun s a ha => ?_
  exact operate (hgive s a ha).1 fun _ => (hgive s a ha).2

/-- A program that obeys a rule obeys every rule that asks for less. -/
theorem mono {r' : Rule τ} {returns' : τ → α → Prop} {t : τ} (f : σ → τ)
    (hnext : ∀ s x, r'.next (f s) x = f (r.next s x))
    (hallows : ∀ s operation, r.allows s operation → r'.allows (f s) operation)
    (hreturns : ∀ s a, returns s a → returns' (f s) a)
    (hp : Obeys r returns s p) (ht : t = f s) : Obeys r' returns' t p := by
  subst ht
  induction p generalizing s with
  | done a => exact hreturns s a hp
  | perform operation next ih =>
      refine ⟨hallows s operation hp.1, fun answer => ?_⟩
      rw [hnext]
      exact ih answer (hp.2 answer)

/-- What is left of a program obeys the rule. -/
theorem rest (hp : Obeys r returns s p) (hpath : Path p h q) :
    Obeys r returns (r.after s h) q := by
  induction hpath generalizing s with
  | refl => exact hp
  | step _ ih => exact ih (hp.2 _)

/-- Every step on a path is allowed. -/
theorem along (hp : Obeys r returns s p) (hpath : Path p h q) : r.Allows s h := by
  induction hpath generalizing s with
  | refl => exact Rule.allows_nil
  | step _ ih => exact .cons hp.1 (ih (hp.2 _))

/-- What a program is about to do is allowed. -/
theorem pending {operation : Operation} {next : operation.Answer → Program α}
    (hp : Obeys r returns s p) (hpath : Path p h (.perform operation next)) :
    r.allows (r.after s h) operation :=
  (hp.rest hpath).1

/-- What a path ends with is in `returns`. -/
theorem result {a : α} (hp : Obeys r returns s p) (hpath : Path p h (.done a)) :
    returns (r.after s h) a :=
  hp.rest hpath

end Obeys

/-- Whatever is answered, the program only performs operations of some kind. -/
def Uses (may : Operation → Prop) : Program α → Prop
  | .done _ => True
  | .perform operation next => may operation ∧ ∀ answer, Uses may (next answer)
termination_by structural p => p

namespace Uses

variable {may : Operation → Prop} {p q : Program α}

/-- An operation, and what goes on from its answer. -/
theorem operate {operation : Operation} {f : operation.Answer → Program α}
    (hmay : may operation) (hf : ∀ answer, (f answer).Uses may) :
    (Program.operate operation >>= f).Uses may :=
  ⟨hmay, hf⟩

/-- One program after the other. -/
theorem bind {p : Program β} {f : β → Program α} (hp : p.Uses may) (hf : ∀ b, (f b).Uses may) :
    (p >>= f).Uses may := by
  change (p.bind f).Uses may
  induction p with
  | done b => exact hf b
  | perform operation next ih => exact ⟨hp.1, fun answer => ih answer (hp.2 answer)⟩

/-- A program between taking a lock and giving it back. -/
theorem locked {lock : Lock} (htake : may (.acquire lock)) (hp : p.Uses may)
    (hgive : may (.release lock)) : (Program.locked lock p).Uses may :=
  operate htake fun _ => bind hp fun _ => operate hgive fun _ => trivial

/-- Who uses something uses more. -/
theorem mono {may' : Operation → Prop} (hmay : ∀ operation, may operation → may' operation)
    (hp : p.Uses may) : p.Uses may' := by
  induction p with
  | done a => trivial
  | perform operation next ih => exact ⟨hmay _ hp.1, fun answer => ih answer (hp.2 answer)⟩

/-- Every step on a path is of the kind. -/
theorem along {h : List Step} (hp : p.Uses may) (hpath : Path p h q) :
    ∀ x ∈ h, may x.operation := by
  induction hpath with
  | refl => simp
  | step _ ih => exact List.forall_mem_cons.mpr ⟨hp.1, ih (hp.2 _)⟩

/-- A program obeys a rule to which nothing matters that it uses. -/
theorem obeys {r : Rule σ} {s : σ} (hp : p.Uses may)
    (hmay : ∀ operation, may operation →
      r.allows s operation ∧ ∀ answer, r.next s ⟨operation, answer⟩ = s) :
    Obeys r (fun s' _ => s' = s) s p := by
  induction p with
  | done a => rfl
  | perform operation next ih =>
      obtain ⟨hallows, hnext⟩ := hmay operation hp.1
      refine ⟨hallows, fun answer => ?_⟩
      rw [hnext answer]
      exact ih answer (hp.2 answer)

/-- A program that obeys a rule obeys every other one with the same states that follows from
what it uses, as long as the states have a property. -/
theorem strengthen {r r' : Rule σ} {returns : σ → α → Prop} {s : σ} (property : σ → Prop)
    (hp : p.Uses may) (hobeys : p.Obeys r returns s) (hs : property s) (hnext : r'.next = r.next)
    (hstep : ∀ s operation, property s → may operation → r.allows s operation →
      r'.allows s operation ∧ ∀ answer, property (r.next s ⟨operation, answer⟩)) :
    p.Obeys r' returns s := by
  induction p generalizing s with
  | done a => exact hobeys
  | perform operation next ih =>
      obtain ⟨hallows, hproperty⟩ := hstep s operation hs hp.1 hobeys.1
      refine ⟨hallows, fun answer => ?_⟩
      rw [hnext]
      exact ih answer (hp.2 answer) (hobeys.2 answer) (hproperty answer)

end Uses

end Program

end VcenterAccess
