import VcenterAccess.Proofs.Machine.Guarding

/-!
# Two phases make a serial order

Steps under different locks can be exchanged: neither the memory nor the questions in
their order tell the difference (`Agree.swap`).  If all tasks keep to two phases, the
steps of a trace can therefore be sorted by tasks, in the order in which the tasks took
their last locks (`agree_inOrder`).

The invariant is that a lock that a task still holds was not used by any task later in
that order (`pairwise_lockOrder`).  When a task takes its last lock it still holds all
locks that it used, so all of its steps move behind those of the tasks after it; and
every later step moves in front of them.
-/

namespace VcenterAccess

namespace Memory

variable (m : Memory)

theorem setLogin_setClient (n k : Nat) (client : Option Client) (login : LoginState) :
    (m.setClient n client).setLogin k login = (m.setLogin k login).setClient n client := by
  unfold setClient setLogin
  by_cases h : n = k
  · subst h
    simp
  · simp [h, Ne.symm h, assign_comm _ h]

theorem setLogin_setLogin {n k : Nat} (h : n ≠ k) (login login' : LoginState) :
    (m.setLogin n login).setLogin k login' = (m.setLogin k login').setLogin n login := by
  unfold setLogin
  simp [h, Ne.symm h, assign_comm _ h]

theorem setCache_setCache {n k : Nat} (h : n ≠ k) (cache cache' : SecretCache) :
    (m.setCache n cache).setCache k cache' = (m.setCache k cache').setCache n cache := by
  unfold setCache
  simp [assign_comm _ h]

variable {connectLock : Nat} {x y : Step}

/-- Steps under different locks do the same in both orders. -/
theorem after_comm (h : x.operation.lock connectLock ≠ y.operation.lock connectLock) :
    (m.after x).after y = (m.after y).after x := by
  obtain ⟨operation, answer⟩ := x
  obtain ⟨operation', answer'⟩ := y
  cases operation with
  | setClient n client =>
      cases operation' with
      | setClient => exact absurd rfl h
      | setLogin k login => exact m.setLogin_setClient n k client login
      | _ => rfl
  | setLogin n login =>
      cases operation' with
      | setClient k client => exact (m.setLogin_setClient k n client login).symm
      | setLogin k login' =>
          exact m.setLogin_setLogin (fun hn => h (congrArg Lock.credentials hn)) login login'
      | _ => rfl
  | setCache n cache =>
      cases operation' with
      | setCache k cache' =>
          exact m.setCache_setCache (fun hn => h (congrArg Lock.cache hn)) cache cache'
      | _ => rfl
  | _ => rfl

/-- What a step finds is what it finds after a step under another lock. -/
theorem tells_after (h : x.operation.lock connectLock ≠ y.operation.lock connectLock) :
    (m.after x).Tells y ↔ m.Tells y := by
  obtain ⟨operation, answer⟩ := x
  obtain ⟨operation', answer'⟩ := y
  cases operation with
  | setClient n client =>
      cases operation' with
      | getClient => exact absurd rfl h
      | getLogin k => simp only [Tells, after, login_setClient]
      | _ => exact Iff.rfl
  | setLogin n login =>
      cases operation' with
      | getClient k => simp only [Tells, after, client_setLogin]
      | getLogin k =>
          have hne : k ≠ n := fun hn => h (congrArg Lock.credentials hn.symm)
          simp only [Tells, after, login_setLogin_other m login hne]
      | _ => exact Iff.rfl
  | setCache n cache =>
      cases operation' with
      | getCache k =>
          have hne : k ≠ n := fun hn => h (congrArg Lock.cache hn.symm)
          simp only [Tells, after, setCache, assign_other _ hne]
      | _ => exact Iff.rfl
  | _ => exact Iff.rfl

end Memory

/-! ## Traces that agree -/

/-- The exchanges of a trace, each with the task that asked. -/
def talk (events : List Event) : List (Nat × Exchange) :=
  events.filterMap fun e => e.step.exchange?.map (e.task, ·)

theorem talk_append (g h : List Event) : talk (g ++ h) = talk g ++ talk h := List.filterMap_append

theorem talk_map_mk (task : Nat) (h : List Step) :
    talk (h.map (Event.mk task)) = (exchanges h).map (Prod.mk task) := by
  rw [talk, List.filterMap_map, exchanges, List.map_filterMap]
  rfl

theorem talk_filter (task : Nat) (events : List Event) :
    talk (events.filter fun e => e.task = task) =
      (exchanges (stepsOf task events)).map (Prod.mk task) := by
  rw [← talk_map_mk, stepsOf, List.map_map]
  refine congrArg talk ?_
  conv_lhs => rw [← List.map_id (events.filter _)]
  refine List.map_congr_left fun e he => ?_
  have htask : e.task = task := by simpa using (List.mem_filter.mp he).2
  rw [← htask]
  rfl

/-- Two traces with the same talk that do the same to every memory. -/
structure Agree (g h : List Event) : Prop where
  talk : talk g = talk h
  runs : ∀ m m' : Memory, m.Runs (g.map Event.step) m' ↔ m.Runs (h.map Event.step) m'

namespace Agree

variable {g g' h h' k : List Event}

theorem refl (g : List Event) : Agree g g := ⟨rfl, fun _ _ => Iff.rfl⟩

theorem symm (hg : Agree g h) : Agree h g := ⟨hg.talk.symm, fun m m' => (hg.runs m m').symm⟩

theorem trans (hg : Agree g h) (hh : Agree h k) : Agree g k :=
  ⟨hg.talk.trans hh.talk, fun m m' => (hg.runs m m').trans (hh.runs m m')⟩

theorem append (hg : Agree g g') (hh : Agree h h') : Agree (g ++ h) (g' ++ h') where
  talk := by rw [talk_append, talk_append, hg.talk, hh.talk]
  runs m m' := by
    simp only [List.map_append, Memory.runs_append, hg.runs, hh.runs]

end Agree

section

variable (connectLock : Nat)

/-- No step of `g` belongs to the lock of a step of `h`. -/
def Apart (g h : List Event) : Prop :=
  ∀ d ∈ g, ∀ e ∈ h, d.step.operation.lock connectLock ≠ e.step.operation.lock connectLock

variable {connectLock} {g h : List Event}

variable (connectLock) in
theorem lock_of_exchange? {x : Step} {e : Exchange} (h : x.exchange? = some e) :
    x.operation.lock connectLock = .connect connectLock := by
  obtain ⟨operation, answer⟩ := x
  cases operation with
  | ask question => rfl
  | _ => cases h

variable (connectLock) in
theorem exists_of_talk_ne_nil (h : talk g ≠ []) :
    ∃ e ∈ g, e.step.operation.lock connectLock = .connect connectLock := by
  obtain ⟨a, ha⟩ := List.exists_mem_of_ne_nil _ h
  obtain ⟨e, he, hsome⟩ := List.mem_filterMap.mp ha
  obtain ⟨exchange, hexchange, -⟩ := Option.map_eq_some_iff.mp hsome
  exact ⟨e, he, lock_of_exchange? connectLock hexchange⟩

/-- All questions belong to one lock, so not both can ask. -/
theorem Apart.talk (hapart : Apart connectLock g h) :
    VcenterAccess.talk g = [] ∨ VcenterAccess.talk h = [] := by
  by_contra hboth
  obtain ⟨hg, hh⟩ := not_or.mp hboth
  obtain ⟨d, hd, hdlock⟩ := exists_of_talk_ne_nil connectLock hg
  obtain ⟨e, he, helock⟩ := exists_of_talk_ne_nil connectLock hh
  exact hapart d hd e he (hdlock.trans helock.symm)

theorem runs_swap_cons {x : Step} {ys : List Step}
    (hx : ∀ y ∈ ys, x.operation.lock connectLock ≠ y.operation.lock connectLock)
    (m m' : Memory) : m.Runs (x :: ys) m' ↔ m.Runs (ys ++ [x]) m' := by
  induction ys generalizing m with
  | nil => exact Iff.rfl
  | cons y ys ih =>
      have hy := hx y (List.mem_cons_self ..)
      have hrest := ih (fun z hz => hx z (List.mem_cons_of_mem _ hz)) (m.after y)
      rw [List.cons_append, Memory.Runs, Memory.Runs, Memory.Runs, ← hrest, Memory.Runs,
        m.tells_after hy, m.tells_after hy.symm, m.after_comm hy]
      exact and_left_comm

/-- Steps that are apart change places. -/
theorem Agree.swap (hapart : Apart connectLock g h) : Agree (g ++ h) (h ++ g) := by
  constructor
  · rw [talk_append, talk_append]
    rcases hapart.talk with hnil | hnil <;> simp [hnil]
  · intro m m'
    induction g generalizing m with
    | nil => simp
    | cons d g ih =>
        have hd : ∀ y ∈ h.map Event.step,
            d.step.operation.lock connectLock ≠ y.operation.lock connectLock := by
          intro y hy
          obtain ⟨e, he, rfl⟩ := List.mem_map.mp hy
          exact hapart d (List.mem_cons_self ..) e he
        have hg := ih fun c hc => hapart c (List.mem_cons_of_mem _ hc)
        calc m.Runs ((d :: g ++ h).map Event.step) m'
            ↔ m.Tells d.step ∧ (m.after d.step).Runs ((g ++ h).map Event.step) m' := Iff.rfl
          _ ↔ m.Runs ((d :: h).map Event.step ++ g.map Event.step) m' := by
              rw [hg, List.map_append]
              exact Iff.rfl
          _ ↔ m.Runs ((h.map Event.step ++ [d.step]) ++ g.map Event.step) m' := by
              simp only [Memory.runs_append, List.map_cons, runs_swap_cons hd]
          _ ↔ m.Runs ((h ++ d :: g).map Event.step) m' := by simp

end

/-! ## The order of last locks -/

/-- The tasks in the order in which they took their last locks. -/
def lockOrder (events : List Event) : List Nat :=
  events.foldl (fun order e =>
    match e.step.operation with
    | .acquire _ => order.erase e.task ++ [e.task]
    | _ => order) []

/-- The events, sorted by tasks. -/
def inOrder (order : List Nat) (events : List Event) : List Event :=
  order.flatMap fun k => events.filter fun e => e.task = k

section

variable {events : List Event} {order : List Nat} {k : Nat} {x : Step}

theorem lockOrder_acquire {lock : Lock} (hx : x.operation = .acquire lock) :
    lockOrder (events ++ [⟨k, x⟩]) = (lockOrder events).erase k ++ [k] := by
  simp [lockOrder, hx]

theorem lockOrder_other (hx : ∀ lock, x.operation ≠ .acquire lock) :
    lockOrder (events ++ [⟨k, x⟩]) = lockOrder events := by
  rw [lockOrder, List.foldl_append]
  obtain ⟨operation, answer⟩ := x
  cases operation with
  | acquire lock => exact absurd rfl (hx lock)
  | _ => rfl

theorem nodup_lockOrder (events : List Event) : (lockOrder events).Nodup := by
  induction events using List.reverseRecOn with
  | nil => exact List.nodup_nil
  | append_singleton events e ih =>
      obtain ⟨k, x⟩ := e
      by_cases hx : ∃ lock, x.operation = .acquire lock
      · obtain ⟨lock, hx⟩ := hx
        rw [lockOrder_acquire hx]
        refine List.nodup_append.mpr ⟨ih.erase k, by simp, ?_⟩
        rintro a ha b hb rfl
        rw [List.mem_singleton.mp hb] at ha
        exact ih.not_mem_erase ha
      · rw [lockOrder_other (not_exists.mp hx)]
        exact ih

/-- A task in the order has made a step. -/
theorem stepsOf_ne_nil (h : k ∈ lockOrder events) : stepsOf k events ≠ [] := by
  induction events using List.reverseRecOn with
  | nil => cases h
  | append_singleton events e ih =>
      obtain ⟨j, x⟩ := e
      by_cases hj : j = k
      · subst hj
        simp
      · rw [stepsOf_concat_other _ hj]
        refine ih ?_
        by_cases hx : ∃ lock, x.operation = .acquire lock
        · obtain ⟨lock, hx⟩ := hx
          rw [lockOrder_acquire hx] at h
          rcases List.mem_append.mp h with h | h
          · exact List.mem_of_mem_erase h
          · exact absurd (List.mem_singleton.mp h).symm hj
        · rwa [lockOrder_other (not_exists.mp hx)] at h

variable {connectLock : Nat}

/-- A task in two phases starts with a lock, so it is in the order. -/
theorem mem_lockOrder (hd : Disciplined connectLock (stepsOf k events))
    (h : stepsOf k events ≠ []) : k ∈ lockOrder events := by
  induction events using List.reverseRecOn with
  | nil => exact absurd rfl h
  | append_singleton events e ih =>
      obtain ⟨j, x⟩ := e
      by_cases hx : ∃ lock, x.operation = .acquire lock
      · obtain ⟨lock, hx⟩ := hx
        rw [lockOrder_acquire hx]
        by_cases hj : j = k
        · subst hj
          simp
        · rw [stepsOf_concat_other _ hj] at hd h
          exact List.mem_append_left _ ((List.mem_erase_of_ne (Ne.symm hj)).mpr (ih hd h))
      · have hno := not_exists.mp hx
        rw [lockOrder_other hno]
        by_cases hj : j = k
        · subst hj
          rw [stepsOf_concat_same] at hd
          obtain ⟨hbefore, hallows⟩ := disciplined_concat.mp hd
          refine ih hbefore fun hnil => ?_
          have hheld := lock_mem_of_allowed hallows hno
          rw [hnil] at hheld
          cases hheld
        · rw [stepsOf_concat_other _ hj] at hd h
          exact ih hd h

/-- Who takes a lock comes last, and it still holds what it used; so nobody before it holds
that. -/
theorem lock_ne_of_acquire (hx : Exclusive (events ++ [⟨k, x⟩]))
    (hd : ∀ j, Disciplined connectLock (stepsOf j (events ++ [⟨k, x⟩]))) {lock lock' : Lock}
    (hop : x.operation = .acquire lock) {a : Nat} (hne : k ≠ a)
    (hl : lock' ∈ heldAfter (stepsOf a (events ++ [⟨k, x⟩]))) {y : Step}
    (hy : y ∈ stepsOf k (events ++ [⟨k, x⟩])) : y.operation.lock connectLock ≠ lock' := by
  intro heq
  obtain ⟨hbefore, htaken⟩ := exclusive_concat.mp hx
  have hdk := hd k
  rw [stepsOf_concat_same] at hdk hy
  obtain ⟨hdbefore, hallows⟩ := disciplined_concat.mp hdk
  rw [stepsOf_concat_other _ hne] at hl
  rcases List.mem_append.mp hy with hy | hy
  · have hreleased : (lockingAfter connectLock (stepsOf k events)).released = false := by
      rw [hop] at hallows
      exact hallows.1
    have hlk := lock_mem_of_mem hdbefore hreleased hy
    rw [heq] at hlk
    exact hne (holder_unique hbefore hlk hl)
  · obtain rfl := List.mem_singleton.mp hy
    rw [hop] at heq
    obtain rfl : lock = lock' := heq
    exact htaken lock hop a hl

/-- Who does something else holds nothing that it did not hold before, and uses what it holds. -/
theorem lock_ne_of_not_acquire (hx : Exclusive (events ++ [⟨k, x⟩]))
    (hd : ∀ j, Disciplined connectLock (stepsOf j (events ++ [⟨k, x⟩])))
    (hno : ∀ lock, x.operation ≠ .acquire lock) {a b : Nat} (hne : a ≠ b)
    (hab : ∀ lock ∈ heldAfter (stepsOf a events), ∀ y ∈ stepsOf b events,
      y.operation.lock connectLock ≠ lock) {lock : Lock}
    (hl : lock ∈ heldAfter (stepsOf a (events ++ [⟨k, x⟩]))) {y : Step}
    (hy : y ∈ stepsOf b (events ++ [⟨k, x⟩])) : y.operation.lock connectLock ≠ lock := by
  obtain ⟨hbefore, -⟩ := exclusive_concat.mp hx
  have hla : lock ∈ heldAfter (stepsOf a events) := by
    by_cases ha : k = a
    · subst ha
      rw [stepsOf_concat_same, heldAfter_concat] at hl
      exact (mem_next_bracketing hl).resolve_right (hno lock)
    · rwa [stepsOf_concat_other _ ha] at hl
  by_cases hb : k = b
  · subst hb
    have hdk := hd k
    rw [stepsOf_concat_same] at hdk hy
    rcases List.mem_append.mp hy with hy | hy
    · exact hab lock hla y hy
    · obtain rfl := List.mem_singleton.mp hy
      rintro rfl
      have hlk := lock_mem_of_allowed (disciplined_concat.mp hdk).2 hno
      exact hne (holder_unique hbefore hla hlk)
  · rw [stepsOf_concat_other _ hb] at hy
    exact hab lock hla y hy

/-- A lock that a task holds was not used by any task after it in the order. -/
theorem pairwise_lockOrder (hx : Exclusive events)
    (hd : ∀ k, Disciplined connectLock (stepsOf k events)) :
    (lockOrder events).Pairwise fun a b => ∀ lock ∈ heldAfter (stepsOf a events),
      ∀ y ∈ stepsOf b events, y.operation.lock connectLock ≠ lock := by
  induction events using List.reverseRecOn with
  | nil => exact .nil
  | append_singleton events e ih =>
      obtain ⟨k, x⟩ := e
      have hpairs := ih (exclusive_concat.mp hx).1 (Disciplined.before hd)
      by_cases hop : ∃ lock, x.operation = .acquire lock
      case pos =>
        obtain ⟨lock, hop⟩ := hop
        have hne : ∀ {a}, a ∈ (lockOrder events).erase k → k ≠ a := by
          rintro a ha rfl
          exact (nodup_lockOrder events).not_mem_erase ha
        rw [lockOrder_acquire hop]
        refine List.pairwise_append.mpr ⟨?others, List.pairwise_singleton .., ?last⟩
        case others =>
          refine (hpairs.sublist List.erase_sublist).imp_of_mem fun ha hb hab => ?_
          rwa [stepsOf_concat_other _ (hne ha), stepsOf_concat_other _ (hne hb)]
        case last =>
          intro a ha b hb lock' hl y hy
          obtain rfl := List.mem_singleton.mp hb
          exact lock_ne_of_acquire hx hd hop (hne ha) hl hy
      case neg =>
        have hno := not_exists.mp hop
        rw [lockOrder_other hno]
        exact (hpairs.and (nodup_lockOrder events)).imp fun ⟨hab, hne⟩ lock hl y hy =>
          lock_ne_of_not_acquire hx hd hno hne hab hl hy

/-! ## Sorting -/

theorem inOrder_append (first second : List Nat) :
    inOrder (first ++ second) events = inOrder first events ++ inOrder second events :=
  List.flatMap_append

theorem inOrder_cons (order : List Nat) :
    inOrder (k :: order) events = inOrder [k] events ++ inOrder order events :=
  inOrder_append [k] order

theorem inOrder_concat (h : k ∉ order) :
    inOrder order (events ++ [⟨k, x⟩]) = inOrder order events := by
  unfold inOrder
  rw [List.flatMap_def, List.flatMap_def]
  refine congrArg List.flatten (List.map_congr_left fun j hj => ?_)
  have hne : k ≠ j := fun heq => h (heq ▸ hj)
  simp [hne]

theorem inOrder_of_stepsOf_nil (h : stepsOf k events = []) :
    inOrder [k] events = [] := by
  simpa [inOrder, stepsOf] using h

theorem inOrder_singleton_concat :
    inOrder [k] (events ++ [⟨k, x⟩]) = inOrder [k] events ++ [⟨k, x⟩] := by
  simp [inOrder]

/-- Sorted by tasks, the talk is what each task says in turn. -/
theorem talk_inOrder (order : List Nat) (events : List Event) :
    talk (inOrder order events) =
      order.flatMap fun k => (exchanges (stepsOf k events)).map (Prod.mk k) := by
  induction order with
  | nil => rfl
  | cons k order ih =>
      rw [inOrder, List.flatMap_cons, List.flatMap_cons, talk_append, talk_filter]
      exact congrArg _ ih

theorem map_step_inOrder (order : List Nat) (events : List Event) :
    (inOrder order events).map Event.step = order.flatMap fun k => stepsOf k events :=
  List.map_flatMap

/-- The events of a task are apart from those of tasks that do not use its locks. -/
theorem apart_inOrder {h : List Event}
    (hlocks : ∀ e ∈ h, e.step.operation.lock connectLock ∈ heldAfter (stepsOf k events))
    (horder : ∀ j ∈ order, ∀ lock ∈ heldAfter (stepsOf k events),
      ∀ y ∈ stepsOf j events, y.operation.lock connectLock ≠ lock) :
    Apart connectLock h (inOrder order events) := by
  intro d hd e he heq
  obtain ⟨j, hj, he⟩ := List.mem_flatMap.mp he
  obtain ⟨hmem, htask⟩ := List.mem_filter.mp he
  obtain rfl : e.task = j := by simpa using htask
  exact horder e.task hj _ (hlocks d hd) e.step (mem_stepsOf.mpr hmem) heq.symm

/-- What a task does under its locks moves in front of the tasks after it. -/
theorem agree_of_held {before later : List Nat} (hnodup : (before ++ k :: later).Nodup)
    (hlock : x.operation.lock connectLock ∈ heldAfter (stepsOf k events))
    (hlater : ∀ j ∈ later, ∀ lock ∈ heldAfter (stepsOf k events),
      ∀ y ∈ stepsOf j events, y.operation.lock connectLock ≠ lock) :
    Agree (inOrder (before ++ k :: later) (events ++ [⟨k, x⟩]))
      (inOrder (before ++ k :: later) events ++ [⟨k, x⟩]) := by
  obtain ⟨-, hrest, hdisjoint⟩ := List.nodup_append.mp hnodup
  have hbefore : k ∉ before := fun h => hdisjoint k h k (List.mem_cons_self ..) rfl
  have hafter : k ∉ later := (List.nodup_cons.mp hrest).1
  have hapart : Apart connectLock [⟨k, x⟩] (inOrder later events) :=
    apart_inOrder (by simpa using hlock) hlater
  simp only [inOrder_append, inOrder_cons later, inOrder_concat hbefore, inOrder_concat hafter,
    inOrder_singleton_concat, List.append_assoc]
  exact .append (.refl _) (.append (.refl _) (.swap hapart))

/-- A task that still holds all locks that it used moves behind the tasks after it. -/
theorem agree_of_unreleased {before later : List Nat} (hnodup : (before ++ k :: later).Nodup)
    (hlocks : ∀ y ∈ stepsOf k events,
      y.operation.lock connectLock ∈ heldAfter (stepsOf k events))
    (hlater : ∀ j ∈ later, ∀ lock ∈ heldAfter (stepsOf k events),
      ∀ y ∈ stepsOf j events, y.operation.lock connectLock ≠ lock) :
    Agree (inOrder (before ++ later ++ [k]) (events ++ [⟨k, x⟩]))
      (inOrder (before ++ k :: later) events ++ [⟨k, x⟩]) := by
  obtain ⟨-, hrest, hdisjoint⟩ := List.nodup_append.mp hnodup
  have hbefore : k ∉ before := fun h => hdisjoint k h k (List.mem_cons_self ..) rfl
  have hafter : k ∉ later := (List.nodup_cons.mp hrest).1
  have hapart : Apart connectLock (inOrder [k] events) (inOrder later events) := by
    refine apart_inOrder (fun e he => hlocks e.step ?_) hlater
    obtain ⟨hmem, htask⟩ : e ∈ events ∧ e.task = k := by simpa [inOrder] using he
    exact htask ▸ mem_stepsOf.mpr hmem
  simp only [inOrder_append, inOrder_cons later, inOrder_concat hbefore, inOrder_concat hafter,
    inOrder_singleton_concat, ← List.append_assoc]
  refine .append ?_ (.refl _)
  rw [List.append_assoc, List.append_assoc]
  exact .append (.refl _) (.symm (.swap hapart))

/-- A trace in two phases agrees with its events sorted by tasks. -/
theorem agree_inOrder (hx : Exclusive events)
    (hd : ∀ k, Disciplined connectLock (stepsOf k events)) :
    Agree (inOrder (lockOrder events) events) events := by
  induction events using List.reverseRecOn with
  | nil => exact .refl []
  | append_singleton events e ih =>
      obtain ⟨k, x⟩ := e
      obtain ⟨hbefore, -⟩ := exclusive_concat.mp hx
      have hdbefore := Disciplined.before hd
      have hdk := hd k
      rw [stepsOf_concat_same] at hdk
      obtain ⟨-, hallows⟩ := disciplined_concat.mp hdk
      have hnodup := nodup_lockOrder events
      have hpairs := pairwise_lockOrder hbefore hdbefore
      refine .trans ?_ ((ih hbefore hdbefore).append (.refl [⟨k, x⟩]))
      by_cases hop : ∃ lock, x.operation = .acquire lock
      case pos =>
        obtain ⟨lock, hop⟩ := hop
        rw [lockOrder_acquire hop]
        by_cases hk : k ∈ lockOrder events
        · have hreleased : (lockingAfter connectLock (stepsOf k events)).released = false := by
            rw [hop] at hallows
            exact hallows.1
          obtain ⟨before, later, hcut⟩ := List.append_of_mem hk
          rw [hcut] at hnodup hpairs ⊢
          have hkb : k ∉ before := fun h =>
            (List.nodup_append.mp hnodup).2.2 k h k (List.mem_cons_self ..) rfl
          rw [List.erase_append_right _ hkb, List.erase_cons_head]
          refine agree_of_unreleased hnodup
            (fun y hy => lock_mem_of_mem (hdbefore k) hreleased hy) ?_
          exact (List.pairwise_cons.mp (List.pairwise_append.mp hpairs).2.1).1
        · have hnil : stepsOf k events = [] := by
            by_contra hne
            exact hk (mem_lockOrder (hdbefore k) hne)
          rw [List.erase_of_not_mem hk, inOrder_append, inOrder_concat hk,
            inOrder_singleton_concat, inOrder_of_stepsOf_nil hnil]
          exact .refl _
      case neg =>
        have hno := not_exists.mp hop
        have hlock := lock_mem_of_allowed hallows hno
        have hk : k ∈ lockOrder events := by
          refine mem_lockOrder (hdbefore k) fun hnil => ?_
          rw [hnil] at hlock
          cases hlock
        obtain ⟨before, later, hcut⟩ := List.append_of_mem hk
        rw [lockOrder_other hno, hcut]
        rw [hcut] at hnodup hpairs
        exact agree_of_held hnodup hlock
          (List.pairwise_cons.mp (List.pairwise_append.mp hpairs).2.1).1

/-- If a task made a step before the last event, but not before a split, the split comes
before the last event. -/
theorem exists_split {before after : List Event} {e : Event}
    (heq : events ++ [e] = before ++ after) (hsteps : stepsOf k events ≠ [])
    (hbefore : stepsOf k before = []) : ∃ later, events = before ++ later ∧ after = later ++ [e] := by
  rcases List.eq_nil_or_concat after with rfl | ⟨later, e', rfl⟩
  · have hall : stepsOf k (events ++ [e]) = [] := by rw [heq, List.append_nil, hbefore]
    rw [stepsOf_append, List.append_eq_nil_iff] at hall
    exact absurd hall.1 hsteps
  · rw [List.concat_eq_append, ← List.append_assoc] at heq
    obtain ⟨rfl, hlast⟩ := List.append_inj' heq rfl
    cases hlast
    exact ⟨later, rfl, List.concat_eq_append⟩

/-- No task that took its last step before all steps of another comes after it. -/
theorem pairwise_lockOrder_time (events : List Event) :
    (lockOrder events).Pairwise fun a b =>
      ∀ before after, events = before ++ after → stepsOf a before = [] → stepsOf b after ≠ [] := by
  induction events using List.reverseRecOn with
  | nil => exact .nil
  | append_singleton events e ih =>
      obtain ⟨k, x⟩ := e
      have hold : (lockOrder events).Pairwise fun a b => ∀ before after,
          events ++ [⟨k, x⟩] = before ++ after → stepsOf a before = [] → stepsOf b after ≠ [] := by
        refine ih.imp_of_mem fun {a b} ha _ hab before after heq hbefore hafter => ?_
        obtain ⟨later, rfl, rfl⟩ := exists_split heq (stepsOf_ne_nil ha) hbefore
        rw [stepsOf_append, List.append_eq_nil_iff] at hafter
        exact hab before later rfl hbefore hafter.1
      by_cases hop : ∃ lock, x.operation = .acquire lock
      case pos =>
        obtain ⟨lock, hop⟩ := hop
        rw [lockOrder_acquire hop]
        refine List.pairwise_append.mpr
          ⟨hold.sublist List.erase_sublist, List.pairwise_singleton .., ?_⟩
        intro a ha b hb before after heq hbefore
        obtain rfl := List.mem_singleton.mp hb
        obtain ⟨later, -, rfl⟩ :=
          exists_split heq (stepsOf_ne_nil (List.mem_of_mem_erase ha)) hbefore
        simp
      case neg =>
        rw [lockOrder_other (not_exists.mp hop)]
        exact hold

end

end VcenterAccess
