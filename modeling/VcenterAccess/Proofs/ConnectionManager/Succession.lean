import VcenterAccess.Proofs.ConnectionManager.Caching
import VcenterAccess.Proofs.ConnectionManager.Refreshing
import VcenterAccess.Proofs.Machine.Queueing
import VcenterAccess.Proofs.Machine.Settling
import VcenterAccess.Simulator.World

/-!
# Newer credentials stay

A look-up and the change of credentials after it are two steps under two locks.  Caches only
get newer (`Successive.rank_le`), and whoever asks for the credentials lock first gets it
first (`Machine.acquire_in_turn`).  So of two Secrets whose credentials are stored one after
the other the second one is not older, unless its call was overtaken
(`ConnectionManager.rank_le_of_pushes`): another call looked the Secret up while this one had
done so, but did not yet wait for the credentials lock.

Nobody is overtaken while a machine settles, since then tasks go on one at a time
(`ConnectionManager.settling_never_reverts`).  Threads may stop there, and then older
credentials replace newer ones (`ConnectionManager.connect_overtaken`).
-/

namespace VcenterAccess

/-! ## Caches get newer -/

/-- How new a Secret is, if there is one. -/
def rank (order : Secret → Nat) : Option Secret → Nat
  | none => 0
  | some s => order s + 1

/-- What a look-up puts into a cache was there before, or is listed. -/
theorem refreshCache_cases {reference : SecretReference} {old cache : SecretCache}
    {listed : Option Secret} (h : CredentialManager.refreshCache reference old listed = .ok cache) :
    cache = old ∨ ∃ s, listed = some s ∧ cache.secret = some s := by
  cases listed with
  | none => exact .inl (Except.ok.inj h).symm
  | some s =>
      unfold CredentialManager.refreshCache at h
      dsimp only at h
      split at h
      · exact .inl (Except.ok.inj h).symm
      · split at h
        · cases h
          exact .inr ⟨s, rfl, rfl⟩
        · cases h

theorem heldAfter_lookingUp {g : List Step} (hg : heldAfter g = []) (source : SecretSource)
    (secret : Option Secret) (old : SecretCache) :
    heldAfter (g ++ lookingUp source secret old) = [.cache source.number] := by
  rw [heldAfter, Rule.after_append]
  change Rule.bracketing.after (heldAfter g) _ = _
  rw [hg]
  rfl

/-- Whoever replaces a cache holds its lock, and no other one. -/
theorem Justified.heldAfter {sources : SecretSource → Prop} {h : List Step} {n : Nat}
    {cache : SecretCache} (hh : Justified sources (h ++ [⟨.setCache n cache, ()⟩])) :
    heldAfter h = [.cache n] := by
  obtain ⟨g, source, secret, old, -, rfl, rfl, hg, -⟩ := hh h n cache List.prefix_rfl
  exact heldAfter_lookingUp hg source secret old

/-- Along a run, one source alone belongs to a cache.  What is listed for it becomes newer, and
is newer than what was seen before. -/
structure Successive (sources : SecretSource → Prop) (source : SecretSource)
    (order : Secret → Nat) (seen : List Secret) (start : Memory) (events : List Event) : Prop where
  alone : ∀ source', sources source' → source'.number = source.number → source' = source
  start : (start.cache source.number).Backed seen
  exclusive : Exclusive events
  justified : ∀ k, Justified sources (stepsOf k events)
  newer : (seen ++ listedIn (Step.secretOf? source) events).Pairwise fun s s' => order s ≤ order s'

namespace Successive

variable {sources : SecretSource → Prop} {source : SecretSource} {order : Secret → Nat}
  {seen : List Secret} {start m m' : Memory} {events later : List Event} {i k : Nat}
  {cache cache' : SecretCache}

theorem of_append (h : Successive sources source order seen start (events ++ later)) :
    Successive sources source order seen start events where
  alone := h.alone
  start := h.start
  exclusive := h.exclusive.of_append
  justified := justified_of_append h.justified
  newer := by
    have hnewer := h.newer
    rw [listedIn_append, ← List.append_assoc] at hnewer
    exact (List.pairwise_append.mp hnewer).1

/-- Nobody else replaces a cache that a call has taken, as it would hold the lock, too. -/
theorem cache_of_held (h : Successive sources source order seen start (events ++ later))
    (hl : .cache source.number ∈ heldAfter (stepsOf k events))
    (hown : ∀ x ∈ stepsOf k later, x.operation ≠ .release (.cache source.number) ∧
      ∀ cache, x.operation ≠ .setCache source.number cache)
    (hruns : m.Runs (later.map Event.step) m') :
    m'.cache source.number = m.cache source.number := by
  induction later using List.reverseRecOn generalizing m' with
  | nil => rw [show m = m' from hruns]
  | append_singleton later e ih =>
      obtain ⟨j, x⟩ := e
      rw [← List.append_assoc] at h
      rw [List.map_append] at hruns
      obtain ⟨middle, hbefore, -, rfl⟩ := Memory.runs_concat.mp hruns
      have hearlier : ∀ x ∈ stepsOf k later, x.operation ≠ .release (.cache source.number) ∧
          ∀ cache, x.operation ≠ .setCache source.number cache := by
        intro x hx
        refine hown x ?_
        rw [stepsOf_append]
        exact List.mem_append_left _ hx
      rw [← ih h.of_append hearlier hbefore]
      rcases cache_after_cases source.number middle x with heq | ⟨cache, rfl, -⟩
      · exact heq
      · have hj := h.justified j
        rw [stepsOf_concat_same] at hj
        have hlock : .cache source.number ∈ heldAfter (stepsOf k (events ++ later)) := by
          rw [stepsOf_append]
          exact mem_heldAfter_append hl fun x hx => (hearlier x hx).1
        have hother : .cache source.number ∈ heldAfter (stepsOf j (events ++ later)) := by
          rw [hj.heldAfter]
          exact List.mem_singleton_self _
        obtain rfl := holder_unique h.of_append.exclusive hlock hother
        have hmem : (⟨.setCache source.number cache, ()⟩ : Step) ∈
            stepsOf k (later ++ [⟨k, .setCache source.number cache, ()⟩]) := by simp
        exact absurd rfl ((hown _ hmem).2 cache)

/-- From where a look-up finds something listed, the cache is what the look-up reads of it. -/
theorem exists_listing (h : Successive sources source order seen start events) {g : List Step}
    {secret : Option Secret} {old : SecretCache}
    (hsteps : stepsOf k events = g ++ lookingUp source secret old)
    (hruns : start.Runs (events.map Event.step) m) :
    ∃ before later mb,
      events = before ++ ⟨k, .ask (.listedSecret source.store source.reference), secret⟩ :: later ∧
        start.Runs (before.map Event.step) mb ∧ mb.cache source.number = old ∧
          m.cache source.number = old := by
  have hcut : stepsOf k events = g ++ [⟨.acquire (.cache source.number), ()⟩] ++
      ⟨.ask (.listedSecret source.store source.reference), secret⟩ ::
        [⟨.getCache source.number, old⟩] := by
    simpa [lookingUp] using hsteps
  obtain ⟨before, later, rfl, hbefore, hlater⟩ := exists_split_of_stepsOf hcut
  obtain ⟨between, rest, rfl, hbetween⟩ := exists_of_stepsOf (g := []) hlater
  rw [List.map_append] at hruns
  obtain ⟨mb, hrunsb, hruns⟩ := Memory.runs_append.mp hruns
  have hlock : .cache source.number ∈ heldAfter (stepsOf k before) := by
    rw [hbefore, heldAfter_concat]
    exact List.mem_cons_self ..
  have hquiet : ∀ x ∈ ([⟨.ask (.listedSecret source.store source.reference), secret⟩,
      ⟨.getCache source.number, old⟩] : List Step),
      x.operation ≠ .release (.cache source.number) ∧
        ∀ cache, x.operation ≠ .setCache source.number cache := by
    simp
  have hall : m.cache source.number = mb.cache source.number := by
    refine h.cache_of_held hlock (fun x hx => hquiet x ?_) hruns
    rcases List.mem_cons.mp (mem_stepsOf.mp hx) with heq | hx
    · obtain rfl := congrArg Event.step heq
      simp
    · have hx := mem_stepsOf.mpr hx
      rw [hlater] at hx
      exact List.mem_cons_of_mem _ hx
  have hread : mb.cache source.number = old := by
    rw [← List.cons_append, ← List.append_assoc] at h
    rw [← List.cons_append, List.map_append] at hruns
    obtain ⟨mr, hrunsr, htells, -⟩ := Memory.runs_append.mp hruns
    have hsame : mr.cache source.number = mb.cache source.number := by
      refine h.of_append.cache_of_held hlock (fun x hx => hquiet x ?_) hrunsr
      rcases List.mem_cons.mp (mem_stepsOf.mp hx) with heq | hx
      · obtain rfl := congrArg Event.step heq
        simp
      · have hx := mem_stepsOf.mpr hx
        rw [hbetween] at hx
        cases hx
    have hold : old = mr.cache source.number := htells
    rw [hold, hsame]
  exact ⟨before, _, mb, rfl, hrunsb, hread, hall.trans hread⟩

/-- A cache is replaced by what is not older, for what was listed before is not newer. -/
theorem rank_le_of_setCache
    (h : Successive sources source order seen start
      (events ++ [⟨k, .setCache source.number cache, ()⟩]))
    (hruns : start.Runs (events.map Event.step) m) :
    rank order (m.cache source.number).secret ≤ rank order cache.secret := by
  have hk := h.justified k
  rw [stepsOf_concat_same] at hk
  obtain ⟨g, source', secret, old, hsource, hnumber, hsteps, -, hrefresh⟩ :=
    hk _ _ cache List.prefix_rfl
  obtain rfl := h.alone source' hsource hnumber.symm
  obtain ⟨before, later, mb, rfl, hrunsb, hold, heq⟩ := h.of_append.exists_listing hsteps hruns
  rw [heq]
  rcases refreshCache_cases hrefresh with rfl | ⟨s, rfl, hsecret⟩
  · exact Nat.le_refl _
  · rw [hsecret, ← hold]
    have hbefore := h.of_append.of_append
    have hbacked := (backed_of_runs (Step.secretOf? source') ?_ hrunsb hbefore.justified
      hbefore.start).1
    · rcases hbacked with ⟨hblank, -⟩ | ⟨s₀, hs₀, hcached, -⟩
      · rw [hblank]
        exact Nat.zero_le _
      · rw [hcached]
        have hnewer := h.of_append.newer
        rw [listedIn_append, ← List.append_assoc] at hnewer
        refine Nat.succ_le_succ ((List.pairwise_append.mp hnewer).2.2 s₀ hs₀ s ?_)
        simp [listedIn, Step.secretOf?]
    · intro source hsource' hnumber' secret
      obtain rfl := h.alone source hsource' hnumber'
      simp [Step.secretOf?]

/-- Whatever a cache was replaced by is not newer than what is there later. -/
theorem rank_le (h : Successive sources source order seen start events)
    (hruns : start.Runs (events.map Event.step) m)
    (hset : ⟨i, .setCache source.number cache, ()⟩ ∈ events) :
    rank order cache.secret ≤ rank order (m.cache source.number).secret := by
  induction events using List.reverseRecOn generalizing m with
  | nil => cases hset
  | append_singleton events e ih =>
      obtain ⟨k, x⟩ := e
      rw [List.map_append] at hruns
      obtain ⟨middle, hbefore, -, rfl⟩ := Memory.runs_concat.mp hruns
      rcases List.mem_append.mp hset with hset | hset
      · have hearlier := ih h.of_append hbefore hset
        rcases cache_after_cases source.number middle x with heq | ⟨cache', rfl, heq⟩
        · rwa [heq]
        · rw [heq]
          exact Nat.le_trans hearlier (h.rank_le_of_setCache hbefore)
      · cases List.mem_singleton.mp hset
        have hnow : (middle.after ⟨.setCache source.number cache, ()⟩).cache source.number = cache :=
          Memory.cache_setCache ..
        exact Nat.le_of_eq (congrArg (fun c => rank order c.secret) hnow.symm)

/-- A cache is not replaced by something older than whatever it was replaced by before. -/
theorem rank_le_of_before
    (h : Successive sources source order seen start
      (events ++ ⟨k, .setCache source.number cache', ()⟩ :: later))
    (hruns : start.Runs ((events ++ ⟨k, .setCache source.number cache', ()⟩ :: later).map Event.step)
      m')
    (hset : ⟨i, .setCache source.number cache, ()⟩ ∈ events) :
    rank order cache.secret ≤ rank order cache'.secret := by
  rw [List.append_cons] at h
  rw [List.map_append] at hruns
  obtain ⟨m, hbefore, -⟩ := Memory.runs_append.mp hruns
  exact Nat.le_trans (h.of_append.of_append.rank_le hbefore hset)
    (h.of_append.rank_le_of_setCache hbefore)

/-- Before somebody else replaces the cache, too, a call gives it back. -/
theorem stepsOf_ne_nil (hne : i ≠ k)
    (h : Successive sources source order seen start
      (events ++ [⟨k, .setCache source.number cache, ()⟩] ++ later ++
        [⟨i, .setCache source.number cache', ()⟩])) :
    stepsOf k later ≠ [] := by
  intro hnone
  have hk := h.of_append.of_append.justified k
  rw [stepsOf_concat_same] at hk
  have hi := h.justified i
  rw [stepsOf_concat_same] at hi
  have hheldi : .cache source.number ∈ heldAfter
      (stepsOf i (events ++ [⟨k, .setCache source.number cache, ()⟩] ++ later)) := by
    rw [hi.heldAfter]
    exact List.mem_singleton_self _
  have hheldk : .cache source.number ∈ heldAfter
      (stepsOf k (events ++ [⟨k, .setCache source.number cache, ()⟩] ++ later)) := by
    rw [stepsOf_append, hnone, List.append_nil, stepsOf_concat_same, heldAfter_concat, hk.heldAfter]
    exact List.mem_singleton_self _
  exact hne (holder_unique h.of_append.exclusive hheldi hheldk)

end Successive

/-! ## Who asks for a lock first -/

/-- Between the look-up of a call and its request for another lock, somebody else looked the
Secret up. -/
def Overtaken {ω α : Type} (o : Outside ω) (m : Machine ω α) (schedule : List (Move ω α))
    (source : SecretSource) (k : Nat) : Prop :=
  ∃ first j rest cache, schedule = first ++ .step j :: rest ∧ j ≠ k ∧
    (m.run o first).events o (.step j) = [⟨j, .setCache source.number cache, ()⟩] ∧
      ∃ t ∈ (m.run o first).tasks, t.number = k ∧ t.waits = false ∧ ∃ g cache',
        stepsOf k (m.trace o first) =
          g ++ [⟨.setCache source.number cache', ()⟩, ⟨.release (.cache source.number), ()⟩]

/-- What a call does from when it replaces a cache until it has stored a credential. -/
def storing (source : SecretSource) (c : Nat) (cache : SecretCache) (old : LoginState)
    (credential : Credential) : List Step :=
  [⟨.setCache source.number cache, ()⟩, ⟨.release (.cache source.number), ()⟩,
    ⟨.acquire (.credentials c), ()⟩, ⟨.getLogin c, old⟩,
    ⟨.setLogin c (old.update (.ofCredential credential)), ()⟩]

namespace ConnectionManager

variable {ω : Type} {o : Outside ω} {m : ConnectionManager} {memory : Memory} {outside : ω}
  {schedule : List (Move ω Result)} {source : SecretSource}

/-- Who looks a Secret up later also gets a lock later, unless it overtook the other one, since
the other one neither holds the lock nor waits for it when it stores what it looked up. -/
theorem acquire_in_turn_of_lookUp (hcalls : m.Answers schedule) {j k : Nat} (hne : j ≠ k)
    {lock : Lock} (hlock : lock ≠ .cache source.number) {cache cache' : SecretCache}
    {before between later : List Event} {g : List Step}
    (htrace : (Machine.idle memory outside).trace o schedule =
      before ++ ⟨j, .setCache source.number cache, ()⟩ ::
        (between ++ ⟨k, .acquire lock, ()⟩ :: later))
    (hbefore : stepsOf k before =
      g ++ [⟨.setCache source.number cache', ()⟩, ⟨.release (.cache source.number), ()⟩])
    (hbetween : stepsOf k between = []) :
    ⟨j, .acquire lock, ()⟩ ∉ between ∨
      Overtaken o (Machine.idle memory outside) schedule source k := by
  have hb := bracketed_of_answers hcalls
  obtain ⟨first, rest, rfl, rfl, hevents, u, hu, next, hpu⟩ :=
    Machine.exists_step_of_trace htrace (by simp)
  obtain ⟨humem, rfl⟩ := Machine.mem_of_task? hu
  have hfirst := List.prefix_append first (.step u.number :: rest)
  have haccount := Machine.account_run (o := o) memory outside hfirst hb
  have horderly := Machine.orderly_run (o := o) memory outside hfirst hb
  rw [Machine.trace_append, List.append_cancel_left_eq, ← List.cons_append] at htrace
  have hbetween' : stepsOf k (⟨u.number, .setCache source.number cache, ()⟩ :: between) = [] := by
    simpa [stepsOf, hne] using hbetween
  obtain ⟨t, ht, rfl, next', hpt⟩ := Machine.exists_pending memory outside hb
    (by rw [hbefore]; simp) htrace hbetween' (by simp)
  cases hwaits : t.waits with
  | false =>
      exact .inr ⟨first, u.number, rest, cache, rfl, hne, hevents, t, ht, rfl, hwaits, g, cache',
        hbefore⟩
  | true =>
      have hwants : ¬ u.Wants lock := by
        rintro (hheld | ⟨-, next'', hpu'⟩)
        · have hj : Justified m.HasSource (stepsOf u.number ((Machine.idle memory outside).trace o
              (first ++ [.step u.number]))) := justified_run hcalls ⟨rest, by simp⟩ u.number
          rw [Machine.trace_append, Machine.trace, Machine.trace, hevents, List.append_nil,
            stepsOf_concat_same] at hj
          rw [(haccount.task u humem).held, hj.heldAfter] at hheld
          exact hlock (List.mem_singleton.mp hheld)
        · cases hpu.symm.trans hpu'
      have hprecedes : ((Machine.idle memory outside).run o first).Precedes lock t.number u.number :=
        ⟨⟨t, ht, rfl, hwaits, next', hpt⟩,
          Machine.notBefore_of_not_mem
            (LockState.serves_iff.mp ((haccount.task t ht).served lock next' hwaits hpt))
            fun hl => hwants (horderly.wants_of_mem haccount humem hl)⟩
      refine .inl fun hmem => ?_
      exact Machine.acquire_in_turn memory outside hb hne hprecedes htrace hbetween'
        (List.mem_cons_of_mem _ hmem)

/-! ## Who stores first -/

variable {order : Secret → Nat} {seen : List Secret} {c j k : Nat} {cache cache' : SecretCache}
  {old old' : LoginState} {credential credential' : Credential} {g g' : List Step}

/-- If a call looks the Secret up after another one and still gets the credentials lock before
that one has stored, it overtook the other one. -/
theorem overtaken_of_lookUp (hcalls : m.Answers schedule) (hne : j ≠ k)
    {before between later : List Event}
    (hsuccessive : Successive m.HasSource source order seen memory
      (before ++ ⟨k, .setCache source.number cache', ()⟩ ::
        (between ++ ⟨j, .setCache source.number cache, ()⟩ :: later)))
    (hpre : before ++ ⟨k, .setCache source.number cache', ()⟩ ::
      (between ++ ⟨j, .setCache source.number cache, ()⟩ :: later) <+:
        (Machine.idle memory outside).trace o schedule)
    (hbefore : stepsOf k before = g')
    (hsteps : stepsOf k (before ++ ⟨k, .setCache source.number cache', ()⟩ ::
      (between ++ ⟨j, .setCache source.number cache, ()⟩ :: later)) =
        g' ++ storing source c cache' old' credential')
    (hgets : ⟨j, .acquire (.credentials c), ()⟩ ∈ later) :
    Overtaken o (Machine.idle memory outside) schedule source k := by
  have hcut : stepsOf k (before ++ ⟨k, .setCache source.number cache', ()⟩ ::
      (between ++ ⟨j, .setCache source.number cache, ()⟩ :: later)) =
        g' ++ [⟨.setCache source.number cache', ()⟩, ⟨.release (.cache source.number), ()⟩] ++
          ⟨.acquire (.credentials c), ()⟩ :: [⟨.getLogin c, old'⟩,
            ⟨.setLogin c (old'.update (.ofCredential credential')), ()⟩] := by
    simpa [storing] using hsteps
  obtain ⟨Q, S, hQ, hQsteps, hSsteps⟩ := exists_split_of_stepsOf hcut
  have hafter : ⟨j, .acquire (.credentials c), ()⟩ ∉ S := by
    have hexclusive := hsuccessive.exclusive
    rw [hQ, List.append_cons] at hexclusive
    refine fun hmem => not_acquire_of_held (k := k) hexclusive ?_ ?_ _ hmem rfl
    · rw [stepsOf_concat_same, heldAfter_concat]
      exact List.mem_cons_self ..
    · rw [hSsteps]
      simp
  rw [List.append_cons, ← List.append_assoc] at hQ hsuccessive hpre
  have hP : stepsOf k (before ++ [⟨k, .setCache source.number cache', ()⟩] ++ between) =
      g' ++ ⟨.setCache source.number cache', ()⟩ :: stepsOf k between := by
    rw [stepsOf_append, stepsOf_concat_same, hbefore, List.append_assoc, List.singleton_append]
  rcases List.append_eq_append_iff.mp hQ with ⟨N, rfl, heq⟩ | ⟨N, -, heq⟩
  · cases N with
    | nil => exact absurd (congrArg Event.task (List.cons_eq_cons.mp heq).1) hne
    | cons _ N =>
        obtain ⟨rfl, rfl⟩ := List.cons_eq_cons.mp heq
        have hsplit : stepsOf k between ++ stepsOf k N = [⟨.release (.cache source.number), ()⟩] := by
          rw [stepsOf_append, hP, stepsOf_cons_other hne] at hQsteps
          simpa using hQsteps
        have hreleased : stepsOf k between ≠ [] := by
          rw [List.append_cons] at hsuccessive
          exact hsuccessive.of_append.stepsOf_ne_nil hne
        obtain ⟨hbetween, hN⟩ : stepsOf k between = [⟨.release (.cache source.number), ()⟩] ∧
            stepsOf k N = [] :=
          (List.append_eq_singleton_iff.mp hsplit).resolve_left fun h => hreleased h.1
        obtain ⟨tail, htail⟩ := hpre
        rw [hbetween] at hP
        have hall : (Machine.idle memory outside).trace o schedule =
            before ++ [⟨k, .setCache source.number cache', ()⟩] ++ between ++
              ⟨j, .setCache source.number cache, ()⟩ ::
                (N ++ ⟨k, .acquire (.credentials c), ()⟩ :: (S ++ tail)) := by
          simpa using htail.symm
        refine (acquire_in_turn_of_lookUp hcalls hne (by simp) hall hP hN).resolve_left fun hnot => ?_
        rcases List.mem_append.mp hgets with hmem | hmem
        · exact hnot hmem
        · rcases List.mem_cons.mp hmem with heq | hmem
          · exact hne (congrArg Event.task heq)
          · exact hafter hmem
  · cases N with
    | nil => exact absurd (congrArg Event.task (List.cons_eq_cons.mp heq).1) hne.symm
    | cons _ N =>
        obtain ⟨-, rfl⟩ := List.cons_eq_cons.mp heq
        exact absurd (List.mem_append_right _ (List.mem_cons_of_mem _ hgets)) hafter

/-- Of two calls that store what they looked up, the one that stores first did not look up
anything newer, unless it overtook the other one.  Either it looked up first, or it also got the
lock of the credentials first. -/
theorem rank_le_of_storing (hcalls : m.Answers schedule) {before between : List Event}
    {e e' : Event}
    (hsuccessive : Successive m.HasSource source order seen memory
      (before ++ [e] ++ (between ++ [e'])))
    (hpre : before ++ [e] ++ (between ++ [e']) <+:
      (Machine.idle memory outside).trace o schedule)
    (hfirst : stepsOf e.task (before ++ [e]) = g ++ storing source c cache old credential)
    (hsecond : stepsOf e'.task (before ++ [e] ++ (between ++ [e'])) =
      g' ++ storing source c cache' old' credential') :
    rank order cache.secret ≤ rank order cache'.secret ∨
      Overtaken o (Machine.idle memory outside) schedule source e'.task := by
  obtain ⟨P, R, hR, hP, hRsteps⟩ := exists_split_of_stepsOf (g := g) hfirst
  obtain ⟨P', R', hR', hP', -⟩ := exists_split_of_stepsOf (g := g') hsecond
  have hlength := (prefix_stepsOf e'.task
    (List.prefix_append (before ++ [e]) (between ++ [e']))).length_le
  rw [hsecond] at hlength
  rw [hR] at hsuccessive hpre hR' hsecond
  rw [List.append_assoc, List.cons_append] at hsuccessive hpre hR' hsecond
  have hgets : ⟨e.task, .acquire (.credentials c), ()⟩ ∈ R ++ (between ++ [e']) := by
    refine List.mem_append_left _ (mem_stepsOf.mp ?_)
    rw [hRsteps]
    simp
  have hfinal := (Machine.account_run (o := o) memory outside (List.prefix_rfl (l := schedule))
    (bracketed_of_answers hcalls)).memory
  obtain ⟨tail, htail⟩ := hpre
  rw [← htail, List.map_append] at hfinal
  obtain ⟨_, hruns, -⟩ := Memory.runs_append.mp hfinal
  have hpre : _ <+: _ := ⟨tail, htail⟩
  have hsame : (⟨e.task, .setCache source.number cache, ()⟩ : Event) =
      ⟨e'.task, .setCache source.number cache', ()⟩ →
        rank order cache.secret ≤ rank order cache'.secret := fun heq =>
    Nat.le_of_eq (congrArg (fun c => rank order c.secret)
      (Operation.setCache.inj (congrArg (fun e => e.step.operation) heq)).2)
  rcases List.append_eq_append_iff.mp hR' with ⟨M, rfl, heq⟩ | ⟨M, rfl, heq⟩
  · refine .inl ?_
    cases M with
    | nil => exact hsame (List.cons_eq_cons.mp heq).1
    | cons _ M =>
        obtain ⟨rfl, -⟩ := List.cons_eq_cons.mp heq
        rw [hR'] at hsuccessive hruns
        exact hsuccessive.rank_le_of_before hruns
          (List.mem_append_right _ (List.mem_cons_self ..))
  · cases M with
    | nil => exact .inl (hsame (List.cons_eq_cons.mp heq).1.symm)
    | cons _ M =>
        obtain ⟨rfl, -⟩ := List.cons_eq_cons.mp heq
        have hne : e.task ≠ e'.task := by
          intro htask
          rw [← htask, hfirst] at hlength
          rw [← htask] at hP'
          rw [htask, stepsOf_append, ← htask, hP', htask, stepsOf_cons_same] at hP
          simp [← hP, storing] at hlength
        rw [List.append_assoc, List.cons_append] at hsuccessive hpre hsecond
        exact .inr (overtaken_of_lookUp hcalls hne hsuccessive hpre hP' hsecond hgets)

end ConnectionManager

/-! ## What a connect stores -/

/-- Who does something else than giving back a lock is not abandoned. -/
theorem Program.Performs.exists_path {α : Type} {p : Program α} {h : List Step} {x : Step}
    (hh : p.Performs (h ++ [x])) (hx : ∀ lock, x.operation ≠ .release lock) :
    ∃ q, p.Path (h ++ [x]) q := by
  obtain ⟨g, q, hpath, rfl | ⟨-, -, -, -, heq⟩⟩ := hh
  · exact ⟨q, hpath⟩
  · rcases List.eq_nil_or_concat (heldAfter g) with hnone | ⟨held, lock, hheld⟩
    · rw [hnone, giveBack, List.map_nil, List.append_nil] at heq
      exact ⟨q, heq ▸ hpath⟩
    · rw [hheld, giveBack, List.concat_eq_append, List.map_append, ← List.append_assoc] at heq
      have hlast := List.singleton_inj.mp (List.append_inj' heq rfl).2
      exact absurd (congrArg Step.operation hlast) (hx lock)

namespace Renewal

variable {v : VirtualCenter} {server : String} {h : List Step}

/-- What a connect has done since it replaced the cache. -/
def Pushing (v : VirtualCenter) (server : String) (h : List Step) : Renewal → Prop
  | .served cache => ∃ g source, v.source = some source ∧
      h = g ++ [⟨.setCache source.number cache, ()⟩]
  | .found credential => ∃ g source cache, v.source = some source ∧
      CredentialManager.find server cache = .ok credential ∧
        h = g ++ [⟨.setCache source.number cache, ()⟩, ⟨.release (.cache source.number), ()⟩]
  | .granted credential => ∃ g source cache, v.source = some source ∧
      CredentialManager.find server cache = .ok credential ∧
        h = g ++ [⟨.setCache source.number cache, ()⟩, ⟨.release (.cache source.number), ()⟩,
          ⟨.acquire (.credentials v.connection.number), ()⟩]
  | .ready credential login => ∃ g source cache, v.source = some source ∧
      CredentialManager.find server cache = .ok credential ∧
        h = g ++ [⟨.setCache source.number cache, ()⟩, ⟨.release (.cache source.number), ()⟩,
          ⟨.acquire (.credentials v.connection.number), ()⟩,
          ⟨.getLogin v.connection.number, login⟩]
  | _ => True

theorem pushing_of_allows (hall : (Rule.renewing v server).Allows .idle h) :
    ((Rule.renewing v server).after .idle h).Pushing v server h := by
  induction h using List.reverseRecOn with
  | nil => trivial
  | append_singleton h x ih =>
      obtain ⟨hbefore, hallows⟩ := Rule.allows_concat.mp hall
      have hpushing := ih hbefore
      have hleads := leads_of_allows hallows
      rw [Rule.after_concat]
      generalize (Rule.renewing v server).after .idle h = renewal at *
      generalize (Rule.renewing v server).next renewal x = renewal' at *
      cases hleads with
      | serve hsource _ => exact ⟨h, _, hsource, rfl⟩
      | find hsource hfind =>
          obtain ⟨g, source', hsource', rfl⟩ := hpushing
          obtain rfl := Option.some.inj (hsource'.symm.trans hsource)
          exact ⟨g, _, _, hsource, hfind, by simp⟩
      | grant credential =>
          obtain ⟨g, source, cache, hsource, hfind, rfl⟩ := hpushing
          exact ⟨g, source, cache, hsource, hfind, by simp⟩
      | look credential login =>
          obtain ⟨g, source, cache, hsource, hfind, rfl⟩ := hpushing
          exact ⟨g, source, cache, hsource, hfind, by simp⟩
      | _ => trivial

end Renewal

namespace VirtualCenter

/-- The steps of a connect to a server end with a change of credentials, to those that a
Secret has for the server. -/
def Pushes (v : VirtualCenter) (server : String) (h : List Step) (s : Secret) : Prop :=
  ∃ g source cache old credential, v.source = some source ∧ cache.secret = some s ∧
    s.credentials = .ok cache.credentials ∧
      CredentialManager.find server cache = .ok credential ∧
        h = g ++ storing source v.connection.number cache old credential

end VirtualCenter

namespace ConnectionManager

variable {ω : Type} {o : Outside ω} {m : ConnectionManager} {memory : Memory} {outside : ω}
  {schedule : List (Move ω Result)} {source : SecretSource} {v : VirtualCenter} {server : String}
  {order : Secret → Nat} {seen : List Secret}

/-- Along every run of calls, one cache gets newer if what is listed for it does. -/
theorem successive_run (hcalls : m.Answers schedule)
    (halone : ∀ source', m.HasSource source' → source'.number = source.number → source' = source)
    (hstart : (memory.cache source.number).Backed seen)
    (hnewer : (seen ++ listedIn (Step.secretOf? source)
      ((Machine.idle memory outside).trace o schedule)).Pairwise fun s s' => order s ≤ order s') :
    Successive m.HasSource source order seen memory
      ((Machine.idle memory outside).trace o schedule) where
  alone := halone
  start := hstart
  exclusive := (Machine.account_run (o := o) memory outside List.prefix_rfl
    (bracketed_of_answers hcalls)).exclusive
  justified := justified_run hcalls List.prefix_rfl
  newer := hnewer

/-- Whenever a connect stores credentials that it has looked up, some Secret that was listed has
them for the server. -/
theorem exists_pushes (hcalls : m.Answers schedule) (hknown : m.virtualCenters.get? server = some v)
    (hsource : v.source = some source)
    (halone : ∀ source', m.HasSource source' → source'.number = source.number → source' = source)
    (hstart : (memory.cache source.number).Backed seen) {first : List (Move ω Result)}
    (hfirst : first <+: schedule) {k : Nat}
    (hcall : (begunBy schedule)[k]? = some (m.program (.connect server))) {h : List Step} {n : Nat}
    {stored : LoginState}
    (hsteps : stepsOf k ((Machine.idle memory outside).trace o first) =
      h ++ [⟨.setLogin n stored, ()⟩])
    {credential : Credential} {login : LoginState}
    (hready : (Rule.renewing v server).after .idle h = .ready credential login) :
    ∃ s ∈ seen ++ listedIn (Step.secretOf? source) ((Machine.idle memory outside).trace o first),
      v.Pushes server (h ++ [⟨.setLogin n stored, ()⟩]) s := by
  have haccount := Machine.account_run (o := o) memory outside hfirst (bracketed_of_answers hcalls)
  have hperforms := haccount.performed k _ hcall
  rw [hsteps] at hperforms
  obtain ⟨q, hpath⟩ := hperforms.exists_path (by simp)
  have hobeys : (m.program (.connect server)).Obeys (.renewing v server)
      (fun renewal _ => renewal = .idle) .idle :=
    .bind (obeys_renewing hknown) fun _ _ => id
  obtain ⟨hall, hallows⟩ := Rule.allows_concat.mp (hobeys.along hpath)
  have hpushing := Renewal.pushing_of_allows hall
  rw [hready] at hallows hpushing
  obtain ⟨g, source', cache, hsource', hfind, rfl⟩ := hpushing
  obtain rfl := Option.some.inj (hsource'.symm.trans hsource)
  obtain ⟨rfl, rfl⟩ := Operation.setLogin.inj hallows
  have hset : (⟨k, .setCache source'.number cache, ()⟩ : Event) ∈
      (Machine.idle memory outside).trace o first := by
    rw [← mem_stepsOf, hsteps]
    simp
  have hbacked := backed_of_setCache (Step.secretOf? source') ?_ haccount.memory
    (justified_run hcalls hfirst) hstart hset
  · rcases hbacked with ⟨-, hblank⟩ | ⟨s, hs, hsecret, hread⟩
    · change cache.credentials = ∅ at hblank
      rw [CredentialManager.find, SecretCache.credential?, hblank] at hfind
      cases hfind
    · exact ⟨s, hs, g, source', cache, login, credential, hsource, hsecret, hread, hfind,
        by simp [storing]⟩
  · intro source hhas hnumber secret
    obtain rfl := halone source hhas hnumber
    simp [Step.secretOf?]

/-- Connects do not replace credentials by older ones: of two Secrets whose credentials are stored
one after the other, the second one is not older, unless its connect was overtaken between the
look-up and its request for the credentials lock. -/
theorem rank_le_of_pushes (hcalls : m.Answers schedule) (hsource : v.source = some source)
    (halone : ∀ source', m.HasSource source' → source'.number = source.number → source' = source)
    (hstart : (memory.cache source.number).Backed seen)
    (hnewer : (seen ++ listedIn (Step.secretOf? source)
      ((Machine.idle memory outside).trace o schedule)).Pairwise fun s s' => order s ≤ order s')
    {before between later : List Event} {e e' : Event} {s s' : Secret}
    (htrace : (Machine.idle memory outside).trace o schedule =
      before ++ [e] ++ (between ++ [e']) ++ later)
    (hfirst : v.Pushes server (stepsOf e.task (before ++ [e])) s)
    (hsecond : v.Pushes server (stepsOf e'.task (before ++ [e] ++ (between ++ [e']))) s') :
    order s ≤ order s' ∨ Overtaken o (Machine.idle memory outside) schedule source e'.task := by
  have hsuccessive : Successive m.HasSource source order seen memory
      ((Machine.idle memory outside).trace o schedule) :=
    successive_run hcalls halone hstart hnewer
  rw [htrace] at hsuccessive
  obtain ⟨g, source₁, cache, old, credential, hsource₁, hsecret, -, -, hsteps⟩ := hfirst
  obtain ⟨g', source₂, cache', old', credential', hsource₂, hsecret', -, -, hsteps'⟩ := hsecond
  obtain rfl := Option.some.inj (hsource₁.symm.trans hsource)
  obtain rfl := Option.some.inj (hsource₂.symm.trans hsource)
  refine (rank_le_of_storing hcalls hsuccessive.of_append ⟨later, htrace.symm⟩ hsteps hsteps').imp_left
    fun hle => ?_
  rw [hsecret, hsecret'] at hle
  exact Nat.le_of_succ_le_succ hle

/-! ## One thread -/

/-- Where tasks go on one at a time, nobody is overtaken. -/
theorem not_overtaken {start : Machine ω Result} (h : Machine.OneThread o start schedule) (k : Nat) :
    ¬ Overtaken o start schedule source k := by
  rintro ⟨first, j, rest, cache, rfl, hne, -, t, ht, rfl, hwaits, g, cache', hsteps⟩
  have hnone := h first j rest rfl t ht hne.symm hwaits
  rw [hsteps] at hnone
  simp at hnone

/-- Where calls go on as a machine settles, connects never replace credentials by older ones. -/
theorem settling_never_reverts {final : Machine ω Result}
    (hpaced : Machine.Paced o (Machine.idle memory outside) schedule final)
    (hcalls : m.Answers schedule) (hsource : v.source = some source)
    (halone : ∀ source', m.HasSource source' → source'.number = source.number → source' = source)
    (hstart : (memory.cache source.number).Backed seen)
    (hnewer : (seen ++ listedIn (Step.secretOf? source)
      ((Machine.idle memory outside).trace o schedule)).Pairwise fun s s' => order s ≤ order s')
    {before between later : List Event} {e e' : Event} {s s' : Secret}
    (htrace : (Machine.idle memory outside).trace o schedule =
      before ++ [e] ++ (between ++ [e']) ++ later)
    (hfirst : v.Pushes server (stepsOf e.task (before ++ [e])) s)
    (hsecond : v.Pushes server (stepsOf e'.task (before ++ [e] ++ (between ++ [e']))) s') :
    order s ≤ order s' := by
  have hone := (hpaced.oneThread_and_resting (bracketed_of_answers hcalls)).1
  exact (rank_le_of_pushes hcalls hsource halone hstart hnewer htrace hfirst hsecond).resolve_right
    (not_overtaken hone _)

/-! ## Two threads -/

/-- The Secret before its password was changed. -/
def previous : Secret :=
  CredentialManager.revision "1" [("vcenter.username", "k8s"), ("vcenter.password", "old")]

/-- A Secret appears, or changes. -/
def published (s : Secret) : Move World Result :=
  .change fun w => (w.intervene (.observe 0 (.applied s))).2

/-- The memory of a connection manager whose only password is rejected. -/
def rejectedLogin : Memory := ({} : Memory).start 0 { username := "k8s", password := "stale" }

/-- A connect has looked the Secret up, and another one finds the next revision before the first
one goes on. -/
def overtaking : List (Move World Result) :=
  published previous :: .begin (oneServer.program (.connect "vcenter")) ::
    List.replicate 13 (.step 0) ++
  published rotated :: .begin (oneServer.program (.connect "vcenter")) ::
    List.replicate 25 (.step 1) ++ List.replicate 12 (.step 0)

/-- The password that a step stores. -/
def storedPassword? : Step → Option String
  | ⟨.setLogin _ login, ()⟩ => some login.credentials.password
  | _ => none

/-- Where threads may stop between a look-up and what follows it, newer credentials are replaced
by older ones. -/
theorem connect_overtaken :
    oneServer.Reached rejectedLogin [] ∧ oneServer.Answers overtaking ∧
      listedIn (Step.secretOf? oneSource)
        ((Machine.idle rejectedLogin ({} : World).openStore).trace World.outside overtaking) =
          [previous, rotated] ∧
      ((Machine.idle rejectedLogin ({} : World).openStore).trace World.outside
        overtaking).filterMap (fun e => (storedPassword? e.step).map (e.task, ·)) =
          [(1, "new"), (0, "old")] := by
  have hcalls : oneServer.Answers overtaking := by
    rintro p (_ | ⟨_, _ | ⟨_, hp⟩⟩)
    · exact ⟨_, rfl⟩
    · exact ⟨_, rfl⟩
    · cases hp
  exact ⟨.insert .new _ _ _, hcalls, by decide +kernel, by decide +kernel⟩

end ConnectionManager

end VcenterAccess
