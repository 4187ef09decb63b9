import VcenterAccess.Proofs.ConnectionManager.Calls
import VcenterAccess.Proofs.Credential.Snapshot

/-!
# Readers of one source

Many readers may ask one source for credentials.  Each of them takes the cache, looks the Secret
up, reads the cache, brings it up to date unless the Secret cannot be read, and gives the cache
back (`Rule.reading`).  Whoever changes the Secret takes no lock.

A reader has its turn when it looks the Secret up, and the turns of all readers are a history of
a credential manager (`SecretSource.turns`).  The invariant is that the cache holds what this
history leaves, up to the last turn or, while its reader has done nothing about the cache, up to
the one before (`SecretSource.Tracked`).  It holds after every step, as long as the steps are
those of readers and no lock is taken that somebody has (`SecretSource.Log`).
-/

namespace VcenterAccess

open CredentialManager Program

/-- What is done for a request. -/
def SecretSource.respond (source : SecretSource) : Request → Program Answer
  | .credential server => do return .credential (← source.getCredential server)
  | .all => do return .all (← source.credentials)

/-! ## One reader -/

/-- How far a reader is. -/
inductive Reading where
  | idle
  /-- It has the cache. -/
  | taken
  /-- It knows what is listed. -/
  | listed (secret : Option Secret)
  /-- It knows what is cached. -/
  | read (secret : Option Secret) (old : SecretCache)
  /-- It has brought the cache up to date. -/
  | served (secret : Option Secret) (old : SecretCache)
  /-- It has given the cache back. -/
  | answered (secret : Option Secret) (old : SecretCache)

namespace Reading

variable (source : SecretSource)

/-- What a reader does next. -/
def next? : Reading → Option Operation
  | idle => some (.acquire (.cache source.number))
  | taken => some (.ask (.listedSecret source.store source.reference))
  | listed _ => some (.getCache source.number)
  | read secret old =>
      match refreshCache source.reference old secret with
      | .error _ => some (.release (.cache source.number))
      | .ok cache => some (.setCache source.number cache)
  | served _ _ => some (.release (.cache source.number))
  | answered _ _ => none

/-- The locks that a reader has. -/
def held : Reading → List Lock
  | idle => []
  | answered _ _ => []
  | _ => [.cache source.number]

end Reading

/-- What readers of a source do. -/
def Rule.reading (source : SecretSource) : Rule Reading where
  next
    | .idle, ⟨.acquire _, _⟩ => .taken
    | .taken, ⟨.ask (.listedSecret ..), secret⟩ => .listed secret
    | .listed secret, ⟨.getCache _, old⟩ => .read secret old
    | .read secret old, ⟨.setCache .., _⟩ => .served secret old
    | .read secret old, ⟨.release _, _⟩ => .answered secret old
    | .served secret old, _ => .answered secret old
    | reading, _ => reading
  allows reading operation := reading.next? source = some operation

section

variable {source : SecretSource}

/-- What a reader answers is what a manager answers that finds the same Secret and cache. -/
def Reading.Answers (source : SecretSource) (request : Request) (reading : Reading)
    (answer : Answer) : Prop :=
  ∃ secret old, reading = .answered secret old ∧
    answer = (({ reference := source.reference, cache := old } : CredentialManager).call
      ⟨secret, request⟩).1

theorem SecretSource.obeys_serve {α : Type} (read : SecretCache → Except LookupError α) :
    (source.serve read).Obeys (.reading source) (fun reading result => ∃ secret old,
      reading = .answered secret old ∧
        result = (({ reference := source.reference, cache := old } : CredentialManager).serve
          secret read).1) .idle := by
  refine .locked (I := fun reading result => ∃ secret old,
    ((reading = .read secret old ∧ ∃ e,
        refreshCache source.reference old secret = .error e ∧ result = .error e) ∨
      (reading = .served secret old ∧ ∃ cache,
        refreshCache source.reference old secret = .ok cache ∧ result = read cache))) rfl ?_ ?_
  · refine .operate rfl fun secret => .operate rfl fun old => ?_
    change Program.Obeys (.reading source) _ (.read secret old) _
    split
    · next e hrefresh => exact ⟨secret, old, .inl ⟨rfl, e, hrefresh, rfl⟩⟩
    · next cache hrefresh =>
        refine .operate ?_ fun _ => ⟨secret, old, .inr ⟨rfl, cache, hrefresh, rfl⟩⟩
        change Reading.next? source (.read secret old) = _
        rw [Reading.next?, hrefresh]
  · rintro _ _ ⟨secret, old, ⟨rfl, e, hrefresh, rfl⟩ | ⟨rfl, cache, hrefresh, rfl⟩⟩
    · refine ⟨?_, secret, old, rfl, ?_⟩
      · change Reading.next? source (.read secret old) = _
        rw [Reading.next?, hrefresh]
      · rw [CredentialManager.serve, hrefresh]
    · refine ⟨rfl, secret, old, rfl, ?_⟩
      rw [CredentialManager.serve, hrefresh]

theorem SecretSource.obeys_respond (request : Request) :
    (source.respond request).Obeys (.reading source) (Reading.Answers source request) .idle := by
  cases request with
  | credential server =>
      refine .bind (obeys_serve (find server)) ?_
      rintro _ _ ⟨secret, old, rfl, rfl⟩
      exact ⟨secret, old, rfl, rfl⟩
  | all =>
      refine .bind (obeys_serve fun cache => .ok cache.credentials) ?_
      rintro _ _ ⟨secret, old, rfl, rfl⟩
      exact ⟨secret, old, rfl, rfl⟩

theorem SecretSource.bracketed_respond (request : Request) :
    (source.respond request).Bracketed := by
  cases request with
  | credential server => exact .bind (source.bracketed_serve _) fun _ _ => id
  | all => exact .bind (source.bracketed_serve _) fun _ _ => id

/-- Readers wait for nothing that takes its time. -/
theorem Reading.isAwaited_next? {reading : Reading} {operation : Operation}
    (h : reading.next? source = some operation) : operation.isAwaited = false := by
  cases reading with
  | read secret old =>
      rw [next?] at h
      split at h <;> (cases h; rfl)
  | answered secret old => cases h
  | _ =>
      cases h
      rfl

/-- Readers only ask for the Secret of the source. -/
theorem Reading.eq_of_asks {reading : Reading} {question : Question}
    (h : reading.next? source = some (.ask question)) :
    question = .listedSecret source.store source.reference := by
  cases reading with
  | taken =>
      cases h
      rfl
  | read secret old =>
      rw [next?] at h
      split at h <;> cases h
  | _ => cases h

/-- What a step of a reader is, and where it leads. -/
inductive Reading.Leads (source : SecretSource) : Reading → Step → Reading → Prop where
  | take : Leads source .idle ⟨.acquire (.cache source.number), ()⟩ .taken
  | list (secret : Option Secret) :
      Leads source .taken ⟨.ask (.listedSecret source.store source.reference), secret⟩
        (.listed secret)
  | look (secret : Option Secret) (old : SecretCache) :
      Leads source (.listed secret) ⟨.getCache source.number, old⟩ (.read secret old)
  | serve {secret : Option Secret} {old cache : SecretCache}
      (hrefresh : refreshCache source.reference old secret = .ok cache) :
      Leads source (.read secret old) ⟨.setCache source.number cache, ()⟩ (.served secret old)
  | fail {secret : Option Secret} {old : SecretCache} {e : LookupError}
      (hrefresh : refreshCache source.reference old secret = .error e) :
      Leads source (.read secret old) ⟨.release (.cache source.number), ()⟩ (.answered secret old)
  | give (secret : Option Secret) (old : SecretCache) :
      Leads source (.served secret old) ⟨.release (.cache source.number), ()⟩ (.answered secret old)

theorem Reading.leads_of_allows {reading : Reading} {x : Step}
    (h : (Rule.reading source).allows reading x.operation) :
    Leads source reading x ((Rule.reading source).next reading x) := by
  obtain ⟨operation, answer⟩ := x
  change reading.next? source = some operation at h
  cases reading with
  | idle =>
      cases h
      exact .take
  | taken =>
      cases h
      exact .list answer
  | listed secret =>
      cases h
      exact .look secret answer
  | read secret old =>
      rw [next?] at h
      split at h
      · next e hrefresh =>
          cases h
          exact .fail hrefresh
      · next cache hrefresh =>
          cases h
          exact .serve hrefresh
  | served secret old =>
      cases h
      exact .give secret old
  | answered secret old => cases h

theorem Reading.Leads.held {reading reading' : Reading} {x : Step}
    (h : Leads source reading x reading') :
    Rule.bracketing.next (reading.held source) x = reading'.held source := by
  cases h with
  | fail | give => exact List.erase_cons_head ..
  | _ => rfl

/-- The locks that a reader has after some steps. -/
theorem Reading.heldAfter_eq {h : List Step} (hall : (Rule.reading source).Allows .idle h) :
    heldAfter h = ((Rule.reading source).after .idle h).held source := by
  induction h using List.reverseRecOn with
  | nil => rfl
  | append_singleton h x ih =>
      obtain ⟨hbefore, hallows⟩ := Rule.allows_concat.mp hall
      rw [heldAfter_concat, Rule.after_concat, ih hbefore, (leads_of_allows hallows).held]

end

namespace SecretSource

/-! ## Turns -/

/-- A call with the Secret that it finds listed, and the number of its reader. -/
structure Turn where
  reader : Nat
  call : Call

/-- Looking the Secret up is the turn of a reader. -/
def turn? (requests : List Request) : Event → Option Turn
  | ⟨k, ⟨.ask (.listedSecret ..), secret⟩⟩ =>
      requests[k]?.map fun request => ⟨k, ⟨secret, request⟩⟩
  | _ => none

/-- The turns of readers with some requests, in the order in which they have them. -/
def turns (requests : List Request) (events : List Event) : List Turn :=
  events.filterMap (turn? requests)

/-- What a manager comes to if it gets the calls one after the other. -/
def left (source : SecretSource) (ts : List Turn) : CredentialManager :=
  (start source.reference).after (ts.map Turn.call)

section

variable {source : SecretSource} {requests : List Request} {events : List Event}

theorem turns_append (requests : List Request) (events later : List Event) :
    turns requests (events ++ later) = turns requests events ++ turns requests later :=
  List.filterMap_append

theorem reference_left (source : SecretSource) (ts : List Turn) :
    (source.left ts).reference = source.reference :=
  reference_after ..

theorem left_concat (source : SecretSource) (ts : List Turn) (t : Turn) :
    source.left (ts ++ [t]) = ((source.left ts).call t.call).2 := by
  rw [left, List.map_append, List.map_cons, List.map_nil, after_concat]
  rfl

theorem cache_left_of_ok {ts : List Turn} {t : Turn} {cache : SecretCache}
    (h : refreshCache source.reference (source.left ts).cache t.call.listed = .ok cache) :
    (source.left (ts ++ [t])).cache = cache := by
  rw [left_concat, call_eq, reference_left, h]

theorem cache_left_of_error {ts : List Turn} {t : Turn} {e : LookupError}
    (h : refreshCache source.reference (source.left ts).cache t.call.listed = .error e) :
    (source.left (ts ++ [t])).cache = (source.left ts).cache := by
  rw [left_concat, call_eq, reference_left, h]

/-- How far a reader is. -/
def stage (source : SecretSource) (k : Nat) (events : List Event) : Reading :=
  (Rule.reading source).after .idle (stepsOf k events)

/-! ## The invariant -/

/-- Whatever happens, readers do, each with a request and each as the lock permits. -/
structure Log (source : SecretSource) (requests : List Request) (events : List Event) : Prop where
  exclusive : Exclusive events
  begun : ∀ e ∈ events, e.task < requests.length
  allowed : ∀ k, (Rule.reading source).Allows .idle (stepsOf k events)

namespace Log

/-- A reader found out in its turn what is listed for the source. -/
theorem mem_of_turn (h : source.Log requests events) {t : Turn} (ht : t ∈ turns requests events) :
    ⟨t.reader, ⟨.ask (.listedSecret source.store source.reference), t.call.listed⟩⟩ ∈ events := by
  obtain ⟨e, he, hturn⟩ := List.mem_filterMap.mp ht
  unfold turn? at hturn
  split at hturn
  · next k store reference secret =>
      obtain ⟨request, -, rfl⟩ := Option.map_eq_some_iff.mp hturn
      obtain ⟨g, g', hsteps⟩ := List.append_of_mem (mem_stepsOf.mpr he)
      have hallows := h.allowed k g ⟨.ask (.listedSecret store reference), secret⟩
        ⟨g', by rw [hsteps, List.append_assoc, List.singleton_append]⟩
      cases Reading.eq_of_asks hallows
      exact he
  · cases hturn

theorem of_append {later : List Event} (h : source.Log requests (events ++ later)) :
    source.Log requests events where
  exclusive := h.exclusive.of_append
  begun e he := h.begun e (List.mem_append_left _ he)
  allowed k := by
    have hk := h.allowed k
    rw [stepsOf_append] at hk
    exact hk.of_append

theorem heldAfter_eq (h : source.Log requests events) (k : Nat) :
    heldAfter (stepsOf k events) = (source.stage k events).held source :=
  Reading.heldAfter_eq (h.allowed k)

/-- Who does not have the cache has no lock. -/
theorem held_eq_nil_of_notMem (h : source.Log requests events) {k : Nat}
    (hk : .cache source.number ∉ heldAfter (stepsOf k events)) :
    (source.stage k events).held source = [] := by
  rw [h.heldAfter_eq] at hk
  cases hstage : source.stage k events with
  | idle => rfl
  | answered secret old => rfl
  | _ =>
      rw [hstage] at hk
      exact absurd (List.mem_singleton_self _) hk

/-- If one reader has the cache, no other one has. -/
theorem held_eq_nil (h : source.Log requests events) {k j : Nat} (hne : j ≠ k)
    (hk : (source.stage k events).held source = [.cache source.number]) :
    (source.stage j events).held source = [] := by
  refine h.held_eq_nil_of_notMem fun hj => hne (holder_unique h.exclusive hj ?_)
  rw [h.heldAfter_eq, hk]
  exact List.mem_singleton_self _

end Log

/-- Where a reader stands among those that have had their turn, if the cache is as given. -/
inductive Stands (source : SecretSource) (requests : List Request) (k : Nat) (ts : List Turn)
    (cache : SecretCache) : Reading → Prop where
  | idle (hnew : k ∉ ts.map Turn.reader) : Stands source requests k ts cache .idle
  | taken (hnew : k ∉ ts.map Turn.reader) (hcache : cache = (source.left ts).cache) :
      Stands source requests k ts cache .taken
  /-- It has its turn, and has done nothing about the cache. -/
  | listed {before : List Turn} {secret : Option Secret} {request : Request}
      (hrequest : requests[k]? = some request) (hts : ts = before ++ [⟨k, secret, request⟩])
      (hcache : cache = (source.left before).cache) :
      Stands source requests k ts cache (.listed secret)
  | read {before : List Turn} {secret : Option Secret} {request : Request}
      (hrequest : requests[k]? = some request) (hts : ts = before ++ [⟨k, secret, request⟩])
      (hcache : cache = (source.left before).cache) :
      Stands source requests k ts cache (.read secret (source.left before).cache)
  /-- The cache is up to date with its turn. -/
  | served {before : List Turn} {secret : Option Secret} {request : Request}
      (hrequest : requests[k]? = some request) (hts : ts = before ++ [⟨k, secret, request⟩])
      (hcache : cache = (source.left ts).cache) :
      Stands source requests k ts cache (.served secret (source.left before).cache)
  | answered {before after : List Turn} {secret : Option Secret} {request : Request}
      (hrequest : requests[k]? = some request)
      (hts : ts = before ++ ⟨k, secret, request⟩ :: after) :
      Stands source requests k ts cache (.answered secret (source.left before).cache)

/-- Who does not have the cache does not mind the turn of another one. -/
theorem Stands.other {k : Nat} {ts later : List Turn} {cache cache' : SecretCache}
    {reading : Reading} (h : source.Stands requests k ts cache reading)
    (hheld : reading.held source = []) (hlater : ∀ t ∈ later, t.reader ≠ k) :
    source.Stands requests k (ts ++ later) cache' reading := by
  cases h with
  | idle hnew =>
      refine .idle fun hk => ?_
      rw [List.map_append] at hk
      rcases List.mem_append.mp hk with hk | hk
      · exact hnew hk
      · obtain ⟨t, ht, heq⟩ := List.mem_map.mp hk
        exact hlater t ht heq
  | @answered before after secret request hrequest hts =>
      have hlonger : ts ++ later = before ++ ⟨k, secret, request⟩ :: (after ++ later) := by
        rw [hts, List.append_assoc, List.cons_append]
      exact .answered hrequest hlonger
  | _ => cases hheld

/-- The cache holds what the turns leave. -/
structure Tracked (source : SecretSource) (requests : List Request) (events : List Event)
    (memory : Memory) : Prop where
  /-- No reader has two turns. -/
  nodup : ((turns requests events).map Turn.reader).Nodup
  stands : ∀ k, source.Stands requests k (turns requests events) (memory.cache source.number)
    (source.stage k events)
  free : (∀ k, (source.stage k events).held source = []) →
    memory.cache source.number = (source.left (turns requests events)).cache

namespace Tracked

variable {memory : Memory} {k : Nat} {x : Step}

theorem stage_other {j : Nat} (hne : j ≠ k) :
    source.stage j (events ++ [⟨k, x⟩]) = source.stage j events := by
  rw [stage, stepsOf_concat_other _ (Ne.symm hne)]
  rfl

theorem turns_concat_of_silent (h : turn? requests ⟨k, x⟩ = none) :
    turns requests (events ++ [⟨k, x⟩]) = turns requests events := by
  rw [turns_append]
  simp [turns, h]

/-- A step by which nobody has a turn. -/
theorem silent (h : source.Tracked requests events memory)
    (hsilent : turn? requests ⟨k, x⟩ = none)
    (hstands : source.Stands requests k (turns requests events)
      ((memory.after x).cache source.number) (source.stage k (events ++ [⟨k, x⟩])))
    (hothers : ∀ j, j ≠ k → (memory.after x).cache source.number = memory.cache source.number ∨
      (source.stage j events).held source = [])
    (hfree : (source.stage k (events ++ [⟨k, x⟩])).held source = [] →
      (memory.after x).cache source.number = (source.left (turns requests events)).cache) :
    source.Tracked requests (events ++ [⟨k, x⟩]) (memory.after x) := by
  have hturns : turns requests (events ++ [⟨k, x⟩]) = turns requests events :=
    turns_concat_of_silent hsilent
  constructor
  · rw [hturns]
    exact h.nodup
  · intro j
    rw [hturns]
    by_cases hjk : j = k
    · subst hjk
      exact hstands
    · rw [stage_other hjk]
      rcases hothers j hjk with heq | hheld
      · rw [heq]
        exact h.stands j
      · rw [← List.append_nil (turns requests events)]
        exact (h.stands j).other hheld (by simp)
  · intro hall
    rw [hturns]
    exact hfree (hall k)

/-- A reader has its turn while it has the cache. -/
theorem turn (h : source.Tracked requests events memory) {secret : Option Secret}
    {request : Request} (hrequest : requests[k]? = some request)
    (hnext : source.stage k
      (events ++ [⟨k, ⟨.ask (.listedSecret source.store source.reference), secret⟩⟩]) =
        .listed secret)
    (hnew : k ∉ (turns requests events).map Turn.reader)
    (hcache : memory.cache source.number = (source.left (turns requests events)).cache)
    (hlone : ∀ j, j ≠ k → (source.stage j events).held source = []) :
    source.Tracked requests
      (events ++ [⟨k, ⟨.ask (.listedSecret source.store source.reference), secret⟩⟩]) memory := by
  have hturns : turns requests
      (events ++ [⟨k, ⟨.ask (.listedSecret source.store source.reference), secret⟩⟩]) =
      turns requests events ++ [⟨k, secret, request⟩] := by
    rw [turns_append]
    simp [turns, turn?, hrequest]
  constructor
  · rw [hturns, List.map_append, List.map_cons, List.map_nil, ← List.concat_eq_append]
    exact h.nodup.concat hnew
  · intro j
    rw [hturns]
    by_cases hjk : j = k
    · subst hjk
      rw [hnext]
      exact .listed hrequest rfl hcache
    · rw [stage_other hjk]
      refine (h.stands j).other (hlone j hjk) fun t ht => ?_
      obtain rfl := List.mem_singleton.mp ht
      exact Ne.symm hjk
  · intro hall
    have hheld := hall k
    rw [hnext] at hheld
    cases hheld

/-- One step. -/
theorem concat (h : source.Tracked requests events memory)
    (hlog : source.Log requests (events ++ [⟨k, x⟩])) (htells : memory.Tells x) :
    source.Tracked requests (events ++ [⟨k, x⟩]) (memory.after x) := by
  have hbefore := hlog.of_append
  have hstands := h.stands k
  have hlone : (source.stage k events).held source = [.cache source.number] →
      ∀ j, j ≠ k → (source.stage j events).held source = [] :=
    fun hk j hne => hbefore.held_eq_nil hne hk
  have hleads : (source.stage k events).Leads source x (source.stage k (events ++ [⟨k, x⟩])) := by
    have hallowed := hlog.allowed k
    rw [stepsOf_concat_same] at hallowed
    rw [stage, stage, stepsOf_concat_same, Rule.after_concat]
    exact Reading.leads_of_allows (Rule.allows_concat.mp hallowed).2
  generalize source.stage k events = reading at hstands hlone hleads
  generalize hnext : source.stage k (events ++ [⟨k, x⟩]) = reading' at hleads
  cases hleads with
  | take =>
      cases hstands with
      | idle hnew =>
          have hfree := (exclusive_concat.mp hlog.exclusive).2 _ rfl
          refine h.silent rfl ?_ (fun _ _ => .inl rfl) (by rw [hnext]; nofun)
          rw [hnext]
          exact .taken hnew (h.free fun j => hbefore.held_eq_nil_of_notMem (hfree j))
  | list secret =>
      cases hstands with
      | taken hnew hcache =>
          obtain ⟨request, hrequest⟩ : ∃ request, requests[k]? = some request :=
            ⟨_, List.getElem?_eq_getElem
              (hlog.begun _ (List.mem_append_right _ (List.mem_singleton_self _)))⟩
          exact h.turn hrequest hnext hnew hcache (hlone rfl)
  | look secret old =>
      cases hstands with
      | listed hrequest hts hcache =>
          obtain rfl : old = memory.cache source.number := htells
          refine h.silent rfl ?_ (fun _ _ => .inl rfl) (by rw [hnext]; nofun)
          rw [hnext, hcache]
          exact .read hrequest hts hcache
  | @serve secret old cache hrefresh =>
      cases hstands with
      | read hrequest hts hcache =>
          refine h.silent rfl ?_ (fun j hne => .inr (hlone rfl j hne)) (by rw [hnext]; nofun)
          rw [hnext]
          refine .served hrequest hts ?_
          rw [hts, cache_left_of_ok hrefresh]
          exact Memory.cache_setCache ..
  | fail hrefresh =>
      cases hstands with
      | read hrequest hts hcache =>
          refine h.silent rfl ?_ (fun _ _ => .inl rfl) fun _ => ?_
          · rw [hnext]
            exact .answered hrequest hts
          · rw [hts, cache_left_of_error hrefresh]
            exact hcache
  | give secret old =>
      cases hstands with
      | served hrequest hts hcache =>
          refine h.silent rfl ?_ (fun _ _ => .inl rfl) fun _ => hcache
          rw [hnext]
          exact .answered hrequest hts

end Tracked

/-- Along every run of readers, the cache holds what the turns leave. -/
theorem Log.tracked (hlog : source.Log requests events) {memory : Memory}
    (hruns : Memory.Runs {} (events.map Event.step) memory) :
    source.Tracked requests events memory := by
  induction events using List.reverseRecOn generalizing memory with
  | nil =>
      obtain rfl : {} = memory := hruns
      exact ⟨List.nodup_nil, fun k => .idle List.not_mem_nil, fun _ => rfl⟩
  | append_singleton events e ih =>
      rw [List.map_append] at hruns
      obtain ⟨middle, hbefore, htells, rfl⟩ := Memory.runs_concat.mp hruns
      exact (ih hlog.of_append hbefore).concat hlog htells

end

end SecretSource

end VcenterAccess
