import VcenterAccess.Proofs.ConnectionManager.Renewing
import VcenterAccess.Proofs.Credential.Revision

/-!
# What caches hold

A cache only changes in a look-up, which puts there what it read of the Secret that it
found listed, or what was there before.  So along every run of calls, however they
interleave, a cache holds a Secret that was listed once with the credentials read from it
(`ConnectionManager.Reached.backed`).  If revisions determine data, a look-up that finds a
Secret listed therefore serves the credentials of that Secret
(`SecretCache.Backed.credentials_of_refresh`).
-/

namespace VcenterAccess

open Program

/-! ## One cache -/

namespace SecretCache

variable {old cache : SecretCache} {seen seen' : List Secret} {reference : SecretReference}

/-- The cache is blank, or holds a Secret among `seen` with what is read from it. -/
def Backed (cache : SecretCache) (seen : List Secret) : Prop :=
  ({ reference := default, cache } : CredentialManager).Backed seen

theorem Backed.mono (h : cache.Backed seen) (hseen : ∀ s ∈ seen, s ∈ seen') :
    cache.Backed seen' :=
  h.imp id fun ⟨s, hs, hread⟩ => ⟨s, hseen s hs, hread⟩

/-- A cache that was brought up to date is backed by what was listed. -/
theorem Backed.refresh (h : old.Backed seen) {listed : Option Secret}
    (hlisted : ∀ s, listed = some s → s ∈ seen)
    (hrefresh : CredentialManager.refreshCache reference old listed = .ok cache) :
    cache.Backed seen := by
  have hcall := CredentialManager.call_eq ⟨reference, old⟩ ⟨listed, .all⟩
  have hbacked : (({ reference, cache := old } : CredentialManager).call ⟨listed, .all⟩).2.Backed
      seen := CredentialManager.backed_call h hlisted
  rw [hcall, hrefresh] at hbacked
  exact hbacked

/-- A Secret that need not be read anew reads as the cached credentials. -/
theorem Backed.credentials_of_isCurrent (h : old.Backed seen)
    (hseen : CredentialManager.RevisionsDetermineData seen) {s : Secret} (hs : s ∈ seen)
    (hcurrent : old.isCurrent s = true) : s.credentials = .ok old.credentials :=
  CredentialManager.Agrees.parse_of_isCurrent (e := ⟨default, old.credentials⟩) ⟨rfl, rfl, h⟩ hseen
    hs hcurrent

/-- A look-up that finds a Secret listed serves the credentials of that Secret. -/
theorem Backed.credentials_of_refresh (h : old.Backed seen)
    (hseen : CredentialManager.RevisionsDetermineData seen) {s : Secret} (hs : s ∈ seen)
    (hrefresh : CredentialManager.refreshCache reference old (some s) = .ok cache) :
    s.credentials = .ok cache.credentials := by
  cases hcurrent : old.isCurrent s with
  | true =>
      rw [CredentialManager.refreshCache, if_pos hcurrent] at hrefresh
      cases hrefresh
      exact h.credentials_of_isCurrent hseen hs hcurrent
  | false =>
      rw [CredentialManager.refreshCache_of_stale hcurrent] at hrefresh
      split at hrefresh
      · next table hok =>
          cases hrefresh
          exact hok
      · cases hrefresh

/-- A look-up that finds a Secret listed fails only if that Secret cannot be read. -/
theorem Backed.exists_refresh (h : old.Backed seen)
    (hseen : CredentialManager.RevisionsDetermineData seen) {s : Secret} (hs : s ∈ seen)
    {table : CredentialTable} (hok : s.credentials = .ok table) (reference : SecretReference) :
    ∃ cache, CredentialManager.refreshCache reference old (some s) = .ok cache ∧
      cache.credentials = table := by
  cases hrefresh : CredentialManager.refreshCache reference old (some s) with
  | ok cache =>
      have hserved := h.credentials_of_refresh hseen hs hrefresh
      exact ⟨cache, rfl, Except.ok.inj (hserved.symm.trans hok)⟩
  | error e =>
      cases hcurrent : old.isCurrent s with
      | true =>
          rw [CredentialManager.refreshCache, if_pos hcurrent] at hrefresh
          cases hrefresh
      | false =>
          have hparse : s.payload.parse = .ok table := hok
          rw [CredentialManager.refreshCache_of_stale hcurrent, hparse] at hrefresh
          cases hrefresh

end SecretCache

/-! ## What look-ups do -/

/-- What a look-up does before it replaces the cache. -/
def lookingUp (source : SecretSource) (secret : Option Secret) (old : SecretCache) : List Step :=
  [⟨.acquire (.cache source.number), ()⟩,
    ⟨.ask (.listedSecret source.store source.reference), secret⟩,
    ⟨.getCache source.number, old⟩]

/-- Caches are only replaced in look-ups at some sources, by what such a look-up may put
there, and whoever looks something up holds no other lock. -/
def Justified (sources : SecretSource → Prop) (h : List Step) : Prop :=
  ∀ before n cache, before ++ [⟨.setCache n cache, ()⟩] <+: h →
    ∃ g source secret old, sources source ∧ n = source.number ∧
      before = g ++ lookingUp source secret old ∧ heldAfter g = [] ∧
        CredentialManager.refreshCache source.reference old secret = .ok cache

section

variable {sources sources' : SecretSource → Prop} {g h : List Step}

theorem Justified.of_append (hall : Justified sources (g ++ h)) : Justified sources g :=
  fun before n cache hbefore => hall before n cache (hbefore.trans (List.prefix_append ..))

theorem justified_of_append {events later : List Event}
    (hall : ∀ k, Justified sources (stepsOf k (events ++ later))) (k : Nat) :
    Justified sources (stepsOf k events) := by
  have hk := hall k
  rw [stepsOf_append] at hk
  exact hk.of_append

theorem Justified.mono (hall : Justified sources h)
    (hsources : ∀ source, sources source → sources' source) : Justified sources' h := by
  intro before n cache hbefore
  obtain ⟨g, source, secret, old, hsource, hrest⟩ := hall before n cache hbefore
  exact ⟨g, source, secret, old, hsources source hsource, hrest⟩

/-- Who is abandoned only gives back locks. -/
theorem Justified.giveBack (hh : Justified sources h) (held : List Lock) :
    Justified sources (h ++ giveBack held) := by
  induction held using List.reverseRecOn with
  | nil => simpa [VcenterAccess.giveBack] using hh
  | append_singleton held lock ih =>
      intro before n cache hbefore
      rw [VcenterAccess.giveBack, List.map_append, ← List.append_assoc] at hbefore
      rcases List.prefix_concat_iff.mp hbefore with heq | hbefore
      · cases (List.append_inj' heq rfl).2
      · exact ih before n cache hbefore

end

/-- Who takes a cache holds nothing. -/
def Rule.unencumbered : Rule (List Lock) where
  next := Rule.bracketing.next
  allows held operation :=
    match operation with
    | .acquire (.cache _) => held = []
    | _ => True

theorem Rule.unencumbered_uncached {operation : Operation} (h : operation.Uncached)
    (held : List Lock) : unencumbered.allows held operation := by
  cases operation with
  | acquire lock =>
      cases lock with
      | cache n => exact h.elim
      | _ => trivial
  | _ => trivial

/-- Who does nothing about caches leaves no lock taken, if it is bracketed. -/
theorem unencumbered_of_uncached {α : Type} {p : Program α} {held : List Lock}
    (hp : p.Obeys .bracketing (fun held _ => held = []) held) (huses : p.Uses Operation.Uncached) :
    p.Obeys .unencumbered (fun held _ => held = []) held := by
  induction p generalizing held with
  | done a => exact hp
  | perform operation next ih =>
      exact ⟨Rule.unencumbered_uncached huses.1 held, fun answer =>
        ih answer (hp.2 answer) (huses.2 answer)⟩

theorem SecretSource.unencumbered_getCredential (source : SecretSource) (server : String) :
    (source.getCredential server).Obeys .unencumbered (fun held _ => held = []) [] := by
  refine .locked (I := fun held _ => held = [.cache source.number]) rfl ?_ ?_
  · refine .operate trivial fun listed => .operate trivial fun old => ?_
    split
    · rfl
    · exact .operate trivial fun _ => rfl
  · rintro _ _ rfl
    exact ⟨trivial, List.erase_cons_head ..⟩

namespace Renewal

variable {v : VirtualCenter} {server : String} {h : List Step}

/-- How a renewal came to what it knows. -/
def Knows (v : VirtualCenter) (h : List Step) : Renewal → Prop
  | .taken => ∃ g source, v.source = some source ∧ heldAfter g = [] ∧
      h = g ++ [⟨.acquire (.cache source.number), ()⟩]
  | .listed secret => ∃ g source, v.source = some source ∧ heldAfter g = [] ∧
      h = g ++ [⟨.acquire (.cache source.number), ()⟩,
        ⟨.ask (.listedSecret source.store source.reference), secret⟩]
  | .read secret old => ∃ g source, v.source = some source ∧ heldAfter g = [] ∧
      h = g ++ lookingUp source secret old
  | _ => True

theorem knows_of_allows (hall : (Rule.renewing v server).Allows .idle h)
    (hfree : Rule.unencumbered.Allows [] h) :
    ((Rule.renewing v server).after .idle h).Knows v h := by
  induction h using List.reverseRecOn with
  | nil => trivial
  | append_singleton h x ih =>
      obtain ⟨hbefore, hallows⟩ := Rule.allows_concat.mp hall
      obtain ⟨hfree, hx⟩ := Rule.allows_concat.mp hfree
      have hknows := ih hbefore hfree
      have hleads := leads_of_allows hallows
      rw [Rule.after_concat]
      generalize (Rule.renewing v server).after .idle h = renewal at *
      generalize (Rule.renewing v server).next renewal x = renewal' at *
      cases hleads with
      | take hsource => exact ⟨h, _, hsource, hx, rfl⟩
      | list hsource secret =>
          obtain ⟨g, source', hsource', hheld, rfl⟩ := hknows
          obtain rfl := Option.some.inj (hsource'.symm.trans hsource)
          exact ⟨g, _, hsource, hheld, by simp⟩
      | read hsource secret old =>
          obtain ⟨g, source', hsource', hheld, rfl⟩ := hknows
          obtain rfl := Option.some.inj (hsource'.symm.trans hsource)
          exact ⟨g, _, hsource, hheld, by simp [lookingUp]⟩
      | _ => trivial

theorem justified_of_allows (hall : (Rule.renewing v server).Allows .idle h)
    (hfree : Rule.unencumbered.Allows [] h) :
    Justified (fun source => v.source = some source) h := by
  intro before n cache hbefore
  have hleads := leads_of_allows (hall _ _ hbefore)
  have hprefix := (List.prefix_append before [⟨.setCache n cache, ()⟩]).trans hbefore
  have hknows := knows_of_allows (fun g x hg => hall g x (hg.trans hprefix))
    fun g x hg => hfree g x (hg.trans hprefix)
  generalize (Rule.renewing v server).after .idle before = renewal at *
  generalize (Rule.renewing v server).next renewal _ = renewal' at *
  cases hleads with
  | stay huncached => exact huncached.elim
  | serve hsource hrefresh =>
      obtain ⟨g, source, hsource', hheld, hsteps⟩ := hknows
      obtain rfl := Option.some.inj (hsource'.symm.trans hsource)
      exact ⟨g, _, _, _, hsource, rfl, hsteps, hheld, hrefresh⟩

end Renewal

namespace ConnectionManager

variable {m : ConnectionManager}

/-- A source belongs to some server. -/
def HasSource (m : ConnectionManager) (source : SecretSource) : Prop :=
  ∃ server v, m.virtualCenters.get? server = some v ∧ v.source = some source

/-- Every call keeps to the rule of some connect. -/
theorem exists_renewing (call : Call) :
    ∃ v server, (∀ source, v.source = some source → m.HasSource source) ∧
      (m.program call).Obeys (.renewing v server) (fun renewal _ => renewal = .idle) .idle := by
  have hneutral : ∀ {α : Type} {p : Program α} {v : VirtualCenter} {server : String},
      p.Uses Operation.Uncached →
        p.Obeys (.renewing v server) (fun renewal _ => renewal = .idle) .idle :=
    fun hp => hp.obeys fun _ => Rule.renewing_uncached
  let someone : VirtualCenter := ⟨{ number := 0, options := { hostname := "" } }, none⟩
  cases call with
  | connect server =>
      cases hknown : m.virtualCenters.get? server with
      | none =>
          refine ⟨someone, server, nofun, .bind (obeys_connect fun v hv => ?_) fun _ _ => id⟩
          cases hknown.symm.trans hv
      | some v =>
          exact ⟨v, server, fun source hsource => ⟨server, v, hknown, hsource⟩,
            .bind (obeys_renewing hknown) fun _ _ => id⟩
  | logoutAll =>
      refine ⟨someone, "", nofun, .bind (obeys_logoutEach fun c _ => ?_) fun _ _ => id⟩
      exact hneutral c.uncached_logout
  | reconnect server =>
      refine ⟨someone, server, nofun, obeys_withConnection fun c _ => .bind ?_ fun _ _ => id⟩
      exact hneutral c.uncached_connect
  | logOut server =>
      refine ⟨someone, server, nofun, obeys_withConnection fun c _ => .bind ?_ fun _ _ => id⟩
      exact hneutral c.uncached_logout
  | update server credentials =>
      refine ⟨someone, server, nofun, obeys_withConnection fun c _ => .bind ?_ fun _ _ => id⟩
      exact hneutral (c.uncached_updateCredentials credentials)

/-- No call takes a cache while it holds something. -/
theorem unencumbered_program (call : Call) :
    (m.program call).Obeys .unencumbered (fun held _ => held = []) [] :=
  obeys_program (fun c _ => unencumbered_of_uncached c.bracketed_connect c.uncached_connect)
    (fun c _ => unencumbered_of_uncached c.bracketed_logout c.uncached_logout)
    (fun c _ credentials => unencumbered_of_uncached (c.bracketed_updateCredentials credentials)
      (c.uncached_updateCredentials credentials))
    SecretSource.unencumbered_getCredential call

theorem justified_of_performs {call : Call} {h : List Step} (hh : (m.program call).Performs h) :
    Justified m.HasSource h := by
  obtain ⟨v, server, hsource, hobeys⟩ := m.exists_renewing call
  obtain ⟨g, q, hpath, hh⟩ := hh
  have hg : Justified m.HasSource g :=
    (Renewal.justified_of_allows (hobeys.along hpath) ((unencumbered_program call).along hpath)).mono
      hsource
  rcases hh with rfl | ⟨operation, next, rfl, -, rfl⟩
  · exact hg
  · exact hg.giveBack _

/-- Along every run of calls, all replacements of caches are justified. -/
theorem justified_run {ω : Type} {o : Outside ω} {memory : Memory} {outside : ω}
    {schedule first : List (Move ω Result)} (hcalls : m.Answers schedule) (hfirst : first <+: schedule)
    (k : Nat) :
    Justified m.HasSource (stepsOf k ((Machine.idle memory outside).trace o first)) := by
  rcases Machine.performs_run (o := o) memory outside hfirst (bracketed_of_answers hcalls) k with
    hnil | ⟨p, hp, hperforms⟩
  · rw [hnil]
    intro before n cache hbefore
    simp at hbefore
  · obtain ⟨call, rfl⟩ := hcalls p hp
    exact justified_of_performs hperforms

end ConnectionManager

/-! ## Along a run -/

/-- The Secret that a step finds listed. -/
def Step.secret? : Step → Option Secret
  | ⟨.ask (.listedSecret ..), secret⟩ => secret
  | _ => none

/-- The Secrets that are found listed, in turn. -/
def secretsListed (events : List Event) : List Secret :=
  events.filterMap fun e => e.step.secret?

/-- The Secret that a step finds listed for a source. -/
def Step.secretOf? (source : SecretSource) : Step → Option Secret
  | ⟨.ask (.listedSecret store reference), secret⟩ =>
      if store = source.store ∧ reference = source.reference then secret else none
  | _ => none

/-- What some steps find listed, in turn. -/
def listedIn (lists : Step → Option Secret) (events : List Event) : List Secret :=
  events.filterMap fun e => lists e.step

theorem listedIn_append (lists : Step → Option Secret) (events later : List Event) :
    listedIn lists (events ++ later) = listedIn lists events ++ listedIn lists later :=
  List.filterMap_append

theorem mem_listedIn {lists : Step → Option Secret} {events : List Event} {k : Nat} {x : Step}
    {s : Secret} (h : x ∈ stepsOf k events) (hx : lists x = some s) : s ∈ listedIn lists events :=
  List.mem_filterMap.mpr ⟨_, mem_stepsOf.mp h, hx⟩

/-- A step leaves a cache, or replaces it. -/
theorem cache_after_cases (n : Nat) (m : Memory) (x : Step) :
    (m.after x).cache n = m.cache n ∨
      ∃ cache, x = ⟨.setCache n cache, ()⟩ ∧ (m.after x).cache n = cache := by
  obtain ⟨operation, answer⟩ := x
  cases operation with
  | setCache k cache =>
      by_cases hk : n = k
      · subst hk
        exact .inr ⟨cache, rfl, Memory.cache_setCache ..⟩
      · exact .inl (assign_other _ hk _)
  | _ => exact .inl rfl

/-- Who does nothing about caches leaves them. -/
theorem cache_of_uncached {m m' : Memory} {h : List Step} (hh : ∀ x ∈ h, x.operation.Uncached)
    (hruns : m.Runs h m') (n : Nat) : m'.cache n = m.cache n := by
  induction h generalizing m with
  | nil => rw [show m = m' from hruns]
  | cons x h ih =>
      obtain ⟨hx, hh⟩ := List.forall_mem_cons.mp hh
      rw [ih hh hruns.2]
      rcases cache_after_cases n m x with heq | ⟨cache, rfl, -⟩
      · exact heq
      · exact hx.elim

/-- A cache is backed by what is listed for it along a run, if all replacements are justified,
and so is whatever was read of it. -/
theorem backed_of_runs {sources : SecretSource → Prop} (lists : Step → Option Secret) {n : Nat}
    (hlists : ∀ source, sources source → source.number = n → ∀ secret,
      lists ⟨.ask (.listedSecret source.store source.reference), secret⟩ = secret)
    {start memory : Memory} {events : List Event} {seen : List Secret}
    (hruns : start.Runs (events.map Event.step) memory)
    (hjustified : ∀ k, Justified sources (stepsOf k events)) (hstart : (start.cache n).Backed seen) :
    (memory.cache n).Backed (seen ++ listedIn lists events) ∧
      ∀ k old, ⟨.getCache n, old⟩ ∈ stepsOf k events →
        SecretCache.Backed old (seen ++ listedIn lists events) := by
  induction events using List.reverseRecOn generalizing memory with
  | nil =>
      obtain rfl : start = memory := hruns
      simpa [listedIn] using hstart
  | append_singleton events e ih =>
      obtain ⟨k, x⟩ := e
      rw [List.map_append] at hruns
      obtain ⟨middle, hbefore, htells, rfl⟩ := Memory.runs_concat.mp hruns
      obtain ⟨hcache, hreads⟩ := ih hbefore (justified_of_append hjustified)
      have hmore : ∀ s ∈ seen ++ listedIn lists events,
          s ∈ seen ++ listedIn lists (events ++ [⟨k, x⟩]) := by
        intro s hs
        rw [listedIn_append, ← List.append_assoc]
        exact List.mem_append_left _ hs
      constructor
      · rcases cache_after_cases n middle x with heq | ⟨cache, rfl, heq⟩
        · rw [heq]
          exact hcache.mono hmore
        · have hlast := hjustified k
          rw [stepsOf_concat_same] at hlast
          obtain ⟨g, source, secret, old, hsource, rfl, hsteps, -, hrefresh⟩ :=
            hlast _ n cache List.prefix_rfl
          have hold : ⟨.getCache source.number, old⟩ ∈ stepsOf k events := by
            simp [hsteps, lookingUp]
          have hlisted : ⟨.ask (.listedSecret source.store source.reference), secret⟩ ∈
              stepsOf k events := by
            simp [hsteps, lookingUp]
          rw [heq]
          refine ((hreads k old hold).refresh (fun s hs => ?_) hrefresh).mono hmore
          subst hs
          exact List.mem_append_right _ (mem_listedIn hlisted (hlists source hsource rfl _))
      · intro j old hold
        rcases List.mem_append.mp (mem_stepsOf.mp hold) with hold | hold
        · exact (hreads j old (mem_stepsOf.mpr hold)).mono hmore
        · cases List.mem_singleton.mp hold
          obtain rfl : old = middle.cache n := htells
          exact hcache.mono hmore

/-- Whatever a cache was replaced by along a run is backed, too. -/
theorem backed_of_setCache {sources : SecretSource → Prop} (lists : Step → Option Secret) {n : Nat}
    (hlists : ∀ source, sources source → source.number = n → ∀ secret,
      lists ⟨.ask (.listedSecret source.store source.reference), secret⟩ = secret)
    {start memory : Memory} {events : List Event} {seen : List Secret}
    (hruns : start.Runs (events.map Event.step) memory)
    (hjustified : ∀ k, Justified sources (stepsOf k events)) (hstart : (start.cache n).Backed seen)
    {k : Nat} {cache : SecretCache} (hset : ⟨k, .setCache n cache, ()⟩ ∈ events) :
    cache.Backed (seen ++ listedIn lists events) := by
  obtain ⟨before, later, rfl⟩ := List.append_of_mem hset
  rw [List.append_cons] at hruns hjustified ⊢
  rw [List.map_append] at hruns
  obtain ⟨middle, hbefore, -⟩ := Memory.runs_append.mp hruns
  have hbacked := (backed_of_runs lists hlists hbefore (justified_of_append hjustified) hstart).1
  rw [List.map_append] at hbefore
  obtain ⟨last, -, -, rfl⟩ := Memory.runs_concat.mp hbefore
  have hnow : (last.after ⟨.setCache n cache, ()⟩).cache n = cache := Memory.cache_setCache ..
  rw [hnow] at hbacked
  refine hbacked.mono fun s hs => ?_
  rw [listedIn_append, ← List.append_assoc]
  exact List.mem_append_left _ hs

/-! ## Reachable states -/

namespace ConnectionManager

/-- What a connection manager and its memory can come to, with the Secrets that were found
listed on the way: it begins without servers, gets servers with credentials of any kind, and
calls run on it that interleave in any way, are abandoned, and get any answers. -/
inductive Reached : ConnectionManager → Memory → List Secret → Prop where
  | new : Reached {} {} []
  | insert {m : ConnectionManager} {memory : Memory} {seen : List Secret}
      (h : Reached m memory seen) (options : ConnectionOptions) (source : Option SecretSource)
      (credentials : SessionCredentials) :
      Reached (m.insert options source) (memory.start m.opened credentials) seen
  | run {m : ConnectionManager} {memory : Memory} {seen : List Secret} {ω : Type}
      (h : Reached m memory seen) (o : Outside ω) (outside : ω) {schedule : List (Move ω Result)}
      (hcalls : m.Answers schedule) :
      Reached m ((Machine.idle memory outside).run o schedule).shared.memory
        (seen ++ secretsListed ((Machine.idle memory outside).trace o schedule))

/-- Caches are always backed by what was found listed. -/
theorem Reached.backed {m : ConnectionManager} {memory : Memory} {seen : List Secret}
    (h : Reached m memory seen) (n : Nat) : (memory.cache n).Backed seen := by
  induction h generalizing n with
  | new => exact .inl ⟨rfl, rfl⟩
  | insert _ _ _ _ ih => exact ih n
  | @run m memory seen ω _ o outside schedule hcalls ih =>
      have hall := List.prefix_rfl (l := schedule)
      have haccount := Machine.account_run (o := o) memory outside hall (bracketed_of_answers hcalls)
      exact (backed_of_runs Step.secret? (fun _ _ _ _ => rfl) haccount.memory
        (justified_run hcalls hall) (ih n)).1

end ConnectionManager

end VcenterAccess
