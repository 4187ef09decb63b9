import VcenterAccess.Proofs.ConnectionManager.Reading

/-!
# Readers answer one after the other

Readers of one source and changes of its Secret may interleave in any way.  Every reader answers
as a manager does that gets the calls one after the other, in the order in which they look the
Secret up; this order respects which calls returned before others began
(`SecretSource.linearizes`).  So an answer is read from one table as a whole, and if revisions
can be told apart and only move forward, from none that is older than what an earlier call
answered from.

That a lock is handed over in the order of its queue restricts nothing: a reader that should get
the cache later is one that the schedule lets ask for it later.
-/

namespace VcenterAccess

open CredentialManager Program

namespace SecretSource

section

variable {source : SecretSource} {requests : List Request}

/-! ## Turns one after the other -/

theorem prefix_calls (before : List Turn) (t : Turn) (after : List Turn) :
    before.map Turn.call ++ [t.call] <+: (before ++ t :: after).map Turn.call :=
  ⟨after.map Turn.call, by simp⟩

/-- The turns up to that of a reader. -/
def upTo (k : Nat) : List Turn → List Turn
  | [] => []
  | t :: ts => if t.reader = k then [t] else t :: upTo k ts

theorem upTo_append {before after : List Turn} {t : Turn}
    (h : t.reader ∉ before.map Turn.reader) :
    upTo t.reader (before ++ t :: after) = before ++ [t] := by
  induction before with
  | nil => exact if_pos rfl
  | cons u before ih =>
      rw [List.map_cons, List.mem_cons, not_or] at h
      obtain ⟨hne, hnew⟩ := h
      rw [List.cons_append, upTo, if_neg (Ne.symm hne), ih hnew, List.cons_append]

/-- The Secret that was listed last when a reader had its turn. -/
def seenBy (ts : List Turn) (k : Nat) : Option Secret := newest ((upTo k ts).map Turn.call)

theorem seenBy_append {before after : List Turn} {t : Turn}
    (h : ((before ++ t :: after).map Turn.reader).Nodup) :
    seenBy (before ++ t :: after) t.reader = newest (before.map Turn.call ++ [t.call]) := by
  rw [List.map_append, List.map_cons, List.nodup_middle, List.nodup_cons, List.mem_append,
    not_or] at h
  rw [seenBy, upTo_append h.1.1, List.map_append, List.map_cons, List.map_nil]

/-- If revisions only move forward, a later turn sees a later one. -/
theorem exists_seenBy_of_le {ρ : Type} [Preorder ρ] {age : Secret → ρ}
    {before middle after : List Turn} {t u : Turn}
    (honce : ((before ++ t :: (middle ++ u :: after)).map Turn.reader).Nodup)
    (hforward : (listedSecrets ((before ++ t :: (middle ++ u :: after)).map Turn.call)).Pairwise
      fun s s' => age s ≤ age s') {s : Secret}
    (hs : seenBy (before ++ t :: (middle ++ u :: after)) t.reader = some s) :
    ∃ s', seenBy (before ++ t :: (middle ++ u :: after)) u.reader = some s' ∧
      age s ≤ age s' := by
  rw [seenBy_append honce] at hs
  have hcut : before ++ t :: (middle ++ u :: after) = (before ++ t :: middle) ++ u :: after := by
    rw [List.append_assoc, List.cons_append]
  rw [hcut] at honce hforward ⊢
  have hcalls : (before ++ t :: middle).map Turn.call ++ [u.call] =
      (before.map Turn.call ++ [t.call]) ++ (middle.map Turn.call ++ [u.call]) := by simp
  have hprefix := prefix_listedSecrets (prefix_calls (before ++ t :: middle) u after)
  have hordered := hforward.sublist hprefix.sublist
  rw [seenBy_append honce]
  rw [hcalls] at hordered ⊢
  exact exists_newest_of_le hordered hs

end

section

variable {ω : Type} (o : Outside ω) (outside : ω) (schedule : List (Move ω Answer))

/-- A call returned an answer. -/
def Returns (k : Nat) (answer : Answer) : Prop :=
  (k, answer) ∈ ((Machine.idle {} outside).run o schedule).results

/-- A call returned before another one began. -/
def Precedes (k j : Nat) : Prop :=
  ∃ first answer, first <+: schedule ∧ Returns o outside first k answer ∧
    (begunBy first).length ≤ j

/-- Readers with some requests, whose turns are `ts`, answer as if they had been called one
after the other in the order of their turns. -/
structure Linearizes (source : SecretSource) (requests : List Request) (ts : List Turn) :
    Prop where
  /-- No call has two turns. -/
  once : (ts.map Turn.reader).Nodup
  /-- What a call finds listed is what its reader was told. -/
  listed : ∀ t ∈ ts,
    ⟨t.reader, ⟨.ask (.listedSecret source.store source.reference), t.call.listed⟩⟩ ∈
      (Machine.idle {} outside).trace o schedule
  /-- While nobody has the cache, it holds what is left by the calls that had their turns. -/
  left : (((Machine.idle {} outside).run o schedule).shared.lock
      (.cache source.number)).holder? = none →
    ((Machine.idle {} outside).run o schedule).shared.memory.cache source.number =
      (source.left ts).cache
  /-- A call answers as it does alone after those that had their turns before it, and so from
  one table. -/
  atomic : ∀ k answer, Returns o outside schedule k answer →
    ∃ before c after, ts = before ++ ⟨k, c⟩ :: after ∧ requests[k]? = some c.request ∧
      answer = ((source.left before).call c).1 ∧
      answer.Whole source.reference (before.map Turn.call) c
  /-- A call that begins after another one has returned has its turn after it. -/
  inTime : ∀ k j answer, Precedes o outside schedule k j → Returns o outside schedule j answer →
    ∃ before c middle d after, ts = before ++ ⟨k, c⟩ :: (middle ++ ⟨j, d⟩ :: after)
  /-- If revisions can be told apart and read, a call answers from the one listed last. -/
  fresh : Distinguished (listedSecrets (ts.map Turn.call)) →
    ∀ k answer, Returns o outside schedule k answer → ∃ request, requests[k]? = some request ∧
      answer = request.readNewest source.reference (seenBy ts k)
  /-- If revisions only move forward, this is none that is older than what a call before has
  answered from. -/
  forward : ∀ (ρ : Type) [Preorder ρ] (age : Secret → ρ),
    (listedSecrets (ts.map Turn.call)).Pairwise (fun s t => age s ≤ age t) →
    ∀ k j answer, Precedes o outside schedule k j → Returns o outside schedule j answer →
      ∀ s, seenBy ts k = some s → ∃ t, seenBy ts j = some t ∧ age s ≤ age t

end

section

variable {source : SecretSource} {ω : Type} {o : Outside ω} {outside : ω}
  {requests : List Request} {schedule first : List (Move ω Answer)}

/-- Readers are never given up. -/
theorem exists_path_of_performs {request : Request} {h : List Step}
    (hh : (source.respond request).Performs h) : ∃ q, (source.respond request).Path h q := by
  obtain ⟨g, q, hpath, rfl | ⟨operation, next, rfl, hawaited, -⟩⟩ := hh
  · exact ⟨q, hpath⟩
  · have hallows := (obeys_respond request).pending hpath
    rw [Reading.isAwaited_next? hallows] at hawaited
    cases hawaited

theorem bracketed_of_readers (hreaders : begunBy schedule = requests.map source.respond) :
    ∀ p ∈ begunBy schedule, p.Bracketed := by
  rw [hreaders]
  intro p hp
  obtain ⟨request, -, rfl⟩ := List.mem_map.mp hp
  exact bracketed_respond request

theorem account (outside : ω) (hreaders : begunBy schedule = requests.map source.respond)
    (hfirst : first <+: schedule) :
    Machine.Account {} (requests.map source.respond) ((Machine.idle {} outside).trace o first)
      ((Machine.idle {} outside).run o first) :=
  hreaders ▸ Machine.account_run {} outside hfirst (bracketed_of_readers hreaders)

/-- Along every schedule of readers, what happens is what readers do. -/
theorem log_run (outside : ω) (hreaders : begunBy schedule = requests.map source.respond)
    (hfirst : first <+: schedule) :
    source.Log requests ((Machine.idle {} outside).trace o first) := by
  have haccount := account (o := o) outside hreaders hfirst
  refine ⟨haccount.exclusive, fun e he => ?_, fun k => ?_⟩
  · have hlt := haccount.begun e he
    rw [Machine.begun_run_idle] at hlt
    have hle : (begunBy first).length ≤ (begunBy schedule).length :=
      (hfirst.filterMap Move.program?).length_le
    rw [hreaders, List.length_map] at hle
    exact Nat.lt_of_lt_of_le hlt hle
  · rcases Machine.performs_run (o := o) {} outside hfirst (bracketed_of_readers hreaders) k with
      hnil | ⟨p, hp, hperforms⟩
    · rw [hnil]
      exact Rule.allows_nil
    · rw [hreaders] at hp
      obtain ⟨request, -, rfl⟩ := List.mem_map.mp hp
      obtain ⟨q, hpath⟩ := exists_path_of_performs hperforms
      exact (obeys_respond request).along hpath

/-- A call that returned had its turn, and answers as it does alone after those before it. -/
theorem exists_turn_of_returns (hreaders : begunBy schedule = requests.map source.respond)
    (hfirst : first <+: schedule) {k : Nat} {answer : Answer}
    (hreturns : Returns o outside first k answer) :
    ∃ before c after, turns requests ((Machine.idle {} outside).trace o first) =
        before ++ ⟨k, c⟩ :: after ∧ requests[k]? = some c.request ∧
      answer = ((source.left before).call c).1 := by
  have haccount := account (o := o) outside hreaders hfirst
  have htracked := (log_run (o := o) outside hreaders hfirst).tracked haccount.memory
  obtain ⟨p, hp, hpath⟩ := haccount.result _ hreturns
  rw [List.getElem?_map] at hp
  obtain ⟨request, hrequest, rfl⟩ := Option.map_eq_some_iff.mp hp
  obtain ⟨secret, old, hstage, hanswer⟩ := (obeys_respond request).result hpath
  have hstands := htracked.stands k
  rw [stage, hstage] at hstands
  cases hstands with
  | @answered before after _ request' hrequest' hts =>
      obtain rfl : request' = request := Option.some.inj (hrequest'.symm.trans hrequest)
      have hleft : source.left before =
          { reference := source.reference, cache := (source.left before).cache } := by
        rw [← reference_left source before]
      exact ⟨before, ⟨secret, request'⟩, after, hts, hrequest, hleft ▸ hanswer⟩

/-- A call that begins after another one has returned has its turn after it. -/
theorem exists_turns_of_precedes (hreaders : begunBy schedule = requests.map source.respond)
    {k j : Nat} {answer : Answer} (hbefore : Precedes o outside schedule k j)
    (hreturns : Returns o outside schedule j answer) :
    ∃ before c middle d after, turns requests ((Machine.idle {} outside).trace o schedule) =
      before ++ ⟨k, c⟩ :: (middle ++ ⟨j, d⟩ :: after) := by
  obtain ⟨first, earlier, hfirst, hk, hlt⟩ := hbefore
  obtain ⟨before, c, middle, hts, -, -⟩ := exists_turn_of_returns hreaders hfirst hk
  obtain ⟨before', d, after', hall, -, -⟩ :=
    exists_turn_of_returns hreaders List.prefix_rfl hreturns
  have hnew : ⟨j, d⟩ ∉ turns requests ((Machine.idle {} outside).trace o first) := by
    intro hmem
    have hevent := (log_run (o := o) outside hreaders hfirst).mem_of_turn hmem
    have hbegun := (account (o := o) outside hreaders hfirst).begun _ hevent
    rw [Machine.begun_run_idle] at hbegun
    exact absurd hbegun (Nat.not_lt.mpr hlt)
  obtain ⟨rest, rfl⟩ := hfirst
  rw [Machine.trace_append, turns_append] at hall ⊢
  have hmem : ⟨j, d⟩ ∈ turns requests
      (((Machine.idle {} outside).run o first).trace o rest) := by
    have hj : (⟨j, d⟩ : Turn) ∈ before' ++ ⟨j, d⟩ :: after' := by simp
    rw [← hall] at hj
    exact (List.mem_append.mp hj).resolve_left hnew
  obtain ⟨middle', after, hlater⟩ := List.append_of_mem hmem
  refine ⟨before, c, middle ++ middle', d, after, ?_⟩
  rw [hts, hlater]
  simp only [List.append_assoc, List.cons_append]

/-- However readers of one source and changes of its Secret interleave, the readers answer as if
they had been called one after the other. -/
theorem linearizes (source : SecretSource) (o : Outside ω) (outside : ω) (requests : List Request)
    (schedule : List (Move ω Answer)) (hreaders : begunBy schedule = requests.map source.respond) :
    Linearizes o outside schedule source requests
      (turns requests ((Machine.idle {} outside).trace o schedule)) := by
  have haccount := account (o := o) outside hreaders List.prefix_rfl
  have hlog := log_run (o := o) outside hreaders List.prefix_rfl
  have htracked := hlog.tracked haccount.memory
  refine {
    once := htracked.nodup
    listed := fun t => hlog.mem_of_turn
    left := fun hfree => htracked.free fun k => hlog.held_eq_nil_of_notMem fun hk => ?left
    atomic := fun k answer hreturns => ?atomic
    inTime := fun k j answer => exists_turns_of_precedes hreaders
    fresh := fun hdistinguished k answer hreturns => ?fresh
    forward := fun ρ _ age hforward k j answer hbefore hreturns s hs => ?forward }
  case left =>
    cases (haccount.holder hk).symm.trans hfree
  case atomic =>
    obtain ⟨before, c, after, hts, hrequest, rfl⟩ :=
      exists_turn_of_returns hreaders List.prefix_rfl hreturns
    exact ⟨before, c, after, hts, hrequest, rfl, whole_call ..⟩
  case fresh =>
    obtain ⟨before, c, after, hts, hrequest, rfl⟩ :=
      exists_turn_of_returns hreaders List.prefix_rfl hreturns
    have honce := htracked.nodup
    rw [hts] at honce hdistinguished ⊢
    rw [seenBy_append (t := ⟨k, c⟩) honce]
    have hprefix := prefix_calls before ⟨k, c⟩ after
    exact ⟨c.request, hrequest, call_of_distinguished
      (hdistinguished.mono (prefix_listedSecrets hprefix).subset)⟩
  case forward =>
    obtain ⟨before, c, middle, d, after, hts⟩ := exists_turns_of_precedes hreaders hbefore hreturns
    have honce := htracked.nodup
    rw [hts] at honce hforward hs ⊢
    exact exists_seenBy_of_le (t := ⟨k, c⟩) (u := ⟨j, d⟩) honce hforward hs

end

/-! ## Readers while a Secret is rotated -/

/-- What lists one Secret, and nothing else. -/
def listing : Outside (Option Secret) where
  ask _ question secret :=
    match question with
    | .listedSecret .. => (some secret, secret)
    | _ => (none, secret)
  collect _ question secret :=
    match question with
    | .listedSecret .. => (some secret, secret)
    | _ => (none, secret)
  cancel _ secret := ([], secret)

def shared : SecretSource := ⟨0, ⟨"kube-system", "vcenter"⟩, 0⟩

/-- The Secret before a rotation. -/
def former : Secret := revision "1" [("a.username", "u"), ("a.password", "p")]

/-- The Secret after it. -/
def latter : Secret := revision "2" [("a.username", "v"), ("a.password", "q")]

/-- Two requests for a server, and one for all credentials between them. -/
def requested : List Request := [.credential "a", .all, .credential "a"]

/-- The first reader is overtaken by a rotation while the second one waits for it, and the last
one begins when the first one has returned. -/
def rotated : List (Move (Option Secret) Answer) :=
  [.begin (shared.respond (.credential "a")), .step 0, .step 0,
    .begin (shared.respond .all), .step 1, .change fun _ => some latter] ++
    List.replicate 4 (.step 0) ++ [.begin (shared.respond (.credential "a"))] ++
    List.replicate 6 (.step 1) ++ List.replicate 6 (.step 2)

theorem distinguished_rotated : Distinguished [former, latter, latter] := by
  refine ⟨by decide +kernel, fun s hs => ?_⟩
  have hok : ∀ s ∈ [former, latter, latter], s.credentials.isOk = true := by decide +kernel
  cases hread : s.credentials with
  | ok table => exact ⟨table, rfl⟩
  | error e =>
      have hs := hok s hs
      rw [hread] at hs
      cases hs

/-- The first reader answers from the former revision although it was rotated meanwhile, and the
last one from the latter. -/
theorem linearizes_rotated :
    begunBy rotated = requested.map shared.respond ∧ Precedes listing (some former) rotated 0 2 ∧
      ∃ a b, Returns listing (some former) rotated 0 a ∧
        Returns listing (some former) rotated 2 b ∧
        a = Request.readNewest shared.reference (.credential "a") (some former) ∧
        b = Request.readNewest shared.reference (.credential "a") (some latter) := by
  have hreaders : begunBy rotated = requested.map shared.respond := rfl
  have hlinear := linearizes shared listing (some former) requested rotated hreaders
  have hlisted : listedSecrets ((turns requested
      ((Machine.idle {} (some former)).trace listing rotated)).map Turn.call) =
        [former, latter, latter] := by decide +kernel
  have hanswers : ∀ (k : Nat) (request : Request) (secret : Secret),
      requested[k]? = some request →
      seenBy (turns requested ((Machine.idle {} (some former)).trace listing rotated)) k =
        some secret →
      k ∈ ((Machine.idle {} (some former)).run listing rotated).results.map Prod.fst →
      ∃ answer, Returns listing (some former) rotated k answer ∧
        answer = request.readNewest shared.reference (some secret) := by
    intro k request secret hrequest hseen hk
    obtain ⟨⟨k, answer⟩, hanswer, rfl⟩ := List.mem_map.mp hk
    obtain ⟨request', hrequest', hread⟩ :=
      hlinear.fresh (hlisted ▸ distinguished_rotated) k answer hanswer
    obtain rfl : request' = request := Option.some.inj (hrequest'.symm.trans hrequest)
    exact ⟨answer, hanswer, hseen ▸ hread⟩
  have hearly : 0 ∈ ((Machine.idle {} (some former)).run listing
      (rotated.take 10)).results.map Prod.fst := by decide +kernel
  obtain ⟨⟨_, answer⟩, hanswer, rfl⟩ := List.mem_map.mp hearly
  obtain ⟨a, ha, hread⟩ := hanswers 0 (.credential "a") former rfl (by decide +kernel)
    (by decide +kernel)
  obtain ⟨b, hb, hread'⟩ := hanswers 2 (.credential "a") latter rfl (by decide +kernel)
    (by decide +kernel)
  exact ⟨hreaders, ⟨rotated.take 10, answer, List.take_prefix .., hanswer, by decide⟩,
    a, b, ha, hb, hread, hread'⟩

end SecretSource

end VcenterAccess
