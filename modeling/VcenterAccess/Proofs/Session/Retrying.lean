import Mathlib.Data.ENat.Lattice
import Mathlib.Data.List.Induction
import VcenterAccess.Retry

/-!
# How often a request is sent

A request is sent again for every failure for the moment, until its budget is used up.
With a budget of `n` and `k` such failures before the first other outcome it is sent
`min k n + 1` times, and the last outcome is what comes of it (`RetryBudget.send_eq`).

Requests go through a layer at the same time, and the answers to them come in any order
(`RetryLayer`).  Each request takes a copy of the budget along, so none of them uses up what
another one needs: wherever a request stands after some answers is determined by its own
answers (`RetryLayer.stage_run`).
-/

namespace VcenterAccess

variable {ρ α : Type}

/-! ## Failures for the moment -/

/-- The outcome is a failure for the moment. -/
def Temporary : Except Fault α → Prop
  | .ok _ => False
  | .error f => f.isTemporary = true

/-- The place of the first outcome that is no failure for the moment. -/
noncomputable def firstLasting (outcomes : Nat → Except Fault α) : ℕ∞ :=
  sInf {k | ∃ i : Nat, k = i ∧ ¬ Temporary (outcomes i)}

/-- Before `m` there are failures for the moment only, and at `m` there is something else, or
`n` is reached. -/
structure Stops (outcomes : Nat → Except Fault α) (n m : Nat) : Prop where
  within : m ≤ n
  before : ∀ i < m, Temporary (outcomes i)
  last : m = n ∨ ¬ Temporary (outcomes m)

/-- The first outcome is no failure for the moment, or nothing may be sent again. -/
theorem Stops.temporary_zero {outcomes : Nat → Except Fault α} {n : Nat} (h : Stops outcomes n 0)
    (ht : Temporary (outcomes 0)) : n = 0 :=
  (h.last.resolve_right fun hlasting => hlasting ht).symm

theorem Stops.tail {outcomes : Nat → Except Fault α} {n m : Nat}
    (h : Stops outcomes (n + 1) (m + 1)) : Stops (fun i => outcomes (i + 1)) n m where
  within := Nat.le_of_succ_le_succ h.within
  before i hi := h.before (i + 1) (Nat.succ_lt_succ hi)
  last := h.last.imp Nat.succ.inj id

/-- A request stops at the first outcome that lasts, or when nothing may be sent again. -/
theorem exists_stops (outcomes : Nat → Except Fault α) (n : Nat) :
    ∃ m : Nat, (m : ℕ∞) = min (firstLasting outcomes) n ∧ Stops outcomes n m := by
  have hfinite : min (firstLasting outcomes) (n : ℕ∞) ≠ ⊤ :=
    ne_top_of_le_ne_top (ENat.natCast_ne_top n) (min_le_right _ _)
  obtain ⟨m, hm⟩ := ENat.ne_top_iff_exists.mp hfinite
  refine ⟨m, hm, ?_, fun i hi => ?_, ?_⟩
  · exact ENat.natCast_le_natCast.mp (hm.le.trans (min_le_right _ _))
  · by_contra hlasting
    have hfirst : firstLasting outcomes ≤ i := sInf_le ⟨i, rfl, hlasting⟩
    have hle : (m : ℕ∞) ≤ i := hm.le.trans ((min_le_left _ _).trans hfirst)
    exact absurd (ENat.natCast_le_natCast.mp hle) (Nat.not_le_of_gt hi)
  · rcases min_choice (firstLasting outcomes) (n : ℕ∞) with hfirst | hlast
    · rw [hfirst] at hm
      have hnonempty : {k : ℕ∞ | ∃ i : Nat, k = i ∧ ¬ Temporary (outcomes i)}.Nonempty := by
        by_contra hempty
        rw [firstLasting, Set.not_nonempty_iff_eq_empty.mp hempty, sInf_empty] at hm
        exact ENat.natCast_ne_top m hm
      obtain ⟨i, hi, hlasting⟩ := csInf_mem hnonempty
      obtain rfl : m = i := ENat.natCast_inj.mp (hm.trans hi)
      exact .inr hlasting
    · exact .inl (ENat.natCast_inj.mp (hm.trans hlast))

/-! ## One request -/

namespace RetryBudget

variable {b b' : RetryBudget} {outcome : Except Fault α}

theorem toNat_sub_one (h : b.remaining ≠ 0) :
    (b.remaining - 1).toNat + 1 = b.remaining.toNat := by
  have hle : (1 : UInt32) ≤ b.remaining := UInt32.le_iff_toNat_le.mpr
    (Nat.pos_of_ne_zero fun hzero => h (UInt32.toNat_inj.mp hzero))
  rw [UInt32.toNat_sub_of_le _ _ hle]
  exact Nat.sub_add_cancel (UInt32.le_iff_toNat_le.mp hle)

theorem next?_of_temporary (h : Temporary outcome) (hleft : b.remaining ≠ 0) :
    b.next? outcome = some ⟨b.remaining - 1⟩ := by
  cases outcome with
  | ok a => exact h.elim
  | error f =>
      have htemporary : f.isTemporary = true := h
      simp [next?, hleft, htemporary]

theorem next?_eq_none (h : Temporary outcome → b.remaining = 0) : b.next? outcome = none := by
  cases outcome with
  | ok a => rfl
  | error f =>
      by_cases htemporary : f.isTemporary = true
      · simp [next?, h htemporary]
      · simp [next?, htemporary]

/-- A request is sent again after a failure for the moment only, and what is left then is one
less than before. -/
theorem next?_eq_some_iff :
    b.next? outcome = some b' ↔
      Temporary outcome ∧ b'.remaining.toNat + 1 = b.remaining.toNat := by
  constructor
  · intro h
    by_cases hnext : Temporary outcome ∧ b.remaining ≠ 0
    · rw [next?_of_temporary hnext.1 hnext.2] at h
      obtain rfl := Option.some.inj h
      exact ⟨hnext.1, toNat_sub_one hnext.2⟩
    · rw [next?_eq_none fun ht => not_not.mp fun hleft => hnext ⟨ht, hleft⟩] at h
      cases h
  · rintro ⟨ht, hless⟩
    have hleft : b.remaining ≠ 0 := by
      intro hzero
      rw [hzero] at hless
      cases hless
    rw [next?_of_temporary ht hleft]
    refine congrArg (fun left => some (RetryBudget.mk left)) (UInt32.toNat_inj.mp ?_)
    exact Nat.add_right_cancel ((toNat_sub_one hleft).trans hless.symm)

/-- From some place on, a request is sent once for each failure for the moment up to the place
where this stops, and once more. -/
theorem sendFrom_eq (request : ρ) (outcomes : Nat → Except Fault α) {sent m : Nat}
    (h : Stops (fun i => outcomes (sent + i)) b.remaining.toNat m) :
    sendFrom request outcomes sent b = (List.replicate (m + 1) request, outcomes (sent + m)) := by
  induction m generalizing sent b with
  | zero =>
      have hstop : b.next? (outcomes sent) = none :=
        next?_eq_none fun ht => UInt32.toNat_inj.mp (h.temporary_zero ht)
      rw [sendFrom]
      split
      · rfl
      · next b' hnext =>
          rw [hstop] at hnext
          cases hnext
  | succ m ih =>
      have ht : Temporary (outcomes sent) := h.before 0 (Nat.succ_pos m)
      have hleft : b.remaining ≠ 0 := by
        intro hzero
        have hwithin := h.within
        rw [hzero] at hwithin
        exact absurd hwithin (Nat.not_succ_le_zero m)
      have hrest : Stops (fun i => outcomes (sent + 1 + i)) (b.remaining - 1).toNat m := by
        rw [← toNat_sub_one hleft] at h
        simpa only [Nat.add_assoc, Nat.add_comm 1] using h.tail
      rw [sendFrom]
      split
      · next hnext =>
          rw [next?_of_temporary ht hleft] at hnext
          cases hnext
      · next b' hnext =>
          rw [next?_of_temporary ht hleft] at hnext
          obtain rfl := Option.some.inj hnext
          rw [ih hrest, List.replicate_succ (n := m + 1), Nat.add_right_comm]
          rfl

/-- Everything that is sent is the request, and what comes of it is the last outcome. -/
theorem send_eq (request : ρ) (outcomes : Nat → Except Fault α) {m : Nat}
    (h : Stops outcomes b.remaining.toNat m) :
    b.send request outcomes = (List.replicate (m + 1) request, outcomes m) := by
  have hfrom : Stops (fun i => outcomes (0 + i)) b.remaining.toNat m := by
    simpa only [Nat.zero_add] using h
  rw [send, sendFrom_eq request outcomes hfrom, Nat.zero_add]

end RetryBudget

/-! ## Many requests -/

/-- A request that goes through a layer. -/
structure Transit (ρ α : Type) where
  request : ρ
  /-- What is left of its own copy of the budget. -/
  budget : RetryBudget
  /-- What was sent of it, the last one first. -/
  sent : List ρ
  /-- What came of it. -/
  result : Option (Except Fault α) := none

/-- A layer that sends requests again. -/
structure RetryLayer (ρ α : Type) where
  /-- The budget that every request takes a copy of. -/
  budget : RetryBudget
  /-- The requests in the order in which they came. -/
  transits : List (Transit ρ α) := []

/-- What happens at a layer. -/
inductive RetryLayer.Move (ρ : Type) where
  /-- A request comes and is sent. -/
  | call (request : ρ)
  /-- What was sent last of a request is answered. -/
  | answer (number : Nat)

namespace Transit

/-- A request that is sent for the first time. -/
def start (budget : RetryBudget) (request : ρ) : Transit ρ α where
  request
  budget
  sent := [request]

/-- What was sent last is answered, where `outcomes i` is the answer to what was sent after `i`
others.  If nothing is on its way there is no answer. -/
def answer (outcomes : Nat → Except Fault α) (t : Transit ρ α) : Transit ρ α :=
  match t.result with
  | some _ => t
  | none =>
      let outcome := outcomes (t.sent.length - 1)
      match t.budget.next? outcome with
      | some budget => { t with budget, sent := t.request :: t.sent }
      | none => { t with result := some outcome }

/-- What a request with budget `n` has come to after `a` answers, if it stops at `m`. -/
structure Stage (request : ρ) (outcomes : Nat → Except Fault α) (n m a : Nat) (t : Transit ρ α) :
    Prop where
  request_eq : t.request = request
  /-- It was sent once, and once more for each answer that did not end it. -/
  sent_eq : t.sent = List.replicate (min a m + 1) request
  /-- The budget never gets below zero. -/
  left_eq : t.budget.remaining.toNat + min a m = n
  result_eq : t.result = if a ≤ m then none else some (outcomes m)

variable {request : ρ} {outcomes : Nat → Except Fault α} {n m a : Nat} {t : Transit ρ α}

theorem stage_start (b : RetryBudget) (request : ρ) (outcomes : Nat → Except Fault α) (m : Nat) :
    (start b request : Transit ρ α).Stage request outcomes b.remaining.toNat m 0 where
  request_eq := rfl
  sent_eq := by rw [Nat.zero_min]; rfl
  left_eq := by rw [Nat.zero_min]; rfl
  result_eq := rfl

/-- The place of the next answer is the number of answers before it. -/
theorem Stage.place (h : t.Stage request outcomes n m a) (ha : a ≤ m) : t.sent.length - 1 = a := by
  rw [h.sent_eq, List.length_replicate, Nat.add_sub_cancel, min_eq_left ha]

/-- One answer takes a request to its next stage: it is sent again, or the answer is the last one,
or nothing was on its way any more. -/
theorem Stage.answer (h : t.Stage request outcomes n m a) (hstops : Stops outcomes n m) :
    (t.answer outcomes).Stage request outcomes n m (a + 1) := by
  have hresult := h.result_eq
  have hleft := h.left_eq
  rcases Nat.lt_trichotomy a m with hlt | rfl | hgt
  · rw [if_pos hlt.le] at hresult
    rw [min_eq_left hlt.le] at hleft
    have hremaining : t.budget.remaining ≠ 0 := by
      intro hzero
      rw [hzero] at hleft
      have han : 0 + a = n := hleft
      have hwithin := hstops.within
      omega
    have hanswer : t.answer outcomes =
        { t with budget := ⟨t.budget.remaining - 1⟩, sent := t.request :: t.sent } := by
      rw [Transit.answer, hresult]
      dsimp only
      rw [h.place hlt.le, RetryBudget.next?_of_temporary (hstops.before a hlt) hremaining]
    rw [hanswer]
    refine ⟨h.request_eq, ?_, ?_, ?_⟩
    · rw [h.request_eq, h.sent_eq, min_eq_left hlt.le, min_eq_left (Nat.succ_le_of_lt hlt)]
      rfl
    · rw [min_eq_left (Nat.succ_le_of_lt hlt), Nat.add_succ, ← Nat.succ_add]
      exact (congrArg (· + a) (RetryBudget.toNat_sub_one hremaining)).trans hleft
    · rw [if_pos (Nat.succ_le_of_lt hlt)]
      exact hresult
  · rw [if_pos le_rfl] at hresult
    rw [min_self] at hleft
    have hstop : t.budget.next? (outcomes a) = none := RetryBudget.next?_eq_none fun ht => by
      have hlast := hstops.last.resolve_right fun hlasting => hlasting ht
      have hzero : t.budget.remaining.toNat = 0 := by omega
      exact UInt32.toNat_inj.mp hzero
    have hanswer : t.answer outcomes = { t with result := some (outcomes a) } := by
      rw [Transit.answer, hresult]
      dsimp only
      rw [h.place le_rfl, hstop]
    rw [hanswer]
    refine ⟨h.request_eq, ?_, ?_, ?_⟩
    · rw [h.sent_eq, min_self, min_eq_right (Nat.le_succ a)]
    · rw [min_eq_right (Nat.le_succ a)]
      exact hleft
    · rw [if_neg (Nat.not_succ_le_self a)]
  · rw [if_neg (Nat.not_le_of_gt hgt)] at hresult
    have hanswer : t.answer outcomes = t := by rw [Transit.answer, hresult]
    rw [hanswer]
    have hmin : min (a + 1) m = min a m := by omega
    refine ⟨h.request_eq, hmin ▸ h.sent_eq, hmin ▸ hleft, ?_⟩
    rw [if_neg (by omega)]
    exact hresult

end Transit

namespace RetryLayer

variable (service : Nat → Nat → Except Fault α)

/-- What a move makes of a layer, where `service j i` is the answer to what was sent of the
request `j` after `i` others. -/
def move (l : RetryLayer ρ α) : Move ρ → RetryLayer ρ α
  | .call request => { l with transits := l.transits ++ [.start l.budget request] }
  | .answer number =>
      { l with transits := l.transits.modify number (Transit.answer (service number)) }

/-- What some moves make of a layer. -/
def run (l : RetryLayer ρ α) (moves : List (Move ρ)) : RetryLayer ρ α :=
  moves.foldl (move service) l

/-- How often a request is answered. -/
def answers (number : Nat) (moves : List (Move ρ)) : Nat :=
  moves.countP fun
    | .answer j => j = number
    | .call _ => false

variable {service} {l : RetryLayer ρ α}

theorem budget_run (moves : List (Move ρ)) : (l.run service moves).budget = l.budget := by
  induction moves using List.reverseRecOn with
  | nil => rfl
  | append_singleton moves x ih =>
      rw [run, List.foldl_append]
      cases x <;> exact ih

/-- Whatever happens to other requests, after some answers to it a request is where these
answers take it. -/
theorem stage_run (request : ρ) {number m : Nat}
    (hstops : Stops (service number) l.budget.remaining.toNat m)
    (hnumber : number = l.transits.length) (moves : List (Move ρ)) :
    ∃ t, (l.run service (.call request :: moves)).transits[number]? = some t ∧
      t.Stage request (service number) l.budget.remaining.toNat m (answers number moves) := by
  subst hnumber
  induction moves using List.reverseRecOn with
  | nil => exact ⟨_, List.getElem?_concat_length, Transit.stage_start ..⟩
  | append_singleton moves x ih =>
      obtain ⟨t, ht, hstage⟩ := ih
      rw [← List.cons_append, run, List.foldl_append, answers, List.countP_append]
      change ∃ t, ((l.run service (.call request :: moves)).move service x).transits[_]? = some t ∧ _
      cases x with
      | call other =>
          refine ⟨t, ?_, hstage⟩
          exact (List.getElem?_append_left (List.getElem?_eq_some_iff.mp ht).1).trans ht
      | answer j =>
          rw [move, List.getElem?_modify, ht]
          by_cases hj : j = l.transits.length
          · subst hj
            refine ⟨t.answer (service l.transits.length), by simp, ?_⟩
            simpa [answers] using hstage.answer hstops
          · refine ⟨t, by simp [hj], ?_⟩
            simpa [answers, hj] using hstage

end RetryLayer

/-- A request with the budget `n` is sent once, and again for each of its failures for the
moment before the first other outcome, but `n` times at most; the last outcome is what comes
of it.  It is so for every request that goes through a layer, whatever happens to others.  A
request is only sent again after a failure for the moment, and one less is left then. -/
theorem RetryBudget.sent_within_budget (n : UInt32) :
    (∀ (request : ρ) (outcomes : Nat → Except Fault α), ∃ m : Nat,
      (m : ℕ∞) = min (firstLasting outcomes) n.toNat ∧
        (RetryBudget.mk n).send request outcomes =
          (List.replicate (m + 1) request, outcomes m)) ∧
    (∀ (service : Nat → Nat → Except Fault α) (request : ρ)
        (before after : List (RetryLayer.Move ρ)),
      let layer : RetryLayer ρ α := { budget := ⟨n⟩ }
      let number := (layer.run service before).transits.length
      ∃ m : Nat, (m : ℕ∞) = min (firstLasting (service number)) n.toNat ∧
        ∃ t, (layer.run service (before ++ .call request :: after)).transits[number]? = some t ∧
          t.Stage request (service number) n.toNat m (RetryLayer.answers number after)) ∧
    (∀ (b b' : RetryBudget) (outcome : Except Fault α), b.next? outcome = some b' ↔
      Temporary outcome ∧ b'.remaining.toNat + 1 = b.remaining.toNat) ∧
    (∀ b : RetryBudget, b.next? (.error .invalidLogin : Except Fault α) = none) ∧
    ∀ count : Option UInt32,
      (ofCount count).remaining = if count.getD 0 = 0 then 3 else count.getD 0 := by
  refine ⟨fun request outcomes => ?_, fun service request before after => ?_,
    fun _ _ _ => next?_eq_some_iff, fun _ => next?_eq_none nofun, remaining_ofCount⟩
  · obtain ⟨m, hm, hstops⟩ := exists_stops outcomes n.toNat
    exact ⟨m, hm, send_eq (b := ⟨n⟩) request outcomes hstops⟩
  · intro layer number
    obtain ⟨m, hm, hstops⟩ := exists_stops (service number) n.toNat
    have hbudget : (layer.run service before).budget = ⟨n⟩ := RetryLayer.budget_run before
    have hstops' : Stops (service number) (layer.run service before).budget.remaining.toNat m := by
      rw [hbudget]
      exact hstops
    obtain ⟨t, ht, hstage⟩ := RetryLayer.stage_run request hstops' rfl after
    rw [hbudget] at hstage
    refine ⟨m, hm, t, ?_, hstage⟩
    rw [RetryLayer.run, List.foldl_append]
    exact ht

end VcenterAccess
