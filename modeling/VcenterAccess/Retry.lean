import VcenterAccess.Fault

/-!
# Sending requests again

A request that fails for the moment is sent again, within a budget that every
request has for itself.  A rejected login, or any failure that is not temporary,
is final.
-/

namespace VcenterAccess

/-- How often a request is sent again if nothing is said about it. -/
def defaultRetries : UInt32 := 3

/-- How often a request may still be sent again. -/
structure RetryBudget where
  /-- The number of times. -/
  remaining : UInt32 := defaultRetries
deriving DecidableEq, Inhabited, Repr

namespace RetryBudget

/-- The budget for a configured number.  Unset and zero ask for the default. -/
def ofCount (count : Option UInt32) : RetryBudget :=
  ⟨(count.filter fun n => 0 < n).getD defaultRetries⟩

/-- Three times if nothing else is configured. -/
theorem remaining_ofCount (count : Option UInt32) :
    (ofCount count).remaining = if count.getD 0 = 0 then 3 else count.getD 0 := by
  cases count with
  | none => rfl
  | some n =>
      by_cases hn : n = 0
      · subst hn
        rfl
      · have hpos : 0 < n := UInt32.pos_iff_ne_zero.mpr hn
        simp [ofCount, Option.filter, hn, hpos]

/-- Whether a request with this outcome is sent again, and with which budget. -/
def next? {α : Type} (b : RetryBudget) (outcome : Except Fault α) : Option RetryBudget :=
  match outcome with
  | .ok _ => none
  | .error f => if b.remaining = 0 || !f.isTemporary then none else some ⟨b.remaining - 1⟩

/-- The budget after an outcome. -/
def after {α : Type} (b : RetryBudget) (outcome : Except Fault α) : RetryBudget :=
  (b.next? outcome).getD b

/-- The decisions on outcomes in turn: whether the request was sent again, and
what was left of the budget. -/
def decisions {α : Type} (b : RetryBudget) : List (Except Fault α) → List (Bool × UInt32)
  | [] => []
  | outcome :: rest =>
      ((b.next? outcome).isSome, (b.after outcome).remaining) :: (b.after outcome).decisions rest

/-- Sending again uses the budget up. -/
theorem remaining_lt_of_next? {α : Type} {b b' : RetryBudget} {outcome : Except Fault α}
    (h : b.next? outcome = some b') : b'.remaining.toNat < b.remaining.toNat := by
  unfold next? at h
  split at h
  · cases h
  · split at h
    · cases h
    · next hne =>
        have hpos : b.remaining ≠ 0 := by
          intro h0
          simp [h0] at hne
        have hle : (1 : UInt32) ≤ b.remaining :=
          UInt32.le_iff_toNat_le.mpr (Nat.pos_of_ne_zero fun h0 =>
            hpos (UInt32.toNat_inj.mp h0))
        rw [← Option.some.inj h, UInt32.toNat_sub_of_le _ _ hle]
        have : 0 < b.remaining.toNat := UInt32.le_iff_toNat_le.mp hle
        simp
        omega

/-- Send a request that was sent `sent` times before.  The answer holds the
requests sent from here on and the last outcome. -/
def sendFrom {ρ α : Type} (request : ρ) (outcomes : Nat → Except Fault α) (sent : Nat)
    (b : RetryBudget) : List ρ × Except Fault α :=
  match h : b.next? (outcomes sent) with
  | none => ([request], outcomes sent)
  | some b' =>
      have := remaining_lt_of_next? h
      let (requests, result) := sendFrom request outcomes (sent + 1) b'
      (request :: requests, result)
termination_by b.remaining.toNat

/-- Send a request to a service whose `n`-th answer is `outcomes n`, as often as
the budget allows. -/
def send {ρ α : Type} (b : RetryBudget) (request : ρ) (outcomes : Nat → Except Fault α) :
    List ρ × Except Fault α :=
  sendFrom request outcomes 0 b

end RetryBudget

end VcenterAccess
