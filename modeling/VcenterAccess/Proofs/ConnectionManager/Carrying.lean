import VcenterAccess.Proofs.ConnectionManager.Custody

/-!
# What passes through hands

Whoever has a client in its hands, or knows one, has the connect lock, so there is at most
one such call at a time, and what it knows stays so until it does something itself
(`Carried.agrees`).  A step that a call makes leaves every client that is kept or in its
hands where it is, hands it over, drops it after a session query that found no session, or
ends its session (`Custody.Leads.kept`).
-/

namespace VcenterAccess

/-! ## One step -/

section

variable {m : Memory} {x : Step} {ns : List Nat} {k n : Nat}

/-- Only who replaces a client changes one. -/
theorem client_after_of_ne (h : ∀ n client, x.operation ≠ .setClient n client) (n : Nat) :
    (m.after x).client n = m.client n :=
  (client_after_cases n m x).resolve_right fun ⟨client, hx, _⟩ => h n client hx

/-- Some connection keeps the client with a number. -/
def Memory.Stores (m : Memory) (ns : List Nat) (k : Nat) : Prop :=
  ∃ n ∈ ns, ∃ client, m.client n = some client ∧ client.number = k

theorem Memory.Stores.congr {m' : Memory} (h : m.Stores ns k)
    (heq : ∀ n, m'.client n = m.client n) : m'.Stores ns k := by
  obtain ⟨n, hn, client, hclient, hk⟩ := h
  exact ⟨n, hn, client, (heq n).trans hclient, hk⟩

/-- Only the connection whose client is replaced may lose one. -/
theorem Memory.Stores.setClient (h : m.Stores ns k) (n : Nat) (client : Option Client) :
    (m.setClient n client).Stores ns k ∨ ∃ old, m.client n = some old ∧ old.number = k := by
  obtain ⟨n', hn', old, hold, hk⟩ := h
  by_cases hne : n' = n
  · subst hne
    exact .inr ⟨old, hold, hk⟩
  · exact .inl ⟨n', hn', old, (Memory.client_setClient_other m client hne).trans hold, hk⟩

end

namespace Custody

/-- The number of the client in the hands. -/
def hand? : Custody → Option Nat
  | opened _ client => some client
  | wrapped _ client => some client.number
  | removed _ client => some client.number
  | _ => none

/-- What is known of a connection is so. -/
def Agrees (ns : List Nat) (m : Memory) : Custody → Prop
  | found n client => n ∈ ns ∧ m.client n = some client
  | dropping n client => n ∈ ns ∧ m.client n = some client
  | vacant n => n ∈ ns ∧ m.client n = none
  | opened n _ => n ∈ ns ∧ m.client n = none
  | wrapped n _ => n ∈ ns ∧ m.client n = none
  | removed n _ => n ∈ ns ∧ m.client n = none
  | _ => True

variable {lock : Nat} {ns : List Nat} {s s' : Custody} {x : Step} {m m' : Memory} {k : Nat}

theorem Agrees.congr (h : s.Agrees ns m) (heq : ∀ n, m'.client n = m.client n) :
    s.Agrees ns m' := by
  cases s with
  | away => trivial
  | arrived => trivial
  | _ => exact ⟨h.1, (heq _).trans h.2⟩

theorem opens?_of_aside (h : x.operation.Aside) : x.opens? = none := by
  obtain ⟨operation, answer⟩ := x
  cases operation with
  | ask question =>
      cases question with
      | listedSecret store reference => rfl
      | _ => exact h.elim
  | _ => rfl

theorem ne_setClient_of_aside {operation : Operation} (h : operation.Aside) (n : Nat)
    (client : Option Client) : operation ≠ .setClient n client := by
  rintro rfl
  exact h

theorem ne_setClient_of_prepares {operation : Operation} (h : operation.Prepares) (n : Nat)
    (client : Option Client) : operation ≠ .setClient n client := by
  rintro rfl
  exact h

/-- A client that is logged in is in the hands then. -/
theorem Leads.opened (h : Leads lock ns s x s') (hx : x.opens? = some k) : s'.hand? = some k := by
  cases h with
  | stay haside => cases (opens?_of_aside haside).symm.trans hx
  | prepare _ hopens => cases hopens.symm.trans hx
  | «open» _ hopens => exact hopens.symm.trans hx
  | _ => cases hx

/-- Whoever logs in or replaces a client has the lock. -/
theorem Leads.ne_away (h : Leads lock ns s x s')
    (hx : x.opens?.isSome = true ∨ ∃ n client, x.operation = .setClient n client) : s ≠ .away := by
  rintro rfl
  cases h with
  | stay haside =>
      rcases hx with hx | ⟨n, client, rfl⟩
      · rw [opens?_of_aside haside] at hx
        cases hx
      · exact haside
  | arrive => simp [Step.opens?] at hx

/-- What is known stays so. -/
theorem Leads.agrees (h : Leads lock ns s x s') (hs : s.Agrees ns m) (htells : m.Tells x) :
    s'.Agrees ns (m.after x) := by
  cases h with
  | miss hn => exact ⟨hn, Eq.symm htells⟩
  | find hn client => exact ⟨hn, Eq.symm htells⟩
  | doubt => exact hs
  | drop => exact ⟨hs.1, Memory.client_setClient ..⟩
  | prepare hx => exact hs.congr (client_after_of_ne (ne_setClient_of_prepares hx))
  | «open» hx =>
      exact Agrees.congr (s := .opened _ _) hs (client_after_of_ne (ne_setClient_of_prepares hx))
  | keep j login => exact hs.congr (Memory.client_setLogin m j login)
  | wrap => exact hs
  | finish => exact hs
  | remove => exact ⟨hs.1, Memory.client_setClient ..⟩
  | logOut => exact hs
  | _ => trivial

/-- A client that is kept or in the hands stays so, unless no session was found for it or
its session ends. -/
theorem Leads.kept (h : Leads lock ns s x s') (hs : s.Agrees ns m) (hx : x.Faithful)
    (hk : m.Stores ns k ∨ s.hand? = some k) :
    (m.after x).Stores ns k ∨ s'.hand? = some k ∨
      (∃ n client, s = .dropping n client ∧ client.number = k) ∨ x.closes? = some k := by
  have hstays : (∀ n client, x.operation ≠ .setClient n client) → s.hand? = s'.hand? →
      (m.after x).Stores ns k ∨ s'.hand? = some k := fun hne hhand =>
    hk.imp (fun hstores => hstores.congr (client_after_of_ne hne)) hhand.symm.trans
  have hmostly : (m.after x).Stores ns k ∨ s'.hand? = some k →
      (m.after x).Stores ns k ∨ s'.hand? = some k ∨
        (∃ n client, s = .dropping n client ∧ client.number = k) ∨ x.closes? = some k :=
    fun h => h.imp id .inl
  cases h with
  | stay haside => exact hmostly (hstays (ne_setClient_of_aside haside) rfl)
  | prepare hx => exact hmostly (hstays (ne_setClient_of_prepares hx) rfl)
  | «open» hx =>
      rcases hk with hstores | hhand
      · exact .inl (hstores.congr (client_after_of_ne (ne_setClient_of_prepares hx)))
      · cases hhand
  | wrap client budget client' =>
      have hnumber : client'.number = client.number := hx
      exact hmostly (hstays nofun (congrArg some hnumber.symm))
  | @drop n client =>
      rcases hk with hstores | hhand
      · rcases hstores.setClient n none with hstores | ⟨old, hold, hnumber⟩
        · exact .inl hstores
        · cases hold.symm.trans hs.2
          exact .inr (.inr (.inl ⟨n, client, rfl, hnumber⟩))
      · cases hhand
  | @publish n client =>
      rcases hk with hstores | hhand
      · rcases hstores.setClient n (some client) with hstores | ⟨old, hold, -⟩
        · exact .inl hstores
        · cases hold.symm.trans hs.2
      · exact .inl ⟨n, hs.1, client, Memory.client_setClient .., Option.some.inj hhand⟩
  | @remove n client =>
      rcases hk with hstores | hhand
      · rcases hstores.setClient n none with hstores | ⟨old, hold, hnumber⟩
        · exact .inl hstores
        · cases hold.symm.trans hs.2
          exact .inr (.inl (congrArg some hnumber))
      · cases hhand
  | @logOut n client answer =>
      rcases hk with hstores | hhand
      · exact .inl hstores
      · obtain rfl : answer = .ok () := hx
        exact .inr (.inr (.inr hhand))
  | _ => exact hmostly (hstays nofun rfl)

/-! ## The steps of one call -/

/-- What is in the hands after some steps. -/
def of (h : List Step) : Custody := h.foldl next .away

theorem of_concat (h : List Step) (x : Step) : of (h ++ [x]) = (of h).next x :=
  List.foldl_append

/-- After empty hands, only later steps count. -/
theorem of_append {g : List Step} (hg : of g = .away) (h : List Step) : of (g ++ h) = of h := by
  rw [of, List.foldl_append, ← of, hg, of]

/-- The steps are those of a call, which may have been abandoned. -/
def Allows (lock : Nat) (ns : List Nat) (h : List Step) : Prop :=
  (Rule.custody lock ns).lenient.Allows .away h

variable {h : List Step}

/-- Giving a lock back leaves the hands as they are, or empty. -/
theorem next_release (s : Custody) (lock : Lock) :
    s.next ⟨.release lock, ()⟩ = .away ∨
      s.next ⟨.release lock, ()⟩ = s ∧ ∀ k, lock ≠ .connect k := by
  cases lock with
  | connect k => exact .inl rfl
  | credentials n => exact .inr ⟨by cases s <;> rfl, nofun⟩
  | cache n => exact .inr ⟨by cases s <;> rfl, nofun⟩

/-- Who is abandoned has empty hands, or what it had before. -/
theorem of_giveBack (h : List Step) (held : List Lock) :
    of (h ++ giveBack held) = .away ∨ of (h ++ giveBack held) = of h := by
  induction held using List.reverseRecOn with
  | nil => exact .inr (by rw [giveBack, List.map_nil, List.append_nil])
  | append_singleton held lock ih =>
      have hlast : of (h ++ giveBack (held ++ [lock])) =
          (of (h ++ giveBack held)).next ⟨.release lock, ()⟩ := by
        rw [giveBack, List.map_append, ← List.append_assoc]
        exact of_concat ..
      rw [hlast]
      rcases next_release (of (h ++ giveBack held)) lock with haway | ⟨hstays, -⟩
      · exact .inl haway
      · rwa [hstays]

/-- Where a call may be abandoned, it has nothing in its hands, unless it logs out. -/
theorem empty_of_awaited {operation : Operation}
    (hallows : (Rule.custody lock ns).allows s operation) (hawaited : operation.isAwaited = true)
    (hlogout : ∀ client, operation ≠ .ask (.logout client)) :
    s.hand? = none ∧ ∀ n client, s ≠ .dropping n client := by
  have hempty : ∀ answer, Leads lock ns s ⟨operation, answer⟩ (s.next ⟨operation, answer⟩) →
      s.hand? = none ∧ ∀ n client, s ≠ .dropping n client := by
    intro answer hleads
    generalize s.next ⟨operation, answer⟩ = s' at hleads
    cases hleads with
    | logOut => exact absurd rfl (hlogout _)
    | keep => cases hawaited
    | wrap => cases hawaited
    | finish => cases hawaited
    | publish => cases hawaited
    | drop => cases hawaited
    | _ => exact ⟨rfl, fun _ _ => nofun⟩
  cases operation with
  | acquire lock => exact hempty () (hallows ())
  | ask question =>
      cases question with
      | withRetry => cases hawaited
      | listedSecret => cases hawaited
      | sharedToken => exact hempty (.error .emptyUrl) (hallows (.error .emptyUrl))
      | _ => exact hempty (.error .temporary) (hallows (.error .temporary))
  | _ => cases hawaited

/-- A step leads on, or gives a lock back. -/
theorem Allows.last (hall : Allows lock ns (h ++ [x])) :
    Allows lock ns h ∧ (Leads lock ns (of h) x (of (h ++ [x])) ∨ ∃ l, x = ⟨.release l, ()⟩) := by
  obtain ⟨hbefore, hallows⟩ := Rule.allows_concat.mp hall
  obtain ⟨operation, answer⟩ := x
  refine ⟨hbefore, hallows.imp (fun hleads => ?_) ?_⟩
  · rw [of_concat]
    exact hleads answer
  · rintro ⟨l, rfl⟩
    exact ⟨l, rfl⟩

/-- Who knows or has a client has the connect lock. -/
theorem Allows.lock_mem (hall : Allows lock ns h) (hs : of h ≠ .away) :
    .connect lock ∈ heldAfter h := by
  induction h using List.reverseRecOn with
  | nil => exact absurd rfl hs
  | append_singleton h x ih =>
      obtain ⟨hbefore, hlast⟩ := hall.last
      rw [heldAfter_concat]
      by_cases haway : of h = .away
      · rcases hlast with hleads | ⟨l, rfl⟩
        · rw [haway] at hleads
          generalize of (h ++ [x]) = s' at hleads hs
          cases hleads with
          | stay => exact absurd rfl hs
          | arrive => exact List.mem_cons_self ..
        · rw [of_concat, haway] at hs
          rcases next_release .away l with heq | ⟨heq, -⟩ <;> exact absurd heq hs
      · refine mem_next_of_mem (ih hbefore haway) fun hx => hs ?_
        rw [of_concat, next, hx]
        rfl

end Custody

/-! ## The steps of all calls -/

/-- What can be relied on along every run of calls: nobody takes a lock that somebody holds,
and every call keeps to the rule. -/
structure Carried (lock : Nat) (ns : List Nat) (events : List Event) : Prop where
  exclusive : Exclusive events
  allows : ∀ j, Custody.Allows lock ns (stepsOf j events)

namespace Carried

variable {lock : Nat} {ns : List Nat} {events later : List Event} {start m : Memory} {j k n : Nat}

theorem of_append (h : Carried lock ns (events ++ later)) : Carried lock ns events where
  exclusive := h.exclusive.of_append
  allows j := by
    have hall := h.allows j
    rw [stepsOf_append] at hall
    exact Rule.Allows.of_append hall

/-- What a call has in its hands. -/
def hands (j : Nat) (events : List Event) : Custody := .of (stepsOf j events)

theorem hands_concat_same (k : Nat) (events : List Event) (x : Step) :
    hands k (events ++ [⟨k, x⟩]) = (hands k events).next x := by
  rw [hands, stepsOf_concat_same, Custody.of_concat, hands]

theorem hands_concat_other {e : Event} (hj : e.task ≠ j) :
    hands j (events ++ [e]) = hands j events := by
  rw [hands, stepsOf_concat_other _ hj, hands]

/-- Only one call at a time knows or has a client. -/
theorem unique (h : Carried lock ns events) (hj : hands j events ≠ .away)
    (hk : hands k events ≠ .away) : j = k :=
  holder_unique h.exclusive ((h.allows j).lock_mem hj) ((h.allows k).lock_mem hk)

/-- The last step leads on, or gives a lock back. -/
theorem last {x : Step} (h : Carried lock ns (events ++ [⟨k, x⟩])) :
    Custody.Leads lock ns (hands k events) x (hands k (events ++ [⟨k, x⟩])) ∨
      ∃ l, x = ⟨.release l, ()⟩ := by
  have hall := h.allows k
  rw [stepsOf_concat_same] at hall
  have hlast := hall.last.2
  rwa [Custody.of_concat, ← hands, ← hands_concat_same] at hlast

/-- What calls know of connections is so, as only who has the lock replaces a client. -/
theorem agrees (h : Carried lock ns events) (hruns : start.Runs (events.map Event.step) m)
    (j : Nat) : (hands j events).Agrees ns m := by
  induction events using List.reverseRecOn generalizing m j with
  | nil => trivial
  | append_singleton events e ih =>
      obtain ⟨k, x⟩ := e
      rw [List.map_append] at hruns
      obtain ⟨before, hbefore, htells, rfl⟩ := Memory.runs_concat.mp hruns
      have hearlier := ih h.of_append hbefore
      by_cases hjk : k = j
      · subst hjk
        rcases h.last with hleads | ⟨l, rfl⟩
        · exact hleads.agrees (hearlier k) htells
        · rw [hands_concat_same]
          rcases Custody.next_release (hands k events) l with haway | ⟨hstays, -⟩
          · rw [haway]
            trivial
          · rw [hstays]
            exact hearlier k
      · rw [hands_concat_other hjk]
        by_cases haway : hands j events = .away
        · rw [haway]
          trivial
        · refine (hearlier j).congr (client_after_of_ne fun n client hx => hjk ?_)
          rcases h.last with hleads | ⟨l, rfl⟩
          · exact h.of_append.unique (hleads.ne_away (.inr ⟨n, client, hx⟩)) haway
          · cases hx

end Carried

end VcenterAccess
