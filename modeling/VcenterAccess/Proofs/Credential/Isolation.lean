import VcenterAccess.Assignment
import VcenterAccess.Proofs.Credential.History
import VcenterAccess.Secret.Store

/-!
# What a manager sees of a store

Many managers may look their Secrets up in one store, which takes note of what happens to the
Secrets of any namespace and name.  A manager sees two places of it: the one that its reference
points at, and the one under its name without a namespace (`SecretReference.Sees`).

What happens at other places may be left out, and the answers to the manager are the same.  The
run with all events and the one without them keep stores that agree at the two places, and the
same manager (`SharedStore.Alike`); other managers may come to differ.  Hence whatever a manager
hands out was read from a Secret of its name, whose namespace is that of the reference or none.

A Secret of a cluster carries its namespace, so the second place is empty in a store that only
knows such Secrets.  A store takes others as well, and shows them to everybody who asks for
their name (`SharedStore.answersOf_nameless_ne`).
-/

namespace VcenterAccess

open CredentialManager

/-! ## Stores and places -/

/-- The Secret that an event is about. -/
def SecretEvent.secret? : SecretEvent → Option Secret
  | applied s => some s
  | deleted s => some s
  | listed s => some s
  | listStarted => none
  | listCompleted => none

/-- The Secret that an event puts into a store. -/
def SecretEvent.put? : SecretEvent → Option Secret
  | applied s => some s
  | listed s => some s
  | _ => none

/-- A reference is looked up at two places. -/
def SecretReference.Sees (r : SecretReference) (p : SecretPlace) : Prop :=
  p = r.place ∨ p = ⟨none, r.name⟩

instance (r : SecretReference) (p : SecretPlace) : Decidable (r.Sees p) :=
  inferInstanceAs (Decidable (_ ∨ _))

theorem SecretReference.sees_iff {r : SecretReference} {s : Secret} :
    r.Sees s.place ↔ s.name = r.name ∧ (s.ns = some r.ns ∨ s.ns = none) := by
  simp only [Sees, Secret.place, SecretReference.place, SecretPlace.mk.injEq]
  tauto

namespace SecretStore

variable {r : SecretReference} {store store' : SecretStore} {seen : List Secret}

/-- Two stores are the same where a reference is looked up, now and when the list is complete. -/
structure Agree (r : SecretReference) (store store' : SecretStore) : Prop where
  known : ∀ p, r.Sees p → store.known.at? p = store'.known.at? p
  buffer : ∀ p, r.Sees p → store.buffer.at? p = store'.buffer.at? p

theorem Agree.get?_eq (h : store.Agree r store') : store.get? r = store'.get? r := by
  rw [get?, get?, h.known _ (.inl rfl), h.known _ (.inr rfl)]

/-- Stores that take note of the same agree as before. -/
theorem Agree.observe (h : store.Agree r store') (e : SecretEvent) :
    (store.observe e).Agree r (store'.observe e) := by
  cases e with
  | applied s =>
      refine ⟨fun p hp => ?_, h.buffer⟩
      simp only [SecretStore.observe, SecretShelf.at?_put, h.known p hp]
  | deleted s =>
      refine ⟨fun p hp => ?_, h.buffer⟩
      simp only [SecretStore.observe, SecretShelf.at?_remove, h.known p hp]
  | listStarted => exact ⟨h.known, fun _ _ => rfl⟩
  | listed s =>
      refine ⟨h.known, fun p hp => ?_⟩
      simp only [SecretStore.observe, SecretShelf.at?_put, h.buffer p hp]
  | listCompleted => exact ⟨h.buffer, fun _ _ => rfl⟩

/-- What happens elsewhere does not show. -/
theorem agree_observe {e : SecretEvent} {s : Secret} (he : e.secret? = some s)
    (hs : ¬ r.Sees s.place) (store : SecretStore) : (store.observe e).Agree r store := by
  have hother : ∀ p, r.Sees p → p ≠ s.place := by
    rintro p hp rfl
    exact hs hp
  cases e with
  | applied t =>
      cases he
      refine ⟨fun p hp => ?_, fun _ _ => rfl⟩
      simp only [SecretStore.observe, SecretShelf.at?_put, if_neg (hother p hp)]
  | deleted t =>
      cases he
      refine ⟨fun p hp => ?_, fun _ _ => rfl⟩
      simp only [SecretStore.observe, SecretShelf.at?_remove, if_neg (hother p hp)]
  | listed t =>
      cases he
      refine ⟨fun _ _ => rfl, fun p hp => ?_⟩
      simp only [SecretStore.observe, SecretShelf.at?_put, if_neg (hother p hp)]
  | listStarted => cases he
  | listCompleted => cases he

/-- Whatever lies in a store lies at its place, and is among some Secrets. -/
def Holds (store : SecretStore) (seen : List Secret) : Prop :=
  ∀ p s, store.known.at? p = some s ∨ store.buffer.at? p = some s → s.place = p ∧ s ∈ seen

theorem Holds.observe (h : store.Holds seen) {e : SecretEvent}
    (he : ∀ s, e.put? = some s → s ∈ seen) : (store.observe e).Holds seen := by
  intro p s hs
  cases e with
  | applied t =>
      simp only [SecretStore.observe, SecretShelf.at?_put] at hs
      by_cases hp : p = t.place
      · rw [if_pos hp] at hs
        rcases hs with hs | hs
        · obtain rfl := Option.some.inj hs
          exact ⟨hp.symm, he _ rfl⟩
        · exact h p s (.inr hs)
      · rw [if_neg hp] at hs
        exact h p s hs
  | deleted t =>
      simp only [SecretStore.observe, SecretShelf.at?_remove] at hs
      by_cases hp : p = t.place
      · rw [if_pos hp] at hs
        exact h p s (.inr (hs.resolve_left nofun))
      · rw [if_neg hp] at hs
        exact h p s hs
  | listStarted => exact h p s (.inl (hs.resolve_right nofun))
  | listed t =>
      simp only [SecretStore.observe, SecretShelf.at?_put] at hs
      by_cases hp : p = t.place
      · rw [if_pos hp] at hs
        rcases hs with hs | hs
        · exact h p s (.inl hs)
        · obtain rfl := Option.some.inj hs
          exact ⟨hp.symm, he _ rfl⟩
      · rw [if_neg hp] at hs
        exact h p s hs
  | listCompleted => exact h p s (.inr (hs.resolve_right nofun))

/-- What is found is among them, and was seen. -/
theorem Holds.get? (h : store.Holds seen) {s : Secret} (hs : store.get? r = some s) :
    r.Sees s.place ∧ s ∈ seen := by
  rcases Option.or_eq_some_iff.mp hs with hs | ⟨-, hs⟩
  · obtain ⟨hplace, hmem⟩ := h _ _ (.inl hs)
    exact ⟨.inl hplace, hmem⟩
  · obtain ⟨hplace, hmem⟩ := h _ _ (.inl hs)
    exact ⟨.inr hplace, hmem⟩

end SecretStore

/-! ## Managers that share a store -/

/-- A store, and managers by number that look their Secrets up in it. -/
structure SharedStore where
  store : SecretStore := {}
  manager : Nat → CredentialManager

/-- What happens to them. -/
inductive Occurrence where
  /-- The store takes note of an event. -/
  | event (event : SecretEvent)
  /-- A manager is asked for something. -/
  | request (manager : Nat) (request : Request)

namespace Occurrence

/-- The Secret that is put into the store. -/
def put? : Occurrence → Option Secret
  | event e => e.put?
  | request .. => none

/-- It is not about a Secret at another place than some. -/
def confinedTo (places : SecretPlace → Prop) [DecidablePred places] : Occurrence → Bool
  | event e => e.secret?.all fun s => places s.place
  | request .. => true

end Occurrence

/-- What is left of a history without the events about Secrets at other places. -/
def within (places : SecretPlace → Prop) [DecidablePred places] (history : List Occurrence) :
    List Occurrence :=
  history.filter (Occurrence.confinedTo places)

theorem within_cons (places : SecretPlace → Prop) [DecidablePred places] (x : Occurrence)
    (history : List Occurrence) : within places (x :: history) =
      if x.confinedTo places then x :: within places history else within places history :=
  List.filter_cons

namespace SharedStore

/-- What the store lists for a manager. -/
def listed (s : SharedStore) (k : Nat) : Option Secret := s.store.get? (s.manager k).reference

/-- Where an occurrence leads. -/
def after (s : SharedStore) : Occurrence → SharedStore
  | .event e => { s with store := s.store.observe e }
  | .request k request =>
      { s with manager := assign s.manager k ((s.manager k).call ⟨s.listed k, request⟩).2 }

/-- The answer of a manager, if it is asked. -/
def answer? (s : SharedStore) (k : Nat) : Occurrence → Option Answer
  | .event _ => none
  | .request j request =>
      if j = k then some ((s.manager k).call ⟨s.listed k, request⟩).1 else none

/-- All answers of a manager along a history. -/
def answersOf (k : Nat) : SharedStore → List Occurrence → List Answer
  | _, [] => []
  | s, x :: history => (s.answer? k x).toList ++ answersOf k (s.after x) history

/-- Nothing is known, and no manager was asked yet. -/
def start (references : Nat → SecretReference) : SharedStore where
  manager k := .start (references k)

variable {s s' : SharedStore} {r : SecretReference} {k : Nat} {x : Occurrence}

/-- A manager looks its Secret up in the same way, and remembers the same. -/
structure Alike (r : SecretReference) (k : Nat) (s s' : SharedStore) : Prop where
  store : s.store.Agree r s'.store
  manager : s.manager k = s'.manager k
  reference : (s.manager k).reference = r

theorem Alike.listed_eq (h : s.Alike r k s') : s.listed k = s'.listed k := by
  rw [listed, listed, ← h.manager, h.reference, h.store.get?_eq]

theorem manager_after_other {j : Nat} (hj : j ≠ k) (request : Request) :
    (s.after (.request j request)).manager k = s.manager k :=
  assign_other _ (Ne.symm hj) _

theorem manager_after_same (request : Request) :
    (s.after (.request k request)).manager k = ((s.manager k).call ⟨s.listed k, request⟩).2 :=
  assign_same ..

/-- No occurrence changes which Secret a manager serves. -/
theorem reference_manager_after (s : SharedStore) (k : Nat) (x : Occurrence) :
    ((s.after x).manager k).reference = (s.manager k).reference := by
  cases x with
  | event e => rfl
  | request j request =>
      by_cases hj : j = k
      · subst hj
        rw [manager_after_same, reference_call]
      · rw [manager_after_other hj]

/-- The same occurrence gives the same answer, and leaves the two alike. -/
theorem Alike.after (h : s.Alike r k s') (x : Occurrence) :
    s.answer? k x = s'.answer? k x ∧ (s.after x).Alike r k (s'.after x) := by
  have hreference := (reference_manager_after s k x).trans h.reference
  cases x with
  | event e => exact ⟨rfl, h.store.observe e, h.manager, hreference⟩
  | request j request =>
      by_cases hj : j = k
      · subst hj
        refine ⟨?_, h.store, ?_, hreference⟩
        · rw [answer?, answer?, if_pos rfl, if_pos rfl, h.listed_eq, h.manager]
        · rw [manager_after_same, manager_after_same, h.listed_eq, h.manager]
      · refine ⟨?_, h.store, ?_, hreference⟩
        · rw [answer?, answer?, if_neg hj, if_neg hj]
        · rw [manager_after_other hj, manager_after_other hj, h.manager]

/-- An occurrence that does not concern a manager leaves it as if nothing had happened. -/
theorem Alike.skip (h : s.Alike r k s') (hx : x.confinedTo r.Sees = false) :
    s.answer? k x = none ∧ (s.after x).Alike r k s' := by
  cases x with
  | request j request => cases hx
  | event e =>
      obtain ⟨t, ht, hunseen⟩ : ∃ t, e.secret? = some t ∧ ¬ r.Sees t.place := by
        cases he : e.secret? with
        | none => simp [Occurrence.confinedTo, he] at hx
        | some t => exact ⟨t, rfl, by simpa [Occurrence.confinedTo, he] using hx⟩
      have hagree := SecretStore.agree_observe ht hunseen s.store
      refine ⟨rfl, ⟨fun p hp => ?_, fun p hp => ?_⟩, h.manager, h.reference⟩
      · exact (hagree.known p hp).trans (h.store.known p hp)
      · exact (hagree.buffer p hp).trans (h.store.buffer p hp)

/-- A whole history: what does not concern a manager may be left out. -/
theorem Alike.answersOf_eq (h : s.Alike r k s') (history : List Occurrence) :
    answersOf k s history = answersOf k s' (within r.Sees history) := by
  induction history generalizing s s' with
  | nil => rfl
  | cons x history ih =>
      cases hx : x.confinedTo r.Sees with
      | true =>
          obtain ⟨hanswer, halike⟩ := h.after x
          rw [within_cons, if_pos hx, answersOf, answersOf, hanswer, ih halike]
      | false =>
          obtain ⟨hanswer, halike⟩ := h.skip hx
          rw [within_cons, if_neg (by simp [hx]), answersOf, hanswer, ← ih halike]
          rfl

/-! ## Where credentials come from -/

/-- The store holds what was put there, and each manager remembers what it saw of that. -/
structure Honest (s : SharedStore) (seen : List Secret) : Prop where
  store : s.store.Holds seen
  backed : ∀ k, (s.manager k).Backed (seen.filter fun t => (s.manager k).reference.Sees t.place)

theorem honest_start (references : Nat → SecretReference) (seen : List Secret) :
    (start references).Honest seen where
  store p t ht := by rcases ht with ht | ht <;> cases ht
  backed k := backed_start ..

variable {seen : List Secret}

/-- What is listed for a manager was put there, and the manager sees it. -/
theorem Honest.listed (h : s.Honest seen) {t : Secret} (ht : s.listed k = some t) :
    t ∈ seen.filter fun t => (s.manager k).reference.Sees t.place := by
  obtain ⟨hsees, hmem⟩ := h.store.get? ht
  exact List.mem_filter.mpr ⟨hmem, decide_eq_true hsees⟩

theorem Honest.after (h : s.Honest seen) (hx : ∀ t, x.put? = some t → t ∈ seen) :
    (s.after x).Honest seen := by
  cases x with
  | event e => exact ⟨h.store.observe hx, h.backed⟩
  | request j request =>
      refine ⟨h.store, fun k => ?_⟩
      by_cases hj : j = k
      · subst hj
        rw [manager_after_same, reference_call]
        exact backed_call (h.backed j) fun t ht => h.listed ht
      · rw [manager_after_other hj]
        exact h.backed k

/-- Whatever a manager hands out was read from a Secret that it sees. -/
theorem Honest.exists_parse (h : s.Honest seen) {history : List Occurrence}
    (hseen : ∀ t ∈ history.filterMap Occurrence.put?, t ∈ seen) {answer : Answer}
    (hanswer : answer ∈ answersOf k s history) {c : Credential} (hc : answer.Serves c) :
    ∃ t ∈ seen, (s.manager k).reference.Sees t.place ∧
      ∃ table server, t.payload.parse = .ok table ∧ table.get? server = some c := by
  induction history generalizing s with
  | nil => cases hanswer
  | cons x history ih =>
      have hlater : ∀ t ∈ history.filterMap Occurrence.put?, t ∈ seen := fun t ht =>
        hseen t ((List.sublist_cons_self x history).filterMap _ |>.mem ht)
      have hx : ∀ t, x.put? = some t → t ∈ seen := fun t ht =>
        hseen t (List.mem_filterMap.mpr ⟨x, List.mem_cons_self .., ht⟩)
      rcases List.mem_append.mp hanswer with hnow | hanswer
      · cases x with
        | event e => cases hnow
        | request j request =>
            by_cases hj : j = k
            · subst hj
              rw [answer?, if_pos rfl, Option.toList_some, List.mem_singleton] at hnow
              subst hnow
              obtain ⟨t, ht, hread⟩ :=
                exists_parse_of_serves (h.backed j) (fun t ht => h.listed ht) hc
              obtain ⟨hmem, hsees⟩ := List.mem_filter.mp ht
              exact ⟨t, hmem, of_decide_eq_true hsees, hread⟩
            · rw [answer?, if_neg hj] at hnow
              cases hnow
      · rw [← reference_manager_after s k x]
        exact ih (h.after hx) hlater hanswer

/-! ## Isolation -/

/-- Every Secret with the name of a reference comes with a namespace. -/
def Namespaced (r : SecretReference) (history : List Occurrence) : Prop :=
  ∀ e t, .event e ∈ history → e.secret? = some t → t.name = r.name → t.ns ≠ none

theorem confinedTo_eq {history : List Occurrence} (h : Namespaced r history)
    (hx : x ∈ history) : x.confinedTo r.Sees = x.confinedTo (· = r.place) := by
  cases x with
  | request j request => rfl
  | event e =>
      cases he : e.secret? with
      | none => simp [Occurrence.confinedTo, he]
      | some t =>
          have hiff : r.Sees t.place ↔ t.place = r.place := by
            refine or_iff_left fun hnone => ?_
            obtain ⟨hns, hname⟩ := SecretPlace.mk.inj hnone
            exact h e t hx he hname hns
          simp [Occurrence.confinedTo, he, hiff]

/-- What happens to Secrets that a manager cannot see may be left out of a history, and all its
answers are the same.  If the Secrets of its name come with namespaces, that goes for all
Secrets of another name or namespace.  And whatever it hands out was read from a Secret of its
name, in its namespace or in none. -/
theorem answersOf_filter (references : Nat → SecretReference) (history : List Occurrence)
    (k : Nat) :
    answersOf k (start references) history =
        answersOf k (start references) (within (references k).Sees history) ∧
      (Namespaced (references k) history → answersOf k (start references) history =
        answersOf k (start references) (within (· = (references k).place) history)) ∧
      ∀ answer ∈ answersOf k (start references) history, ∀ c, answer.Serves c →
        ∃ t ∈ history.filterMap Occurrence.put?, t.name = (references k).name ∧
          (t.ns = some (references k).ns ∨ t.ns = none) ∧
          ∃ table server, t.payload.parse = .ok table ∧ table.get? server = some c := by
  have halike : (start references).Alike (references k) k (start references) :=
    ⟨⟨fun _ _ => rfl, fun _ _ => rfl⟩, rfl, rfl⟩
  refine ⟨halike.answersOf_eq history, fun hnamespaced => ?_, fun answer hanswer c hc => ?_⟩
  · rw [halike.answersOf_eq history]
    exact congrArg _ (List.filter_congr fun x hx => confinedTo_eq hnamespaced hx)
  · obtain ⟨t, ht, hsees, hread⟩ :=
      (honest_start references _).exists_parse (fun t ht => ht) hanswer hc
    obtain ⟨hname, hns⟩ := SecretReference.sees_iff.mp hsees
    exact ⟨t, ht, hname, hns, hread⟩

/-- A Secret with a login for the vCenter `a`. -/
def loginFor (ns : Option String) (name uid user : String) : Secret where
  ns
  name
  uid := some uid
  revision := some "1"
  data := some (.ofTexts [("a.username", user), ("a.password", "p")])

/-- Secrets of one name in two namespaces. -/
def neighbours : List Occurrence :=
  [.event (.applied (loginFor (some "default") "creds" "d" "other")),
    .event (.applied (loginFor (some "kube-system") "creds" "k" "user")),
    .request 0 (.credential "a"), .request 1 (.credential "a"),
    .event (.deleted (loginFor (some "kube-system") "creds" "k" "user")),
    .event (.applied (loginFor (some "kube-system") "others" "o" "third")),
    .request 0 .all]

/-- Who looks a Secret up among them. -/
def namesakes : Nat → SecretReference
  | 0 => ⟨"kube-system", "creds"⟩
  | _ => ⟨"default", "creds"⟩

/-- The credential in an answer. -/
def found? : Answer → Option Credential
  | .credential (.ok c) => some c
  | _ => none

theorem serves_of_found? {answer : Answer} {c : Credential} (h : found? answer = some c) :
    answer.Serves c := by
  unfold found? at h
  split at h
  · cases h
    rfl
  · cases h

/-- The first manager does not notice two of the four events, and serves its own Secret. -/
theorem answersOf_filter_neighbours :
    Namespaced (namesakes 0) neighbours ∧
      answersOf 0 (start namesakes) neighbours =
        answersOf 0 (start namesakes) (within (· = (namesakes 0).place) neighbours) ∧
      (within (· = (namesakes 0).place) neighbours).length + 2 = neighbours.length ∧
      ∃ answer ∈ answersOf 0 (start namesakes) neighbours, answer.Serves ⟨"user", "p", "", ""⟩ ∧
        ∃ t ∈ neighbours.filterMap Occurrence.put?,
          t.name = "creds" ∧ (t.ns = some "kube-system" ∨ t.ns = none) := by
  have hnamespaced : Namespaced (namesakes 0) neighbours := by
    intro e t he ht _
    simp only [neighbours, List.mem_cons, Occurrence.event.injEq, reduceCtorEq, false_or,
      List.not_mem_nil, or_false] at he
    rcases he with rfl | rfl | rfl | rfl <;>
      · cases ht
        exact nofun
  have hfound : some ⟨"user", "p", "", ""⟩ ∈
      (answersOf 0 (start namesakes) neighbours).map found? := by
    decide +kernel
  obtain ⟨answer, hanswer, hfound⟩ := List.mem_map.mp hfound
  have hserves := serves_of_found? hfound
  obtain ⟨-, hsame, hread⟩ := answersOf_filter namesakes neighbours 0
  obtain ⟨t, ht, hname, hns, -⟩ := hread answer hanswer _ hserves
  exact ⟨hnamespaced, hsame hnamespaced, rfl, answer, hanswer, hserves, t, ht, hname, hns⟩

/-- A Secret without a namespace, and somebody who asks for its name. -/
def nameless : List Occurrence :=
  [.event (.applied (loginFor none "creds" "u" "user")), .request 0 (.credential "a")]

/-- A Secret without a namespace is served, although it is not where the reference points. -/
theorem answersOf_nameless_ne :
    answersOf 0 (start namesakes) nameless ≠
      answersOf 0 (start namesakes) (within (· = (namesakes 0).place) nameless) := by
  intro h
  have hfound := congrArg (List.map found?) h
  revert hfound
  decide +kernel

end SharedStore

end VcenterAccess
