import VcenterAccess.Proofs.Connection.Conduct

/-!
# What a call sees of its connection

A call reads the client of its connection and what the next login uses.  A view says what
these reads find: whatever the memory holds, if nobody interferes (`View.ofMemory`), or
just what was found, whoever left it there (`View.ofFound`).

Whether a program can end with a result after some exchanges is decided operation by
operation (`View.Ends`), for every view at once.
-/

namespace VcenterAccess

open Program

/-- Whether an operation reads what is kept. -/
def Operation.reads : Operation → Bool
  | .getClient _ => true
  | .getLogin _ => true
  | .getCache _ => true
  | _ => false

/-- Whether an operation changes a client. -/
def Operation.changesClient : Operation → Bool
  | .setClient .. => true
  | _ => false

/-- What a call sees of the connection with a number. -/
structure View (n : Nat) (σ : Type) where
  client : σ → Option Client
  login : σ → LoginState
  /-- What a step finds is there. -/
  tells : σ → Step → Prop
  after : σ → Step → σ
  tells_getClient (s : σ) (found : Option Client) :
    tells s ⟨.getClient n, found⟩ ↔ found = client s
  tells_getLogin (s : σ) (found : LoginState) : tells s ⟨.getLogin n, found⟩ ↔ found = login s
  tells_other (s : σ) (x : Step) (h : x.operation.reads = false) : tells s x
  client_after (s : σ) (x : Step) (h : x.operation.changesClient = false) :
    client (after s x) = client s
  login_after (s : σ) (x : Step) (h : x.operation.changesLogin = false) :
    login (after s x) = login s

/-- What a step finds of a connection is this. -/
def Step.Finds (n : Nat) (client : Option Client) (login : LoginState) : Step → Prop
  | ⟨.getClient k, found⟩ => k = n → found = client
  | ⟨.getLogin k, found⟩ => k = n → found = login
  | _ => True

namespace View

variable {n : Nat} {σ α β : Type}

/-- Nobody else changes what is kept. -/
def ofMemory (n : Nat) : View n Memory where
  client m := m.client n
  login m := m.login n
  tells := Memory.Tells
  after := Memory.after
  tells_getClient _ _ := Iff.rfl
  tells_getLogin _ _ := Iff.rfl
  tells_other m x h := by
    obtain ⟨operation, answer⟩ := x
    cases operation <;> trivial
  client_after m x h := by
    rcases client_after_cases n m x with heq | ⟨client, hop, -⟩
    · exact heq
    · rw [hop] at h
      cases h
  login_after m x h := by
    rcases login_after_cases n m x with heq | ⟨login, hop, -⟩
    · exact heq
    · rw [hop] at h
      cases h

/-- Others may change what is kept between two steps; this is what was found. -/
def ofFound (n : Nat) (client : Option Client) (login : LoginState) : View n Unit where
  client _ := client
  login _ := login
  tells _ := Step.Finds n client login
  after _ _ := ()
  tells_getClient _ _ := ⟨fun h => h rfl, fun h _ => h⟩
  tells_getLogin _ _ := ⟨fun h => h rfl, fun h _ => h⟩
  tells_other _ x h := by
    obtain ⟨operation, answer⟩ := x
    cases operation <;> trivial
  client_after _ _ _ := rfl
  login_after _ _ _ := rfl

variable (v : View n σ)

/-- Everything that some steps find is there. -/
def Shows (s : σ) : List Step → Prop
  | [] => True
  | x :: h => v.tells s x ∧ Shows (v.after s x) h

theorem shows_append {s : σ} {g h : List Step} :
    v.Shows s (g ++ h) ↔ v.Shows s g ∧ v.Shows (g.foldl v.after s) h := by
  induction g generalizing s with
  | nil => simp [Shows]
  | cons x g ih => simp [Shows, ih, and_assoc]

theorem shows_ofMemory {m : Memory} {h : List Step} :
    (ofMemory n).Shows m h ↔ ∃ m', m.Runs h m' := by
  induction h generalizing m with
  | nil => simp [Shows, Memory.Runs]
  | cons x h ih =>
      simp only [Shows, ih, Memory.Runs, exists_and_left]
      exact Iff.rfl

theorem shows_ofFound {client : Option Client} {login : LoginState} {s : Unit} {h : List Step} :
    (ofFound n client login).Shows s h ↔ ∀ x ∈ h, x.Finds n client login := by
  induction h with
  | nil => simp [Shows]
  | cons x h ih =>
      rw [List.forall_mem_cons, ← ih]
      exact Iff.rfl

/-- A program can end with `a` after the exchanges `es`. -/
def Ends (s : σ) (p : Program α) (es : List Exchange) (a : α) : Prop :=
  ∃ h, p.Path h (.done a) ∧ v.Shows s h ∧ exchanges h = es

variable {v} {s : σ} {es : List Exchange} {a : α}

@[simp] theorem ends_pure {b : α} : v.Ends s (pure b) es a ↔ a = b ∧ es = [] := by
  constructor
  · rintro ⟨h, hpath, -, rfl⟩
    obtain ⟨rfl, hdone⟩ := hpath.of_done
    cases hdone
    exact ⟨rfl, rfl⟩
  · rintro ⟨rfl, rfl⟩
    exact ⟨[], .refl _, trivial, rfl⟩

theorem ends_operate {operation : Operation} {f : operation.Answer → Program α} :
    v.Ends s (operate operation >>= f) es a ↔
      ∃ answer rest, v.tells s ⟨operation, answer⟩ ∧
        v.Ends (v.after s ⟨operation, answer⟩) (f answer) rest a ∧
        es = (Step.exchange? ⟨operation, answer⟩).toList ++ rest := by
  constructor
  · rintro ⟨h, hpath, hshows, rfl⟩
    change Path (.perform operation f) h _ at hpath
    cases hpath with
    | step hpath =>
        exact ⟨_, _, hshows.1, ⟨_, hpath, hshows.2, rfl⟩, exchanges_cons ..⟩
  · rintro ⟨answer, rest, htells, ⟨h, hpath, hshows, rfl⟩, rfl⟩
    exact ⟨⟨operation, answer⟩ :: h, .step hpath, ⟨htells, hshows⟩, exchanges_cons ..⟩

/-- An operation that neither reads nor asks, and answers nothing. -/
theorem ends_silent (operation : Operation) {f : operation.Answer → Program α}
    (answer : operation.Answer) (honly : ∀ other, other = answer)
    (hreads : operation.reads = false) (hasks : Step.exchange? ⟨operation, answer⟩ = none) :
    v.Ends s (operate operation >>= f) es a ↔
      v.Ends (v.after s ⟨operation, answer⟩) (f answer) es a := by
  rw [ends_operate]
  constructor
  · rintro ⟨other, rest, -, hrest, rfl⟩
    cases honly other
    rwa [hasks]
  · intro hrest
    exact ⟨answer, es, v.tells_other s _ hreads, hrest, by rw [hasks]; rfl⟩

@[simp] theorem ends_setClient {k : Nat} {client : Option Client} {f : Unit → Program α} :
    v.Ends s (operate (.setClient k client) >>= f) es a ↔
      v.Ends (v.after s ⟨.setClient k client, ()⟩) (f ()) es a :=
  ends_silent (.setClient k client) () (fun _ => rfl) rfl rfl

@[simp] theorem ends_setLogin {k : Nat} {login : LoginState} {f : Unit → Program α} :
    v.Ends s (operate (.setLogin k login) >>= f) es a ↔
      v.Ends (v.after s ⟨.setLogin k login, ()⟩) (f ()) es a :=
  ends_silent (.setLogin k login) () (fun _ => rfl) rfl rfl

@[simp] theorem ends_acquire {lock : Lock} {f : Unit → Program α} :
    v.Ends s (operate (.acquire lock) >>= f) es a ↔
      v.Ends (v.after s ⟨.acquire lock, ()⟩) (f ()) es a :=
  ends_silent (.acquire lock) () (fun _ => rfl) rfl rfl

@[simp] theorem ends_release {lock : Lock} {f : Unit → Program α} :
    v.Ends s (operate (.release lock) >>= f) es a ↔
      v.Ends (v.after s ⟨.release lock, ()⟩) (f ()) es a :=
  ends_silent (.release lock) () (fun _ => rfl) rfl rfl

@[simp] theorem ends_getClient {f : Option Client → Program α} :
    v.Ends s (operate (.getClient n) >>= f) es a ↔
      v.Ends (v.after s ⟨.getClient n, v.client s⟩) (f (v.client s)) es a := by
  rw [ends_operate]
  constructor
  · rintro ⟨found, rest, htells, hrest, rfl⟩
    cases (v.tells_getClient s found).mp htells
    exact hrest
  · exact fun hrest => ⟨_, es, (v.tells_getClient s _).mpr rfl, hrest, rfl⟩

@[simp] theorem ends_getLogin {f : LoginState → Program α} :
    v.Ends s (operate (.getLogin n) >>= f) es a ↔
      v.Ends (v.after s ⟨.getLogin n, v.login s⟩) (f (v.login s)) es a := by
  rw [ends_operate]
  constructor
  · rintro ⟨found, rest, htells, hrest, rfl⟩
    cases (v.tells_getLogin s found).mp htells
    exact hrest
  · exact fun hrest => ⟨_, es, (v.tells_getLogin s _).mpr rfl, hrest, rfl⟩

theorem ends_ask {question : Question} {f : question.Answer → Program α} :
    v.Ends s (ask question >>= f) es a ↔
      ∃ answer rest, v.Ends (v.after s ⟨.ask question, answer⟩) (f answer) rest a ∧
        es = ⟨question, answer⟩ :: rest := by
  rw [show ask question >>= f = operate (.ask question) >>= f from rfl, ends_operate]
  constructor
  · rintro ⟨answer, rest, -, hrest, rfl⟩
    exact ⟨answer, rest, hrest, rfl⟩
  · rintro ⟨answer, rest, hrest, rfl⟩
    exact ⟨answer, rest, v.tells_other s _ rfl, hrest, rfl⟩

/-- One program was done after the other. -/
theorem Ends.of_bind {p : Program β} {f : β → Program α} (h : v.Ends s (p >>= f) es a) :
    ∃ b first rest s', v.Ends s p first b ∧ v.Ends s' (f b) rest a ∧ es = first ++ rest := by
  obtain ⟨h, hpath, hshows, rfl⟩ := h
  obtain ⟨b, g, g', hg, hg', rfl⟩ := hpath.of_bind
  obtain ⟨hfirst, hrest⟩ := v.shows_append.mp hshows
  exact ⟨b, _, _, _, ⟨g, hg, hfirst, rfl⟩, ⟨g', hg', hrest, rfl⟩, exchanges_append ..⟩

/-- One program after the other, if it does not matter what the first one leaves. -/
theorem Ends.bind {p : Program β} {f : β → Program α} {b : β} {first rest : List Exchange}
    (hp : v.Ends s p first b) (hf : ∀ s', v.Ends s' (f b) rest a) :
    v.Ends s (p >>= f) (first ++ rest) a := by
  obtain ⟨g, hg, hfirst, rfl⟩ := hp
  obtain ⟨g', hg', hrest, rfl⟩ := hf (g.foldl v.after s)
  exact ⟨g ++ g', hg.bind hg', v.shows_append.mpr ⟨hfirst, hrest⟩, exchanges_append ..⟩

/-- A lock around a program asks nothing. -/
theorem ends_locked {lock : Lock} {p : Program α} :
    v.Ends s (locked lock p) es a ↔ v.Ends (v.after s ⟨.acquire lock, ()⟩) p es a := by
  rw [locked, ends_acquire]
  constructor
  · intro h
    obtain ⟨b, first, rest, s', hp, hgive, rfl⟩ := h.of_bind
    have hend := ends_release.mp hgive
    obtain ⟨rfl, rfl⟩ := ends_pure.mp hend
    rwa [List.append_nil]
  · intro hp
    rw [← List.append_nil es]
    exact hp.bind fun _ => ends_release.mpr (ends_pure.mpr ⟨rfl, rfl⟩)

end View

end VcenterAccess
