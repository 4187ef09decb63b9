import VcenterAccess.ConnectionManager.Basic
import VcenterAccess.Proofs.Connection.Conduct

/-!
# Calls to a connection manager

Whoever uses a connection manager calls it or one of its connections.  All calls are made
of the same parts: a connect or a logout of a connection, a look-up of a credential, a
change of credentials.  If every part keeps to a rule and comes back to the state that it
started from (`ConnectionManager.Conforms`), so does every call.
-/

namespace VcenterAccess

open Program

namespace ConnectionManager

/-- What is asked of a connection manager, or of the connection that it has to a server. -/
inductive Call where
  | connect (server : String)
  | logoutAll
  /-- Connect with the credentials that the connection has. -/
  | reconnect (server : String)
  | logOut (server : String)
  | update (server : String) (credentials : SessionCredentials)
deriving DecidableEq

/-- What comes out of a call. -/
inductive Result where
  | managed (outcome : Except ManagerError Connection)
  | connected (outcome : Except ConnectionError Unit)
  | done

variable (m : ConnectionManager)

/-- Do something with the connection to a server. -/
def withConnection (server : String) (f : Connection → Program Result) : Program Result :=
  match m.connection? server with
  | none => return .done
  | some c => f c

/-- What is done for a call. -/
def program : Call → Program Result
  | .connect server => do return .managed (← m.connect server)
  | .logoutAll => do
      m.logoutAll
      return .done
  | .reconnect server => m.withConnection server fun c => do return .connected (← c.connect)
  | .logOut server => m.withConnection server fun c => do
      c.logout
      return .done
  | .update server credentials => m.withConnection server fun c => do
      c.updateCredentials credentials
      return .done

/-- All tasks that a schedule begins are calls. -/
def Answers {ω : Type} (schedule : List (Move ω Result)) : Prop :=
  ∀ p ∈ begunBy schedule, ∃ call, p = m.program call

end ConnectionManager

/-! ## Rules for calls -/

section

variable {σ : Type} {r : Rule σ} {s : σ} {v : VirtualCenter} {server : String}
  {found : σ → Except LookupError Credential → Prop}

/-- The parts of a connect to a server keep to a rule and come back to its first state; only
between a look-up and the change of credentials after it there may be another one. -/
structure VirtualCenter.Conforms (v : VirtualCenter) (server : String) (r : Rule σ) (s : σ)
    (found : σ → Except LookupError Credential → Prop) : Prop where
  connect : v.connection.connect.Obeys r (fun s' _ => s' = s) s
  lookup : ∀ source, v.source = some source → (source.getCredential server).Obeys r found s
  missed : ∀ s' reason, found s' (.error reason) → s' = s
  push : ∀ s' credential, found s' (.ok credential) →
    (v.connection.updateCredentials (.ofCredential credential)).Obeys r (fun s' _ => s' = s) s'

theorem VirtualCenter.Conforms.obeys (h : v.Conforms server r s found) :
    (v.connect server).Obeys r (fun s' _ => s' = s) s := by
  refine .bind h.connect ?_
  rintro s₁ outcome rfl
  cases outcome with
  | ok _ => rfl
  | error cause =>
      cases hfilter : v.source.filter fun _ => cause.isInvalidLogin with
      | none =>
          simp only [hfilter]
          rfl
      | some source =>
          simp only [hfilter]
          refine .bind (h.lookup source (Option.filter_eq_some_iff.mp hfilter).1) ?_
          intro s₂ answer hfound
          cases answer with
          | error reason => exact h.missed s₂ reason hfound
          | ok credential =>
              refine .bind (h.push s₂ credential hfound) ?_
              rintro s₃ - rfl
              refine .bind h.connect ?_
              rintro s₄ outcome rfl
              cases outcome <;> rfl

namespace ConnectionManager

variable {m : ConnectionManager}

theorem mem_connections (h : m.virtualCenters.get? server = some v) :
    v.connection ∈ m.connections :=
  List.mem_map.mpr ⟨(server, v), Table.get?_eq_some_iff.mp h, rfl⟩

theorem obeys_connect (h : ∀ v, m.virtualCenters.get? server = some v →
      (v.connect server).Obeys r (fun s' _ => s' = s) s) :
    (m.connect server).Obeys r (fun s' _ => s' = s) s := by
  rw [connect]
  cases hknown : m.virtualCenters.get? server with
  | none => rfl
  | some v =>
      refine .bind (h v hknown) ?_
      rintro s' outcome rfl
      cases outcome <;> rfl

theorem obeys_logoutEach {cs : List Connection}
    (h : ∀ c ∈ cs, c.logout.Obeys r (fun s' _ => s' = s) s) :
    (logoutEach cs).Obeys r (fun s' _ => s' = s) s := by
  induction cs with
  | nil => rfl
  | cons c cs ih =>
      obtain ⟨hc, hcs⟩ := List.forall_mem_cons.mp h
      refine .bind hc ?_
      rintro s' - rfl
      exact ih hcs

theorem obeys_withConnection {f : Connection → Program Result}
    (h : ∀ c ∈ m.connections, (f c).Obeys r (fun s' _ => s' = s) s) :
    (m.withConnection server f).Obeys r (fun s' _ => s' = s) s := by
  rw [withConnection, connection?]
  cases hknown : m.virtualCenters.get? server with
  | none => rfl
  | some v => exact h v.connection (mem_connections hknown)

/-- If all parts keep to a rule and come back to its first state, so does every call. -/
theorem obeys_program
    (hconnect : ∀ c ∈ m.connections, c.connect.Obeys r (fun s' _ => s' = s) s)
    (hlogout : ∀ c ∈ m.connections, c.logout.Obeys r (fun s' _ => s' = s) s)
    (hupdate : ∀ c ∈ m.connections, ∀ credentials,
      (c.updateCredentials credentials).Obeys r (fun s' _ => s' = s) s)
    (hlookup : ∀ (source : SecretSource) server,
      (source.getCredential server).Obeys r (fun s' _ => s' = s) s)
    (call : Call) : (m.program call).Obeys r (fun s' _ => s' = s) s := by
  cases call with
  | connect server =>
      refine .bind (obeys_connect fun v hknown => ?_) fun _ _ => id
      have hmem := mem_connections hknown
      have hconforms : v.Conforms server r s fun s' _ => s' = s :=
        ⟨hconnect _ hmem, fun source _ => hlookup source server, fun _ _ => id,
          fun _ credential hs => hs ▸ hupdate _ hmem _⟩
      exact hconforms.obeys
  | logoutAll => exact .bind (obeys_logoutEach hlogout) fun _ _ => id
  | reconnect server =>
      exact obeys_withConnection fun c hc => .bind (hconnect c hc) fun _ _ => id
  | logOut server =>
      exact obeys_withConnection fun c hc => .bind (hlogout c hc) fun _ _ => id
  | update server credentials =>
      exact obeys_withConnection fun c hc => .bind (hupdate c hc credentials) fun _ _ => id

end ConnectionManager

end

/-! ## Calls are bracketed -/

namespace Connection

variable (c : Connection)

theorem bracketed_connect : c.connect.Bracketed := by
  refine bracketed_of_guarded obeys_connect fun h outcome hdone => ?_
  rw [← held_lockingAfter c.connectLock]
  exact hdone.1

theorem bracketed_logout : c.logout.Bracketed := by
  refine bracketed_of_guarded obeys_logout fun h outcome hdone => ?_
  rw [← held_lockingAfter c.connectLock]
  exact hdone.1

theorem bracketed_updateCredentials (credentials : SessionCredentials) :
    (c.updateCredentials credentials).Bracketed := by
  refine bracketed_of_guarded (obeys_updateCredentials credentials) fun h outcome hdone => ?_
  rw [← held_lockingAfter c.connectLock]
  exact hdone.1

end Connection

theorem SecretSource.bracketed_serve (source : SecretSource) {α : Type}
    (read : SecretCache → Except LookupError α) : (source.serve read).Bracketed := by
  refine .locked (I := fun held _ => held = [.cache source.number]) List.not_mem_nil ?_ ?_
  · refine .operate trivial fun listed => .operate trivial fun old => ?_
    split
    · rfl
    · exact .operate trivial fun _ => rfl
  · rintro _ _ rfl
    exact ⟨List.mem_cons_self .., List.erase_cons_head ..⟩

theorem SecretSource.bracketed_getCredential (source : SecretSource) (server : String) :
    (source.getCredential server).Bracketed :=
  source.bracketed_serve _

namespace ConnectionManager

variable (m : ConnectionManager)

/-- No call leaves a lock taken. -/
theorem bracketed_program (call : Call) : (m.program call).Bracketed :=
  obeys_program (fun c _ => c.bracketed_connect) (fun c _ => c.bracketed_logout)
    (fun c _ => c.bracketed_updateCredentials) SecretSource.bracketed_getCredential call

theorem bracketed_logoutAll : m.logoutAll.Bracketed :=
  obeys_logoutEach fun c _ => c.bracketed_logout

theorem bracketed_connect (server : String) : (m.connect server).Bracketed := by
  refine obeys_connect fun v _ => ?_
  have hconforms : v.Conforms server .bracketing [] fun held _ => held = [] := by
    refine ⟨v.connection.bracketed_connect, fun source _ => source.bracketed_getCredential server,
      fun _ _ => id, ?_⟩
    rintro _ credential rfl
    exact v.connection.bracketed_updateCredentials _
  exact hconforms.obeys

variable {m}

theorem bracketed_of_answers {ω : Type} {schedule : List (Move ω Result)} (h : m.Answers schedule) :
    ∀ p ∈ begunBy schedule, p.Bracketed := by
  intro p hp
  obtain ⟨call, rfl⟩ := h p hp
  exact m.bracketed_program call

end ConnectionManager

end VcenterAccess
