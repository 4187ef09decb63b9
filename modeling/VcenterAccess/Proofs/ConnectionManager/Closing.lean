import VcenterAccess.Proofs.ConnectionManager.LoggingOut

/-!
# Logging out reaches every connection

Whatever a vCenter answers to a logout, the connections of a connection manager are logged
out in the order of their servers.  Each connection that has a client asks for the logout of
this client once, the others ask nothing, and no connection has a client afterwards
(`Closes`).  A logout leaves the clients of all other connections, so what the later
connections do is the same as if they came first (`Closes.cons`).

A connection gets a client in a connect only.  As long as nobody connects, there is nothing
left to log out, whatever else is done meanwhile (`ConnectionManager.Meanwhile`).
-/

namespace VcenterAccess

open Program

/-! ## Connections one after the other -/

/-- The clients of some connections, in turn. -/
def clientsOf (cs : List Connection) (memory : Memory) : List Client :=
  cs.filterMap fun c => memory.client c.number

variable {ω : Type} {r : Responder ω} {s : Scene ω}

/-- Some connections were logged out, one after the other, and nothing else was done. -/
structure Closes (cs : List Connection) (s : Scene ω) (e : Ending ω Unit) : Prop where
  /-- The logout of each client is asked for once, and nothing else is. -/
  asked : (exchanges e.steps).map Exchange.question = (clientsOf cs s.memory).map .logout
  emptied : ∀ c ∈ cs, e.scene.memory.client c.number = none
  others : ∀ n, (∀ c ∈ cs, c.number ≠ n) → e.scene.memory.client n = s.memory.client n
  /-- Credentials stay, and so do the tokens that are kept. -/
  logins : ∀ n, e.scene.memory.login n = s.memory.login n
  caches : e.scene.memory.cache = s.memory.cache

namespace Connection

variable (c : Connection)

/-- What a logout comes to. -/
theorem alone_logout :
    c.logout.alone r s =
      let start : List Step :=
        [⟨.acquire (.connect c.connectLock), ()⟩, ⟨.getClient c.number, s.memory.client c.number⟩]
      match s.memory.client c.number with
      | none => ⟨(), start ++ [⟨.release (.connect c.connectLock), ()⟩], s⟩
      | some client =>
          let answer := r (.logout client) s.outside
          ⟨(), start ++ [⟨.setClient c.number none, ()⟩, ⟨.ask (.logout client), answer.1⟩,
              ⟨.release (.connect c.connectLock), ()⟩],
            ⟨s.memory.setClient c.number none, answer.2⟩⟩ := by
  rw [logout, alone_locked, dropSession, alone_operate_bind]
  dsimp only [Operation.alone]
  cases s.memory.client c.number <;> rfl

theorem closes_logout : Closes [c] s (c.logout.alone r s) := by
  rw [alone_logout]
  cases hclient : s.memory.client c.number with
  | none =>
      have hclients : clientsOf [c] s.memory = [] := by simp [clientsOf, hclient]
      exact ⟨by rw [hclients]; rfl, List.forall_mem_singleton.mpr hclient, fun _ _ => rfl,
        fun _ => rfl, rfl⟩
  | some client =>
      have hclients : clientsOf [c] s.memory = [client] := by simp [clientsOf, hclient]
      refine ⟨by rw [hclients]; rfl, List.forall_mem_singleton.mpr ?_, fun n hn => ?_,
        fun n => Memory.login_setClient .., rfl⟩
      · exact Memory.client_setClient ..
      · exact Memory.client_setClient_other _ _ (hn c (List.mem_singleton_self c)).symm

end Connection

namespace Closes

variable {c : Connection} {cs : List Connection} {e first : Ending ω Unit}

theorem nil (s : Scene ω) : Closes [] s ⟨(), [], s⟩ :=
  ⟨rfl, nofun, fun _ _ => rfl, fun _ => rfl, rfl⟩

/-- The other connections find what they would have found without the first one, whose logout
leaves their clients. -/
theorem cons (hfirst : Closes [c] s first) (hrest : Closes cs first.scene e)
    (hc : ∀ d ∈ cs, d.number ≠ c.number) : Closes (c :: cs) s (e.after first) where
  asked := by
    have hsame : clientsOf cs first.scene.memory = clientsOf cs s.memory := by
      refine List.filterMap_congr fun d hd => hfirst.others d.number fun d' hd' => ?_
      obtain rfl := List.mem_singleton.mp hd'
      exact (hc d hd).symm
    have hsplit : clientsOf (c :: cs) s.memory = clientsOf [c] s.memory ++ clientsOf cs s.memory :=
      List.filterMap_append (l := [c])
    rw [Ending.after, exchanges_append, List.map_append, hfirst.asked, hrest.asked, hsame, hsplit,
      List.map_append]
  emptied := by
    refine List.forall_mem_cons.mpr ⟨?_, hrest.emptied⟩
    exact (hrest.others c.number hc).trans (hfirst.emptied c (List.mem_singleton_self c))
  others n hn := by
    obtain ⟨hcn, hcs⟩ := List.forall_mem_cons.mp hn
    exact (hrest.others n hcs).trans (hfirst.others n (List.forall_mem_singleton.mpr hcn))
  logins n := (hrest.logins n).trans (hfirst.logins n)
  caches := hrest.caches.trans hfirst.caches

end Closes

/-- Whoever logs connections out reaches all of them. -/
theorem ConnectionManager.closes_logoutEach {cs : List Connection}
    (hdistinct : (cs.map Connection.number).Nodup) :
    Closes cs s ((logoutEach cs).alone r s) := by
  induction cs generalizing s with
  | nil => exact .nil s
  | cons c cs ih =>
      obtain ⟨hc, hcs⟩ := List.nodup_cons.mp hdistinct
      rw [logoutEach, alone_bind]
      refine c.closes_logout.cons (ih hcs) fun d hd heq => hc ?_
      exact heq ▸ List.mem_map_of_mem hd

/-- Nothing is asked where no connection has a client, even if some of them share a number. -/
theorem ConnectionManager.logoutEach_of_emptied {cs : List Connection}
    (hempty : ∀ c ∈ cs, s.memory.client c.number = none) :
    exchanges ((logoutEach cs).alone r s).steps = [] ∧ ((logoutEach cs).alone r s).scene = s := by
  induction cs with
  | nil => exact ⟨rfl, rfl⟩
  | cons c cs ih =>
      obtain ⟨hc, hcs⟩ := List.forall_mem_cons.mp hempty
      obtain ⟨hsteps, hscene⟩ := ih hcs
      have hfirst := c.alone_logout (r := r) (s := s)
      rw [hc] at hfirst
      rw [logoutEach, alone_bind, hfirst]
      exact ⟨hsteps, hscene⟩

/-! ## Nobody connects -/

/-- The operation gives no connection a client. -/
abbrev Operation.Unpublished (operation : Operation) : Prop := operation.publishes = false

/-- What publishes nothing gives no connection a client. -/
theorem client_of_unpublished {h : List Step} {memory memory' : Memory} {n : Nat}
    (hfree : Free Operation.publishes h) (hruns : memory.Runs h memory')
    (hn : memory.client n = none) : memory'.client n = none := by
  induction h generalizing memory with
  | nil =>
      cases hruns
      exact hn
  | cons x h ih =>
      obtain ⟨hx, hh⟩ := List.forall_mem_cons.mp hfree
      refine ih hh hruns.2 ?_
      rcases client_after_cases n memory x with heq | ⟨client, hop, heq⟩
      · exact heq.trans hn
      · cases client with
        | none => exact heq
        | some client =>
            rw [hop] at hx
            cases hx

namespace Connection

variable (c : Connection)

theorem unpublished_logout : c.logout.Uses Operation.Unpublished := by
  refine .locked rfl (.operate rfl fun client => ?_) rfl
  cases client with
  | none => trivial
  | some client => exact .operate rfl fun _ => .operate rfl fun _ => trivial

theorem unpublished_updateCredentials (credentials : SessionCredentials) :
    (c.updateCredentials credentials).Uses Operation.Unpublished :=
  .locked rfl (.operate rfl fun _ => ⟨rfl, fun _ => trivial⟩) rfl

end Connection

namespace ConnectionManager

variable {m m' : ConnectionManager} {memory memory' : Memory} {seen : List Secret}

/-- Whether a call connects. -/
def Call.connects : Call → Bool
  | .connect _ => true
  | .reconnect _ => true
  | _ => false

theorem unpublished_logoutEach (cs : List Connection) :
    (logoutEach cs).Uses Operation.Unpublished := by
  induction cs with
  | nil => trivial
  | cons c cs ih => exact .bind c.unpublished_logout fun _ => ih

theorem uses_withConnection {may : Operation → Prop} {server : String}
    {f : Connection → Program Result} (hf : ∀ c, (f c).Uses may) :
    (m.withConnection server f).Uses may := by
  rw [withConnection]
  split
  · trivial
  · exact hf _

/-- A call that does not connect publishes nothing. -/
theorem unpublished_program {call : Call} (hcall : call.connects = false) :
    (m.program call).Uses Operation.Unpublished := by
  cases call with
  | connect server => cases hcall
  | reconnect server => cases hcall
  | logoutAll => exact .bind (unpublished_logoutEach _) fun _ => trivial
  | logOut server =>
      exact uses_withConnection fun c => .bind c.unpublished_logout fun _ => trivial
  | update server credentials =>
      exact uses_withConnection fun c => .bind (c.unpublished_updateCredentials _) fun _ => trivial

/-- What a connection manager and its memory may come to while nobody connects: it gets
servers, and other calls run on it that interleave in any way, are abandoned, and get any
answers. -/
inductive Meanwhile (m : ConnectionManager) (memory : Memory) :
    ConnectionManager → Memory → Prop where
  | rest : Meanwhile m memory m memory
  | insert {m' : ConnectionManager} {memory' : Memory} (h : Meanwhile m memory m' memory')
      (options : ConnectionOptions) (source : Option SecretSource)
      (credentials : SessionCredentials) :
      Meanwhile m memory (m'.insert options source) (memory'.start m'.opened credentials)
  | run {m' : ConnectionManager} {memory' : Memory} {ω : Type} (h : Meanwhile m memory m' memory')
      (o : Outside ω) (outside : ω) {schedule : List (Move ω Result)}
      (hcalls : ∀ p ∈ begunBy schedule, ∃ call, call.connects = false ∧ p = m'.program call) :
      Meanwhile m memory m' ((Machine.idle memory' outside).run o schedule).shared.memory

/-- If no connection has a client, none has one while nobody connects. -/
theorem Meanwhile.emptied (h : Meanwhile m memory m' memory')
    (hempty : ∀ c ∈ m.connections, memory.client c.number = none) :
    ∀ c ∈ m'.connections, memory'.client c.number = none := by
  induction h with
  | rest => exact hempty
  | @insert m' memory' _ options source credentials ih =>
      intro c hc
      rw [Memory.client_start]
      obtain ⟨entry, hentry, rfl⟩ := List.mem_map.mp hc
      rcases mem_insertEntry hentry with rfl | hentry
      · exact if_pos rfl
      · rw [ih _ (List.mem_map.mpr ⟨entry, hentry, rfl⟩), ite_self]
  | @run m' memory' ω _ o outside schedule hcalls ih =>
      intro c hc
      have hbracketed : ∀ p ∈ begunBy schedule, p.Bracketed := fun p hp => by
        obtain ⟨call, -, rfl⟩ := hcalls p hp
        exact m'.bracketed_program call
      have huses : ∀ p ∈ begunBy schedule, p.Uses Operation.Unpublished := fun p hp => by
        obtain ⟨call, hcall, rfl⟩ := hcalls p hp
        exact unpublished_program hcall
      have hfree := Machine.uses_run (o := o) memory' outside hbracketed huses fun _ => rfl
      have haccount := Machine.account_run (o := o) memory' outside List.prefix_rfl hbracketed
      exact client_of_unpublished (List.forall_mem_map.mpr hfree) haccount.memory (ih c hc)

/-! ## Logging out of every vCenter -/

theorem numbers_insert (m : ConnectionManager) (options : ConnectionOptions)
    (source : Option SecretSource) :
    (m.insert options source).numbers = (insertEntry options.hostname
      ⟨m.nextConnection options, source⟩ m.virtualCenters.toList).map
        fun entry => entry.2.connection.number :=
  List.map_map

theorem Reached.number_lt (h : m.Reached memory seen) :
    ∀ entry ∈ m.virtualCenters.toList, entry.2.connection.number < m.opened := by
  induction h with
  | new => exact nofun
  | insert _ options source _ ih =>
      intro entry hentry
      rcases mem_insertEntry hentry with rfl | hentry
      · exact Nat.lt_succ_self _
      · exact Nat.lt_succ_of_lt (ih entry hentry)
  | run _ _ _ _ ih => exact ih

/-- No two servers share a connection. -/
theorem Reached.nodup_numbers (h : m.Reached memory seen) : m.numbers.Nodup := by
  induction h with
  | new => exact List.nodup_nil
  | insert hbefore options source _ ih =>
      rw [numbers_insert]
      refine nodup_map_insertEntry (List.map_map ▸ ih) fun entry hentry => ?_
      exact Nat.ne_of_lt (hbefore.number_lt entry hentry)
  | run _ _ _ _ ih => exact ih

/-- Who logs out of every vCenter reaches every connection, whatever the vCenters answer, as
long as no two servers share a connection (`Reached.nodup_numbers`).  Whoever does it again
asks nothing, as long as nobody connects in between, whatever servers came meanwhile. -/
theorem logoutAll_reaches_all (m : ConnectionManager) (hdistinct : m.numbers.Nodup)
    (r : Responder ω) (s : Scene ω) :
    let e := m.logoutAll.alone r s
    Machine.Ends r s m.logoutAll e ∧ Closes m.connections s e ∧
      ∀ m' memory', Meanwhile m e.scene.memory m' memory' →
        ∀ (ω' : Type) (r' : Responder ω') (outside' : ω'),
          let s' : Scene ω' := ⟨memory', outside'⟩
          let e' := m'.logoutAll.alone r' s'
          Machine.Ends r' s' m'.logoutAll e' ∧ exchanges e'.steps = [] := by
  have hcloses := closes_logoutEach (r := r) (s := s) hdistinct
  refine ⟨Machine.ends_alone r m.bracketed_logoutAll s, hcloses, ?_⟩
  intro m' memory' hmeanwhile ω' r' outside'
  have hempty := hmeanwhile.emptied hcloses.emptied
  exact ⟨Machine.ends_alone r' m'.bracketed_logoutAll _, (logoutEach_of_emptied hempty).1⟩

/-! ## Two servers that cannot be reached -/

/-- Connect to one server after the other. -/
def connectedBoth : List (Move World Result) :=
  .begin (twoServers.program (.connect "a")) :: List.replicate 16 (.step 0) ++
    .begin (twoServers.program (.connect "b")) :: List.replicate 16 (.step 1)

/-- What is kept about the two servers then. -/
def bothLogins : Memory :=
  ((Machine.idle twoLogins oneUser).run World.outside connectedBoth).shared.memory

/-- A vCenter that fails every logout. -/
def noLogout : Responder Unit
  | .logout _, s => (.error .temporary, s)
  | question, s => newLock question s

/-- Change the credentials of a server, and log out of it. -/
def updatedMeanwhile : List (Move Unit Result) :=
  .begin (twoServers.program (.update "a" { username := "k8s", password := "new" })) ::
    .begin (twoServers.program (.logOut "a")) :: List.replicate 16 (.step 0) ++
      List.replicate 16 (.step 1)

/-- Both clients are logged out though every logout fails, and then there is none. -/
theorem logoutAll_reaches_both :
    let s : Scene Unit := ⟨bothLogins, ()⟩
    let e := twoServers.logoutAll.alone noLogout s
    let later := ((Machine.idle e.scene.memory ()).run noLogout.outside updatedMeanwhile).shared.memory
    (∃ seen, twoServers.Reached bothLogins seen) ∧
      clientsOf twoServers.connections bothLogins =
        [{ number := 1, retries := some ⟨3⟩ }, { number := 2, retries := some ⟨3⟩ }] ∧
      Closes twoServers.connections s e ∧
      exchanges (twoServers.logoutAll.alone noLogout ⟨later, ()⟩).steps = [] := by
  have hreached : twoServers.Reached twoLogins [] := .insert (.insert .new _ _ _) _ _ _
  have hcalls : twoServers.Answers connectedBoth := by
    rintro p (_ | ⟨_, _ | ⟨_, hp⟩⟩)
    · exact ⟨_, rfl⟩
    · exact ⟨_, rfl⟩
    · cases hp
  obtain ⟨-, hcloses, hagain⟩ := logoutAll_reaches_all twoServers hreached.nodup_numbers noLogout
    ⟨bothLogins, ()⟩
  have hidle : ∀ p ∈ begunBy updatedMeanwhile,
      ∃ call, call.connects = false ∧ p = twoServers.program call := by
    rintro p (_ | ⟨_, _ | ⟨_, hp⟩⟩)
    · exact ⟨_, rfl, rfl⟩
    · exact ⟨_, rfl, rfl⟩
    · cases hp
  exact ⟨⟨_, hreached.run World.outside oneUser hcalls⟩, by decide +kernel, hcloses,
    (hagain _ _ (.run .rest noLogout.outside () hidle) Unit noLogout ()).2⟩

end ConnectionManager

end VcenterAccess
