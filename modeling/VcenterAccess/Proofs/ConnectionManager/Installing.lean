import Mathlib.Data.List.Nodup
import VcenterAccess.ConnectionManager.Installation
import VcenterAccess.Proofs.CloudConfig.Verdict

/-!
# What comes of installing a configuration

Installing goes through the vCenters of a configuration by label, and asks for a store whenever
a Secret is named for the first time.  So its effects are those of asking for one store after
the other, for each Secret once and in the order in which they are first named; what is installed
then is the same as if all sources had been there from the start (`Installation.furnished`,
`Installation.foldlM_install`).

That the vCenters of a configuration have different servers keeps each of them from taking the
place of another (`Installation.Filled`).  The sources have different numbers and are about
different Secrets, so vCenters share a source if and only if they refer to the same Secret.
-/

namespace VcenterAccess

/-- Of the elements of a list each is left once. -/
theorem nodup_eraseDups {α : Type} [DecidableEq α] (l : List α) : l.eraseDups.Nodup := by
  induction hn : l.length using Nat.strongRecOn generalizing l with
  | ind n ih =>
      cases l with
      | nil => exact List.nodup_nil
      | cons a l =>
          subst hn
          rw [List.eraseDups_cons, List.nodup_cons]
          refine ⟨by simp [List.mem_eraseDups], ih _ ?_ _ rfl⟩
          exact Nat.lt_succ_of_le (List.length_filter_le ..)

namespace Installation

/-- The Secrets that vCenters refer to besides known ones, each once and in the order in which
they are first named. -/
def named (known : List SecretReference) (vs : List ResolvedVirtualCenter) :
    List SecretReference :=
  ((vs.filterMap (·.secretReference)).filter (· ∉ known)).eraseDups

/-- The Secrets that vCenters refer to, each once and in the order in which they are first
named. -/
def references (vs : List ResolvedVirtualCenter) : List SecretReference :=
  (vs.filterMap (·.secretReference)).eraseDups

/-- Sources for Secrets with their stores, with the numbers from `n` on. -/
def sourcesFrom : Nat → List SecretReference → List Nat → List SecretSource
  | n, r :: rs, store :: stores => ⟨n, r, store⟩ :: sourcesFrom (n + 1) rs stores
  | _, _, _ => []

/-- An installation with more sources. -/
def withSources (i : Installation) (more : List SecretSource) : Installation :=
  { i with sources := i.sources ++ more }

/-- The installation of vCenters whose sources are there from the start. -/
def furnished (vs : List ResolvedVirtualCenter) (stores : List Nat) : Installation :=
  vs.foldl add (withSources {} (sourcesFrom 0 (references vs) stores))

/-! ## One source after the other -/

section

variable {known : List SecretReference} {v : ResolvedVirtualCenter}
  {vs : List ResolvedVirtualCenter} {r : SecretReference} {i : Installation}
  {more : List SecretSource}

theorem named_nil (vs : List ResolvedVirtualCenter) : named [] vs = references vs := by
  simp [named, references]

/-- A vCenter without a Secret, or with a known one, needs nothing. -/
theorem named_of_known (h : ∀ r, v.secretReference = some r → r ∈ known) :
    named known (v :: vs) = named known vs := by
  cases hv : v.secretReference with
  | none => simp [named, hv]
  | some r => simp [named, hv, h r hv]

/-- A Secret that is new comes first, and is known to the others. -/
theorem named_of_new (hv : v.secretReference = some r) (hr : r ∉ known) :
    named known (v :: vs) = r :: named (known ++ [r]) vs := by
  have hfilter : ((vs.filterMap (·.secretReference)).filter (· ∉ known)).filter (fun b => !b == r) =
      (vs.filterMap (·.secretReference)).filter (· ∉ known ++ [r]) := by
    rw [List.filter_filter]
    refine List.filter_congr fun b _ => ?_
    by_cases hb : b = r <;> simp [hb]
  rw [named, List.filterMap_cons_some hv, List.filter_cons_of_pos (by simpa using hr),
    List.eraseDups_cons, hfilter, named]

theorem source?_eq_none_iff : i.source? r = none ↔ r ∉ i.requested := by
  simp [source?, requested]

/-- Of several sources the first one for a Secret counts. -/
theorem source?_withSources (h : r ∈ i.requested) :
    (i.withSources more).source? r = i.source? r := by
  obtain ⟨s, hs⟩ := Option.ne_none_iff_exists'.mp (mt source?_eq_none_iff.mp (not_not.mpr h))
  have hfind : (i.sources ++ more).find? (fun s => s.reference = r) = some s := by
    rw [List.find?_append, show i.sources.find? (fun s => s.reference = r) = some s from hs]
    rfl
  exact hfind.trans hs.symm

theorem withSources_withSources {later : List SecretSource} :
    (i.withSources more).withSources later = i.withSources (more ++ later) := by
  simp [withSources]

/-- Who finds a source need not wait for the others to be there. -/
theorem add_withSources (h : ∀ r, v.secretReference = some r → r ∈ i.requested) :
    (i.withSources more).add v = (i.add v).withSources more := by
  have hsource : v.secretReference.bind (i.withSources more).source? =
      v.secretReference.bind i.source? := by
    cases hv : v.secretReference with
    | none => rfl
    | some r => exact source?_withSources (h r hv)
  rw [add, hsource]
  rfl

theorem requested_add : (i.add v).requested = i.requested := rfl

theorem requested_withSources :
    (i.withSources more).requested = i.requested ++ more.map SecretSource.reference :=
  List.map_append

end

section

variable {m : Type → Type} [Monad m] [LawfulMonad m] (storeFor : SecretReference → m Nat)

/-- Installing vCenters asks for the stores that are needed, one after the other, and adds the
vCenters then. -/
theorem foldlM_install (vs : List ResolvedVirtualCenter) (i : Installation) :
    vs.foldlM (install storeFor) i = do
      let stores ← (named i.requested vs).mapM storeFor
      return vs.foldl add
        (i.withSources (sourcesFrom i.sources.length (named i.requested vs) stores)) := by
  induction vs generalizing i with
  | nil => simp [named, sourcesFrom, withSources]
  | cons v vs ih =>
      have hknown : (∀ r, v.secretReference = some r → r ∈ i.requested) →
          install storeFor i v = pure (i.add v) → (v :: vs).foldlM (install storeFor) i = do
            let stores ← (named i.requested (v :: vs)).mapM storeFor
            return (v :: vs).foldl add (i.withSources
              (sourcesFrom i.sources.length (named i.requested (v :: vs)) stores)) := by
        intro hv hinstall
        rw [List.foldlM_cons, hinstall, pure_bind, ih, named_of_known hv]
        simp only [List.foldl_cons, add_withSources hv]
        rfl
      cases hv : v.secretReference with
      | none =>
          refine hknown (by simp [hv]) ?_
          rw [install, hv]
      | some r =>
          by_cases hr : r ∈ i.requested
          · obtain ⟨s, hs⟩ :=
              Option.ne_none_iff_exists'.mp (mt source?_eq_none_iff.mp (not_not.mpr hr))
            refine hknown (by simpa [hv] using hr) ?_
            simp only [install, hv, need, hs, pure_bind]
          · have hs : i.source? r = none := source?_eq_none_iff.mpr hr
            rw [List.foldlM_cons, named_of_new hv hr]
            simp only [install, hv, need, hs, bind_assoc, pure_bind, List.mapM_cons]
            refine bind_congr fun store => ?_
            let j := i.withSources [i.nextSource r store]
            have hj : ∀ r', v.secretReference = some r' → r' ∈ j.requested := by
              rintro r' hr'
              obtain rfl := Option.some.inj (hv.symm.trans hr')
              simp [j, requested_withSources, nextSource]
            have hmore : ∀ more, (j.add v).withSources more =
                (i.withSources (i.nextSource r store :: more)).add v := by
              intro more
              rw [← add_withSources hj, withSources_withSources]
              rfl
            have hlength : (j.add v).sources.length = i.sources.length + 1 :=
              List.length_append
            have hrest := ih (j.add v)
            rw [requested_add, requested_withSources, hlength] at hrest
            simp only [hmore] at hrest
            exact hrest

/-- What is made of a list has an element for each of its own. -/
theorem exists_mapM_length {α β : Type} (f : α → m β) (l : List α) :
    ∃ x : m {bs : List β // bs.length = l.length}, l.mapM f = Subtype.val <$> x := by
  induction l with
  | nil => exact ⟨pure ⟨[], rfl⟩, by simp⟩
  | cons a l ih =>
      obtain ⟨x, hx⟩ := ih
      refine ⟨f a >>= fun b => (fun bs => ⟨b :: bs.val, by simp [bs.property]⟩) <$> x, ?_⟩
      simp [List.mapM_cons, hx]

end

/-! ## One vCenter after the other -/

/-- The vCenter that is managed for the `n`-th one of a configuration. -/
def managedAs (i : Installation) (n : Nat) (v : ResolvedVirtualCenter) : VirtualCenter where
  connection := { number := n, options := v.options, connectLock := i.manager.connectLock }
  source := v.secretReference.bind i.source?

/-- All vCenters have been added: each has a connection with its place as its number, and
that is all there is. -/
structure Filled (sources : List SecretSource) (vs : List ResolvedVirtualCenter)
    (i : Installation) : Prop where
  sources : i.sources = sources
  opened : i.manager.opened = vs.length
  caches : i.memory.cache = fun _ => {}
  connection : ∀ n v, vs[n]? = some v →
    i.memory.connection n = { login := { credentials := v.credentials } }
  managed : ∀ server u, i.manager.virtualCenters.get? server = some u ↔
    ∃ n v, vs[n]? = some v ∧ v.options.hostname = server ∧ u = i.managedAs n v

theorem filled_nil (sources : List SecretSource) : Filled sources [] (withSources {} sources) where
  sources := rfl
  opened := rfl
  caches := rfl
  connection := by simp
  managed server u := ⟨nofun, fun ⟨_, _, h, _⟩ => nomatch h⟩

variable {sources : List SecretSource} {vs : List ResolvedVirtualCenter} {i : Installation}
  {v : ResolvedVirtualCenter}

/-- A vCenter with a new server is added to the others. -/
theorem Filled.add (h : Filled sources vs i)
    (hnew : ∀ w ∈ vs, w.options.hostname ≠ v.options.hostname) :
    Filled sources (vs ++ [v]) (i.add v) where
  sources := h.sources
  opened := by simp [Installation.add, ConnectionManager.insert, h.opened]
  caches := h.caches
  connection n w hw := by
    change assign i.memory.connection i.manager.opened _ n = _
    rw [h.opened]
    rcases getElem?_concat_iff.mp hw with hw | ⟨rfl, rfl⟩
    · rw [assign_other _ (Nat.ne_of_lt (List.getElem?_eq_some_iff.mp hw).1)]
      exact h.connection n w hw
    · exact assign_same ..
  managed server u := by
    have hadded : (i.add v).manager.virtualCenters =
        i.manager.virtualCenters.insert v.options.hostname ((i.add v).managedAs vs.length v) := by
      rw [← h.opened]
      rfl
    rw [hadded, Table.get?_insert]
    by_cases hserver : server = v.options.hostname
    · rw [if_pos hserver, Option.some.injEq]
      constructor
      · rintro rfl
        exact ⟨_, v, List.getElem?_concat_length, hserver.symm, rfl⟩
      · rintro ⟨n, w, hw, hname, rfl⟩
        rcases getElem?_concat_iff.mp hw with hw | ⟨rfl, rfl⟩
        · exact absurd (hname.trans hserver) (hnew w (List.mem_of_getElem? hw))
        · rfl
    · rw [if_neg hserver, h.managed]
      constructor
      · rintro ⟨n, w, hw, hname, rfl⟩
        exact ⟨n, w, getElem?_concat_iff.mpr (.inl hw), hname, rfl⟩
      · rintro ⟨n, w, hw, hname, rfl⟩
        rcases getElem?_concat_iff.mp hw with hw | ⟨rfl, rfl⟩
        · exact ⟨n, w, hw, hname, rfl⟩
        · exact absurd hname.symm hserver

theorem filled_foldl (sources : List SecretSource) (hnodup : (vs.map (·.options.hostname)).Nodup) :
    Filled sources vs (vs.foldl Installation.add (withSources {} sources)) := by
  induction vs using List.reverseRecOn with
  | nil => exact filled_nil sources
  | append_singleton vs v ih =>
      rw [List.map_append, List.nodup_append] at hnodup
      obtain ⟨hvs, -, hnew⟩ := hnodup
      rw [List.foldl_concat]
      refine (ih hvs).add fun w hw => ?_
      exact hnew _ (List.mem_map.mpr ⟨w, hw, rfl⟩) _ (by simp)

/-! ## Sources -/

section

variable {n : Nat} {rs : List SecretReference} {stores : List Nat}

theorem reference_sourcesFrom (n : Nat) (h : stores.length = rs.length) :
    (sourcesFrom n rs stores).map SecretSource.reference = rs := by
  induction rs generalizing n stores with
  | nil => rfl
  | cons r rs ih =>
      obtain ⟨store, stores, rfl⟩ := List.exists_cons_of_length_eq_add_one h
      exact congrArg _ (ih (n + 1) (Nat.succ.inj h))

theorem store_sourcesFrom (n : Nat) (h : stores.length = rs.length) :
    (sourcesFrom n rs stores).map SecretSource.store = stores := by
  induction rs generalizing n stores with
  | nil => exact (List.eq_nil_of_length_eq_zero h).symm
  | cons r rs ih =>
      obtain ⟨store, stores, rfl⟩ := List.exists_cons_of_length_eq_add_one h
      exact congrArg _ (ih (n + 1) (Nat.succ.inj h))

theorem number_sourcesFrom (n : Nat) (h : stores.length = rs.length) :
    (sourcesFrom n rs stores).map SecretSource.number = List.range' n rs.length := by
  induction rs generalizing n stores with
  | nil => rfl
  | cons r rs ih =>
      obtain ⟨store, stores, rfl⟩ := List.exists_cons_of_length_eq_add_one h
      exact congrArg _ (ih (n + 1) (Nat.succ.inj h))

end

/-- What an installation of vCenters consists of, with the stores that were opened for it. -/
structure Furnished (vs : List ResolvedVirtualCenter) (opened : List Nat) (i : Installation) :
    Prop where
  /-- There is one source for each Secret, in the order in which they are first named. -/
  requested : i.requested = references vs
  /-- Each source has the store that was opened for it. -/
  stores : i.sources.map SecretSource.store = opened
  numbers : i.sources.map SecretSource.number = List.range opened.length
  /-- Nothing was looked up yet. -/
  caches : ∀ n, i.memory.cache n = {}
  /-- There is one connection for each vCenter, under its server. -/
  servers : i.manager.servers.Perm (vs.map (·.options.hostname))
  hostname : ∀ server u, i.manager.virtualCenters.get? server = some u →
    u.connection.options.hostname = server
  /-- The connections differ, and share one lock. -/
  apart : (i.manager.connections.map Connection.number).Nodup
  locks : ∀ c ∈ i.manager.connections, c.connectLock = i.manager.connectLock
  /-- Each connection has its options and credentials, and no client. -/
  managed : ∀ v ∈ vs, ∃ u, i.manager.virtualCenters.get? v.options.hostname = some u ∧
    u.connection.options = v.options ∧
    i.memory.connection u.connection.number =
      { client := none, login := { credentials := v.credentials, sharedToken := none } } ∧
    u.source.map SecretSource.reference = v.secretReference ∧
    ∀ source, u.source = some source → source ∈ i.sources
  /-- vCenters share a source exactly if they refer to the same Secret. -/
  shared : ∀ v ∈ vs, ∀ w ∈ vs, ∀ a b,
    i.manager.virtualCenters.get? v.options.hostname = some a →
    i.manager.virtualCenters.get? w.options.hostname = some b →
    ((∃ s t, a.source = some s ∧ b.source = some t ∧ s.number = t.number) ↔
      ∃ r, v.secretReference = some r ∧ w.secretReference = some r)

section

variable {opened : List Nat}

/-- The Secrets that are asked for are there. -/
theorem exists_source? {r : SecretReference} (h : r ∈ i.requested) :
    ∃ s ∈ i.sources, i.source? r = some s ∧ s.reference = r := by
  obtain ⟨s, hs⟩ := Option.ne_none_iff_exists'.mp (mt source?_eq_none_iff.mp (not_not.mpr h))
  exact ⟨s, List.mem_of_find?_eq_some hs, hs, by simpa using List.find?_some hs⟩

theorem mem_references {r : SecretReference} :
    r ∈ references vs ↔ ∃ v ∈ vs, v.secretReference = some r := by
  rw [references, List.mem_eraseDups, List.mem_filterMap]

/-- The source of a vCenter is the one for its Secret. -/
theorem reference_source (hrequested : i.requested = references vs) (hv : v ∈ vs) :
    (v.secretReference.bind i.source?).map SecretSource.reference = v.secretReference ∧
      ∀ source, v.secretReference.bind i.source? = some source → source ∈ i.sources := by
  cases hr : v.secretReference with
  | none => exact ⟨rfl, nofun⟩
  | some r =>
      obtain ⟨s, hmem, hs, rfl⟩ := exists_source? (hrequested ▸ mem_references.mpr ⟨v, hv, hr⟩)
      rw [Option.bind_some, hs]
      refine ⟨rfl, ?_⟩
      rintro source ⟨⟩
      exact hmem

/-- Every entry is that of some vCenter. -/
theorem Filled.entry (h : Filled sources vs i) {e : String × VirtualCenter}
    (he : e ∈ i.manager.virtualCenters.toList) :
    ∃ n v, vs[n]? = some v ∧ e = (v.options.hostname, i.managedAs n v) := by
  obtain ⟨server, u⟩ := e
  obtain ⟨n, v, hv, rfl, rfl⟩ := (h.managed server u).mp (Table.get?_eq_some_iff.mpr he)
  exact ⟨n, v, hv, rfl⟩

/-- Every vCenter has its entry. -/
theorem Filled.exists_entry (h : Filled sources vs i) (hv : v ∈ vs) :
    ∃ n, vs[n]? = some v ∧
      i.manager.virtualCenters.get? v.options.hostname = some (i.managedAs n v) := by
  obtain ⟨n, hn⟩ := List.mem_iff_getElem?.mp hv
  exact ⟨n, hn, (h.managed _ _).mpr ⟨n, v, hn, rfl, rfl⟩⟩

/-- The servers are those of the vCenters. -/
theorem Filled.servers_perm (h : Filled sources vs i)
    (hnodup : (vs.map (·.options.hostname)).Nodup) :
    i.manager.servers.Perm (vs.map (·.options.hostname)) := by
  refine (List.perm_ext_iff_of_nodup (Table.nodup_keys _) hnodup).mpr fun server => ?_
  constructor
  · intro hserver
    obtain ⟨e, he, rfl⟩ := List.mem_map.mp hserver
    obtain ⟨n, v, hv, rfl⟩ := h.entry he
    exact List.mem_map.mpr ⟨v, List.mem_of_getElem? hv, rfl⟩
  · intro hserver
    obtain ⟨v, hv, rfl⟩ := List.mem_map.mp hserver
    obtain ⟨n, -, hget⟩ := h.exists_entry hv
    exact List.mem_map.mpr ⟨_, Table.get?_eq_some_iff.mp hget, rfl⟩

/-- A connection is under the server it has in its options. -/
theorem Filled.hostname_eq (h : Filled sources vs i) {server : String} {u : VirtualCenter}
    (hu : i.manager.virtualCenters.get? server = some u) :
    u.connection.options.hostname = server := by
  obtain ⟨n, v, -, rfl, rfl⟩ := (h.managed server u).mp hu
  rfl

/-- The connections have the places of their vCenters as numbers, so these differ. -/
theorem Filled.nodup_numbers (h : Filled sources vs i) :
    (i.manager.connections.map Connection.number).Nodup := by
  rw [ConnectionManager.connections, List.map_map]
  refine List.Nodup.map_on (fun e he e' he' heq => ?_) (Table.nodup_toList _)
  obtain ⟨n, v, hv, rfl⟩ := h.entry he
  obtain ⟨n', v', hv', rfl⟩ := h.entry he'
  obtain rfl : n = n' := heq
  obtain rfl := Option.some.inj (hv.symm.trans hv')
  rfl

/-- All connections share one lock. -/
theorem Filled.connectLock_eq (h : Filled sources vs i) {c : Connection}
    (hc : c ∈ i.manager.connections) : c.connectLock = i.manager.connectLock := by
  obtain ⟨e, he, rfl⟩ := List.mem_map.mp hc
  obtain ⟨n, v, -, rfl⟩ := h.entry he
  rfl

/-- Since sources have different numbers, vCenters that share one refer to its Secret; and a
Secret has one source only. -/
theorem shares_source_iff (hrequested : i.requested = references vs)
    (hnumbers : (i.sources.map SecretSource.number).Nodup) {w : ResolvedVirtualCenter}
    (hv : v ∈ vs) (hw : w ∈ vs) :
    (∃ s t, v.secretReference.bind i.source? = some s ∧
        w.secretReference.bind i.source? = some t ∧ s.number = t.number) ↔
      ∃ r, v.secretReference = some r ∧ w.secretReference = some r := by
  constructor
  · rintro ⟨s, t, hs, ht, hnumber⟩
    obtain ⟨hreference, hmem⟩ := reference_source hrequested hv
    obtain ⟨hreference', hmem'⟩ := reference_source hrequested hw
    obtain rfl := List.inj_on_of_nodup_map hnumbers (hmem s hs) (hmem' t ht) hnumber
    rw [hs] at hreference
    rw [ht] at hreference'
    exact ⟨s.reference, hreference.symm, hreference'.symm⟩
  · rintro ⟨r, hr, hr'⟩
    obtain ⟨s, -, hs, -⟩ := exists_source? (hrequested ▸ mem_references.mpr ⟨v, hv, hr⟩)
    exact ⟨s, s, by rw [hr, Option.bind_some, hs], by rw [hr', Option.bind_some, hs], rfl⟩

/-- Installing vCenters with different servers furnishes each of them. -/
theorem furnished_furnished (hnodup : (vs.map (·.options.hostname)).Nodup)
    (hlength : opened.length = (references vs).length) :
    Furnished vs opened (furnished vs opened) := by
  have hfilled := filled_foldl (sourcesFrom 0 (references vs) opened) hnodup
  rw [← furnished] at hfilled
  have hrequested : (furnished vs opened).requested = references vs := by
    rw [Installation.requested, hfilled.sources, reference_sourcesFrom 0 hlength]
  have hnumbers : (furnished vs opened).sources.map SecretSource.number =
      List.range opened.length := by
    rw [hfilled.sources, number_sourcesFrom 0 hlength, hlength, List.range_eq_range']
  constructor
  case requested => exact hrequested
  case stores => rw [hfilled.sources, store_sourcesFrom 0 hlength]
  case numbers => exact hnumbers
  case caches => exact fun n => congrFun hfilled.caches n
  case servers => exact hfilled.servers_perm hnodup
  case hostname => exact fun server u => hfilled.hostname_eq
  case apart => exact hfilled.nodup_numbers
  case locks => exact fun c => hfilled.connectLock_eq
  case managed =>
    intro v hv
    obtain ⟨n, hn, hget⟩ := hfilled.exists_entry hv
    exact ⟨_, hget, rfl, hfilled.connection n v hn, reference_source hrequested hv⟩
  case shared =>
    intro v hv w hw a b ha hb
    obtain ⟨n, -, hget⟩ := hfilled.exists_entry hv
    obtain ⟨k, -, hget'⟩ := hfilled.exists_entry hw
    cases ha.symm.trans hget
    cases hb.symm.trans hget'
    exact shares_source_iff hrequested (hnumbers ▸ List.nodup_range) hv hw

end

/-- Whether and how a configuration is installed, whatever it means to open a store: if it
cannot be resolved, that is the answer and no store is opened.  Otherwise one store is opened for
each Secret that is referred to, in the order in which the entries first name them by label, and
then there is one connection for each entry, and one source for each Secret that is shared by all
who refer to it. -/
theorem ofConfigWith_eq {m : Type → Type} [Monad m] [LawfulMonad m]
    (storeFor : SecretReference → m Nat) (readFile : FileReader) (config : CloudConfig) :
    (∀ e, config.resolve readFile = .error e →
      ofConfigWith storeFor readFile config = pure (.error e)) ∧
    ∀ vs, config.resolve readFile = .ok vs →
      vs.map (·.label) = config.virtualCenters.keys ∧
      (references vs).Nodup ∧ (∀ r, r ∈ references vs ↔ ∃ v ∈ vs, v.secretReference = some r) ∧
      ∃ opened : m {l : List Nat // l.length = (references vs).length},
        (references vs).mapM storeFor = Subtype.val <$> opened ∧
        ofConfigWith storeFor readFile config = (fun l => .ok (furnished vs l.val)) <$> opened ∧
        ∀ l : {l : List Nat // l.length = (references vs).length},
          Furnished vs l.val (furnished vs l.val) := by
  refine ⟨fun e he => ?_, fun vs hvs => ⟨(CloudConfig.labels_of_resolve hvs).1,
    nodup_eraseDups _, fun r => mem_references, ?_⟩⟩
  · rw [ofConfigWith, he]
  · obtain ⟨-, -, -, hnodup⟩ := CloudConfig.resolved_of_resolve hvs
    obtain ⟨opened, hopened⟩ := exists_mapM_length storeFor (references vs)
    have hinstall := foldlM_install storeFor vs {}
    rw [show named (requested {}) vs = references vs from named_nil vs, hopened] at hinstall
    refine ⟨opened, hopened, ?_, fun l => furnished_furnished hnodup l.property⟩
    simp only [ofConfigWith, hvs, ofResolved, hinstall]
    simp [furnished]

/-- Whoever is asked for a store notes the Secret. -/
def noting (r : SecretReference) : StateM (List SecretReference) Nat :=
  modifyGet fun noted => (noted.length, noted ++ [r])

/-- Four vCenters, two of which refer to one Secret. -/
def sites : CloudConfig where
  virtualCenters := Table.ofList
    [("a", { secretName := some "creds", secretNamespace := some "kube-system" }),
      ("b", { secretName := some "others", secretNamespace := some "default" }),
      ("c", { server := "10.0.0.1", secretName := some "creds",
              secretNamespace := some "kube-system" }),
      ("d", {})]

/-- Two stores are opened for them, and none for a configuration without entries. -/
theorem ofConfigWith_eq_sites :
    (∃ vs, sites.resolve (fun _ => .error .notFound) = .ok vs ∧
      vs.map (·.label) = sites.virtualCenters.keys ∧
      references vs = [⟨"kube-system", "creds"⟩, ⟨"default", "others"⟩] ∧
      Furnished vs [0, 1] (furnished vs [0, 1])) ∧
    ((ofConfigWith noting (fun _ => .error .notFound) sites).run []).2 =
      [⟨"kube-system", "creds"⟩, ⟨"default", "others"⟩] ∧
    ofConfigWith noting (fun _ => .error .notFound) {} = pure (.error .noVirtualCenter) := by
  have hreferences : (sites.resolve fun _ => .error .notFound).toOption.map references =
      some [⟨"kube-system", "creds"⟩, ⟨"default", "others"⟩] := by
    decide +kernel
  refine ⟨?_, by decide +kernel, ?_⟩
  · cases hvs : sites.resolve fun _ => .error .notFound with
    | error e =>
        rw [hvs] at hreferences
        cases hreferences
    | ok vs =>
        rw [hvs] at hreferences
        have hvs' := Option.some.inj hreferences
        obtain ⟨hlabels, -, -, opened, -, -, hfurnished⟩ :=
          (ofConfigWith_eq noting (fun _ => .error .notFound) sites).2 vs hvs
        exact ⟨vs, rfl, hlabels, hvs', hfurnished ⟨[0, 1], by rw [hvs']; rfl⟩⟩
  · exact (ofConfigWith_eq noting (fun _ => .error .notFound) {}).1 _ (by decide +kernel)

end Installation

end VcenterAccess
