import VcenterAccess.ConnectionManager.Command
import VcenterAccess.ConnectionManager.Installation
import VcenterAccess.Simulator.Experiment

/-!
# A connection manager in a simulated world

Commands to a connection manager run as tasks.  While one of them is not done, the
connection manager is in use and gets no further connection.
-/

namespace VcenterAccess

/-- A connection manager in a simulated world. -/
structure Estate where
  manager : ConnectionManager := {}
  /-- The number of sources of credentials. -/
  sources : Nat := 0
  /-- The tasks and the world. -/
  experiment : Experiment ConnectionManager.Reply

namespace Estate

/-- More steps than this no command makes. -/
def stamina (m : ConnectionManager) : Nat := 64 + 8 * m.opened

/-- An estate whose connection manager has no connection. -/
def empty (vcenter : Vcenter) : Estate where
  experiment := .start {} { vcenter }

/-- The estate of an installation. -/
def ofInstallation (i : Installation) (vcenter : Vcenter) : Estate where
  manager := i.manager
  sources := i.sources.length
  experiment :=
    { Experiment.start i.memory { vcenter, stores := i.sources.map fun _ => {} } with
      stamina := stamina i.manager }

/-- Change what runs. -/
def withExperiment (e : Estate)
    (f : Experiment ConnectionManager.Reply → Experiment ConnectionManager.Reply) : Estate :=
  { e with experiment := f e.experiment }

/-- Open another store for Secrets. -/
def openStore (e : Estate) : Estate :=
  e.withExperiment fun x => { x with machine := x.machine.change World.openStore }

/-- Add a vCenter to the connection manager. -/
def add (e : Estate) (options : ConnectionOptions) (credentials : SessionCredentials)
    (source : Option SecretSource) : Estate :=
  let manager := e.manager.insert options source
  let shared := e.experiment.machine.shared
  { manager
    sources := e.sources + source.toList.length
    experiment :=
      { e.experiment with
        stamina := stamina manager
        machine :=
          { e.experiment.machine with
            shared := { shared with memory := shared.memory.start e.manager.opened credentials } } } }

/-- The store for a source: one that is there, or the next one. -/
def storeOr (e : Estate) (store : Option Nat) : Nat × Estate :=
  match store with
  | some number => (number, e)
  | none => (e.experiment.world.stores.length, e.openStore)

/-- Add a vCenter, with a source of its own if it has a Secret.  A store is opened even
if the connection manager is in use. -/
def insert (e : Estate) (options : ConnectionOptions) (credentials : SessionCredentials)
    (secret : Option SecretReference) (store : Option Nat) : Bool × Estate :=
  let (source, e) : Option SecretSource × Estate :=
    match secret with
    | none => (none, e)
    | some reference =>
        let (number, e) := e.storeOr store
        (some ⟨e.sources, reference, number⟩, e)
  if e.experiment.isBusy then (false, e) else (true, e.add options credentials source)

/-- The clients by server. -/
def clients (e : Estate) : List (String × Option Client) :=
  e.manager.virtualCenters.toList.map fun entry =>
    (entry.1, e.experiment.memory.client entry.2.connection.number)

end Estate

end VcenterAccess
