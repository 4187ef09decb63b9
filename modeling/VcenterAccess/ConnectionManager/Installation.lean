import VcenterAccess.ConnectionManager.Basic

/-!
# Installing a configuration

A configuration becomes a connection manager with a connection for each of its
vCenters.  vCenters that refer to the same Secret share a source; the sources are
numbered in the order in which they are first needed.

Where a Secret is looked up is up to the caller, who is asked for a store once a
source is needed.  The answer may have effects, in any monad.  Unless somebody
says otherwise, each source gets a store of its own.
-/

namespace VcenterAccess

/-- A connection manager with what it starts from. -/
structure Installation where
  manager : ConnectionManager := {}
  /-- What its connections and sources start with. -/
  memory : Memory := {}
  /-- Its sources in the order of their numbers. -/
  sources : List SecretSource := []

namespace Installation

/-- The source for a Secret. -/
def source? (i : Installation) (reference : SecretReference) : Option SecretSource :=
  i.sources.find? fun s => s.reference = reference

/-- Add a vCenter whose source is there. -/
def add (i : Installation) (v : ResolvedVirtualCenter) : Installation :=
  { i with
    manager := i.manager.insert v.options (v.secretReference.bind i.source?)
    memory := i.memory.start i.manager.opened v.credentials }

/-- The next source. -/
def nextSource (i : Installation) (reference : SecretReference) (store : Nat) : SecretSource :=
  ⟨i.sources.length, reference, store⟩

section

variable {m : Type → Type} [Monad m] (storeFor : SecretReference → m Nat)

/-- Make sure that there is a source for a Secret. -/
def need (i : Installation) (reference : SecretReference) : m Installation :=
  match i.source? reference with
  | some _ => pure i
  | none => do
      let store ← storeFor reference
      return { i with sources := i.sources ++ [i.nextSource reference store] }

/-- Add a vCenter with its source. -/
def install (i : Installation) (v : ResolvedVirtualCenter) : m Installation :=
  match v.secretReference with
  | none => return i.add v
  | some reference => return (← i.need storeFor reference).add v

/-- The installation of resolved vCenters. -/
def ofResolved (vs : List ResolvedVirtualCenter) : m Installation :=
  vs.foldlM (install storeFor) {}

/-- The installation of a configuration.  Nobody is asked for a store if the
configuration cannot be resolved. -/
def ofConfigWith (readFile : FileReader) (config : CloudConfig) :
    m (Except ConfigError Installation) :=
  match config.resolve readFile with
  | .error e => return .error e
  | .ok vs => return .ok (← ofResolved storeFor vs)

end

/-- Open the next store. -/
def openStore (_ : SecretReference) : StateM Nat Nat := modifyGet fun opened => (opened, opened + 1)

/-- The installation of a configuration with a store for each of its Secrets. -/
def ofConfig (readFile : FileReader) (config : CloudConfig) : Except ConfigError Installation :=
  ((ofConfigWith openStore readFile config).run 0).1

/-- The Secrets for which there is a source, in the order of first need. -/
def requested (i : Installation) : List SecretReference := i.sources.map SecretSource.reference

end Installation

end VcenterAccess
