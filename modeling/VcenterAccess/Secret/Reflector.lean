import VcenterAccess.Secret.Store

/-!
# Following a Secret

A reflector keeps a store up to date with one Secret of the cluster.  It first
lists the Secret, page by page, and then watches it from the revision of the
list on.  When a watch ends it is resumed from the last revision seen; when the
revision is lost the reflector starts over with a list.

The reflector is a machine that always waits for the answer to one request
(`Reflector.request`).  `Reflector.receive` takes that answer, updates the store
and says what the reflector reports: each Secret listed, added or modified, and
each failure.  Deletions change the store and are not reported.
-/

namespace VcenterAccess

/-- A request to the API server of the cluster. -/
structure ClusterRequest where
  path : String
  /-- The parameters, by name. -/
  parameters : List (String × String)
deriving DecidableEq, Repr

/-- An event of a running watch. -/
inductive WatchEvent where
  /-- The Secret was added or modified. -/
  | applied (s : Secret)
  /-- The Secret was deleted. -/
  | deleted (s : Secret)
  /-- The watch has reached a revision. -/
  | bookmark (revision : String)
  /-- The server reports an error with a status code. -/
  | error (code : Nat)
deriving DecidableEq

/-- An answer of the API server. -/
inductive ClusterAnswer where
  /-- A page of a list, with its revision and the token of the next page. -/
  | page (items : List Secret) (revision next : Option String)
  /-- The events of a watch, which then ends. -/
  | events (events : List WatchEvent)
  /-- The request fails. -/
  | failed
deriving DecidableEq

/-- What can go wrong while a Secret is followed. -/
inductive WatchFailure where
  | listFailed
  /-- The watch could not be started. -/
  | watchFailed
  /-- The running watch reported an error. -/
  | watchError
  /-- The server did not name a revision. -/
  | noRevision
deriving DecidableEq, Repr

/-- What a reflector waits for. -/
inductive WatchPhase where
  /-- A page of the list, the first one without a token. -/
  | listing (token : Option String)
  /-- The events since a revision. -/
  | watching (revision : String)
deriving DecidableEq, Repr

/-- A store that follows one Secret. -/
structure Reflector where
  /-- The Secret that is followed. -/
  reference : SecretReference
  /-- What is known of it. -/
  store : SecretStore := {}
  /-- What the reflector waits for. -/
  phase : WatchPhase := .listing none
deriving DecidableEq

/-- What a reflector reports. -/
abbrev WatchReport := Except WatchFailure Secret

namespace Reflector

/-- The most Secrets on a page. -/
def pageSize : Nat := 500

/-- How long a watch lasts, in seconds. -/
def watchSeconds : Nat := 290

/-- The request the reflector waits for. -/
def request (r : Reflector) : ClusterRequest :=
  let selector := ("fieldSelector", "metadata.name=" ++ r.reference.name)
  ⟨"/api/v1/namespaces/" ++ r.reference.ns ++ "/secrets",
    match r.phase with
    | .listing token =>
        (token.toList.map fun t => ("continue", t)) ++ [selector, ("limit", toString pageSize)]
    | .watching revision =>
        [("allowWatchBookmarks", "true"), selector, ("resourceVersion", revision),
          ("timeoutSeconds", toString watchSeconds), ("watch", "true")]⟩

/-- Start over with a list. -/
def restart (r : Reflector) : Reflector :=
  { r with phase := .listing none }

/-- A revision or a token that is there and not empty. -/
def present? (s : Option String) : Option String := s.filter fun t => !t.isEmpty

/-- Take a page of the list.  A page that names neither a revision nor a next
page is dropped. -/
def receivePage (r : Reflector) (items : List Secret) (revision next : Option String) :
    Reflector × List WatchReport :=
  match present? next, present? revision with
  | none, none => (r.restart, [.error .noRevision])
  | some token, _ =>
      let store := items.foldl (fun s i => s.observe (.listed i)) r.store
      ({ r with store, phase := .listing (some token) }, items.map .ok)
  | none, some revision =>
      let store := items.foldl (fun s i => s.observe (.listed i)) r.store
      ({ r with store := store.observe .listCompleted, phase := .watching revision },
        items.map .ok)

/-- Take the events of a watch that runs since `revision`. -/
def receiveEvents (r : Reflector) (revision : String) :
    List WatchEvent → Reflector × List WatchReport
  | [] => ({ r with phase := .watching revision }, [])
  | .applied s :: rest =>
      match present? s.revision with
      | none => (r.restart, [.error .noRevision])
      | some revision =>
          let (r', reports) := receiveEvents { r with store := r.store.observe (.applied s) }
            revision rest
          (r', .ok s :: reports)
  | .deleted s :: rest =>
      match present? s.revision with
      | none => (r.restart, [.error .noRevision])
      | some revision =>
          receiveEvents { r with store := r.store.observe (.deleted s) } revision rest
  | .bookmark revision :: rest => receiveEvents r revision rest
  | .error code :: rest =>
      if code = 410 then (r.restart, [.error .watchError])
      else
        let (r', reports) := receiveEvents r revision rest
        (r', .error .watchError :: reports)

/-- Take the answer to the request the reflector waits for.  The first page of a
list empties the buffer of the store. -/
def receive (r : Reflector) (answer : ClusterAnswer) : Reflector × List WatchReport :=
  match r.phase, answer with
  | .listing token, .page items revision next =>
      let store := if token.isNone then r.store.observe .listStarted else r.store
      receivePage { r with store } items revision next
  | .listing _, _ => (r.restart, [.error .listFailed])
  | .watching revision, .events events => r.receiveEvents revision events
  | .watching _, _ => (r, [.error .watchFailed])

/-- What a followed Secret came to: the requests made, the reports, the reflector. -/
structure Trace where
  /-- The requests, in order. -/
  requests : List ClusterRequest
  /-- The reports, in order. -/
  reports : List WatchReport
  /-- The reflector at the end. -/
  reflector : Reflector

/-- A trace with one more exchange in front. -/
def Trace.after (t : Trace) (request : ClusterRequest) (reports : List WatchReport) : Trace :=
  { t with requests := request :: t.requests, reports := reports ++ t.reports }

/-- Run a reflector against a server that answers list requests with `lists` and
watch requests with `watches`, each in turn, until it has no answer left. -/
def run (r : Reflector) (lists watches : List ClusterAnswer) : Trace :=
  match r.phase with
  | .listing _ =>
      match lists with
      | [] => ⟨[r.request], [], r⟩
      | answer :: lists' =>
          (run (r.receive answer).1 lists' watches).after r.request (r.receive answer).2
  | .watching _ =>
      match watches with
      | [] => ⟨[r.request], [], r⟩
      | answer :: watches' =>
          (run (r.receive answer).1 lists watches').after r.request (r.receive answer).2
termination_by lists.length + watches.length

end Reflector

end VcenterAccess
