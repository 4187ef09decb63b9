import VcenterAccess.Machine.Task
import VcenterAccess.Secret.Store
import VcenterAccess.Simulator.Vcenter

/-!
# A simulated outside

The simulated outside has one vCenter, stores of Secrets and a network.  It answers
at once, but for logins with a password that wait for a permit.

What an experimenter arranges is an intervention.
-/

namespace VcenterAccess

/-- A simulated vCenter, stores of Secrets and a network. -/
structure World where
  /-- The vCenter. -/
  vcenter : Vcenter := {}
  /-- The stores by number. -/
  stores : List SecretStore := []
  /-- What answers requests to session managers. -/
  network : Network := .unreachable

namespace World

/-- Let the vCenter deal with a call. -/
def withVcenter {α : Type} (w : World) (f : Vcenter → α × Vcenter) : Option α × World :=
  let (answer, vcenter) := f w.vcenter
  (some answer, { w with vcenter })

/-- Answer a question of a task. -/
def ask (task : Nat) (question : Question) (w : World) : Option question.Answer × World :=
  match question with
  | .login client username password =>
      let (answer, vcenter) :=
        (w.vcenter.record (.login client username password)).beginLogin task client username password
      (answer, { w with vcenter })
  | .newClient url trustAnchor agent =>
      w.withVcenter fun v =>
        (v.record (.newClient url trustAnchor agent)).unlessFaulty .newClient Vcenter.handOutClient
  | .issueToken client keyPair =>
      w.withVcenter fun v =>
        (v.record (.issueToken client keyPair)).unlessFaulty .issueToken
          (Vcenter.issueSigner keyPair.subject)
  | .loginByToken client signer =>
      w.withVcenter fun v =>
        (v.record (.loginByToken client signer)).unlessFaulty .loginByToken fun v =>
          (.ok (), v.openSession client signer.subject)
  | .cloneSession client token =>
      w.withVcenter fun v =>
        (v.record (.cloneSession client token)).unlessFaulty .cloneSession
          (Vcenter.takeOver client token)
  | .userSession client =>
      w.withVcenter fun v =>
        (v.record (.userSession client)).unlessFaulty .userSession fun v =>
          (.ok ((v.session client.number).map UserSession.mk), v)
  | .logout client =>
      w.withVcenter fun v =>
        (v.record (.logout client)).unlessFaulty .logout (Vcenter.endSession client)
  | .withRetry client budget =>
      w.withVcenter fun v =>
        ({ client with retries := some budget }, v.record (.withRetry client budget))
  | .sharedToken .local options =>
      w.withVcenter fun v => (v.record (.sharedToken .local options)).nextToken options.url
  | .sharedToken .sessionManager options => (some (options.requestOver w.network), w)
  | .listedSecret store reference =>
      (some ((w.stores[store]?).bind fun s => s.get? reference), w)

/-- Look for the answer to a question.  Only logins with a password wait for one. -/
def collect (task : Nat) (question : Question) (w : World) : Option question.Answer × World :=
  match question with
  | .login client username password =>
      let (answer, vcenter) := w.vcenter.continueLogin task client username password
      (answer, { w with vcenter })
  | _ => (none, w)

/-- Give up a question. -/
def cancel (task : Nat) (w : World) : List Nat × World :=
  let (woken, vcenter) := w.vcenter.cancelLogin task
  (woken, { w with vcenter })

/-- The simulated outside. -/
def outside : Outside World := ⟨ask, collect, cancel⟩

/-- Let a store observe an event. -/
def observe (w : World) (store : Nat) (event : SecretEvent) : World :=
  { w with stores := w.stores.modify store fun s => s.observe event }

/-- Open another store. -/
def openStore (w : World) : World := { w with stores := w.stores ++ [{}] }

end World

/-- What an experimenter can arrange. -/
inductive Intervention where
  /-- A user is accepted from now on. -/
  | acceptUser (user password : String)
  /-- A user is not accepted any longer. -/
  | rejectUser (user : String)
  /-- A certificate subject is accepted from now on. -/
  | acceptSubject (subject : String)
  /-- A token is accepted from now on. -/
  | acceptToken (token : String)
  /-- A token is not accepted any longer. -/
  | revokeToken (token : String)
  /-- All sessions end. -/
  | expire
  /-- The outcomes of the next calls of a kind. -/
  | schedule (kind : CallKind) (outcomes : List (Option Fault))
  /-- The next replies of the source of shared tokens. -/
  | replyTokens (replies : List TokenReply)
  /-- The gate is on or off. -/
  | setGate (on : Bool)
  /-- Permits for logins. -/
  | release (permits : Nat)
  /-- Something happens to the Secrets of a store. -/
  | observe (store : Nat) (event : SecretEvent)
deriving DecidableEq

/-- Make the changes of an intervention; the answer says which tasks can go on. -/
def World.intervene (w : World) : Intervention → List Nat × World
  | .acceptUser user password => ([], { w with vcenter := w.vcenter.acceptUser user password })
  | .rejectUser user => ([], { w with vcenter := w.vcenter.rejectUser user })
  | .acceptSubject subject => ([], { w with vcenter := w.vcenter.acceptSubject subject })
  | .acceptToken token => ([], { w with vcenter := w.vcenter.acceptToken token })
  | .revokeToken token => ([], { w with vcenter := w.vcenter.revokeToken token })
  | .expire => ([], { w with vcenter := w.vcenter.expire })
  | .schedule kind outcomes => ([], { w with vcenter := w.vcenter.schedule kind outcomes })
  | .replyTokens replies => ([], { w with vcenter := w.vcenter.replyTokens replies })
  | .setGate on => ([], { w with vcenter := w.vcenter.setGate on })
  | .release permits =>
      let (woken, vcenter) := w.vcenter.release permits
      (woken, { w with vcenter })
  | .observe store event => ([], w.observe store event)

end VcenterAccess
