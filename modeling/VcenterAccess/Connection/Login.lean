import VcenterAccess.Connection.Endpoint
import VcenterAccess.Connection.Error
import VcenterAccess.Program
import VcenterAccess.Session.Strategy

/-!
# Logging in

A new client is created and logged in with the credentials of its connection,
which nobody can change meanwhile.  The credentials alone say how; whatever is
sent comes from the one value that was read after the lock was taken.

A shared token whose session could be taken over is kept for the next time.  When
the vCenter turns it down, the session manager is asked for another one.

A login by certificate may be given another way to load a chain of certificates.
-/

namespace VcenterAccess.Connection

open Program

/-- Take over the session of a kept token; the answer says whether that worked. -/
def cloneKept (client : Client) : Option String → Program Bool
  | none => return false
  | some token => do
      match ← ask (.cloneSession client token) with
      | .ok _ => return true
      | .error _ => return false

/-- Take over the session of a fresh token, and keep the token. -/
def cloneFresh (c : Connection) (client : Client) (s : LoginState) (url token : String) :
    Program (Except ConnectionError Unit) := do
  match ← ask (.sharedToken c.tokenSource { url, token }) with
  | .error cause => return .error (.getSharedToken url cause)
  | .ok fresh =>
      match ← ask (.cloneSession client fresh) with
      | .error cause => return .error (.cloneSession cause)
      | .ok _ =>
          operate (.setLogin c.number { s with sharedToken := some fresh })
          return .ok ()

/-- Log a client in with a certificate. -/
def loginByCertificate (client : Client) (certificate privateKey : String)
    (load : Certificate.ChainLoader := Certificate.loadChain?) :
    Program (Except ConnectionError Unit) := do
  match KeyPair.ofPem certificate privateKey load with
  | .error cause => return .error (.loadKeyPair cause)
  | .ok keyPair =>
      match ← ask (.issueToken client keyPair) with
      | .error cause => return .error (.issueToken cause)
      | .ok signer =>
          match ← ask (.loginByToken client signer) with
          | .error cause => return .error (.loginByToken cause)
          | .ok _ => return .ok ()

/-- Log a client in with user and password. -/
def loginByPassword (client : Client) (username password : String) :
    Program (Except ConnectionError Unit) := do
  match ← ask (.login client username password) with
  | .error cause => return .error (.login username cause)
  | .ok _ => return .ok ()

/-- Log a client in with what was read of the connection. -/
def logIn (c : Connection) (client : Client) (s : LoginState)
    (load : Certificate.ChainLoader := Certificate.loadChain?) :
    Program (Except ConnectionError Unit) :=
  match LoginStrategy.select s.credentials with
  | .sharedSession url token => do
      if ← cloneKept client s.sharedToken then return .ok ()
      c.cloneFresh client s url token
  | .certificate certificate privateKey => loginByCertificate client certificate privateKey load
  | .password username password => loginByPassword client username password

/-- Create a client for a URL, log it in and let it send requests again. -/
def createAndLogIn (c : Connection) (url : Url)
    (load : Certificate.ChainLoader := Certificate.loadChain?) :
    Program (Except ConnectionError Client) := do
  let s ← operate (.getLogin c.number)
  match ← ask (.newClient url c.options.trustAnchor userAgent) with
  | .error cause => return .error (.createClient url cause)
  | .ok client =>
      match ← c.logIn client s load with
      | .error e => return .error e
      | .ok _ => return .ok (← ask (.withRetry client c.retryBudget))

/-- A new client that is logged in. -/
def newClient (c : Connection) (load : Certificate.ChainLoader := Certificate.loadChain?) :
    Program (Except ConnectionError Client) :=
  match c.options.sdkUrl with
  | .error cause => return .error (.parseUrl c.options.hostPort cause)
  | .ok url => locked (.credentials c.number) (c.createAndLogIn url load)

end VcenterAccess.Connection
