import VcenterAccess.Proofs.Connection.Readiness
import VcenterAccess.Proofs.KeyPair.Armour
import VcenterAccess.Proofs.KeyPair.Loading

/-!
# A login by certificate has a chain to load

Whether a user name is a certificate is told from its PEM frame, and the frame is still there
when the chain is loaded.  So the loader always has something to read: it finds a certificate,
or the chain cannot be read.

What the loader would make of less does not matter to a connect.  With any loader that agrees
with it where there are two bytes to read, a connect is the same program
(`Connection.logIn_load`, `Connection.connect_load`).
-/

namespace VcenterAccess

open Text

/-! ## What is loaded -/

namespace KeyPair

/-- What is given to the loader of a chain. -/
def chainInput (certificates : String) : List UInt8 := Utf8.encode (trim certificates.toList)

theorem two_le_length_of_isPem {certificates : String} (h : isPem certificates = true) :
    2 ≤ (Certificate.withoutLineEnds (chainInput certificates)).length := by
  obtain ⟨e, he⟩ := Option.isSome_iff_exists.mp h
  exact Certificate.two_le_length_of_framed (Pem.framed_of_parse? he)

theorem chain?_ne_nil_of_isPem {certificates : String} (h : isPem certificates = true) :
    chain? certificates ≠ some [] :=
  Certificate.readChain?_ne_nil (two_le_length_of_isPem h)

theorem ofPem_ne_noCertificate {certificates : String} (h : isPem certificates = true)
    (privateKey : String) : ofPem certificates privateKey ≠ .error .noCertificate := by
  intro hload
  have hverdict := verdict_ofPem certificates privateKey
  rw [hload] at hverdict
  cases hverdict with
  | noCertificate hchain => exact chain?_ne_nil_of_isPem h hchain

variable {load : Certificate.ChainLoader}

theorem ofPem_load {certificates : String}
    (hload : load (chainInput certificates) = Certificate.loadChain? (chainInput certificates))
    (privateKey : String) : ofPem certificates privateKey load = ofPem certificates privateKey := by
  unfold ofPem
  rw [← chainInput, hload]

end KeyPair

/-! ## Connecting with another loader -/

namespace Connection

open Program

variable {load : Certificate.ChainLoader} {c : Connection}

/-- Where a certificate is selected, the loader has two bytes to read. -/
theorem logIn_load (hload : ∀ bytes, 2 ≤ (Certificate.withoutLineEnds bytes).length →
    load bytes = Certificate.loadChain? bytes) (client : Client) (s : LoginState) :
    c.logIn client s load = c.logIn client s := by
  unfold logIn
  cases hselect : LoginStrategy.select s.credentials with
  | sharedSession url token => rfl
  | password username password => rfl
  | certificate certificate privateKey =>
      obtain ⟨-, hpem, rfl, rfl⟩ := LoginStrategy.select_eq_certificate_iff.mp hselect
      have hsame := KeyPair.ofPem_load (hload _ (KeyPair.two_le_length_of_isPem hpem))
      simp only [loginByCertificate, hsame]

/-- A connect loads a chain only to log a client in. -/
theorem connect_load (hlogIn : ∀ client s, c.logIn client s load = c.logIn client s) :
    c.connect load = c.connect := by
  have hcreate : ∀ url, c.createAndLogIn url load = c.createAndLogIn url := by
    intro url
    simp only [createAndLogIn, hlogIn]
  have hnew : c.newClient load = c.newClient := by simp only [newClient, hcreate]
  have hrenew : c.renew load = c.renew := by simp only [renew, hnew]
  simp only [connect, ensureSession, hrenew]

/-! ## What connecting fails with -/

/-- Every failure is of some kind. -/
def FailsOnlyWith (P : ConnectionError → Prop) {α : Type} (_ : List Step)
    (outcome : Except ConnectionError α) : Prop :=
  ∀ e, outcome = .error e → P e

theorem failsOnlyWith_ok {P : ConnectionError → Prop} {α : Type} {h : List Step} {a : α} :
    FailsOnlyWith P h (.ok a) :=
  nofun

theorem failsOnlyWith_error {P : ConnectionError → Prop} {α : Type} {h : List Step}
    {e : ConnectionError} (he : P e) : FailsOnlyWith P (α := α) h (.error e) := by
  rintro _ ⟨⟩
  exact he

section

variable {P : ConnectionError → Prop}

theorem failsOnlyWith_newClient {h : List Step} (hparse : ∀ host cause, P (.parseUrl host cause))
    (hcreate : ∀ url cause, P (.createClient url cause))
    (hlogIn : ∀ client s h, (c.logIn client s).Obeys .anything (FailsOnlyWith P) h) :
    c.newClient.Obeys .anything (FailsOnlyWith P) h := by
  unfold newClient
  split
  · exact failsOnlyWith_error (hparse _ _)
  · refine .locked (I := FailsOnlyWith P) trivial ?_ fun _ _ hfails => ⟨trivial, hfails⟩
    refine .operate trivial fun s => .operate trivial fun answer => ?_
    cases answer with
    | error cause => exact failsOnlyWith_error (hcreate _ _)
    | ok client =>
        refine .bind (hlogIn client s _) fun h' outcome hfails => ?_
        cases outcome with
        | error e => exact failsOnlyWith_error (hfails e rfl)
        | ok _ => exact .operate trivial fun _ => failsOnlyWith_ok

theorem failsOnlyWith_renew {h : List Step}
    (hnew : ∀ h, c.newClient.Obeys .anything (FailsOnlyWith P) h) :
    c.renew.Obeys .anything (FailsOnlyWith P) h := by
  refine .bind (hnew h) fun h' outcome hfails => ?_
  cases outcome with
  | error e => exact failsOnlyWith_error (hfails e rfl)
  | ok client => exact .operate trivial fun _ => failsOnlyWith_ok

/-- A connect fails for want of a URL or a client, or with what its login fails with. -/
theorem failsOnlyWith_connect {h : List Step} (hparse : ∀ host cause, P (.parseUrl host cause))
    (hcreate : ∀ url cause, P (.createClient url cause))
    (hlogIn : ∀ client s h, (c.logIn client s).Obeys .anything (FailsOnlyWith P) h) :
    c.connect.Obeys .anything (FailsOnlyWith P) h := by
  have hrenew : ∀ h, c.renew.Obeys .anything (FailsOnlyWith P) h := fun h =>
    failsOnlyWith_renew fun h => failsOnlyWith_newClient hparse hcreate hlogIn
  refine .locked (I := FailsOnlyWith P) trivial ?_ fun _ _ hfails => ⟨trivial, hfails⟩
  refine .operate trivial fun client => ?_
  cases client with
  | none => exact hrenew _
  | some client =>
      refine .operate trivial fun answer => ?_
      match answer with
      | .ok (some session) => exact failsOnlyWith_ok
      | .ok none => exact .operate trivial fun _ => hrenew _
      | .error cause => exact .operate trivial fun _ => hrenew _

end

/-- The failure is another one than that a chain has no certificate. -/
def FindsCertificate (e : ConnectionError) : Prop := e ≠ .loadKeyPair .noCertificate

variable {client : Client} {h : List Step}

theorem findsCertificate_loginByCertificate {certificate privateKey : String}
    (hpem : isPem certificate = true) :
    (loginByCertificate client certificate privateKey).Obeys .anything
      (FailsOnlyWith FindsCertificate) h := by
  unfold loginByCertificate
  split
  · next cause hcause =>
    refine failsOnlyWith_error fun heq => ?_
    cases heq
    exact KeyPair.ofPem_ne_noCertificate hpem privateKey hcause
  · refine .operate trivial fun answer => ?_
    cases answer with
    | error cause => exact failsOnlyWith_error nofun
    | ok signer =>
        refine .operate trivial fun answer => ?_
        cases answer with
        | error cause => exact failsOnlyWith_error nofun
        | ok _ => exact failsOnlyWith_ok

theorem findsCertificate_cloneFresh {s : LoginState} {url token : String} :
    (c.cloneFresh client s url token).Obeys .anything (FailsOnlyWith FindsCertificate) h := by
  refine .operate trivial fun answer => ?_
  cases answer with
  | error cause => exact failsOnlyWith_error nofun
  | ok fresh =>
      refine .operate trivial fun answer => ?_
      cases answer with
      | error cause => exact failsOnlyWith_error nofun
      | ok _ => exact .operate trivial fun _ => failsOnlyWith_ok

theorem findsCertificate_loginByPassword {username password : String} :
    (loginByPassword client username password).Obeys .anything
      (FailsOnlyWith FindsCertificate) h := by
  refine .operate trivial fun answer => ?_
  cases answer with
  | error cause => exact failsOnlyWith_error nofun
  | ok _ => exact failsOnlyWith_ok

theorem findsCertificate_logIn (client : Client) (s : LoginState) (h : List Step) :
    (c.logIn client s).Obeys .anything (FailsOnlyWith FindsCertificate) h := by
  unfold logIn
  split
  · refine .bind (Program.obeys_anything _ _) fun _ accepted _ => ?_
    cases accepted with
    | true => exact failsOnlyWith_ok
    | false => exact findsCertificate_cloneFresh
  · next hselect =>
    obtain ⟨-, hpem, rfl, -⟩ := LoginStrategy.select_eq_certificate_iff.mp hselect
    exact findsCertificate_loginByCertificate hpem
  · exact findsCertificate_loginByPassword

/-- Whatever is answered, a connect finds a certificate where it loads a chain. -/
theorem findsCertificate_of_path {e : ConnectionError}
    (hpath : Path c.connect h (.done (.error e))) :
    FindsCertificate e :=
  (failsOnlyWith_connect (h := []) (fun _ _ => nofun) (fun _ _ => nofun)
    findsCertificate_logIn).result hpath e rfl

/-- Where a login selects a certificate, there are two bytes for the loader to read, also
without the line ends that it cuts.  So the chain cannot be read or has a certificate; what
the loader would do with less never matters to a connect; and no connect fails for want of a
certificate, whatever it is answered and however calls interleave. -/
theorem certificate_has_chain :
    (∀ x certificate privateKey,
      LoginStrategy.select x = .certificate certificate privateKey →
      2 ≤ (KeyPair.chainInput certificate).length ∧
      2 ≤ (Certificate.withoutLineEnds (KeyPair.chainInput certificate)).length ∧
      (KeyPair.ofPem certificate privateKey = .error .unreadableChain ∨
        ∃ first later, KeyPair.chain? certificate = some (first :: later))) ∧
    (∀ load : Certificate.ChainLoader,
      (∀ bytes, 2 ≤ (Certificate.withoutLineEnds bytes).length →
        load bytes = Certificate.loadChain? bytes) →
      ∀ c : Connection, c.connect load = c.connect) ∧
    (∀ (c : Connection) (h : List Step) (e : ConnectionError),
      Path c.connect h (.done (.error e)) → e ≠ .loadKeyPair .noCertificate) ∧
    ∀ (ω : Type) (f : Fleet) (o : Outside ω) (memory : Memory) (outside : ω)
      (actions : List (Fleet.Action ω)) (k : Nat),
      (k, .connected (.error (.loadKeyPair .noCertificate))) ∉
        (f.run o memory outside actions).results := by
  refine ⟨fun x certificate privateKey hselect => ?_, fun load hload c => ?_,
    fun c h e => findsCertificate_of_path, fun ω f o memory outside actions k hr => ?_⟩
  · obtain ⟨-, hpem, rfl, -⟩ := LoginStrategy.select_eq_certificate_iff.mp hselect
    have hlength := KeyPair.two_le_length_of_isPem hpem
    refine ⟨Nat.le_trans hlength (Certificate.withoutLineEnds_length_le _), hlength, ?_⟩
    match hchain : KeyPair.chain? x.username with
    | none => exact .inl (KeyPair.Verdict.unreadableChain hchain).ofPem_eq
    | some [] => exact absurd hchain (KeyPair.chain?_ne_nil_of_isPem hpem)
    | some (first :: later) => exact .inr ⟨first, later, rfl⟩
  · exact connect_load (logIn_load hload)
  · obtain ⟨p, hprogram, hpath⟩ := (f.account o memory outside List.prefix_rfl).result _ hr
    rw [List.getElem?_map] at hprogram
    obtain ⟨call, -, rfl⟩ := Option.map_eq_some_iff.mp hprogram
    cases call with
    | connect n =>
        obtain ⟨outcome, g, g', hconnect, hdone, -⟩ := Path.of_bind hpath
        cases hdone.of_done.2
        exact findsCertificate_of_path hconnect rfl
    | logOut n =>
        obtain ⟨_, g, g', -, hdone, -⟩ := Path.of_bind hpath
        cases hdone.of_done.2
    | update n credentials =>
        obtain ⟨_, g, g', -, hdone, -⟩ := Path.of_bind hpath
        cases hdone.of_done.2

/-- Boundary lines without a label and nothing between them. -/
def emptyArmour : String := " -----BEGIN -----\n\n-----END -----\n"

/-- They select a certificate, and no chain can be read from them. -/
theorem certificate_has_chain_emptyArmour :
    LoginStrategy.select { username := emptyArmour } = .certificate emptyArmour "" ∧
      (KeyPair.chainInput emptyArmour).length = 32 ∧
      KeyPair.ofPem emptyArmour "" = .error .unreadableChain := by
  have hselect : LoginStrategy.select { username := emptyArmour } = .certificate emptyArmour "" := by
    decide +kernel
  have hchain : KeyPair.chain? emptyArmour = none := by decide +kernel
  obtain ⟨-, -, hload | ⟨first, later, hsome⟩⟩ := certificate_has_chain.1 _ _ _ hselect
  · exact ⟨hselect, by decide +kernel, hload⟩
  · cases hchain.symm.trans hsome

end Connection

end VcenterAccess
