import OpaqueVx.Network.Unregistered

/-! # Servers with remote keys

  A server whose private key and OPRF seed are in a device: the setup holds handles for
  them, and the device turns handles into key material and into the input of a builder.
  The server answers while it waits for the device, or it makes builders first and builds
  any of them later, as often as it likes and in any order. The device may fail whenever
  it wants to. Whatever it does not fail at it does as a server would that has the key and
  the seed at hand, and so every run of the server with the device is a run of that other
  server. -/

namespace OpaqueVx

open Lib

variable {CS : CipherSuite} {KE : KeyExchange CS} {SK SK' OS OS' : Type}

/-! ### The device -/

/-- What a server asks a device for. -/
structure Device (KE : KeyExchange CS) (SK OS : Type) where
  /-- The HKDF of `KeyMaterialInfo`, with the seed of a handle. -/
  keyMaterial : KeyMaterialInfo OS → Outcome Error (GenericArray CS.OprfCs.ScalarLen)
  /-- The input of a builder: handle, public key of the server and `data()`. -/
  ke2Input : SK → PublicKey CS.KeGroup → KE.KE2BuilderData → RngM Error KE.KE2BuilderInput

namespace ServerLoginBuilder

/-- `ServerLoginBuilder::data`. -/
def data (self : ServerLoginBuilder CS KE SK) : KE.KE2BuilderData :=
  KE.ke2BuilderData self.ke2Builder

/-- `ServerLoginBuilder::private_key`. -/
def privateKey (self : ServerLoginBuilder CS KE SK) : SK := self.serverSSk

/-- `ServerLoginBuilder::build`. -/
def build (self : ServerLoginBuilder CS KE SK) (input : KE.KE2BuilderInput) :
    Outcome Error (ServerLoginStartResult CS KE) :=
  ServerLogin.build self input

/-- The builder with another private key. -/
def withKey (self : ServerLoginBuilder CS KE SK) (serverSSk : SK') : ServerLoginBuilder CS KE SK' :=
  { serverSSk
    evaluationElement := self.evaluationElement
    maskingNonce := self.maskingNonce
    maskedResponse := self.maskedResponse
    ke2Builder := self.ke2Builder }

end ServerLoginBuilder

namespace Device

variable (D : Device KE SK OS) (setup : ServerSetup CS SK OS)

/-- The server's step of a registration. -/
def registrationStart (message : RegistrationRequest CS) (credentialIdentifier : Bytes) :
    Outcome Error (ServerRegistrationStartResult CS) := do
  let keyMaterial ← D.keyMaterial (setup.keyMaterialInfo credentialIdentifier)
  ServerRegistration.startWithKeyMaterial setup keyMaterial message

/-- The server's first step of a login, up to the builder. -/
def loginBuilder (passwordFile : Option (ServerRegistration CS))
    (credentialRequest : CredentialRequest CS KE) (credentialIdentifier : Bytes)
    (params : ServerLoginParameters) : RngM Error (ServerLoginBuilder CS KE SK) := do
  let keyMaterial ← D.keyMaterial (setup.keyMaterialInfo credentialIdentifier)
  ServerLogin.builderWithKeyMaterial setup keyMaterial passwordFile credentialRequest params

/-- The rest of the step. -/
def loginBuild (builder : ServerLoginBuilder CS KE SK) :
    RngM Error (ServerLoginStartResult CS KE) := do
  let input ← D.ke2Input builder.privateKey setup.keypair.pk builder.data
  builder.build input

/-- Both in one. -/
def loginStart (passwordFile : Option (ServerRegistration CS))
    (credentialRequest : CredentialRequest CS KE) (credentialIdentifier : Bytes)
    (params : ServerLoginParameters) : RngM Error (ServerLoginStartResult CS KE) := do
  let builder ← D.loginBuilder setup passwordFile credentialRequest credentialIdentifier params
  D.loginBuild setup builder

/-- What the device does not fail at it does with the key and the seed of a server that
    has them at hand. -/
structure Serves (L : LocalSetup CS) : Prop where
  serverSPk : setup.keypair.pk = L.keypair.pk
  dummyPk : setup.dummyPk = L.dummyPk
  keyMaterial : ∀ credentialIdentifier keyMaterial,
    D.keyMaterial (setup.keyMaterialInfo credentialIdentifier) = .ok keyMaterial →
      let info := L.keyMaterialInfo credentialIdentifier
      fromInternal (oprfKeyMaterial info.ikm info.info) = .ok keyMaterial
  ke2Input : ∀ (builder : KE.KE2Builder) r input r',
    (D.ke2Input setup.keypair.sk setup.keypair.pk (KE.ke2BuilderData builder)).run r =
      .ok (input, r') →
    (KE.generateKe2Input builder L.keypair.sk).run r = .ok (input, r')

/-- The device also fails only where that server does, and in the same way. -/
structure Answers (L : LocalSetup CS) : Prop where
  serverSPk : setup.keypair.pk = L.keypair.pk
  dummyPk : setup.dummyPk = L.dummyPk
  keyMaterial : ∀ credentialIdentifier,
    let info := L.keyMaterialInfo credentialIdentifier
    D.keyMaterial (setup.keyMaterialInfo credentialIdentifier) =
      fromInternal (oprfKeyMaterial info.ikm info.info)
  ke2Input : ∀ builder : KE.KE2Builder,
    D.ke2Input setup.keypair.sk setup.keypair.pk (KE.ke2BuilderData builder) =
      KE.generateKe2Input builder L.keypair.sk

end Device

/-! ### One step with the device -/

section steps

variable {D : Device KE SK OS} {setup : ServerSetup CS SK OS} {L : LocalSetup CS}

/-- Setups with the same public keys make the same builders, each with its own private
    key. -/
theorem builderWithKeyMaterial_withKey {setup' : ServerSetup CS SK' OS'}
    (hpk : setup.keypair.pk = setup'.keypair.pk) (hdummy : setup.dummyPk = setup'.dummyPk)
    (keyMaterial : GenericArray CS.OprfCs.ScalarLen)
    (passwordFile : Option (ServerRegistration CS)) (request : CredentialRequest CS KE)
    (params : ServerLoginParameters) :
    ServerLogin.builderWithKeyMaterial setup keyMaterial passwordFile request params =
      (·.withKey setup.keypair.sk) <$>
        ServerLogin.builderWithKeyMaterial setup' keyMaterial passwordFile request params := by
  simp only [ServerLogin.builderWithKeyMaterial, ServerRegistration.dummy,
    RegistrationUpload.dummy, map_bind, map_pure, bind_assoc, pure_bind, hpk, hdummy]
  rfl

/-- A registration that the device does not fail at. -/
theorem Device.Serves.registrationStart (h : D.Serves setup L) {message : RegistrationRequest CS}
    {credentialIdentifier : Bytes} {result : ServerRegistrationStartResult CS}
    (hstart : D.registrationStart setup message credentialIdentifier = .ok result) :
    ServerRegistration.start L message credentialIdentifier = .ok result := by
  obtain ⟨keyMaterial, hmaterial, hstart⟩ := Outcome.bind_eq_ok.mp hstart
  apply Outcome.bind_eq_ok.mpr
  refine ⟨keyMaterial, h.keyMaterial _ _ hmaterial, ?_⟩
  unfold ServerRegistration.startWithKeyMaterial at hstart ⊢
  rw [h.serverSPk] at hstart
  exact hstart

/-- A builder of the server with the device is one of the other server, with the handle in
    place of the key. -/
theorem Device.Serves.loginBuilder (h : D.Serves setup L)
    {passwordFile : Option (ServerRegistration CS)} {request : CredentialRequest CS KE}
    {credentialIdentifier : Bytes} {params : ServerLoginParameters} {r r' : Rng}
    {builder : ServerLoginBuilder CS KE SK}
    (hbuilder : (D.loginBuilder setup passwordFile request credentialIdentifier params).run r =
      .ok (builder, r')) :
    builder.serverSSk = setup.keypair.sk ∧
      (ServerLogin.builder L passwordFile request credentialIdentifier params).run r =
        .ok (builder.withKey L.keypair.sk, r') := by
  obtain ⟨keyMaterial, hmaterial, hbuilder⟩ := run_lift_bind_eq_ok.mp hbuilder
  rw [builderWithKeyMaterial_withKey h.serverSPk h.dummyPk, StateT.run_map] at hbuilder
  have hlocal : ServerLogin.builderWithKeyMaterial L keyMaterial passwordFile request params =
      (·.withKey L.keypair.sk) <$>
        ServerLogin.builderWithKeyMaterial L keyMaterial passwordFile request params :=
    builderWithKeyMaterial_withKey rfl rfl keyMaterial passwordFile request params
  cases hmade : (ServerLogin.builderWithKeyMaterial L keyMaterial passwordFile request params).run
    r with
  | ok made =>
    rw [hmade, Outcome.map_ok] at hbuilder
    injection hbuilder with hbuilder
    injection hbuilder with hb hr
    subst hb hr
    refine ⟨rfl, ?_⟩
    apply run_lift_bind_eq_ok.mpr
    refine ⟨keyMaterial, h.keyMaterial _ _ hmaterial, ?_⟩
    rw [hlocal, StateT.run_map, hmade]
    rfl
  | err e =>
    rw [hmade] at hbuilder
    cases hbuilder
  | panicked =>
    rw [hmade] at hbuilder
    cases hbuilder

/-- What is built from the builder is the answer of the other server. -/
theorem Device.Serves.loginBuild (h : D.Serves setup L)
    {passwordFile : Option (ServerRegistration CS)} {request : CredentialRequest CS KE}
    {credentialIdentifier : Bytes} {params : ServerLoginParameters} {r r₁ r₂ : Rng}
    {builder : ServerLoginBuilder CS KE SK} {result : ServerLoginStartResult CS KE}
    (hkey : builder.serverSSk = setup.keypair.sk)
    (hbuilder : (ServerLogin.builder L passwordFile request credentialIdentifier params).run r =
      .ok (builder.withKey L.keypair.sk, r₁))
    (hbuild : (D.loginBuild setup builder).run r₁ = .ok (result, r₂)) :
    (ServerLogin.start L passwordFile request credentialIdentifier params).run r =
      .ok (result, r₂) := by
  obtain ⟨input, r₃, hinput, hbuild⟩ := run_bind_eq_ok.mp hbuild
  rw [ServerLoginBuilder.privateKey, hkey] at hinput
  apply run_bind_eq_ok.mpr
  refine ⟨_, r₁, hbuilder, ?_⟩
  apply run_bind_eq_ok.mpr
  exact ⟨input, r₃, h.ke2Input _ _ _ _ hinput, hbuild⟩

end steps

/-! ### The server with the device -/

/-- A builder that waits for the device, with the call that it was made in. -/
structure PendingLogin (KE : KeyExchange CS) (SK : Type) where
  record : Option Nat
  request : CredentialRequest CS KE
  credentialIdentifier : Bytes
  params : ServerLoginParameters
  rng : Rng
  builder : ServerLoginBuilder CS KE SK
  rest : Rng

structure RemoteStore (KE : KeyExchange CS) (SK OS : Type) where
  setup : ServerSetup CS SK OS
  clientRegistrations : List (ClientRegistration CS)
  records : List (ServerRegistration CS)
  clientLogins : List (ClientLogin CS KE)
  pending : List (PendingLogin KE SK)
  serverLogins : List (ServerLogin CS KE)

/-- The calls of a server without a device, and the two that `ServerLogin.start` is split
    into. -/
inductive RemoteCall (CS : CipherSuite) (KE : KeyExchange CS) where
  | call (c : Call CS KE)
  | serverLoginBuilder (record : Option Nat) (request : CredentialRequest CS KE)
      (credentialIdentifier : Bytes) (params : ServerLoginParameters) (rng : Rng)
  | serverLoginBuild (pending : Nat)

inductive RemoteReply (CS : CipherSuite) (KE : KeyExchange CS) (SK : Type) where
  | reply (r : Reply CS KE)
  | serverLoginBuilder (result : Outcome Error (ServerLoginBuilder CS KE SK × Rng))

/-- The record at a position, which is there if there is to be one. -/
def passwordFile (records : List (ServerRegistration CS)) :
    Option Nat → Option (Option (ServerRegistration CS))
  | none => some none
  | some k => records[k]?.map some

namespace RemoteStore

variable (KE) in
def initial (setup : ServerSetup CS SK OS) : RemoteStore KE SK OS := ⟨setup, [], [], [], [], []⟩

variable (D : Device KE SK OS)

/-- One call. -/
def step (s : RemoteStore KE SK OS) : RemoteCall CS KE →
    RemoteStore KE SK OS × RemoteReply CS KE SK
  | .call (.clientRegistrationStart password rng) =>
    let result := (ClientRegistration.start password).run rng
    ({ s with clientRegistrations := keep s.clientRegistrations (·.state) result },
      .reply (.clientRegistrationStart result))
  | .call (.serverRegistrationStart message credentialIdentifier) =>
    (s, .reply (.serverRegistrationStart
      (D.registrationStart s.setup message credentialIdentifier)))
  | .call (.clientRegistrationFinish state password response params rng) =>
    match s.clientRegistrations[state]? with
    | some c =>
      (s, .reply (.clientRegistrationFinish ((c.finish password response params).run rng)))
    | none => (s, .reply .noState)
  | .call (.serverRegistrationFinish message) =>
    ({ s with records := s.records ++ [ServerRegistration.finish message] },
      .reply .serverRegistrationFinish)
  | .call (.clientLoginStart password rng) =>
    let result := (ClientLogin.start KE password).run rng
    ({ s with clientLogins := keep s.clientLogins (·.state) result },
      .reply (.clientLoginStart result))
  | .call (.serverLoginStart record request credentialIdentifier params rng) =>
    match passwordFile s.records record with
    | some file =>
      let result := (D.loginStart s.setup file request credentialIdentifier params).run rng
      ({ s with serverLogins := keep s.serverLogins (·.state) result },
        .reply (.serverLoginStart result))
    | none => (s, .reply .noState)
  | .call (.clientLoginFinish state password response params rng) =>
    match s.clientLogins[state]? with
    | some c => (s, .reply (.clientLoginFinish ((c.finish password response params).run rng)))
    | none => (s, .reply .noState)
  | .call (.serverLoginFinish state message params) =>
    match s.serverLogins[state]? with
    | some l => (s, .reply (.serverLoginFinish (l.finish message params)))
    | none => (s, .reply .noState)
  | .serverLoginBuilder record request credentialIdentifier params rng =>
    match passwordFile s.records record with
    | some file =>
      let result := (D.loginBuilder s.setup file request credentialIdentifier params).run rng
      match result with
      | .ok (builder, rest) =>
        ({ s with pending := s.pending ++
            [{ record, request, credentialIdentifier, params, rng, builder, rest }] },
          .serverLoginBuilder result)
      | _ => (s, .serverLoginBuilder result)
    | none => (s, .reply .noState)
  | .serverLoginBuild i =>
    match s.pending[i]? with
    | some p =>
      let result := (D.loginBuild s.setup p.builder).run p.rest
      ({ s with serverLogins := keep s.serverLogins (·.state) result },
        .reply (.serverLoginStart result))
    | none => (s, .reply .noState)

/-- A step of the server that needed the device and did not succeed. -/
def failed : Reply CS KE → Bool
  | .serverRegistrationStart (.ok _) => false
  | .serverRegistrationStart _ => true
  | .serverLoginStart (.ok _) => false
  | .serverLoginStart _ => true
  | _ => false

/-- What a step is seen as from outside of the server: an answer, wherever it was built,
    is the answer to the call that its builder was made in, and failures of the server are
    not seen. -/
def view (s : RemoteStore KE SK OS) (c : RemoteCall CS KE) : History CS KE :=
  match c, (s.step D c).2 with
  | .call c, .reply r => if failed r then [] else [(c, r)]
  | .serverLoginBuild i, .reply r =>
    match s.pending[i]? with
    | some p =>
      if failed r then []
      else [(.serverLoginStart p.record p.request p.credentialIdentifier p.params p.rng, r)]
    | none => []
  | _, _ => []

end RemoteStore

/-! ### Records -/

/-- A record stays where it is. -/
theorem passwordFile_append {records : List (ServerRegistration CS)} {record : Option Nat}
    {file : Option (ServerRegistration CS)} (h : passwordFile records record = some file)
    (more : List (ServerRegistration CS)) :
    passwordFile (records ++ more) record = some file := by
  cases record with
  | none => exact h
  | some k =>
    obtain ⟨stored, hk, hfile⟩ := Option.map_eq_some_iff.mp h
    obtain ⟨hlt, -⟩ := List.getElem?_eq_some_iff.mp hk
    apply Option.map_eq_some_iff.mpr
    refine ⟨stored, ?_, hfile⟩
    rw [List.getElem?_append_left hlt]
    exact hk

/-- The step of a server with the keys, which looks the record up in the same way. -/
theorem Store.step_serverLoginStart (t : Store CS KE) (record : Option Nat)
    (request : CredentialRequest CS KE) (credentialIdentifier : Bytes)
    (params : ServerLoginParameters) (rng : Rng) :
    t.step (.serverLoginStart record request credentialIdentifier params rng) =
      match passwordFile t.records record with
      | some file => t.serverLoginStart file request credentialIdentifier params rng
      | none => (t, .noState) := by
  cases record with
  | none => rfl
  | some k =>
    simp only [Store.step, passwordFile]
    cases t.records[k]? with
    | none => rfl
    | some stored => rfl

/-! ### Runs -/

/-- The states of the two servers with the same past. -/
structure RemoteStore.Follows (setup : ServerSetup CS SK OS) (L : LocalSetup CS)
    (s : RemoteStore KE SK OS) (t : Store CS KE) : Prop where
  remoteSetup : s.setup = setup
  localSetup : t.setup = L
  clientRegistrations : t.clientRegistrations = s.clientRegistrations
  records : t.records = s.records
  clientLogins : t.clientLogins = s.clientLogins
  serverLogins : t.serverLogins = s.serverLogins
  /-- A builder that waits can be made again, with the key. -/
  pending : ∀ p ∈ s.pending, p.builder.serverSSk = setup.keypair.sk ∧
    ∃ file, passwordFile s.records p.record = some file ∧
      (ServerLogin.builder L file p.request p.credentialIdentifier p.params).run p.rng =
        .ok (p.builder.withKey L.keypair.sk, p.rest)

namespace RemoteStore

variable {D : Device KE SK OS} {setup : ServerSetup CS SK OS} {L : LocalSetup CS}
  {s : RemoteStore KE SK OS} {t : Store CS KE}

theorem initial_follows (setup : ServerSetup CS SK OS) (L : LocalSetup CS) :
    (initial KE setup).Follows setup L (Store.initial KE L) where
  remoteSetup := rfl
  localSetup := rfl
  clientRegistrations := rfl
  records := rfl
  clientLogins := rfl
  serverLogins := rfl
  pending p hp := by cases hp

/-- A call that the other server takes in the same way. -/
theorem exists_seen {c : RemoteCall CS KE} {d : Call CS KE}
    (hview : s.view D c = [(d, (t.step d).2)])
    (hnext : (s.step D c).1.Follows setup L (t.step d).1) :
    ∃ cs, history Store.step t cs = s.view D c ∧
      (s.step D c).1.Follows setup L (after Store.step t cs) :=
  ⟨[d], hview.symm, hnext⟩

/-- A call that leaves no trace. -/
theorem exists_unseen {c : RemoteCall CS KE} (hview : s.view D c = [])
    (hnext : (s.step D c).1.Follows setup L t) :
    ∃ cs, history Store.step t cs = s.view D c ∧
      (s.step D c).1.Follows setup L (after Store.step t cs) :=
  ⟨[], hview.symm, hnext⟩

theorem failed_of_not_ok {result : Outcome Error (ServerLoginStartResult CS KE × Rng)}
    (h : ¬ ∃ x, result = .ok x) :
    failed (.serverLoginStart result) = true ∧
      ∀ logins : List (ServerLogin CS KE), keep logins (·.state) result = logins := by
  cases result with
  | ok x => exact absurd ⟨x, rfl⟩ h
  | err e => exact ⟨rfl, fun _ => rfl⟩
  | panicked => exact ⟨rfl, fun _ => rfl⟩

/-- An answer that the device had a part in. -/
theorem Follows.answer (h : s.Follows setup L t) {c : RemoteCall CS KE} {record : Option Nat}
    {file : Option (ServerRegistration CS)} {request : CredentialRequest CS KE}
    {credentialIdentifier : Bytes} {params : ServerLoginParameters} {r : Rng}
    {result : ServerLoginStartResult CS KE × Rng}
    (hfile : passwordFile s.records record = some file)
    (hstart : (ServerLogin.start L file request credentialIdentifier params).run r = .ok result)
    (hstep : s.step D c = ({ s with serverLogins := s.serverLogins ++ [result.1.state] },
      .reply (.serverLoginStart (.ok result))))
    (hview : s.view D c =
      [(.serverLoginStart record request credentialIdentifier params r,
        .serverLoginStart (.ok result))]) :
    ∃ cs, history Store.step t cs = s.view D c ∧
      (s.step D c).1.Follows setup L (after Store.step t cs) := by
  have hlocal : t.step (.serverLoginStart record request credentialIdentifier params r) =
      ({ t with serverLogins := t.serverLogins ++ [result.1.state] },
        .serverLoginStart (.ok result)) := by
    rw [Store.step_serverLoginStart, h.records, hfile]
    simp only [Store.serverLoginStart, h.localSetup, h.records, hstart, keep]
  have hkept := h.serverLogins
  apply exists_seen
  · rw [hview, hlocal]
  · rw [hstep, hlocal]
    exact { h with serverLogins := by simp [hkept] }

/-- An answer of the server that waits for the device. -/
theorem Follows.loginStart (hD : D.Serves setup L) (h : s.Follows setup L t) (record : Option Nat)
    (request : CredentialRequest CS KE) (credentialIdentifier : Bytes)
    (params : ServerLoginParameters) (rng : Rng) :
    let c := RemoteCall.call (.serverLoginStart record request credentialIdentifier params rng)
    ∃ cs, history Store.step t cs = s.view D c ∧
      (s.step D c).1.Follows setup L (after Store.step t cs) := by
  intro c
  cases hfile : passwordFile s.records record with
  | none =>
    have hlocal : t.step (.serverLoginStart record request credentialIdentifier params rng) =
        (t, .noState) := by
      rw [Store.step_serverLoginStart, h.records, hfile]
    apply exists_seen (d := .serverLoginStart record request credentialIdentifier params rng)
    · rw [hlocal]
      simp [c, view, RemoteStore.step, hfile, failed]
    · rw [hlocal]
      simp only [c, RemoteStore.step, hfile]
      exact h
  | some file =>
    -- A failed answer is seen by nobody: neither server keeps anything of it.
    by_cases hok : ∃ result, (D.loginStart s.setup file request credentialIdentifier params).run
      rng = .ok result
    · obtain ⟨⟨result, r'⟩, hresult⟩ := hok
      have hdevice := hresult
      rw [h.remoteSetup] at hdevice
      obtain ⟨builder, r₁, hbuilder, hbuild⟩ := run_bind_eq_ok.mp hdevice
      obtain ⟨hkey, hlocal⟩ := hD.loginBuilder hbuilder
      apply h.answer hfile (hD.loginBuild hkey hlocal hbuild)
      · simp [c, RemoteStore.step, hfile, hresult, keep]
      · simp [c, view, RemoteStore.step, hfile, hresult, failed]
    · obtain ⟨hfailed, hkeep⟩ := failed_of_not_ok hok
      apply exists_unseen
      · simp [c, view, RemoteStore.step, hfile, hfailed]
      · simp only [c, RemoteStore.step, hfile, hkeep]
        exact h

/-- A builder. Nothing of it is seen before it is built. -/
theorem Follows.loginBuilder (hD : D.Serves setup L) (h : s.Follows setup L t)
    (record : Option Nat) (request : CredentialRequest CS KE) (credentialIdentifier : Bytes)
    (params : ServerLoginParameters) (rng : Rng) :
    (s.step D (.serverLoginBuilder record request credentialIdentifier params rng)).1.Follows
      setup L t := by
  cases hfile : passwordFile s.records record with
  | none =>
    simp only [RemoteStore.step, hfile]
    exact h
  | some file =>
    cases hresult : (D.loginBuilder s.setup file request credentialIdentifier params).run rng with
    -- The new builder is one of the local server, which is all that is asked of it until it
    -- is built.
    | ok result =>
      obtain ⟨builder, rest⟩ := result
      have hdevice := hresult
      rw [h.remoteSetup] at hdevice
      have hmade := hD.loginBuilder hdevice
      simp only [RemoteStore.step, hfile, hresult]
      refine { h with pending := ?_ }
      intro p hp
      rcases List.mem_append.mp hp with hp | hp
      · exact h.pending p hp
      · obtain rfl := List.mem_singleton.mp hp
        exact ⟨hmade.1, file, hfile, hmade.2⟩
    | err e =>
      simp only [RemoteStore.step, hfile, hresult]
      exact h
    | panicked =>
      simp only [RemoteStore.step, hfile, hresult]
      exact h

/-- An answer built from a builder that was made before. -/
theorem Follows.loginBuild (hD : D.Serves setup L) (h : s.Follows setup L t) (i : Nat) :
    ∃ cs, history Store.step t cs = s.view D (.serverLoginBuild i) ∧
      (s.step D (.serverLoginBuild i)).1.Follows setup L (after Store.step t cs) := by
  cases hpending : s.pending[i]? with
  | none =>
    apply exists_unseen
    · simp [view, RemoteStore.step, hpending]
    · simp only [RemoteStore.step, hpending]
      exact h
  | some p =>
    -- The record is still where it was when the builder was made.
    obtain ⟨hkey, file, hfile, hbuilder⟩ := h.pending p (List.mem_of_getElem? hpending)
    by_cases hok : ∃ result, (D.loginBuild s.setup p.builder).run p.rest = .ok result
    · obtain ⟨⟨result, r'⟩, hresult⟩ := hok
      have hdevice := hresult
      rw [h.remoteSetup] at hdevice
      apply h.answer hfile (hD.loginBuild hkey hbuilder hdevice)
      · simp [RemoteStore.step, hpending, hresult, keep]
      · simp [view, RemoteStore.step, hpending, hresult, failed]
    · obtain ⟨hfailed, hkeep⟩ := failed_of_not_ok hok
      apply exists_unseen
      · simp [view, RemoteStore.step, hpending, hfailed]
      · simp only [RemoteStore.step, hpending, hkeep]
        exact h

/-- The answer to a request for registration, which the device has a part in. -/
theorem Follows.registrationStart (hD : D.Serves setup L) (h : s.Follows setup L t)
    (message : RegistrationRequest CS) (credentialIdentifier : Bytes) :
    let c := RemoteCall.call (.serverRegistrationStart message credentialIdentifier)
    ∃ cs, history Store.step t cs = s.view D c ∧
      (s.step D c).1.Follows setup L (after Store.step t cs) := by
  intro c
  cases hresult : D.registrationStart s.setup message credentialIdentifier with
  | ok result =>
    rw [h.remoteSetup] at hresult
    have hlocal := hD.registrationStart hresult
    apply exists_seen (d := .serverRegistrationStart message credentialIdentifier)
    · simp [c, view, RemoteStore.step, Store.step, h.remoteSetup, h.localSetup, hresult, hlocal,
        failed]
    · exact h
  | err e => exact exists_unseen (by simp [c, view, RemoteStore.step, hresult, failed]) h
  | panicked => exact exists_unseen (by simp [c, view, RemoteStore.step, hresult, failed]) h

/-- One call. -/
theorem Follows.step (hD : D.Serves setup L) (h : s.Follows setup L t) (c : RemoteCall CS KE) :
    ∃ cs, history Store.step t cs = s.view D c ∧
      (s.step D c).1.Follows setup L (after Store.step t cs) := by
  cases c with
  | call c =>
    cases c with
    | clientRegistrationStart password rng =>
      have hkept := h.clientRegistrations
      refine exists_seen rfl { h with clientRegistrations := ?_ }
      simp [RemoteStore.step, Store.step, hkept]
    | serverRegistrationStart message credentialIdentifier =>
      exact h.registrationStart hD message credentialIdentifier
    | clientRegistrationFinish state password response params rng =>
      apply exists_seen (d := .clientRegistrationFinish state password response params rng)
      · cases hstate : s.clientRegistrations[state]? with
        | none => simp [view, RemoteStore.step, Store.step, h.clientRegistrations, hstate, failed]
        | some c => simp [view, RemoteStore.step, Store.step, h.clientRegistrations, hstate, failed]
      · simp only [RemoteStore.step, Store.step, h.clientRegistrations]
        cases s.clientRegistrations[state]? with
        | none => exact h
        | some c => exact h
    | serverRegistrationFinish message =>
      -- Records are only added, so a builder that waits finds its own.
      have hkept := h.records
      refine exists_seen rfl { h with records := ?_, pending := ?_ }
      · simp [RemoteStore.step, Store.step, hkept]
      · intro p hp
        obtain ⟨hkey, file, hfile, hbuilder⟩ := h.pending p hp
        exact ⟨hkey, file, passwordFile_append hfile _, hbuilder⟩
    | clientLoginStart password rng =>
      have hkept := h.clientLogins
      refine exists_seen rfl { h with clientLogins := ?_ }
      simp [RemoteStore.step, Store.step, hkept]
    | serverLoginStart record request credentialIdentifier params rng =>
      exact h.loginStart hD record request credentialIdentifier params rng
    | clientLoginFinish state password response params rng =>
      apply exists_seen (d := .clientLoginFinish state password response params rng)
      · cases hstate : s.clientLogins[state]? with
        | none => simp [view, RemoteStore.step, Store.step, h.clientLogins, hstate, failed]
        | some c => simp [view, RemoteStore.step, Store.step, h.clientLogins, hstate, failed]
      · simp only [RemoteStore.step, Store.step, h.clientLogins]
        cases s.clientLogins[state]? with
        | none => exact h
        | some c => exact h
    | serverLoginFinish state message params =>
      apply exists_seen (d := .serverLoginFinish state message params)
      · cases hstate : s.serverLogins[state]? with
        | none => simp [view, RemoteStore.step, Store.step, h.serverLogins, hstate, failed]
        | some l => simp [view, RemoteStore.step, Store.step, h.serverLogins, hstate, failed]
      · simp only [RemoteStore.step, Store.step, h.serverLogins]
        cases s.serverLogins[state]? with
        | none => exact h
        | some l => exact h
  | serverLoginBuilder record request credentialIdentifier params rng =>
    exact exists_unseen rfl (h.loginBuilder hD record request credentialIdentifier params rng)
  | serverLoginBuild i => exact h.loginBuild hD i

end RemoteStore

/-! ### A device that never fails -/

section answers

variable {D : Device KE SK OS} {setup : ServerSetup CS SK OS} {L : LocalSetup CS}

theorem Device.Answers.registrationStart (h : D.Answers setup L) (message : RegistrationRequest CS)
    (credentialIdentifier : Bytes) :
    D.registrationStart setup message credentialIdentifier =
      ServerRegistration.start L message credentialIdentifier := by
  have hmaterial := h.keyMaterial credentialIdentifier
  simp only [Device.registrationStart, ServerRegistration.start, hmaterial,
    ServerRegistration.startWithKeyMaterial, h.serverSPk]

theorem Device.Answers.loginStart (h : D.Answers setup L)
    (passwordFile : Option (ServerRegistration CS)) (request : CredentialRequest CS KE)
    (credentialIdentifier : Bytes) (params : ServerLoginParameters) :
    D.loginStart setup passwordFile request credentialIdentifier params =
      ServerLogin.start L passwordFile request credentialIdentifier params := by
  have hmaterial := h.keyMaterial credentialIdentifier
  have hbuild : ∀ builder : ServerLoginBuilder CS KE (PrivateKey CS.KeGroup),
      D.loginBuild setup (builder.withKey setup.keypair.sk) =
        (do
          let input ← KE.generateKe2Input builder.ke2Builder L.keypair.sk
          ServerLogin.build builder input) := by
    intro builder
    have hinput := h.ke2Input builder.ke2Builder
    simp only [Device.loginBuild, ServerLoginBuilder.privateKey, ServerLoginBuilder.data,
      ServerLoginBuilder.withKey, hinput]
    rfl
  simp only [Device.loginStart, Device.loginBuilder, ServerLogin.start, ServerLogin.builder,
    hmaterial, builderWithKeyMaterial_withKey h.serverSPk h.dummyPk, bind_assoc, bind_map_left,
    hbuild]

/-- The store with handles in place of the keys, and no builders. -/
def RemoteStore.ofStore (setup : ServerSetup CS SK OS) (t : Store CS KE) : RemoteStore KE SK OS :=
  { setup
    clientRegistrations := t.clientRegistrations
    records := t.records
    clientLogins := t.clientLogins
    pending := []
    serverLogins := t.serverLogins }

/-- A server that waits for such a device takes every call as the other server does. -/
theorem RemoteStore.step_ofStore (h : D.Answers setup L) {t : Store CS KE} (ht : t.setup = L)
    (c : Call CS KE) :
    (ofStore setup t).step D (.call c) = (ofStore setup (t.step c).1, .reply (t.step c).2) := by
  cases c with
  | serverRegistrationStart message credentialIdentifier =>
    simp only [RemoteStore.step, Store.step, ofStore, h.registrationStart, ht]
  | serverLoginStart record request credentialIdentifier params rng =>
    rw [Store.step_serverLoginStart]
    simp only [RemoteStore.step, ofStore]
    cases passwordFile t.records record with
    | none => rfl
    | some file => simp only [Store.serverLoginStart, h.loginStart, ht]
  | clientRegistrationStart password rng => rfl
  | clientRegistrationFinish state password response params rng =>
    simp only [RemoteStore.step, Store.step, ofStore]
    cases t.clientRegistrations[state]? with
    | none => rfl
    | some c => rfl
  | serverRegistrationFinish message => rfl
  | clientLoginStart password rng => rfl
  | clientLoginFinish state password response params rng =>
    simp only [RemoteStore.step, Store.step, ofStore]
    cases t.clientLogins[state]? with
    | none => rfl
    | some c => rfl
  | serverLoginFinish state message params =>
    simp only [RemoteStore.step, Store.step, ofStore]
    cases t.serverLogins[state]? with
    | none => rfl
    | some l => rfl

/-- A run of one server is a run of the other. -/
theorem RemoteStore.history_ofStore (h : D.Answers setup L) {past : History CS KE}
    {t : Store CS KE} (ht : t.Logged L past) (calls : List (Call CS KE)) :
    history (RemoteStore.step D) (ofStore setup t) (calls.map .call) =
      (history Store.step t calls).map fun e => (.call e.1, .reply e.2) := by
  induction calls generalizing past t with
  | nil => rfl
  | cons c calls ih =>
    have hlater := ih (ht.step c)
    simp only [List.map_cons, history, step_ofStore h ht.setup, hlater]

end answers

/-- What a run of the server with a device is seen as. Each call comes with what the
    device does while the call lasts: at another time it may fail where it answered, or
    answer where it failed. -/
def remoteView (setup : ServerSetup CS SK OS)
    (calls : List (Device KE SK OS × RemoteCall CS KE)) : History CS KE :=
  viewed (fun s c => s.step c.1 c.2) (fun s c => s.view c.1 c.2)
    (RemoteStore.initial KE setup) calls

/-- What a device serves is seen as a run of the server that has the keys at hand. -/
theorem exists_localRun {setup : ServerSetup CS SK OS} {L : LocalSetup CS}
    {calls : List (Device KE SK OS × RemoteCall CS KE)} (h : ∀ c ∈ calls, c.1.Serves setup L) :
    ∃ localCalls, runHistory KE L localCalls = remoteView setup calls := by
  have hstep : ∀ (s : RemoteStore KE SK OS) t (c : Device KE SK OS × RemoteCall CS KE),
      c.1.Serves setup L → s.Follows setup L t →
      ∃ cs, history Store.step t cs = s.view c.1 c.2 ∧
        (s.step c.1 c.2).1.Follows setup L (after Store.step t cs) := by
    intro s t c hserves hfollows
    exact hfollows.step hserves c.2
  obtain ⟨localCalls, hsame, -⟩ :=
    history_simulates hstep (RemoteStore.initial_follows setup L) calls h
  exact ⟨localCalls, hsame⟩

/-- The same of calls that come with what their device is made of. -/
theorem exists_localRun_map {ι : Type} (device : ι → Device KE SK OS)
    {setup : ServerSetup CS SK OS} {L : LocalSetup CS} {calls : List (ι × RemoteCall CS KE)}
    (h : ∀ c ∈ calls, (device c.1).Serves setup L) :
    ∃ localCalls, runHistory KE L localCalls =
      remoteView setup (calls.map fun c => (device c.1, c.2)) := by
  apply exists_localRun
  intro c hc
  obtain ⟨call, hcall, rfl⟩ := List.mem_map.mp hc
  exact h call hcall

/-- Every run of a server with a device is seen as a run of a server that has the keys at
    hand, and every run of that server is one of the server that waits for a device that
    never fails. -/
theorem remote_refines (KE : KeyExchange CS) {SK OS : Type} (setup : ServerSetup CS SK OS)
    (L : LocalSetup CS) :
    (∀ calls : List (Device KE SK OS × RemoteCall CS KE), (∀ c ∈ calls, c.1.Serves setup L) →
      ∃ localCalls, runHistory KE L localCalls = remoteView setup calls) ∧
    (∀ D : Device KE SK OS, D.Answers setup L → ∀ calls : List (Call CS KE),
      history (RemoteStore.step D) (.initial KE setup) (calls.map .call) =
        (runHistory KE L calls).map fun e => (.call e.1, .reply e.2)) := by
  refine ⟨?_, ?_⟩
  · intro calls h
    exact exists_localRun h
  · intro D hD calls
    exact RemoteStore.history_ofStore hD (Store.initial_logged L) calls

/-! ### The keys in a device -/

/-- A device that holds the key and the seed itself, and the input of a builder as a
    function of its data. -/
def Device.ofKeys
    (input : PrivateKey CS.KeGroup → KE.KE2BuilderData → RngM Error KE.KE2BuilderInput) :
    Device KE (PrivateKey CS.KeGroup) (OprfSeed CS.OprfHash) where
  keyMaterial info := fromInternal (oprfKeyMaterial info.ikm info.info)
  ke2Input serverSSk _ data := input serverSSk data

/-- The data of a builder is all that its input depends on. -/
def KeyExchange.InputOfData (KE : KeyExchange CS)
    (input : PrivateKey CS.KeGroup → KE.KE2BuilderData → RngM Error KE.KE2BuilderInput) :
    Prop :=
  ∀ builder serverSSk, KE.generateKe2Input builder serverSSk =
    input serverSSk (KE.ke2BuilderData builder)

theorem KeyExchange.InputOfData.answers
    {input : PrivateKey CS.KeGroup → KE.KE2BuilderData → RngM Error KE.KE2BuilderInput}
    (h : KE.InputOfData input) (setup : LocalSetup CS) :
    (Device.ofKeys input).Answers setup setup where
  serverSPk := rfl
  dummyPk := rfl
  keyMaterial _ := rfl
  ke2Input builder := (h builder setup.keypair.sk).symm

theorem TripleDh.inputOfData [DiffieHellman CS.KeGroup] :
    (TripleDh.keyExchange CS).InputOfData fun serverSSk clientEPk =>
      return DiffieHellman.diffieHellman serverSSk clientEPk := by
  intro builder serverSSk
  rfl

theorem TripleDhKem.inputOfData [DiffieHellman CS.KeGroup] (K : KemCoreWrapper) :
    (TripleDhKem.keyExchange CS K).InputOfData fun serverSSk data =>
      return DiffieHellman.diffieHellman serverSSk data.1 := by
  intro builder serverSSk
  rfl

theorem SigmaI.inputOfData {G : Group} [DiffieHellman G] (SIG : SigmaI.SignatureProtocol CS G) :
    (SigmaI.keyExchange CS G SIG).InputOfData fun serverSSk message =>
      SIG.sign serverSSk message := by
  intro builder serverSSk
  rfl

theorem Device.Answers.serves {D : Device KE SK OS} {setup : ServerSetup CS SK OS}
    {L : LocalSetup CS} (h : D.Answers setup L) : D.Serves setup L where
  serverSPk := h.serverSPk
  dummyPk := h.dummyPk
  keyMaterial credentialIdentifier keyMaterial hmaterial := by
    rw [h.keyMaterial] at hmaterial
    exact hmaterial
  ke2Input builder r input r' hinput := by
    rw [h.ke2Input] at hinput
    exact hinput

namespace Reference

def device : Device (TripleDh.keyExchange curveSuite) (PrivateKey curveGroup) (OprfSeed hash) :=
  .ofKeys fun serverSSk clientEPk => return DiffieHellman.diffieHellman serverSSk clientEPk

/-- The same device while it cannot be reached. -/
def absentDevice :
    Device (TripleDh.keyExchange curveSuite) (PrivateKey curveGroup) (OprfSeed hash) where
  keyMaterial _ := .panicked
  ke2Input _ _ _ := StateT.lift .panicked

theorem absentDevice_serves {setup : LocalSetup curveSuite} : absentDevice.Serves setup setup where
  serverSPk := rfl
  dummyPk := rfl
  keyMaterial _ _ h := by cases h
  ke2Input _ _ _ _ h := by cases h

/-- The server makes a builder, takes a record and builds two answers. The device fails at
    the first attempt to build, and at a registration. -/
def deviceCalls : List
    (Device (TripleDh.keyExchange curveSuite) (PrivateKey curveGroup) (OprfSeed hash) ×
      RemoteCall curveSuite (TripleDh.keyExchange curveSuite)) :=
  [(device, .serverLoginBuilder none dummyClientStart.1.message user.credentialIdentifier
      ⟨none, serverName⟩ maskingRng),
    (device, .call (.serverRegistrationFinish curveRegistered.1.message)),
    (absentDevice, .serverLoginBuild 0), (device, .serverLoginBuild 0),
    (device, .serverLoginBuild 1),
    (absentDevice, .call (.serverRegistrationStart ⟨3⟩ user.credentialIdentifier)),
    (device, .serverLoginBuild 0)]

end Reference

/-- Two answers from one builder are seen as two answers to one call. -/
theorem remote_refines_reference :
    ∃ localCalls, runHistory _ Reference.curveUser.setup localCalls =
        remoteView Reference.curveUser.setup Reference.deviceCalls ∧
      (runHistory (TripleDh.keyExchange Reference.curveSuite) Reference.curveUser.setup
        localCalls).length = 3 := by
  have hinput : (TripleDh.keyExchange Reference.curveSuite).InputOfData _ := TripleDh.inputOfData
  have hserves : Reference.device.Serves Reference.curveUser.setup Reference.curveUser.setup :=
    (hinput.answers Reference.curveUser.setup).serves
  have habsent : Reference.absentDevice.Serves Reference.curveUser.setup
      Reference.curveUser.setup := Reference.absentDevice_serves
  have hcalls : ∀ c ∈ Reference.deviceCalls,
      c.1.Serves Reference.curveUser.setup Reference.curveUser.setup := by
    simp [Reference.deviceCalls, hserves, habsent]
  obtain ⟨localCalls, hsame⟩ := (remote_refines _ Reference.curveUser.setup
    Reference.curveUser.setup).1 Reference.deviceCalls hcalls
  refine ⟨localCalls, hsame, ?_⟩
  rw [hsame]
  decide +kernel

end OpaqueVx
