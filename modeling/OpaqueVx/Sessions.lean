import OpaqueVx.Confirmation
import OpaqueVx.EndToEnd
import OpaqueVx.Lib.Failure

/-! # Sessions

  A registration, the client's side of a login, and the server's side of one, each
  with the values that its steps computed on the way. A message that a side received
  is one of its inputs: nothing is assumed about where it came from. Calls that
  succeed make such a session, so what is said about all sessions is said about all
  runs. -/

namespace OpaqueVx

open Lib

variable {CS : CipherSuite}

/-! ### Values on the way -/

/-- The secret of the client: HKDF-Extract over the OPRF output and what the KSF makes
    of it. -/
def randomizedPwd (oprfOutput hardenedOutput : Output CS.OprfHash) : Hkdf CS.OprfHash :=
  ⟨(CS.OprfHash.extract (oprfOutput.bytes ++ hardenedOutput.bytes)).bytes⟩

/-- The masking key that a secret stands for. -/
def maskingKeyOf (hasher : Hkdf CS.OprfHash) : Output CS.OprfHash :=
  CS.OprfHash.expand hasher.prk strMaskingKey CS.OprfHash.outputSize

/-- The seed of the OPRF key of a credential identifier. -/
def keyMaterialOf (oprfSeed : OprfSeed CS.OprfHash) (credentialIdentifier : Bytes) :
    GenericArray CS.OprfCs.ScalarLen :=
  CS.OprfHash.expand oprfSeed.bytes (credentialIdentifier ++ strOprfKey) CS.OprfCs.ScalarLen

theorem oprfKeyMaterial_eq_ok {oprfSeed : OprfSeed CS.OprfHash} {credentialIdentifier : Bytes}
    {keyMaterial : GenericArray CS.OprfCs.ScalarLen} :
    oprfKeyMaterial oprfSeed [credentialIdentifier, strOprfKey] = .ok keyMaterial ↔
      CS.OprfCs.ScalarLen ≤ 255 * CS.OprfHash.outputSize ∧
        keyMaterial = keyMaterialOf oprfSeed credentialIdentifier := by
  unfold oprfKeyMaterial
  simp only [Hkdf.fromPrk_output, Option.bind_some, Outcome.okOr_eq_ok,
    Hkdf.expandMultiInfo_eq_some, List.flatten_cons, List.flatten_nil, List.append_nil]
  rfl

/-- The OPRF of a password under the key that key material stands for. -/
def oprf (CS : CipherSuite) (keyMaterial password : Bytes) :
    Outcome VoprfError (Output CS.OprfHash) := do
  let scalar ← CS.OprfCs.deriveKey keyMaterial strOpaqueDeriveKeyPair
  let server ← CS.OprfCs.newWithKey (CS.OprfCs.serializeScalar scalar).bytes
  CS.OprfCs.evaluate server password

/-- The server of the OPRF for key material. -/
def OprfKey (keyMaterial : GenericArray CS.OprfCs.ScalarLen) (server : CS.OprfCs.OprfServer) :
    Prop :=
  ∃ scalar, CS.OprfCs.deriveKey keyMaterial.bytes strOpaqueDeriveKeyPair = .ok scalar ∧
    CS.OprfCs.newWithKey (CS.OprfCs.serializeScalar scalar).bytes = .ok server

theorem oprfKeyFromKeyMaterial_bind_eq_ok {keyMaterial : GenericArray CS.OprfCs.ScalarLen}
    {oprfKey : GenericArray CS.OprfCs.ScalarLen} {server : CS.OprfCs.OprfServer}
    (hkey : fromInternal (oprfKeyFromKeyMaterial keyMaterial) = .ok oprfKey)
    (hserver : fromVoprf (CS.OprfCs.newWithKey oprfKey.bytes) = .ok server) :
    OprfKey keyMaterial server := by
  obtain ⟨scalar, hscalar, hkey⟩ := Outcome.bind_eq_ok.mp (fromInternal_eq_ok.mp hkey)
  injection hkey with hkey
  subst hkey
  exact ⟨scalar, Outcome.mapErr_eq_ok.mp hscalar, fromVoprf_eq_ok.mp hserver⟩

/-- What the client computes from an evaluation under a key is the OPRF of its
    password. -/
theorem OprfKey.oprf_eq (hoprf : CS.OprfCs.Unblinds)
    {keyMaterial : GenericArray CS.OprfCs.ScalarLen} {server : CS.OprfCs.OprfServer}
    (h : OprfKey keyMaterial server) {password : Bytes} {client : CS.OprfCs.OprfClient}
    {blinded : CS.OprfCs.Elem} {r r' : Rng}
    (hblind : (CS.OprfCs.blind password).run r = .ok ((client, blinded), r')) :
    CS.OprfCs.finalize client password (CS.OprfCs.blindEvaluate server blinded) =
      oprf CS keyMaterial.bytes password := by
  obtain ⟨scalar, hscalar, hserver⟩ := h
  rw [hoprf password client blinded r r' server hblind, oprf, hscalar, Outcome.ok_bind, hserver,
    Outcome.ok_bind]

theorem run_blind_eq_ok {password : Bytes} {r : Rng}
    {result : CS.OprfCs.OprfClient × CS.OprfCs.Elem} {r' : Rng} :
    (mapErrM (fun e => .libraryError (.oprfError e)) (OpaqueVx.blind password) :
        RngM Error _).run r = .ok (result, r') ↔
      (CS.OprfCs.blind password).run r = .ok (result, r') := by
  rw [run_mapErrM, Outcome.mapErr_eq_ok]
  rfl

/-! ### Registrations -/

/-- A registration of a user that succeeded. -/
structure Registration (CS : CipherSuite) where
  user : User CS
  result : ClientRegistrationFinishResult CS
  record : ServerRegistration CS
  oprfOutput : Output CS.OprfHash
  hardenedOutput : Output CS.OprfHash
  nonce : GenericArray nonceLen
  keypair : KeyPair CS.KeGroup (PrivateKey CS.KeGroup)
  identifiers : SerializedIdentifiers CS.KeGroup
  register_eq : ∃ startRng finishRng, register user startRng finishRng = .ok (result, record)
  oprf_eq : oprf CS user.keyMaterial.bytes user.password = .ok oprfOutput
  stretch_eq : CS.Ksf.hash (user.ksf.getD CS.Ksf.default) oprfOutput = .ok hardenedOutput
  keypair_eq : recoverKeysInternal (randomizedPwd oprfOutput hardenedOutput) nonce = .ok keypair
  identifiers_eq : SerializedIdentifiers.fromIdentifiers user.ids
    (CS.KeGroup.serializePk keypair.pk) (CS.KeGroup.serializePk user.setup.keypair.pk) =
      .ok identifiers
  upload_eq : record.upload =
    { envelope :=
        { mode := .internal
          nonce
          hmac := Envelope.authTag (randomizedPwd oprfOutput hardenedOutput) nonce
            (Envelope.aadOf identifiers user.setup.keypair.pk) }
      maskingKey := maskingKeyOf (randomizedPwd oprfOutput hardenedOutput)
      clientSPk := keypair.pk }
  exportKey_eq : result.exportKey =
    Envelope.exportKey (randomizedPwd oprfOutput hardenedOutput) nonce
  serverSPk_eq : result.serverSPk = user.setup.keypair.pk

/-- Every registration that succeeds. -/
theorem exists_registration (hoprf : CS.OprfCs.Unblinds) {u : User CS} {startRng finishRng : Rng}
    {result : ClientRegistrationFinishResult CS} {record : ServerRegistration CS}
    (h : register u startRng finishRng = .ok (result, record)) :
    ∃ R : Registration CS, R.user = u ∧ R.result = result ∧ R.record = record := by
  have hregister := h
  obtain ⟨⟨clientStart, r₁⟩, hclientStart, h⟩ := Outcome.bind_eq_ok.mp h
  obtain ⟨serverStart, hserverStart, h⟩ := Outcome.bind_eq_ok.mp h
  obtain ⟨⟨clientFinish, r₂⟩, hclientFinish, h⟩ := Outcome.bind_eq_ok.mp h
  simp only [Outcome.pure_eq, Outcome.ok.injEq, Prod.mk.injEq] at h
  obtain ⟨rfl, rfl⟩ := h
  -- The client blinds the password.
  obtain ⟨⟨client, blinded⟩, r₃, hblind, hclientStart⟩ := run_bind_eq_ok.mp hclientStart
  have hblind := run_blind_eq_ok.mp hblind
  simp only [StateT.run_pure, Outcome.pure_eq, Outcome.ok.injEq, Prod.mk.injEq] at hclientStart
  obtain ⟨rfl, rfl⟩ := hclientStart
  -- The server evaluates it under the user's key.
  obtain ⟨keyMaterial, hmaterial, hserverStart⟩ := Outcome.bind_eq_ok.mp hserverStart
  obtain ⟨-, rfl⟩ := oprfKeyMaterial_eq_ok.mp (fromInternal_eq_ok.mp hmaterial)
  obtain ⟨oprfKey, hkey, hserverStart⟩ := Outcome.bind_eq_ok.mp hserverStart
  obtain ⟨server, hserver, hserverStart⟩ := Outcome.bind_eq_ok.mp hserverStart
  have hoprfKey := oprfKeyFromKeyMaterial_bind_eq_ok hkey hserver
  injection hserverStart with hserverStart
  subst hserverStart
  -- The client stretches the output and seals.
  unfold ClientRegistration.finish at hclientFinish
  split at hclientFinish
  · cases hclientFinish
  obtain ⟨derived, hderived, hclientFinish⟩ := run_lift_bind_eq_ok.mp hclientFinish
  obtain ⟨oprfOutput, hardenedOutput, hfinalize, hstretch, rfl⟩ :=
    getPasswordDerivedKey_eq_ok.mp hderived
  obtain ⟨maskingKey, hmasking, hclientFinish⟩ := run_lift_bind_eq_ok.mp hclientFinish
  obtain ⟨⟨envelope, clientSPk, exportKey⟩, r₄, hseal, hclientFinish⟩ :=
    run_bind_eq_ok.mp hclientFinish
  obtain ⟨keypair, identifiers, hkeypair, rfl, hids, rfl, rfl, -⟩ :=
    Envelope.run_seal_eq_ok.mp hseal
  simp only [StateT.run_pure, Outcome.pure_eq, Outcome.ok.injEq, Prod.mk.injEq] at hclientFinish
  obtain ⟨rfl, -⟩ := hclientFinish
  have hmasking := Outcome.okOr_eq_ok.mp hmasking
  rw [Hkdf.expand_outputSize] at hmasking
  injection hmasking with hmasking
  have hoprf_eq := (hoprfKey.oprf_eq hoprf hblind).symm.trans hfinalize
  exact ⟨
    { user := u
      result := _
      record := _
      oprfOutput, hardenedOutput, keypair, identifiers
      nonce := finishRng.peek nonceLen
      register_eq := ⟨startRng, finishRng, hregister⟩
      oprf_eq := hoprf_eq
      stretch_eq := hstretch
      keypair_eq := hkeypair
      identifiers_eq := hids
      upload_eq := by
        rw [ServerRegistration.finish, ← hmasking]
        rfl
      exportKey_eq := rfl
      serverSPk_eq := rfl }, rfl, rfl, rfl⟩

/-! ### The client's side of a login -/

/-- What the two steps of a client are called with. -/
structure ClientCalls (KE : KeyExchange CS) where
  startPassword : Bytes
  startRng : Rng
  password : Bytes
  response : CredentialResponse CS KE
  params : ClientLoginFinishParameters CS
  finishRng : Rng

/-- Both steps of a client that succeeded, with an answer from anywhere. Everything is
    determined by what the steps are called with. -/
structure ClientSession (KE : KeyExchange CS) extends ClientCalls KE where
  start : ClientLoginStartResult CS KE
  result : ClientLoginFinishResult CS KE
  oprfOutput : Output CS.OprfHash
  hardenedOutput : Output CS.OprfHash
  envelope : Envelope CS
  opened : OpenedEnvelope CS
  context : SerializedContext
  ke3 : GenerateKe3Result CS.KeHash KE.KE3Message
  start_eq : ∃ r', (ClientLogin.start KE startPassword).run startRng = .ok (start, r')
  finish_eq : ∃ r', (start.state.finish password response params).run finishRng = .ok (result, r')
  blind_eq : ∃ r', (CS.OprfCs.blind startPassword).run startRng =
    .ok ((start.state.oprfClient, start.message.blindedElement), r')
  request_eq : start.state.credentialRequest = start.message
  finalize_eq : CS.OprfCs.finalize start.state.oprfClient password response.evaluationElement =
    .ok oprfOutput
  stretch_eq : CS.Ksf.hash (params.ksf.getD CS.Ksf.default) oprfOutput = .ok hardenedOutput
  unmask_eq : unmaskResponse (maskingKeyOf (randomizedPwd oprfOutput hardenedOutput)).bytes
    response.maskingNonce.bytes response.maskedResponse = .ok (result.serverSPk, envelope)
  open_eq : envelope.open (randomizedPwd oprfOutput hardenedOutput) result.serverSPk
    params.identifiers = .ok opened
  context_eq : SerializedContext.fromContext params.context = .ok context
  ke3_eq : ∃ r', (KE.generateKe3 start.message.toParts start.message.ke1Message response.toParts
    start.state.ke1State response.ke2Message result.serverSPk opened.clientStaticKeypair.sk
    opened.identifiers context).run finishRng = .ok (ke3, r')
  result_eq : result.message = ⟨ke3.message⟩ ∧ result.sessionKey = ke3.sessionKey ∧
    result.exportKey = opened.exportKey

/-- Every client whose two steps succeed. -/
theorem exists_clientSession {KE : KeyExchange CS} (calls : ClientCalls KE)
    {start : ClientLoginStartResult CS KE} {result : ClientLoginFinishResult CS KE} {r₁ r₂ : Rng}
    (hstart : (ClientLogin.start KE calls.startPassword).run calls.startRng = .ok (start, r₁))
    (hfinish : (start.state.finish calls.password calls.response calls.params).run
      calls.finishRng = .ok (result, r₂)) :
    ∃ c : ClientSession KE, c.toClientCalls = calls ∧ c.start = start ∧ c.result = result := by
  have hstarted := hstart
  obtain ⟨⟨client, blinded⟩, r₃, hblind, hstart⟩ := run_bind_eq_ok.mp hstart
  have hblind := run_blind_eq_ok.mp hblind
  obtain ⟨ke1, r₄, -, hstart⟩ := run_bind_eq_ok.mp hstart
  simp only [StateT.run_pure, Outcome.pure_eq, Outcome.ok.injEq, Prod.mk.injEq] at hstart
  obtain ⟨rfl, rfl⟩ := hstart
  obtain ⟨-, derived, maskingKey, envelope, opened, context, ke3, hderived, hmasking, hunmask,
    hopen, hcontext, hke3, hmessage, hsession, hexport⟩ := ClientLogin.run_finish_eq_ok.mp hfinish
  obtain ⟨oprfOutput, hardenedOutput, hfinalize, hstretch, rfl⟩ :=
    getPasswordDerivedKey_eq_ok.mp hderived
  rw [Hkdf.expand_outputSize] at hmasking
  injection hmasking with hmasking
  subst hmasking
  exact ⟨
    { toClientCalls := calls
      start := _
      result, oprfOutput, hardenedOutput, envelope, opened, context, ke3
      start_eq := ⟨_, hstarted⟩
      finish_eq := ⟨_, hfinish⟩
      blind_eq := ⟨r₃, hblind⟩
      request_eq := rfl
      finalize_eq := hfinalize
      stretch_eq := hstretch
      unmask_eq := hunmask
      open_eq := hopen
      context_eq := hcontext
      ke3_eq := ⟨_, hke3⟩
      result_eq := ⟨hmessage, hsession, hexport⟩ }, rfl, rfl, rfl⟩

namespace ClientSession

variable {KE : KeyExchange CS} (c : ClientSession KE)

/-- The client's run of the key exchange. -/
def run : ClientRun KE where
  credentialRequest := c.start.message.toParts
  ke1Message := c.start.message.ke1Message
  credentialResponse := c.response.toParts
  ke1State := c.start.state.ke1State
  ke2Message := c.response.ke2Message
  serverSPk := c.result.serverSPk
  clientSSk := c.opened.clientStaticKeypair.sk
  identifiers := c.opened.identifiers
  context := c.context
  rng := c.finishRng

def party : PartyRun KE := .client c.run c.ke3 c.ke3_eq

/-- The envelope is opened with the keys that the client derives. -/
theorem opened_eq : c.envelope.mode = .internal ∧
    recoverKeysInternal (randomizedPwd c.oprfOutput c.hardenedOutput) c.envelope.nonce =
      .ok c.opened.clientStaticKeypair ∧
    SerializedIdentifiers.fromIdentifiers c.params.identifiers
      (CS.KeGroup.serializePk c.opened.clientStaticKeypair.pk)
      (CS.KeGroup.serializePk c.result.serverSPk) = .ok c.opened.identifiers ∧
    Envelope.authTag (randomizedPwd c.oprfOutput c.hardenedOutput) c.envelope.nonce
      (Envelope.aadOf c.opened.identifiers c.result.serverSPk) = c.envelope.hmac ∧
    c.opened.exportKey =
      Envelope.exportKey (randomizedPwd c.oprfOutput c.hardenedOutput) c.envelope.nonce :=
  Envelope.open_eq_ok.mp c.open_eq

end ClientSession

/-! ### The server's side of a login -/

/-- What the first step of the server is called with. -/
structure ServerCalls (KE : KeyExchange CS) where
  setup : LocalSetup CS
  passwordFile : Option (ServerRegistration CS)
  request : CredentialRequest CS KE
  credentialIdentifier : Bytes
  params : ServerLoginParameters
  rng : Rng

/-- The first step of a server that succeeded, with a request from anywhere. Everything
    is determined by what the step is called with. -/
structure ServerSession (KE : KeyExchange CS) extends ServerCalls KE where
  start : ServerLoginStartResult CS KE
  upload : RegistrationUpload CS
  oprfServer : CS.OprfCs.OprfServer
  run : ServerRun KE
  builder : KE.KE2Builder
  made : GenerateKe2Result KE.KE2State KE.KE2Message
  start_eq : ∃ r', (ServerLogin.start setup passwordFile request credentialIdentifier
    params).run rng = .ok (start, r')
  dummy_eq : ∃ dummy r', (ServerRegistration.dummy setup).run rng = .ok (dummy, r') ∧
    upload = (passwordFile.getD dummy).upload
  oprfKey : OprfKey (keyMaterialOf setup.oprfSeed credentialIdentifier) oprfServer
  evaluation_eq : start.message.evaluationElement =
    CS.OprfCs.blindEvaluate oprfServer request.blindedElement
  masked_eq : maskResponse upload.maskingKey.bytes start.message.maskingNonce.bytes
    setup.keypair.pk upload.envelope = .ok start.message.maskedResponse
  context_eq : SerializedContext.fromContext params.context = .ok run.context
  identifiers_eq : SerializedIdentifiers.fromIdentifiers params.identifiers
    (CS.KeGroup.serializePk upload.clientSPk) (CS.KeGroup.serializePk setup.keypair.pk) =
      .ok run.identifiers
  request_eq : run.credentialRequest = request.toParts ∧ run.ke1Message = request.ke1Message
  response_eq : run.credentialResponse = start.message.toParts
  clientSPk_eq : run.clientSPk = upload.clientSPk
  rng_eq : run.rng = (rng.advance CS.OprfHash.outputSize).advance nonceLen
  input_eq : ∃ r₁ r₂, (KE.ke2Builder run.credentialRequest run.ke1Message run.credentialResponse
      run.clientSPk run.identifiers run.context).run run.rng = .ok (builder, r₁) ∧
    (KE.generateKe2Input builder setup.keypair.sk).run r₁ = .ok (run.input, r₂)
  build_eq : KE.buildKe2 builder run.input = .ok made
  message_eq : start.message.ke2Message = made.message
  state_eq : start.state.ke2State = made.state

/-- Every server whose first step succeeds. -/
theorem exists_serverSession {KE : KeyExchange CS} (calls : ServerCalls KE)
    {start : ServerLoginStartResult CS KE} {r' : Rng}
    (h : (ServerLogin.start calls.setup calls.passwordFile calls.request
      calls.credentialIdentifier calls.params).run calls.rng = .ok (start, r')) :
    ∃ s : ServerSession KE, s.toServerCalls = calls ∧ s.start = start := by
  have hstarted := h
  obtain ⟨loginBuilder, r₁, hbuilder, h⟩ := run_bind_eq_ok.mp h
  obtain ⟨input, r₂, hinput, h⟩ := run_bind_eq_ok.mp h
  obtain ⟨hbuild, -⟩ := run_lift_eq_ok.mp h
  obtain ⟨ke2, hke2, rfl⟩ := ServerLogin.build_eq_ok.mp hbuild
  -- The key material comes from the seed.
  obtain ⟨keyMaterial, hmaterial, hbuilder⟩ := run_lift_bind_eq_ok.mp hbuilder
  obtain ⟨-, rfl⟩ := oprfKeyMaterial_eq_ok.mp (fromInternal_eq_ok.mp hmaterial)
  -- A dummy record is drawn in either case, and then a nonce.
  obtain ⟨dummy, r₃, hdummy, hbuilder⟩ := run_bind_eq_ok.mp hbuilder
  obtain ⟨context, hcontext, hbuilder⟩ := run_lift_bind_eq_ok.mp hbuilder
  obtain ⟨maskingNonce, r₄, hnonce, hbuilder⟩ := run_bind_eq_ok.mp hbuilder
  obtain ⟨masked, hmasked, hbuilder⟩ := run_lift_bind_eq_ok.mp hbuilder
  obtain ⟨identifiers, hids, hbuilder⟩ := run_lift_bind_eq_ok.mp hbuilder
  obtain ⟨oprfKey, hkey, hbuilder⟩ := run_lift_bind_eq_ok.mp hbuilder
  obtain ⟨server, hserver, hbuilder⟩ := run_lift_bind_eq_ok.mp hbuilder
  have hoprfKey := oprfKeyFromKeyMaterial_bind_eq_ok hkey hserver
  obtain ⟨builder, r₅, hke2Builder, hbuilder⟩ := run_bind_eq_ok.mp hbuilder
  simp only [StateT.run_pure, Outcome.pure_eq, Outcome.ok.injEq, Prod.mk.injEq] at hbuilder
  obtain ⟨rfl, rfl⟩ := hbuilder
  have hrng : r₄ = (calls.rng.advance CS.OprfHash.outputSize).advance nonceLen := by
    injection hdummy with hdummy
    obtain ⟨-, rfl⟩ := Prod.mk.inj hdummy
    rw [run_fillBytes] at hnonce
    injection hnonce with hnonce
    exact (Prod.mk.inj hnonce).2.symm
  exact ⟨
    { toServerCalls := calls
      start := _
      upload := (calls.passwordFile.getD dummy).upload
      oprfServer := server
      run :=
        { credentialRequest := calls.request.toParts
          ke1Message := calls.request.ke1Message
          credentialResponse := _
          clientSPk := _
          identifiers, context, input
          rng := r₄ }
      builder
      made := ke2
      start_eq := ⟨_, hstarted⟩
      dummy_eq := ⟨dummy, r₃, hdummy, rfl⟩
      oprfKey := hoprfKey
      evaluation_eq := rfl
      masked_eq := hmasked
      context_eq := hcontext
      identifiers_eq := hids
      request_eq := ⟨rfl, rfl⟩
      response_eq := rfl
      clientSPk_eq := rfl
      rng_eq := hrng
      input_eq := ⟨_, r₂, hke2Builder, hinput⟩
      build_eq := hke2
      message_eq := rfl
      state_eq := rfl }, rfl, rfl⟩

namespace ServerSession

variable {KE : KeyExchange CS} (s : ServerSession KE)

theorem returns : s.run.Returns s.builder s.made := by
  obtain ⟨r₁, r₂, hbuilder, -⟩ := s.input_eq
  exact ⟨⟨r₁, hbuilder⟩, s.build_eq⟩

def party : PartyRun KE := .server s.run s.builder s.made s.returns

theorem upload_eq {file : ServerRegistration CS} (h : s.passwordFile = some file) :
    s.upload = file.upload := by
  obtain ⟨dummy, r', -, hupload⟩ := s.dummy_eq
  rw [hupload, h]
  rfl

end ServerSession

end OpaqueVx
