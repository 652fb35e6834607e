import OpaqueVx.KeyExchange.Completeness
import OpaqueVx.Masking
import OpaqueVx.Reference
import OpaqueVx.Steps

/-! # Registration and login, end to end

  A user registers once and logs in any number of times, each step with a
  generator of its own. If the server never reflects the blinded element and the
  primitives do not fail, every login succeeds, gives both parties the same
  session key, and gives the client the export key and the server key of the
  registration. -/

namespace OpaqueVx

open Lib

variable {CS : CipherSuite}

/-! ### The runs -/

/-- A user at a server: what registration and login have in common. -/
structure User (CS : CipherSuite) where
  setup : LocalSetup CS
  password : Bytes
  credentialIdentifier : Bytes
  ids : Identifiers
  ksf : Option CS.Ksf.Config

/-- What varies from login to login. -/
structure LoginInput where
  context : Option Bytes
  clientRng : Rng
  serverRng : Rng
  finishRng : Rng

/-- The four steps of a registration. -/
def register (u : User CS) (startRng finishRng : Rng) :
    Outcome Error (ClientRegistrationFinishResult CS × ServerRegistration CS) := do
  let (clientStart, _) ← (ClientRegistration.start u.password).run startRng
  let serverStart ← ServerRegistration.start u.setup clientStart.message u.credentialIdentifier
  let (clientFinish, _) ← (clientStart.state.finish u.password serverStart.message
    { identifiers := u.ids, ksf := u.ksf }).run finishRng
  return (clientFinish, ServerRegistration.finish clientFinish.message)

/-- The four steps of a login with a stored record. -/
def login (KE : KeyExchange CS) (u : User CS) (record : ServerRegistration CS) (l : LoginInput) :
    Outcome Error (ClientLoginFinishResult CS KE × ServerLoginFinishResult CS) := do
  let (clientStart, _) ← (ClientLogin.start KE u.password).run l.clientRng
  let (serverStart, _) ← (ServerLogin.start u.setup (some record) clientStart.message
    u.credentialIdentifier { context := l.context, identifiers := u.ids }).run l.serverRng
  let (clientFinish, _) ← (clientStart.state.finish u.password serverStart.message
    { context := l.context, identifiers := u.ids, ksf := u.ksf }).run l.finishRng
  let serverFinish ← serverStart.state.finish clientFinish.message
    { context := l.context, identifiers := u.ids }
  return (clientFinish, serverFinish)

/-! ### Calls of the primitives that succeed -/

/-- The seed of the user's OPRF key. -/
def User.keyMaterial (u : User CS) : GenericArray CS.OprfCs.ScalarLen :=
  CS.OprfHash.expand u.setup.oprfSeed.bytes (u.credentialIdentifier ++ strOprfKey)
    CS.OprfCs.ScalarLen

/-- The calls that depend on the user alone: the OPRF key is derived, the OPRF is
    computed on the password, and its output is stretched. -/
structure PasswordCalls (u : User CS) where
  scalar : CS.OprfCs.Scalar
  server : CS.OprfCs.OprfServer
  oprfOutput : Output CS.OprfHash
  hardenedOutput : Output CS.OprfHash
  deriveKey : CS.OprfCs.deriveKey u.keyMaterial.bytes strOpaqueDeriveKeyPair = .ok scalar
  newWithKey : CS.OprfCs.newWithKey (CS.OprfCs.serializeScalar scalar).bytes = .ok server
  evaluate : CS.OprfCs.evaluate server u.password = .ok oprfOutput
  stretch : CS.Ksf.hash (u.ksf.getD CS.Ksf.default) oprfOutput = .ok hardenedOutput

/-- The password is blinded, and the evaluation is not the blinded element. -/
structure BlindCall {u : User CS} (P : PasswordCalls u) (rng : Rng) where
  client : CS.OprfCs.OprfClient
  blinded : CS.OprfCs.Elem
  rest : Rng
  blind : (CS.OprfCs.blind u.password).run rng = .ok ((client, blinded), rest)
  not_reflected : blinded ≠ CS.OprfCs.blindEvaluate P.server blinded

namespace PasswordCalls

variable {u : User CS} (P : PasswordCalls u)

/-- The randomized password: HKDF-Extract over the OPRF output and the stretched
    output. -/
def randomizedPwd : Output CS.OprfHash :=
  CS.OprfHash.extract (P.oprfOutput.bytes ++ P.hardenedOutput.bytes)

def hasher : Hkdf CS.OprfHash := ⟨P.randomizedPwd.bytes⟩

def maskingKey : Output CS.OprfHash :=
  CS.OprfHash.expand P.randomizedPwd.bytes strMaskingKey CS.OprfHash.outputSize

/-- The seed of the client's static key for a nonce. -/
def keypairSeed (nonce : GenericArray nonceLen) : GenericArray CS.KeGroup.SkLen :=
  CS.OprfHash.expand P.hasher.prk (nonce.bytes ++ strPrivateKey) CS.KeGroup.SkLen

end PasswordCalls

/-! ### What each helper computes -/

section helpers

variable {u : User CS} (P : PasswordCalls u)

theorem BlindCall.run_blind {rng : Rng} (B : BlindCall P rng) :
    (mapErrM (fun e => .libraryError (.oprfError e)) (OpaqueVx.blind u.password) :
      RngM Error (CS.OprfCs.OprfClient × CS.OprfCs.Elem)).run rng =
        .ok ((B.client, B.blinded), B.rest) := by
  rw [run_mapErrM, OpaqueVx.blind, B.blind, Outcome.mapErr_ok]

/-- The client recovers the randomized password from any blinding. -/
theorem getPasswordDerivedKey_eq (hoprf : CS.OprfCs.Unblinds) {rng : Rng} (B : BlindCall P rng) :
    getPasswordDerivedKey u.password B.client (CS.OprfCs.blindEvaluate P.server B.blinded) u.ksf =
      .ok (P.randomizedPwd, P.hasher) := by
  have hfinalize := hoprf u.password B.client B.blinded rng B.rest P.server B.blind
  rw [P.evaluate] at hfinalize
  exact getPasswordDerivedKey_eq_ok.mpr
    ⟨P.oprfOutput, P.hardenedOutput, hfinalize, P.stretch, rfl⟩

theorem expand_maskingKey :
    P.hasher.expand strMaskingKey CS.OprfHash.outputSize = some P.maskingKey :=
  Hkdf.expand_outputSize _ _

/-- The server derives the user's OPRF key from its seed. -/
theorem oprfKeyMaterial_eq (hsize : CS.OprfCs.ScalarLen ≤ 255 * CS.OprfHash.outputSize)
    (u : User CS) :
    oprfKeyMaterial (u.setup.keyMaterialInfo u.credentialIdentifier).ikm
      (u.setup.keyMaterialInfo u.credentialIdentifier).info = .ok u.keyMaterial := by
  have hexpand : (Hkdf.mk u.setup.oprfSeed.bytes : Hkdf CS.OprfHash).expandMultiInfo
      [u.credentialIdentifier, strOprfKey] CS.OprfCs.ScalarLen = some u.keyMaterial := by
    rw [Hkdf.expandMultiInfo_eq_some]
    refine ⟨hsize, ?_⟩
    simp only [List.flatten_cons, List.flatten_nil, List.append_nil]
    rfl
  simp only [oprfKeyMaterial, ServerSetup.keyMaterialInfo, Hkdf.fromPrk_output, Option.bind_some,
    hexpand, Outcome.okOr_some]

theorem oprfKeyFromKeyMaterial_eq :
    oprfKeyFromKeyMaterial u.keyMaterial = .ok (CS.OprfCs.serializeScalar P.scalar) := by
  simp only [oprfKeyFromKeyMaterial, P.deriveKey, internalFromVoprf_ok, Outcome.ok_bind,
    Outcome.pure_eq]

/-- The evaluation the server returns for a blinded element. -/
theorem startWithKeyMaterial_eq (message : RegistrationRequest CS) :
    ServerRegistration.startWithKeyMaterial u.setup u.keyMaterial message =
      .ok ⟨⟨CS.OprfCs.blindEvaluate P.server message.blindedElement, u.setup.keypair.pk⟩⟩ := by
  simp only [ServerRegistration.startWithKeyMaterial, oprfKeyFromKeyMaterial_eq P,
    fromInternal_ok, Outcome.ok_bind, P.newWithKey, fromVoprf_ok, Outcome.pure_eq]

end helpers

/-! ### Registration -/

/-- The names that the application supplies fit into their length fields. -/
def Identifiers.Short (ids : Identifiers) : Prop :=
  (∀ id, ids.client = some id → id.length < 256 ^ 2) ∧
    ∀ id, ids.server = some id → id.length < 256 ^ 2

theorem Identifiers.Short.fromIdentifiers {G : Group} {ids : Identifiers} (h : ids.Short)
    (hpk : G.PkLen < 256 ^ 2) (clientSPk serverSPk : GenericArray G.PkLen) :
    ∃ identifiers,
      SerializedIdentifiers.fromIdentifiers ids clientSPk serverSPk = .ok identifiers := by
  have hlen : ∀ (id : Option Bytes) (pk : GenericArray G.PkLen),
      (∀ b, id = some b → b.length < 256 ^ 2) → (id.getD pk.bytes).length < 256 ^ 2 := by
    intro id pk hid
    cases id with
    | none =>
      rw [Option.getD_none, pk.size]
      exact hpk
    | some b => exact hid b rfl
  exact SerializedIdentifiers.fromIdentifiers_short (hlen _ _ h.1) (hlen _ _ h.2)

/-- What a registration establishes about the stored record: it can be masked and
    opened by whoever knows the password. -/
structure Registered {u : User CS} (P : PasswordCalls u) (record : ServerRegistration CS)
    (exportKey : Output CS.OprfHash) : Prop where
  maskingKey : record.upload.maskingKey = P.maskingKey
  mode : record.upload.envelope.mode = .internal
  opens : ∃ clientSSk identifiers,
    record.upload.clientSPk = CS.KeGroup.publicKey clientSSk ∧
    SerializedIdentifiers.fromIdentifiers u.ids (CS.KeGroup.serializePk record.upload.clientSPk)
      (CS.KeGroup.serializePk u.setup.keypair.pk) = .ok identifiers ∧
    record.upload.envelope.open P.hasher u.setup.keypair.pk u.ids =
      .ok ⟨⟨record.upload.clientSPk, clientSSk⟩, exportKey, identifiers⟩

section registration

variable {u : User CS} {P : PasswordCalls u}

theorem register_succeeds (hsize : CS.WellSized) (hoprf : CS.OprfCs.Unblinds)
    (hids : u.ids.Short) {startRng finishRng : Rng} (B : BlindCall P startRng)
    {clientSSk : PrivateKey CS.KeGroup}
    (hsk : CS.KeGroup.deriveScalar (P.keypairSeed (finishRng.peek nonceLen)) = .ok clientSSk) :
    ∃ result record, register u startRng finishRng = .ok (result, record) ∧
      result.serverSPk = u.setup.keypair.pk ∧ Registered P record result.exportKey := by
  have hstart : (ClientRegistration.start u.password).run startRng =
      .ok (⟨⟨B.blinded⟩, ⟨B.client, B.blinded⟩⟩, B.rest) :=
    run_bind_eq_ok.mpr ⟨_, _, B.run_blind, rfl⟩
  have hserver : ServerRegistration.start u.setup ⟨B.blinded⟩ u.credentialIdentifier =
      .ok ⟨⟨CS.OprfCs.blindEvaluate P.server B.blinded, u.setup.keypair.pk⟩⟩ := by
    simp only [ServerRegistration.start, oprfKeyMaterial_eq hsize.scalarLen, fromInternal_ok,
      Outcome.ok_bind, startWithKeyMaterial_eq P]
  obtain ⟨identifiers, hidentifiers⟩ := hids.fromIdentifiers hsize.pkLen
    (CS.KeGroup.serializePk (CS.KeGroup.publicKey clientSSk))
    (CS.KeGroup.serializePk u.setup.keypair.pk)
  obtain ⟨envelope, exportKey, hseal⟩ :=
    Envelope.seal_succeeds hsize.skLen hsk hidentifiers
  obtain ⟨hmode, sk, identifiers', hpk, hids', hopen⟩ := Envelope.open_seal hseal
  let upload : RegistrationUpload CS := ⟨envelope, P.maskingKey, CS.KeGroup.publicKey clientSSk⟩
  let result : ClientRegistrationFinishResult CS := ⟨upload, exportKey, u.setup.keypair.pk⟩
  have hfinish : (ClientRegistration.finish ⟨B.client, B.blinded⟩ u.password
      ⟨CS.OprfCs.blindEvaluate P.server B.blinded, u.setup.keypair.pk⟩ ⟨u.ids, u.ksf⟩).run
        finishRng = .ok (result, finishRng.advance nonceLen) := by
    unfold ClientRegistration.finish
    rw [if_neg B.not_reflected]
    refine run_lift_bind_eq_ok.mpr ⟨_, getPasswordDerivedKey_eq P hoprf B, ?_⟩
    refine run_lift_bind_eq_ok.mpr ⟨P.maskingKey, ?_, ?_⟩
    · rw [expand_maskingKey]
      rfl
    · exact run_bind_eq_ok.mpr ⟨_, _, hseal, rfl⟩
  refine ⟨result, ⟨upload⟩, ?_, rfl, ⟨rfl, hmode, sk, identifiers', hpk, hids', hopen⟩⟩
  simp only [register, hstart, Outcome.ok_bind, hserver, hfinish]
  rfl

end registration

/-! ### Login -/

section login

variable {u : User CS} {P : PasswordCalls u} {KE : KeyExchange CS}

/-- The server's nonce for the masked response, after the bytes of a dummy record. -/
def LoginInput.maskingNonce (CS : CipherSuite) (l : LoginInput) : GenericArray nonceLen :=
  (l.serverRng.advance CS.OprfHash.outputSize).peek nonceLen

/-- The generator the server hands to the key exchange. -/
def LoginInput.keyExchangeRng (CS : CipherSuite) (l : LoginInput) : Rng :=
  (l.serverRng.advance CS.OprfHash.outputSize).advance nonceLen

/-- A registered user logs in, if the key exchange succeeds for the parties that
    the record and the setup make. -/
theorem login_succeeds (hsize : CS.WellSized) (hoprf : CS.OprfCs.Unblinds)
    (hpair : u.setup.keypair.pk = CS.KeGroup.publicKey u.setup.keypair.sk)
    (hread : CS.KeGroup.pkCodec.ReadsBack u.setup.keypair.pk) {record : ServerRegistration CS}
    {exportKey : Output CS.OprfHash} (hR : Registered P record exportKey) {l : LoginInput}
    (hcontext : (l.context.getD []).length < 256 ^ 2) (B : BlindCall P l.clientRng)
    (hKE : ∀ p : HonestParties CS, p.clientRng = B.rest →
      p.serverRng = l.keyExchangeRng CS → KE.Succeeds p) :
    ∃ client server, login KE u record l = .ok (client, server) ∧
      client.sessionKey = server.sessionKey ∧ client.exportKey = exportKey ∧
      client.serverSPk = u.setup.keypair.pk := by
  obtain ⟨clientSSk, identifiers, hpk, hids, hopen⟩ := hR.opens
  obtain ⟨context, hcontext, -⟩ := SerializedContext.fromContext_short hcontext
  obtain ⟨masked, hmask, -⟩ := maskResponse_eq_ok hsize.maskedResponse P.maskingKey
    (l.maskingNonce CS).bytes u.setup.keypair.pk record.upload.envelope
  let evaluation := CS.OprfCs.blindEvaluate P.server B.blinded
  -- The parties as the two sides see them.
  let p : HonestParties CS :=
    { credentialRequest := .new B.blinded
      credentialResponse := .new evaluation (l.maskingNonce CS) masked
      ids := u.ids
      identifiers
      context
      clientSSk
      serverSSk := u.setup.keypair.sk
      clientRng := B.rest
      serverRng := l.keyExchangeRng CS
      identifiers_eq := by
        rw [← hpk, ← hpair]
        exact hids }
  have hserverSPk : p.serverSPk = u.setup.keypair.pk := hpair.symm
  have hclientSPk : p.clientSPk = record.upload.clientSPk := hpk.symm
  obtain ⟨ke1, builder, input, ke2, r₁, r₂, r₃, hke1, hbuilder, hinput, hke2, hfinal⟩ :=
    hKE p rfl rfl
  obtain ⟨ke3, r₄, hke3, hfinish⟩ := hfinal l.finishRng
  rw [hclientSPk] at hbuilder
  rw [hserverSPk] at hke3
  let request : CredentialRequest CS KE := ⟨B.blinded, ke1.message⟩
  let response : CredentialResponse CS KE :=
    ⟨evaluation, l.maskingNonce CS, masked, ke2.message⟩
  let loginBuilder : ServerLoginBuilder CS KE (PrivateKey CS.KeGroup) :=
    ⟨u.setup.keypair.sk, evaluation, l.maskingNonce CS, masked, builder⟩
  have hclientStart : (ClientLogin.start KE u.password).run l.clientRng =
      .ok (⟨request, ⟨B.client, ke1.state, request⟩⟩, r₁) := by
    refine run_bind_eq_ok.mpr ⟨_, _, B.run_blind, ?_⟩
    exact run_bind_eq_ok.mpr ⟨ke1, r₁, hke1, rfl⟩
  have hbuild : (ServerLogin.builderWithKeyMaterial u.setup u.keyMaterial (some record) request
      ⟨l.context, u.ids⟩).run l.serverRng = .ok (loginBuilder, r₂) := by
    unfold ServerLogin.builderWithKeyMaterial
    refine run_bind_eq_ok.mpr ⟨_, l.serverRng.advance CS.OprfHash.outputSize, rfl, ?_⟩
    refine run_lift_bind_eq_ok.mpr ⟨context, hcontext, ?_⟩
    refine run_bind_eq_ok.mpr ⟨_, _, run_fillBytes _ _, ?_⟩
    refine run_lift_bind_eq_ok.mpr ⟨masked, ?_, ?_⟩
    · rw [← hR.maskingKey] at hmask
      exact hmask
    refine run_lift_bind_eq_ok.mpr ⟨identifiers, hids, ?_⟩
    refine run_lift_bind_eq_ok.mpr ⟨_, fromInternal_eq_ok.mpr (oprfKeyFromKeyMaterial_eq P), ?_⟩
    refine run_lift_bind_eq_ok.mpr ⟨P.server, fromVoprf_eq_ok.mpr P.newWithKey, ?_⟩
    exact run_bind_eq_ok.mpr ⟨builder, r₂, hbuilder, rfl⟩
  have hserverStart : (ServerLogin.start u.setup (some record) request u.credentialIdentifier
      ⟨l.context, u.ids⟩).run l.serverRng = .ok (⟨response, ⟨ke2.state⟩⟩, r₃) := by
    unfold ServerLogin.start
    refine run_bind_eq_ok.mpr ⟨loginBuilder, r₂, ?_, ?_⟩
    · refine run_lift_bind_eq_ok.mpr ⟨u.keyMaterial, ?_, hbuild⟩
      exact fromInternal_eq_ok.mpr (oprfKeyMaterial_eq hsize.scalarLen u)
    refine run_bind_eq_ok.mpr ⟨input, r₃, hinput, ?_⟩
    refine run_lift_eq_ok.mpr ⟨?_, rfl⟩
    exact Outcome.bind_eq_ok.mpr ⟨ke2, hke2, rfl⟩
  have hclientFinish : (ClientLogin.finish ⟨B.client, ke1.state, request⟩ u.password response
      ⟨l.context, u.ids, u.ksf⟩).run l.finishRng =
      .ok (⟨⟨ke3.message⟩, ke3.sessionKey, exportKey, u.setup.keypair.pk⟩, r₄) := by
    have hunmask := unmaskResponse_maskResponse hread hR.mode hmask
    exact ClientLogin.run_finish_eq_ok.mpr ⟨B.not_reflected, _, P.maskingKey, _, _, context, ke3,
      getPasswordDerivedKey_eq P hoprf B, expand_maskingKey P, hunmask, hopen, hcontext, hke3,
      rfl, rfl, rfl⟩
  have hserverFinish : ServerLogin.finish (⟨ke2.state⟩ : ServerLogin CS KE) ⟨ke3.message⟩
      ⟨l.context, u.ids⟩ = .ok ⟨ke3.sessionKey⟩ := by
    unfold ServerLogin.finish
    exact Outcome.bind_eq_ok.mpr ⟨context, hcontext, Outcome.bind_eq_ok.mpr ⟨_, hfinish, rfl⟩⟩
  refine ⟨⟨⟨ke3.message⟩, ke3.sessionKey, exportKey, u.setup.keypair.pk⟩, ⟨ke3.sessionKey⟩, ?_,
    rfl, rfl, rfl⟩
  simp only [login, hclientStart, Outcome.ok_bind, hserverStart, hclientFinish, hserverFinish]
  rfl

end login

/-! ### 3DH -/

/-- The ephemeral keys of a login can be derived. -/
structure EphemeralCalls {u : User CS} (P : PasswordCalls u) (l : LoginInput) extends
    BlindCall P l.clientRng where
  clientESk : CS.KeGroup.Sk
  serverESk : CS.KeGroup.Sk
  deriveClient : CS.KeGroup.deriveScalar (rest.peek CS.KeGroup.SkLen) = .ok clientESk
  deriveServer : CS.KeGroup.deriveScalar ((l.keyExchangeRng CS).peek CS.KeGroup.SkLen) =
    .ok serverESk

/-- OPAQUE-3DH is complete: registration and all later logins succeed, the session
    keys of the two parties are equal, and export key and server key are those of
    the registration. -/
theorem TripleDh.endToEnd [DiffieHellman CS.KeGroup] (hsize : CS.WellSized)
    (hdh : CS.KeGroup.DhCommutes) (hoprf : CS.OprfCs.Unblinds) (u : User CS)
    (hpair : u.setup.keypair.pk = CS.KeGroup.publicKey u.setup.keypair.sk)
    (hread : CS.KeGroup.pkCodec.ReadsBack u.setup.keypair.pk) (hids : u.ids.Short)
    (P : PasswordCalls u) (startRng finishRng : Rng) (B : BlindCall P startRng)
    (clientSSk : PrivateKey CS.KeGroup)
    (hsk : CS.KeGroup.deriveScalar (P.keypairSeed (finishRng.peek nonceLen)) = .ok clientSSk)
    (logins : List LoginInput)
    (hlogins : ∀ l ∈ logins,
      (l.context.getD []).length < 256 ^ 2 ∧ Nonempty (EphemeralCalls P l)) :
    ∃ registered record, register u startRng finishRng = .ok (registered, record) ∧
      ∃ results, logins.mapM (login (keyExchange CS) u record) = .ok results ∧
        results.length = logins.length ∧
        ∀ result ∈ results, result.1.sessionKey = result.2.sessionKey ∧
          result.1.exportKey = registered.exportKey ∧
          result.1.serverSPk = registered.serverSPk := by
  obtain ⟨registered, record, hregister, hserverSPk, hR⟩ :=
    register_succeeds hsize hoprf hids B hsk
  refine ⟨registered, record, hregister, ?_⟩
  apply Outcome.mapM_eq_ok
  intro l hl
  obtain ⟨hcontext, ⟨E⟩⟩ := hlogins l hl
  have hKE : ∀ p : HonestParties CS, p.clientRng = E.rest →
      p.serverRng = l.keyExchangeRng CS → (keyExchange CS).Succeeds p := by
    intro p hclient hserver
    apply succeeds hdh p (by have := hsize.keHash; omega)
    · rw [hclient]
      exact E.deriveClient
    · rw [hserver]
      exact E.deriveServer
  obtain ⟨client, server, hlogin, hkey, hexport, hpk⟩ :=
    login_succeeds hsize hoprf hpair hread hR hcontext E.toBlindCall hKE
  exact ⟨_, hlogin, hkey, hexport, hpk.trans hserverSPk.symm⟩

/-- A user of the reference instantiation. -/
def Reference.user : User Reference.suite where
  setup := Reference.setup
  password := ascii "password"
  credentialIdentifier := ascii "alice"
  ids := ⟨some (ascii "alice"), none⟩
  ksf := none

def Reference.passwordCalls : PasswordCalls Reference.user where
  scalar := _
  server := _
  oprfOutput := _
  hardenedOutput := _
  deriveKey := rfl
  newWithKey := rfl
  evaluate := rfl
  stretch := rfl

def Reference.blindCall (rng : Rng) : BlindCall Reference.passwordCalls rng where
  client := _
  blinded := _
  rest := _
  blind := rfl
  not_reflected := by
    intro h
    have hkey : Reference.passwordCalls.server ≠ 0 := by decide +kernel
    apply hkey
    exact (UInt8.add_eq_left).mp h.symm

/-- The user registers and logs in twice. -/
theorem TripleDh.endToEnd_reference :
    ∃ registered record,
      register Reference.user Reference.rng Reference.rng = .ok (registered, record) ∧
      ∃ results, [⟨none, Reference.rng, Reference.rng, Reference.rng⟩,
          ⟨some (ascii "second"), Reference.rng.advance 7, Reference.rng, Reference.rng⟩].mapM
            (login (keyExchange Reference.suite) Reference.user record) = .ok results ∧
        results.length = 2 := by
  have hids : Reference.user.ids.Short := by
    refine ⟨?_, ?_⟩
    · intro id hid
      cases hid
      decide
    · intro id hid
      cases hid
  obtain ⟨registered, record, hregister, results, hlogins, hlen, -⟩ := endToEnd
    Reference.suite_wellSized Reference.group_dhCommutes Reference.voprf_unblinds Reference.user
    rfl (Reference.group_keyEncoding.pk.roundTrip _) hids Reference.passwordCalls Reference.rng
    Reference.rng (Reference.blindCall _) _ rfl
    [⟨none, Reference.rng, Reference.rng, Reference.rng⟩,
      ⟨some (ascii "second"), Reference.rng.advance 7, Reference.rng, Reference.rng⟩] (by
      intro l hl
      simp only [List.mem_cons, List.not_mem_nil, or_false] at hl
      rcases hl with rfl | rfl
      · exact ⟨by decide, ⟨{ Reference.blindCall _ with
          clientESk := _, serverESk := _, deriveClient := rfl, deriveServer := rfl }⟩⟩
      · exact ⟨by decide, ⟨{ Reference.blindCall _ with
          clientESk := _, serverESk := _, deriveClient := rfl, deriveServer := rfl }⟩⟩)
  exact ⟨registered, record, hregister, results, hlogins, hlen⟩

end OpaqueVx
