import OpaqueVx.Sessions

/-! # Honest logins

  A login in which each side has what belongs to it: the client the password of a
  registration, the server its record, and both the same names and the same context. Once
  the first step of the client and that of the server have succeeded, the last steps
  succeed as well, whatever the generators are, unless the server reflects the element of
  the client. -/

namespace OpaqueVx

open Lib

variable {CS : CipherSuite}

/-- An honest run that the server's message was made for with a local key is completed by
    client and server. -/
def KeyExchange.CompletesLocally (KE : KeyExchange CS) : Prop :=
  ∀ (h : HonestRun KE) (r r' : Rng),
    (KE.generateKe2Input h.builder h.serverSSk).run r = .ok (h.input, r') →
    ∀ rng, h.Completes rng

theorem TripleDh.completesLocally [DiffieHellman CS.KeGroup] (hdh : CS.KeGroup.DhCommutes) :
    (keyExchange CS).CompletesLocally := by
  intro h r r' hinput rng
  exact completes hdh h (generateKe2Input_honest hinput) rng

theorem TripleDhKem.completesLocally [DiffieHellman CS.KeGroup] {K : KemCoreWrapper}
    (hdh : CS.KeGroup.DhCommutes) (hK : K.Correct) : (keyExchange CS K).CompletesLocally := by
  intro h r r' hinput rng
  exact completes hdh hK h (generateKe2Input_honest hinput) rng

theorem SigmaI.completesLocally {KE : Group} [DiffieHellman KE] {SIG : SignatureProtocol CS KE}
    (S : SignatureSpec SIG) (hdh : KE.DhCommutes) : (keyExchange CS KE SIG).CompletesLocally := by
  intro h r r' hinput rng
  exact completes S hdh h (generateKe2Input_honest S hinput) rng

section login

variable {KE : KeyExchange CS}

/-- The client starts a login with the password of a registration, and the server answers
    it with the record, without reflecting the client's element. -/
structure HonestLogin (R : Registration CS) (s : ServerSession KE)
    (clientStart : ClientLoginStartResult CS KE) : Prop where
  started : ∃ startRng r', (ClientLogin.start KE R.user.password).run startRng =
    .ok (clientStart, r')
  setup : s.setup = R.user.setup
  keypair : s.setup.keypair.pk = CS.KeGroup.publicKey s.setup.keypair.sk
  passwordFile : s.passwordFile = some R.record
  request : s.request = clientStart.message
  credentialIdentifier : s.credentialIdentifier = R.user.credentialIdentifier
  identifiers : s.params.identifiers = R.user.ids
  not_reflected : clientStart.message.blindedElement ≠ s.start.message.evaluationElement

namespace HonestLogin

variable {R : Registration CS} {s : ServerSession KE} {clientStart : ClientLoginStartResult CS KE}

theorem upload_eq (h : HonestLogin R s clientStart) : s.upload = R.record.upload :=
  s.upload_eq h.passwordFile

/-- The names are those that the envelope was sealed with. -/
theorem identifiers_eq (h : HonestLogin R s clientStart) : s.run.identifiers = R.identifiers := by
  have hids := s.identifiers_eq
  have hclientSPk : s.upload.clientSPk = R.keypair.pk := by rw [h.upload_eq, R.upload_eq]
  rw [h.identifiers, hclientSPk, h.setup, R.identifiers_eq] at hids
  exact (Outcome.ok.inj hids).symm

/-- The client computes the secret of the registration. -/
theorem derived_eq (h : HonestLogin R s clientStart) (hoprf : CS.OprfCs.Unblinds) :
    getPasswordDerivedKey R.user.password clientStart.state.oprfClient
      s.start.message.evaluationElement R.user.ksf =
        .ok (CS.OprfHash.extract (R.oprfOutput.bytes ++ R.hardenedOutput.bytes),
          randomizedPwd R.oprfOutput R.hardenedOutput) := by
  obtain ⟨startRng, r', hstart⟩ := h.started
  obtain ⟨⟨client, blinded⟩, r₁, hblind, hstart⟩ := run_bind_eq_ok.mp hstart
  have hblind := run_blind_eq_ok.mp hblind
  obtain ⟨ke1, r₂, -, hstart⟩ := run_bind_eq_ok.mp hstart
  simp only [StateT.run_pure, Outcome.pure_eq, Outcome.ok.injEq, Prod.mk.injEq] at hstart
  have hrequest : s.request.blindedElement = blinded := by rw [h.request, ← hstart.1]
  have hclient : clientStart.state.oprfClient = client := by rw [← hstart.1]
  have hmaterial : keyMaterialOf s.setup.oprfSeed s.credentialIdentifier = R.user.keyMaterial := by
    rw [h.setup, h.credentialIdentifier]
    rfl
  have hfinalize := s.oprfKey.oprf_eq hoprf hblind
  rw [hmaterial, R.oprf_eq] at hfinalize
  rw [s.evaluation_eq, hrequest, hclient]
  exact getPasswordDerivedKey_eq_ok.mpr
    ⟨R.oprfOutput, R.hardenedOutput, hfinalize, R.stretch_eq, rfl⟩

/-- It unmasks the server's key and the envelope. -/
theorem unmasked_eq (h : HonestLogin R s clientStart)
    (hread : CS.KeGroup.pkCodec.ReadsBack s.setup.keypair.pk) :
    unmaskResponse (maskingKeyOf (randomizedPwd R.oprfOutput R.hardenedOutput)).bytes
      s.start.message.maskingNonce.bytes s.start.message.maskedResponse =
        .ok (R.user.setup.keypair.pk, R.record.upload.envelope) := by
  have hmask := s.masked_eq
  have hmode : R.record.upload.envelope.mode = .internal := by rw [R.upload_eq]
  have hkey : R.record.upload.maskingKey =
      maskingKeyOf (randomizedPwd R.oprfOutput R.hardenedOutput) := by rw [R.upload_eq]
  rw [h.upload_eq, hkey] at hmask
  rw [← h.setup]
  exact unmaskResponse_maskResponse hread hmode hmask

/-- It opens the envelope with the keys and the names of the registration. -/
theorem opened_eq (R : Registration CS) :
    R.record.upload.envelope.open (randomizedPwd R.oprfOutput R.hardenedOutput)
      R.user.setup.keypair.pk R.user.ids = .ok ⟨R.keypair, R.result.exportKey, R.identifiers⟩ := by
  apply Envelope.open_eq_ok.mpr
  rw [R.upload_eq]
  exact ⟨rfl, R.keypair_eq, R.identifiers_eq, rfl, R.exportKey_eq⟩

/-- The parties complete the key exchange that they are in. -/
theorem exists_ke3 (h : HonestLogin R s clientStart) (hKE : KE.CompletesLocally) (rng : Rng) :
    ∃ ke3 rng', (KE.generateKe3 clientStart.message.toParts clientStart.message.ke1Message
      s.start.message.toParts clientStart.state.ke1State s.start.message.ke2Message
      R.user.setup.keypair.pk R.keypair.sk R.identifiers s.run.context).run rng =
        .ok (ke3, rng') ∧
      KE.finishKe s.start.state.ke2State ke3.message s.params.identifiers s.run.context =
        .ok ke3.sessionKey := by
  obtain ⟨startRng, r', hstart⟩ := h.started
  obtain ⟨⟨client, blinded⟩, r₁, hblind, hstart⟩ := run_bind_eq_ok.mp hstart
  obtain ⟨ke1, r₂, hke1, hstart⟩ := run_bind_eq_ok.mp hstart
  simp only [StateT.run_pure, Outcome.pure_eq, Outcome.ok.injEq, Prod.mk.injEq] at hstart
  have hmessage : clientStart.message.ke1Message = ke1.message := by rw [← hstart.1]
  have hstate : clientStart.state.ke1State = ke1.state := by rw [← hstart.1]
  have hclientSPk : CS.KeGroup.publicKey R.keypair.sk = s.run.clientSPk := by
    rw [s.clientSPk_eq, h.upload_eq, R.upload_eq]
    exact (Envelope.recoverKeysInternal_eq_ok.mp R.keypair_eq).2.2.symm
  have hserverSPk : CS.KeGroup.publicKey s.setup.keypair.sk = s.setup.keypair.pk := h.keypair.symm
  obtain ⟨r₃, r₄, hbuilder, hinput⟩ := s.input_eq
  -- The steps that the two have made, with the keys they hold, are an honest run of the key
  -- exchange.
  let run : HonestRun KE :=
    { credentialRequest := s.run.credentialRequest
      credentialResponse := s.run.credentialResponse
      ids := s.params.identifiers
      identifiers := s.run.identifiers
      context := s.run.context
      clientSSk := R.keypair.sk
      serverSSk := s.setup.keypair.sk
      clientRng := r₁
      serverRng := s.run.rng
      identifiers_eq := by
        rw [hclientSPk, hserverSPk, s.clientSPk_eq]
        exact s.identifiers_eq
      ke1
      builder := s.builder
      input := s.run.input
      ke2 := s.made
      ke1_eq := ⟨r₂, hke1⟩
      builder_eq := by
        refine ⟨r₃, ?_⟩
        rw [HonestParties.clientSPk, hclientSPk, ← hmessage, ← h.request, ← s.request_eq.2]
        exact hbuilder
      ke2_eq := s.build_eq }
  obtain ⟨ke3, rng', hke3, hfinish⟩ := hKE run r₃ r₄ hinput rng
  refine ⟨ke3, rng', ?_, ?_⟩
  -- The client calls its last step with what it was sent, which is what the server sent.
  · have hrequest : s.run.credentialRequest = clientStart.message.toParts := by
      rw [s.request_eq.1, h.request]
    have hke3 : (KE.generateKe3 s.run.credentialRequest ke1.message s.run.credentialResponse
        ke1.state s.made.message (CS.KeGroup.publicKey s.setup.keypair.sk) R.keypair.sk
        s.run.identifiers s.run.context).run rng = .ok (ke3, rng') := hke3
    rw [hrequest, s.response_eq, hserverSPk, h.identifiers_eq, ← hmessage, ← hstate,
      ← s.message_eq, h.setup] at hke3
    exact hke3
  · rw [s.state_eq]
    exact hfinish

/-- Both last steps succeed, and the parties have what the registration gave them. -/
theorem completes (h : HonestLogin R s clientStart) (hKE : KE.CompletesLocally)
    (hoprf : CS.OprfCs.Unblinds) (hread : CS.KeGroup.pkCodec.ReadsBack s.setup.keypair.pk)
    (finishRng : Rng) :
    ∃ result r', (clientStart.state.finish R.user.password s.start.message
        { context := s.params.context, identifiers := R.user.ids, ksf := R.user.ksf }).run
          finishRng = .ok (result, r') ∧
      s.start.state.finish result.message s.params = .ok ⟨result.sessionKey⟩ ∧
      result.exportKey = R.result.exportKey ∧ result.serverSPk = R.result.serverSPk := by
  obtain ⟨ke3, r', hke3, hfinish⟩ := h.exists_ke3 hKE finishRng
  obtain ⟨startRng, r₁, hstart⟩ := h.started
  have hrequest : clientStart.state.credentialRequest = clientStart.message := by
    obtain ⟨⟨client, blinded⟩, r₂, -, hstart⟩ := run_bind_eq_ok.mp hstart
    obtain ⟨ke1, r₃, -, hstart⟩ := run_bind_eq_ok.mp hstart
    simp only [StateT.run_pure, Outcome.pure_eq, Outcome.ok.injEq, Prod.mk.injEq] at hstart
    rw [← hstart.1]
  refine ⟨⟨⟨ke3.message⟩, ke3.sessionKey, R.result.exportKey, R.user.setup.keypair.pk⟩, r', ?_, ?_,
    rfl, R.serverSPk_eq.symm⟩
  · apply ClientLogin.run_finish_eq_ok.mpr
    rw [hrequest]
    exact ⟨h.not_reflected, _, _, _, _, s.run.context, ke3, h.derived_eq hoprf,
      Hkdf.expand_outputSize _ _, h.unmasked_eq hread, opened_eq R, s.context_eq, hke3, rfl, rfl,
      rfl⟩
  · unfold ServerLogin.finish
    exact Outcome.bind_eq_ok.mpr ⟨s.run.context, s.context_eq,
      Outcome.bind_eq_ok.mpr ⟨_, hfinish, rfl⟩⟩

end HonestLogin

end login

end OpaqueVx
