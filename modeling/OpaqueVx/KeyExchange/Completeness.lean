import OpaqueVx.Laws

/-! # Honest runs of a key exchange

  Two parties that hold their static keys and agree on request, response,
  identifiers and context: once the server's message is made, the client accepts
  it, the server accepts the client's answer, and both have one session key.

  An honest run is the data of such a run up to the server's message, with the
  proof that each step returned it. What the server has to compute with its
  static key between `ke2_builder` and `build_ke2` is a parameter, since it may be
  computed elsewhere. -/

namespace OpaqueVx

open Lib

variable {CS : CipherSuite}

/-- What the parties of an honest run bring: the parts of the login, the names,
    their static keys, and the randomness of their first steps. -/
structure HonestParties (CS : CipherSuite) where
  credentialRequest : SerializedCredentialRequest CS
  credentialResponse : SerializedCredentialResponse CS
  ids : Identifiers
  identifiers : SerializedIdentifiers CS.KeGroup
  context : SerializedContext
  clientSSk : PrivateKey CS.KeGroup
  serverSSk : PrivateKey CS.KeGroup
  clientRng : Rng
  serverRng : Rng
  identifiers_eq : SerializedIdentifiers.fromIdentifiers ids
    (CS.KeGroup.serializePk (CS.KeGroup.publicKey clientSSk))
    (CS.KeGroup.serializePk (CS.KeGroup.publicKey serverSSk)) = .ok identifiers

namespace HonestParties

def clientSPk (p : HonestParties CS) : PublicKey CS.KeGroup := CS.KeGroup.publicKey p.clientSSk

def serverSPk (p : HonestParties CS) : PublicKey CS.KeGroup := CS.KeGroup.publicKey p.serverSSk

end HonestParties

/-- An honest run up to the server's message. -/
structure HonestRun (KE : KeyExchange CS) extends HonestParties CS where
  ke1 : GenerateKe1Result KE.KE1State KE.KE1Message
  builder : KE.KE2Builder
  input : KE.KE2BuilderInput
  ke2 : GenerateKe2Result KE.KE2State KE.KE2Message
  ke1_eq : ∃ rng, KE.generateKe1.run clientRng = .ok (ke1, rng)
  builder_eq : ∃ rng, (KE.ke2Builder credentialRequest ke1.message credentialResponse
    toHonestParties.clientSPk identifiers context).run serverRng = .ok (builder, rng)
  ke2_eq : KE.buildKe2 builder input = .ok ke2

namespace HonestRun

variable {KE : KeyExchange CS}

/-- The client's last step in the run. -/
def generateKe3 (h : HonestRun KE) : RngM Error (GenerateKe3Result CS.KeHash KE.KE3Message) :=
  KE.generateKe3 h.credentialRequest h.ke1.message h.credentialResponse h.ke1.state
    h.ke2.message h.serverSPk h.clientSSk h.identifiers h.context

/-- The client accepts the server's message, the server accepts the answer, and
    the session keys are equal. -/
def Completes (h : HonestRun KE) (rng : Rng) : Prop :=
  ∃ ke3 rng', h.generateKe3.run rng = .ok (ke3, rng') ∧
    KE.finishKe h.ke2.state ke3.message h.ids h.context = .ok ke3.sessionKey

end HonestRun

/-- All steps of a login succeed for these parties, with a local key on the
    server, and give both the same session key. -/
def KeyExchange.Succeeds (KE : KeyExchange CS) (p : HonestParties CS) : Prop :=
  ∃ ke1 builder input ke2 r₁ r₂ r₃,
    KE.generateKe1.run p.clientRng = .ok (ke1, r₁) ∧
    (KE.ke2Builder p.credentialRequest ke1.message p.credentialResponse p.clientSPk p.identifiers
      p.context).run p.serverRng = .ok (builder, r₂) ∧
    (KE.generateKe2Input builder p.serverSSk).run r₂ = .ok (input, r₃) ∧
    KE.buildKe2 builder input = .ok ke2 ∧
    ∀ rng, ∃ ke3 rng', (KE.generateKe3 p.credentialRequest ke1.message p.credentialResponse
      ke1.state ke2.message p.serverSPk p.clientSSk p.identifiers p.context).run rng =
        .ok (ke3, rng') ∧
      KE.finishKe ke2.state ke3.message p.ids p.context = .ok ke3.sessionKey

/-! ### 3DH -/

namespace TripleDh

variable [DiffieHellman CS.KeGroup]

/-- The server multiplies its static key with the client's ephemeral key. -/
def HonestInput (h : HonestRun (keyExchange CS)) : Prop :=
  h.input = DiffieHellman.diffieHellman h.serverSSk h.ke1.message.clientEPk

/-- With a local key `generate_ke2_input` computes the honest input. -/
theorem generateKe2Input_honest {h : HonestRun (keyExchange CS)} {r r' : Rng}
    (hinput : ((keyExchange CS).generateKe2Input h.builder h.serverSSk).run r =
      .ok (h.input, r')) : HonestInput h := by
  obtain ⟨rng, hbuilder⟩ := h.builder_eq
  obtain ⟨sk, -, hb, -⟩ := run_ke2Builder_eq_ok.mp hbuilder
  have hinput : Outcome.ok (ε := Error) (DiffieHellman.diffieHellman h.serverSSk
      h.builder.clientEPk, r) = .ok (h.input, r') := hinput
  simp only [Outcome.ok.injEq, Prod.mk.injEq] at hinput
  rw [HonestInput, ← hinput.1, hb]
  rfl

/-- The run of two parties whose ephemeral keys can be derived. -/
def honestRun (p : HonestParties CS) (hsize : CS.KeHash.outputSize < 256)
    {csk ssk : CS.KeGroup.Sk}
    (hcsk : CS.KeGroup.deriveScalar (p.clientRng.peek CS.KeGroup.SkLen) = .ok csk)
    (hssk : CS.KeGroup.deriveScalar (p.serverRng.peek CS.KeGroup.SkLen) = .ok ssk) :
    HonestRun (keyExchange CS) :=
  let clientNonce := (p.clientRng.advance CS.KeGroup.SkLen).peek nonceLen
  let ke1Message : Ke1Message CS.KeGroup := ⟨clientNonce, CS.KeGroup.publicKey csk⟩
  let builder := Ke2Builder.ofCommon (.of p.credentialRequest ke1Message p.credentialResponse
    p.clientSPk p.identifiers p.context ssk ((p.serverRng.advance CS.KeGroup.SkLen).peek nonceLen))
  let input := DiffieHellman.diffieHellman p.serverSSk ke1Message.clientEPk
  let macs : MacPair CS.KeHash :=
    macPair builder.transcriptHasher.absorbed (serverIkm builder input)
  { p with
    ke1 := ⟨⟨csk, clientNonce⟩, ke1Message⟩
    builder, input
    ke2 := ⟨⟨macs.keys.sessionKey, macs.clientMac⟩,
      ⟨builder.serverNonce, builder.serverEPk, macs.serverMac⟩⟩
    ke1_eq := ⟨_, run_generateKe1_eq_ok.mpr ⟨csk, hcsk, rfl, rfl, rfl⟩⟩
    builder_eq := ⟨_, run_ke2Builder_eq_ok.mpr ⟨ssk, hssk, rfl, rfl⟩⟩
    ke2_eq := buildKe2_eq_ok.mpr ⟨hsize, rfl, rfl⟩ }

theorem completes (hdh : CS.KeGroup.DhCommutes) (h : HonestRun (keyExchange CS))
    (hinput : HonestInput h) (rng : Rng) : h.Completes rng := by
  obtain ⟨r₁, hke1⟩ := h.ke1_eq
  obtain ⟨csk, -, hstate₁, hmessage₁, -⟩ := run_generateKe1_eq_ok.mp hke1
  obtain ⟨r₂, hbuilder⟩ := h.builder_eq
  obtain ⟨ssk, -, hb, -⟩ := run_ke2Builder_eq_ok.mp hbuilder
  obtain ⟨hsize, hstate₂, hmessage₂⟩ := buildKe2_eq_ok.mp h.ke2_eq
  have hinput : h.input = _ := hinput
  -- The three products in the client's order are the server's.
  have hikm : clientIkm h.ke1.state h.ke2.message h.serverSPk h.clientSSk =
      serverIkm h.builder h.input := by
    have h₁ := hdh csk ssk
    have h₂ := hdh csk h.serverSSk
    have h₃ := hdh h.clientSSk ssk
    simp only [clientIkm, serverIkm, hinput, hstate₁, hmessage₁, hmessage₂, hb,
      Ke2Builder.ofCommon, Ke2BuilderCommon.of, HonestParties.clientSPk, HonestParties.serverSPk,
      h₁, h₂, h₃]
  refine ⟨_, rng, run_generateKe3_eq_ok.mpr ⟨hsize, rfl, ?_, rfl⟩, ?_⟩
  · rw [hikm, hmessage₂, hb]
    rfl
  · apply (finishKe_eq_ok h.ids h.context).mpr
    rw [hikm, hstate₂, hmessage₂, hb]
    exact ⟨rfl, rfl⟩

theorem succeeds (hdh : CS.KeGroup.DhCommutes) (p : HonestParties CS)
    (hsize : CS.KeHash.outputSize < 256) {csk ssk : CS.KeGroup.Sk}
    (hcsk : CS.KeGroup.deriveScalar (p.clientRng.peek CS.KeGroup.SkLen) = .ok csk)
    (hssk : CS.KeGroup.deriveScalar (p.serverRng.peek CS.KeGroup.SkLen) = .ok ssk) :
    (keyExchange CS).Succeeds p := by
  let h := honestRun p hsize hcsk hssk
  obtain ⟨r₁, hke1⟩ := h.ke1_eq
  obtain ⟨r₂, hbuilder⟩ := h.builder_eq
  exact ⟨h.ke1, h.builder, h.input, h.ke2, r₁, r₂, r₂, hke1, hbuilder, rfl, h.ke2_eq,
    completes hdh h rfl⟩

end TripleDh

/-! ### 3DH with a KEM -/

namespace TripleDhKem

variable [DiffieHellman CS.KeGroup] {K : KemCoreWrapper}

/-- The server multiplies its static key with the client's ephemeral key. -/
def HonestInput (h : HonestRun (keyExchange CS K)) : Prop :=
  h.input = DiffieHellman.diffieHellman h.serverSSk h.ke1.message.dhMessage.clientEPk

/-- With a local key `generate_ke2_input` computes the honest input. -/
theorem generateKe2Input_honest {h : HonestRun (keyExchange CS K)} {r r' : Rng}
    (hinput : ((keyExchange CS K).generateKe2Input h.builder h.serverSSk).run r =
      .ok (h.input, r')) : HonestInput h := by
  obtain ⟨rng, hbuilder⟩ := h.builder_eq
  obtain ⟨sk, ek, rest, ct, ss, -, -, -, hb⟩ := run_ke2Builder_eq_ok.mp hbuilder
  have hinput : Outcome.ok (ε := Error) (DiffieHellman.diffieHellman h.serverSSk
      h.builder.clientEPk, r) = .ok (h.input, r') := hinput
  simp only [Outcome.ok.injEq, Prod.mk.injEq] at hinput
  rw [HonestInput, ← hinput.1, hb]
  rfl

/-- The bytes the client hashes before the server's MAC. -/
def clientTranscript (h : HonestRun (keyExchange CS K)) : Bytes :=
  kemTranscript h.context h.identifiers h.credentialRequest h.ke1.message h.credentialResponse
    h.ke2.message.dhMessage.serverNonce h.ke2.message.dhMessage.serverEPk
    h.ke2.message.kemCiphertext

/-- Both parties hash the same bytes. -/
theorem transcripts_agree (h : HonestRun (keyExchange CS K)) :
    clientTranscript h = h.builder.transcriptHasher.absorbed := by
  obtain ⟨r₂, hbuilder⟩ := h.builder_eq
  obtain ⟨ssk, ek, rest, ct, ss, -, -, -, hb⟩ := run_ke2Builder_eq_ok.mp hbuilder
  obtain ⟨-, -, hmessage₂⟩ := buildKe2_eq_ok.mp h.ke2_eq
  rw [clientTranscript, hmessage₂, hb]
  rfl

/-- The client decapsulates the secret that the server encapsulated. -/
theorem decapsulates (hK : K.Correct) (h : HonestRun (keyExchange CS K)) :
    K.decapsulate h.ke1.state.kemDecapsulationKey h.ke2.message.kemCiphertext =
      .ok h.builder.kemSharedSecret := by
  obtain ⟨r₁, hke1⟩ := h.ke1_eq
  obtain ⟨base, s₁, dk, ek, -, hgen, hresult⟩ := run_generateKe1_eq_ok.mp hke1
  obtain ⟨r₂, hbuilder⟩ := h.builder_eq
  obtain ⟨ssk, ek', rest, ct, ss, -, hek, hct, hb⟩ := run_ke2Builder_eq_ok.mp hbuilder
  obtain ⟨-, -, hmessage₂⟩ := buildKe2_eq_ok.mp h.ke2_eq
  have hgenerated : K.Generated dk ek := ⟨s₁, r₁, hgen⟩
  -- The key the server parses is the key the client generated.
  have hparsed := (hK.encapsulationKey hgenerated).take_encode
  have hek : K.encapsulationKey.take.run (K.encapsulationKey.encode ek).bytes =
      .ok (ek', rest) := by
    rw [hresult] at hek
    exact hek
  rw [hparsed] at hek
  simp only [Outcome.ok.injEq, Prod.mk.injEq] at hek
  obtain ⟨rfl, -⟩ := hek
  rw [hresult, hmessage₂, hb]
  exact hK.decapsulates hgenerated hct

/-- The run of two parties whose ephemeral keys can be derived and whose KEM calls
    succeed. -/
def honestRun (p : HonestParties CS) (hK : K.Correct) (hsize : CS.KeHash.outputSize < 256)
    {csk ssk : CS.KeGroup.Sk} {dk : K.DecapsulationKey} {ek : K.EncapsulationKey}
    {ct : GenericArray K.CiphertextLen} {ss : GenericArray K.SharedSecretLen} {r r' : Rng}
    (hcsk : CS.KeGroup.deriveScalar (p.clientRng.peek CS.KeGroup.SkLen) = .ok csk)
    (hgen : K.generate.run ((p.clientRng.advance CS.KeGroup.SkLen).advance nonceLen) =
      .ok ((dk, ek), r))
    (hssk : CS.KeGroup.deriveScalar (p.serverRng.peek CS.KeGroup.SkLen) = .ok ssk)
    (hct : (K.encapsulate ek).run ((p.serverRng.advance CS.KeGroup.SkLen).advance nonceLen) =
      .ok ((ct, ss), r')) :
    HonestRun (keyExchange CS K) :=
  let clientNonce := (p.clientRng.advance CS.KeGroup.SkLen).peek nonceLen
  let ke1Message : KemKe1Message CS.KeGroup K :=
    ⟨⟨clientNonce, CS.KeGroup.publicKey csk⟩, K.serializeEncapsulationKey ek⟩
  let builder := KemKe2Builder.ofCommon (.of p.credentialRequest ke1Message.dhMessage
    p.credentialResponse p.clientSPk p.identifiers p.context ssk
    ((p.serverRng.advance CS.KeGroup.SkLen).peek nonceLen)) ke1Message.kemEncapsulationKey ct ss
  let input := DiffieHellman.diffieHellman p.serverSSk ke1Message.dhMessage.clientEPk
  let macs : MacPair CS.KeHash :=
    macPair builder.transcriptHasher.absorbed (serverIkm builder input)
  -- The encapsulation key is parsed on the other side, which gives the same key.
  have hek : K.deserializeEncapsulationKey.run ke1Message.kemEncapsulationKey.bytes =
      .ok (ek, []) :=
    (hK.encapsulationKey ⟨_, _, hgen⟩).take_encode
  { p with
    ke1 := ⟨⟨⟨csk, clientNonce⟩, dk⟩, ke1Message⟩
    builder, input
    ke2 := ⟨⟨⟨macs.keys.sessionKey, macs.clientMac⟩, builder.kemEncapsulationKey,
        builder.kemCiphertext⟩,
      ⟨⟨builder.serverNonce, builder.serverEPk, macs.serverMac⟩, builder.kemCiphertext⟩⟩
    ke1_eq := ⟨_, run_generateKe1_eq_ok.mpr ⟨⟨⟨csk, clientNonce⟩, ke1Message.dhMessage⟩, _, dk, ek,
      OpaqueVx.run_generateKe1_eq_ok.mpr ⟨csk, hcsk, rfl, rfl, rfl⟩, hgen, rfl⟩⟩
    builder_eq := ⟨_, run_ke2Builder_eq_ok.mpr ⟨ssk, ek, [], ct, ss, hssk, hek, hct, rfl⟩⟩
    ke2_eq := buildKe2_eq_ok.mpr ⟨hsize, rfl, rfl⟩ }

theorem completes (hdh : CS.KeGroup.DhCommutes) (hK : K.Correct)
    (h : HonestRun (keyExchange CS K)) (hinput : HonestInput h) (rng : Rng) :
    h.Completes rng := by
  have hss := decapsulates hK h
  have htranscript := transcripts_agree h
  obtain ⟨r₁, hke1⟩ := h.ke1_eq
  obtain ⟨base, s₁, dk, ek, hbase, -, hresult⟩ := run_generateKe1_eq_ok.mp hke1
  obtain ⟨csk, -, hstate₁, hmessage₁, -⟩ := OpaqueVx.run_generateKe1_eq_ok.mp hbase
  obtain ⟨r₂, hbuilder⟩ := h.builder_eq
  obtain ⟨ssk, ek', rest, ct, ss, -, -, -, hb⟩ := run_ke2Builder_eq_ok.mp hbuilder
  obtain ⟨hsize, hstate₂, hmessage₂⟩ := buildKe2_eq_ok.mp h.ke2_eq
  have hinput : h.input = _ := hinput
  -- Three products and the decapsulated secret, in one order on both sides.
  have hikm : clientIkm h.ke1.state h.ke2.message h.serverSPk h.clientSSk
      h.builder.kemSharedSecret = serverIkm h.builder h.input := by
    have h₁ := hdh csk ssk
    have h₂ := hdh csk h.serverSSk
    have h₃ := hdh h.clientSSk ssk
    simp only [clientIkm, serverIkm, hinput, hresult, hstate₁, hmessage₁, hmessage₂, hb,
      KemKe2Builder.ofCommon, Ke2BuilderCommon.of, HonestParties.clientSPk,
      HonestParties.serverSPk, h₁, h₂, h₃]
  have hmacs : macPair (clientTranscript h) (clientIkm h.ke1.state h.ke2.message h.serverSPk
        h.clientSSk h.builder.kemSharedSecret) =
      (macPair h.builder.transcriptHasher.absorbed (serverIkm h.builder h.input) :
        MacPair CS.KeHash) := by
    rw [htranscript, hikm]
  refine ⟨_, rng, run_generateKe3_eq_ok.mpr ⟨_, hss, hsize, rfl, ?_, rfl⟩, ?_⟩
  · show (macPair (clientTranscript h) _ : MacPair CS.KeHash).serverMac = _
    rw [hmacs, hmessage₂]
  · apply (finishKe_eq_ok h.ids h.context).mpr
    show _ = (macPair (clientTranscript h) _ : MacPair CS.KeHash).clientMac ∧
      (macPair (clientTranscript h) _ : MacPair CS.KeHash).keys.sessionKey = _
    rw [hmacs, hstate₂]
    exact ⟨rfl, rfl⟩

theorem succeeds (hdh : CS.KeGroup.DhCommutes) (hK : K.Correct) (p : HonestParties CS)
    (hsize : CS.KeHash.outputSize < 256) {csk ssk : CS.KeGroup.Sk} {dk : K.DecapsulationKey}
    {ek : K.EncapsulationKey} {ct : GenericArray K.CiphertextLen}
    {ss : GenericArray K.SharedSecretLen} {r r' : Rng}
    (hcsk : CS.KeGroup.deriveScalar (p.clientRng.peek CS.KeGroup.SkLen) = .ok csk)
    (hgen : K.generate.run ((p.clientRng.advance CS.KeGroup.SkLen).advance nonceLen) =
      .ok ((dk, ek), r))
    (hssk : CS.KeGroup.deriveScalar (p.serverRng.peek CS.KeGroup.SkLen) = .ok ssk)
    (hct : (K.encapsulate ek).run ((p.serverRng.advance CS.KeGroup.SkLen).advance nonceLen) =
      .ok ((ct, ss), r')) :
    (keyExchange CS K).Succeeds p := by
  let h := honestRun p hK hsize hcsk hgen hssk hct
  obtain ⟨r₁, hke1⟩ := h.ke1_eq
  obtain ⟨r₂, hbuilder⟩ := h.builder_eq
  exact ⟨h.ke1, h.builder, h.input, h.ke2, r₁, r₂, r₂, hke1, hbuilder, rfl, h.ke2_eq,
    completes hdh hK h rfl⟩

end TripleDhKem

end OpaqueVx
