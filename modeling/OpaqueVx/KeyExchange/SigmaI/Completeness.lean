import OpaqueVx.KeyExchange.Completeness
import OpaqueVx.KeyExchange.SigmaI.Signatures

/-! # Honest runs of SIGMA-I

  Whatever signs for the server, locally or elsewhere: if the signature is valid
  on the server's message and the verification state is the one the protocol
  documents, both parties accept. The argument needs of a signature protocol only
  which bytes it signs and verifies; each protocol states that about itself. -/

namespace OpaqueVx.SigmaI

open Lib

variable {CS : CipherSuite} {KE : Group}

/-! ### The two messages of a party -/

namespace Message

/-- The message to be verified, as `VerifyMessage::verify_message` assembles it. -/
def verifyMessage (self : Message CS KE) : List Bytes :=
  self.context.iter ++ self.postMessage .verify

/-- The identifier of the other party. -/
def peer (self : Message CS KE) : SerializedIdentifier CS.KeGroup :=
  match self.role with
  | .server => self.identifiers.client
  | .client => self.identifiers.server

/-- What a party has at hand when it verifies: the rest of the message is in the
    verification state. -/
def messageBuilder (self : Message CS KE) : MessageBuilder CS :=
  { role := self.role, context := self.context, identifier := self.peer }

/-- The message built from the cached part is the message to be verified. -/
theorem build_toCached (m : Message CS KE) :
    (m.messageBuilder.build m.toCached).verifyMessage = m.verifyMessage := by
  cases m with
  | mk role context identifiers cache => cases role <;> rfl

end Message

/-! ### What a signature protocol does -/

/-- A signature protocol signs the message to be signed, verifies the message to
    be verified, and keeps what it needs for the latter in its state. -/
structure SignatureSpec (SIG : SignatureProtocol CS KE) where
  /-- The signature is valid under the key on the slices. -/
  Valid : PublicKey CS.KeGroup → List Bytes → SIG.Signature → Prop
  /-- The documented verification state. -/
  verifyState : Message CS KE → SIG.VerifyState
  sign_valid : ∀ sk m r, ∃ signature r',
    (SIG.sign sk m).run r = .ok ((signature, verifyState m), r') ∧
      Valid (CS.KeGroup.publicKey sk) m.signMessage signature
  verify_iff : ∀ pk m signature,
    SIG.verify pk m.messageBuilder (verifyState m) signature = .ok () ↔
      Valid pk m.verifyMessage signature

/-- The server's input is a valid signature on its message, with the documented
    state. -/
def HonestInput [DiffieHellman KE] {SIG : SignatureProtocol CS KE} (S : SignatureSpec SIG)
    (h : HonestRun (keyExchange CS KE SIG)) : Prop :=
  S.Valid h.serverSPk h.builder.transcript.signMessage h.input.1 ∧
    h.input.2 = S.verifyState h.builder.transcript

section completeness

variable [DiffieHellman KE] {SIG : SignatureProtocol CS KE}

/-- The run of two parties whose ephemeral keys can be derived, with `signer`
    computing the server's input from the data of the builder. -/
def honestRun (p : HonestParties CS) (hsize : CS.KeHash.outputSize < 256) {csk ssk : KE.Sk}
    (hcsk : KE.deriveScalar (p.clientRng.peek KE.SkLen) = .ok csk)
    (hssk : KE.deriveScalar (p.serverRng.peek KE.SkLen) = .ok ssk)
    (signer : Message CS KE → SIG.Signature × SIG.VerifyState) :
    HonestRun (keyExchange CS KE SIG) :=
  let clientNonce := (p.clientRng.advance KE.SkLen).peek nonceLen
  let ke1Message : Ke1Message KE := ⟨clientNonce, KE.publicKey csk⟩
  let builder : Ke2Builder CS KE := .of p.credentialRequest ke1Message p.credentialResponse
    p.clientSPk p.identifiers p.context ssk ((p.serverRng.advance KE.SkLen).peek nonceLen)
  let input := signer builder.transcript
  { p with
    ke1 := ⟨⟨csk, clientNonce⟩, ke1Message⟩
    builder, input
    ke2 := ⟨⟨builder.clientSPk, builder.sessionKey, input.2, builder.expectedMac⟩,
      ⟨builder.serverNonce, builder.serverEPk, input.1, builder.transcript.cache.serverMac⟩⟩
    ke1_eq := ⟨_, run_generateKe1_eq_ok.mpr ⟨csk, hcsk, rfl, rfl, rfl⟩⟩
    builder_eq := ⟨_, run_ke2Builder_eq_ok.mpr ⟨hsize, ssk, hssk, rfl, rfl⟩⟩
    ke2_eq := rfl }

variable (S : SignatureSpec SIG)

/-- A signer that signs every message validly makes the input honest. -/
theorem honestRun_honest (p : HonestParties CS) (hsize : CS.KeHash.outputSize < 256)
    {csk ssk : KE.Sk} (hcsk : KE.deriveScalar (p.clientRng.peek KE.SkLen) = .ok csk)
    (hssk : KE.deriveScalar (p.serverRng.peek KE.SkLen) = .ok ssk)
    {signer : Message CS KE → SIG.Signature × SIG.VerifyState}
    (hsigner : ∀ m, S.Valid p.serverSPk m.signMessage (signer m).1 ∧
      (signer m).2 = S.verifyState m) :
    HonestInput S (honestRun p hsize hcsk hssk signer) :=
  hsigner _

/-- With a local key `generate_ke2_input` signs and returns the honest input. -/
theorem generateKe2Input_honest {h : HonestRun (keyExchange CS KE SIG)} {r r' : Rng}
    (hinput : ((keyExchange CS KE SIG).generateKe2Input h.builder h.serverSSk).run r =
      .ok (h.input, r')) : HonestInput S h := by
  obtain ⟨signature, r₁, hsign, hvalid⟩ := S.sign_valid h.serverSSk h.builder.transcript r
  have hsame : Outcome.ok (ε := Error) ((signature, S.verifyState h.builder.transcript), r₁) =
      .ok (h.input, r') := hsign.symm.trans hinput
  simp only [Outcome.ok.injEq, Prod.mk.injEq] at hsame
  rw [HonestInput, ← hsame.1]
  exact ⟨hvalid, rfl⟩

theorem completes (hdh : KE.DhCommutes) (h : HonestRun (keyExchange CS KE SIG))
    (hinput : HonestInput S h) (rng : Rng) : h.Completes rng := by
  obtain ⟨hvalid, hdocumented⟩ := hinput
  obtain ⟨r₁, hke1⟩ := h.ke1_eq
  obtain ⟨csk, -, hstate₁, hmessage₁, -⟩ := run_generateKe1_eq_ok.mp hke1
  obtain ⟨r₂, hbuilder⟩ := h.builder_eq
  obtain ⟨hsize, ssk, -, hb, -⟩ := run_ke2Builder_eq_ok.mp hbuilder
  have hke2 := h.ke2_eq
  injection hke2 with hke2
  obtain ⟨hidc, hids⟩ := SerializedIdentifiers.fromIdentifiers_eq_ok.mp h.identifiers_eq
  -- The one product is the same on both sides, so the keys are.
  have hdh' : DiffieHellman.diffieHellman h.ke1.state.clientESk h.ke2.message.serverEPk =
      DiffieHellman.diffieHellman ssk h.ke1.message.clientEPk := by
    rw [← hke2, hb, hstate₁, hmessage₁]
    exact hdh csk ssk
  let serverEPk := KE.serializePk (KE.publicKey ssk)
  let keys := sessionKeys h.context h.identifiers h.credentialRequest h.ke1.message.toIter
    h.credentialResponse h.builder.serverNonce serverEPk
    (DiffieHellman.diffieHellman ssk h.ke1.message.clientEPk)
  let message (role : Role) : Message CS KE := .of role h.context h.identifiers
    h.credentialRequest h.ke1.message.toIter h.credentialResponse h.builder.serverNonce
    serverEPk keys
  -- Both signed messages have the same data and differ in the role.
  have hserver : h.builder.transcript = message .server := by
    simp only [message, keys, serverEPk]
    rw [hb]
    rfl
  obtain ⟨signature, r', hsign, hsigned⟩ := S.sign_valid h.clientSSk (message .client) rng
  have hverify : SIG.verify h.serverSPk ⟨.client, h.context, h.identifiers.server⟩
      (S.verifyState (message .client)) h.input.1 = .ok () := by
    apply (S.verify_iff h.serverSPk (message .client) h.input.1).mpr
    rw [hserver] at hvalid
    exact hvalid
  have hverify' : SIG.verify h.clientSPk ⟨.server, h.context, h.identifiers.client⟩ h.input.2
      signature = .ok () := by
    rw [hdocumented, hserver]
    exact (S.verify_iff h.clientSPk (message .server) signature).mpr hsigned
  -- The client sees the values of the builder through the answer.
  have hepk : h.builder.serverEPk = KE.publicKey ssk := by
    rw [hb]
    rfl
  have hspk : h.builder.clientSPk = h.clientSPk := by
    rw [hb]
    rfl
  have hkeys : sessionKeys h.context h.identifiers h.credentialRequest h.ke1.message.toIter
      h.credentialResponse h.ke2.message.serverNonce (KE.serializePk h.ke2.message.serverEPk)
      (DiffieHellman.diffieHellman h.ke1.state.clientESk h.ke2.message.serverEPk) = keys := by
    rw [hdh', ← hke2]
    simp only [hepk, keys, serverEPk]
  refine ⟨_, r', run_generateKe3_eq_ok.mpr ⟨hsize, ?_, signature,
    S.verifyState (message .client), ?_, ?_, rfl⟩, ?_⟩
  · rw [hkeys, ← hke2, hserver]
    rfl
  · rw [hkeys, ← hke2]
    simp only [hepk]
    exact hsign
  · rw [← hke2]
    exact hverify
  · apply finishKe_eq_ok.mpr
    rw [hkeys, ← hke2]
    simp only [hspk]
    refine ⟨h.identifiers.client, SerializedIdentifier.fromIdentifier_eq_ok.mpr hidc, hverify',
      ?_, ?_⟩
    · simp only [keys, serverEPk]
      rw [hb]
      rfl
    · simp only [keys, serverEPk]
      rw [hb]
      rfl

include S in
theorem succeeds (hdh : KE.DhCommutes) (p : HonestParties CS)
    (hsize : CS.KeHash.outputSize < 256) {csk ssk : KE.Sk}
    (hcsk : KE.deriveScalar (p.clientRng.peek KE.SkLen) = .ok csk)
    (hssk : KE.deriveScalar (p.serverRng.peek KE.SkLen) = .ok ssk) :
    (keyExchange CS KE SIG).Succeeds p := by
  let r₂ := (p.serverRng.advance KE.SkLen).advance nonceLen
  obtain ⟨signature, hsign⟩ :=
    Classical.axiomOfChoice fun m => S.sign_valid p.serverSSk m r₂
  let h := honestRun p hsize hcsk hssk fun m => (signature m, S.verifyState m)
  have hinput : HonestInput S h :=
    honestRun_honest S p hsize hcsk hssk fun m => ⟨(hsign m).choose_spec.2, rfl⟩
  obtain ⟨r₁, hke1⟩ := h.ke1_eq
  obtain ⟨r₃, hsigned, -⟩ := hsign h.builder.transcript
  have hbuilder : (ke2Builder h.credentialRequest h.ke1.message h.credentialResponse
      h.clientSPk h.identifiers h.context).run p.serverRng = .ok (h.builder, r₂) :=
    run_ke2Builder_eq_ok.mpr ⟨hsize, ssk, hssk, rfl, rfl⟩
  exact ⟨h.ke1, h.builder, h.input, h.ke2, r₁, r₂, r₃, hke1, hbuilder, hsigned, h.ke2_eq,
    completes S hdh h hinput⟩

end completeness

/-! ### ECDSA -/

/-- A signature on a pre-hash verifies under the matching key. -/
def EcdsaCurve.Verifies {G : Group} (C : EcdsaCurve G) : Prop :=
  ∀ sk preHash ad,
    C.verifyPrehashed (G.publicKey sk) preHash (C.signPrehashedRfc6979 sk preHash ad) = true

theorem Message.hash_sign (m : Message CS KE) (H : Hash) :
    (m.hash H).sign.finalize = H.digest m.signMessage.flatten := by
  simp [hash, signMessage, Hasher.finalize]

theorem Message.hash_verify (m : Message CS KE) (H : Hash) :
    (m.hash H).verify.finalize = H.digest m.verifyMessage.flatten := by
  simp [hash, verifyMessage, Hasher.finalize]

/-- ECDSA signs the pre-hash and keeps the pre-hash of the message to be
    verified. -/
def Ecdsa.spec {C : EcdsaCurve CS.KeGroup} (hC : C.Verifies) (H : Hash) :
    SignatureSpec (Ecdsa.protocol C H : SignatureProtocol CS KE) where
  Valid pk message signature :=
    C.verifyPrehashed pk (H.digest message.flatten).bytes signature = true
  verifyState m := ⟨(m.hash H).verify.finalize⟩
  sign_valid sk m r := by
    refine ⟨_, r.advance C.FieldBytesSize, rfl, ?_⟩
    rw [← m.hash_sign]
    exact hC sk _ _
  verify_iff pk m signature := by
    rw [← m.hash_verify]
    show Ecdsa.verify C pk _ signature = .ok () ↔ _
    unfold Ecdsa.verify
    split
    · rename_i hvalid
      simp [hvalid]
    · rename_i hinvalid
      simp [hinvalid]

end OpaqueVx.SigmaI
