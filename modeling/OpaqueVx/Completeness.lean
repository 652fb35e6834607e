import OpaqueVx.Reference

/-! # Completeness of the other key exchanges

  SIGMA-I completes with each of the signature protocols, whoever signs for the
  server. 3DH with a KEM completes whether a message or the client's state is
  kept in memory or written down and read back on its way. -/

namespace OpaqueVx

open Lib

/-! ### SIGMA-I -/

namespace SigmaI

/-- SIGMA-I completes for ECDSA over any curve and for both protocols of Ed25519, if
    the server's input is a valid signature with the documented state. -/
theorem completes_each_protocol :
    (∀ (CS : CipherSuite) (KE : Group) [DiffieHellman KE] (C : EcdsaCurve CS.KeGroup) (H : Hash)
      (h : HonestRun (keyExchange CS KE (Ecdsa.protocol C H))),
      KE.DhCommutes → C.Verifies →
      C.verifyPrehashed h.serverSPk (H.digest h.builder.transcript.signMessage.flatten).bytes
        h.input.1 = true →
      h.input.2 = ⟨(h.builder.transcript.hash H).verify.finalize⟩ →
      ∀ rng, h.Completes rng) ∧
    (∀ (E : Curve25519Dalek.EdwardsCurve) (V : Voprf) (H : Hash) (F : Ksf) (KE : Group)
      [DiffieHellman KE]
      (h : HonestRun (keyExchange (Ed25519.suite E V H F) KE
        (HashEddsa.protocol (Ed25519.hashEddsa E V H F KE)))),
      KE.DhCommutes →
      Ed25519.Valid h.serverSPk true
        [(E.Sha512.digest h.builder.transcript.signMessage.flatten).bytes] h.input.1 →
      h.input.2 = ⟨(h.builder.transcript.hash E.Sha512).verify.finalize⟩ →
      ∀ rng, h.Completes rng) ∧
    (∀ (E : Curve25519Dalek.EdwardsCurve) (V : Voprf) (H : Hash) (F : Ksf) (KE : Group)
      [DiffieHellman KE]
      (h : HonestRun (keyExchange (Ed25519.suite E V H F) KE
        (PureEddsa.protocol (Ed25519.pureEddsa E V H F KE)))),
      KE.DhCommutes →
      Ed25519.Valid h.serverSPk false h.builder.transcript.signMessage h.input.1 →
      h.input.2 = h.builder.transcript.toCached →
      ∀ rng, h.Completes rng) := by
  refine ⟨?_, ?_, ?_⟩
  · intro CS KE _ C H h hdh hC hvalid hstate rng
    exact completes (Ecdsa.spec hC H) hdh h ⟨hvalid, hstate⟩ rng
  · intro E V H F KE _ h hdh hvalid hstate rng
    exact completes (Ed25519.hashEddsaSpec E V H F KE) hdh h ⟨hvalid, hstate⟩ rng
  · intro E V H F KE _ h hdh hvalid hstate rng
    exact completes (Ed25519.pureEddsaSpec E V H F KE) hdh h ⟨hvalid, hstate⟩ rng

/-- The runs of the reference instantiation complete. -/
theorem completes_each_protocol_reference :
    (∀ rng, Reference.sigmaRun.Completes rng) ∧
    (∀ rng, Reference.hashEddsaRun.Completes rng) ∧
    (∀ rng, Reference.pureEddsaRun.Completes rng) := by
  obtain ⟨hecdsa, hhash, hpure⟩ := completes_each_protocol
  have hdh := Reference.group_dhCommutes
  refine ⟨?_, ?_, ?_⟩
  · exact hecdsa Reference.suite Reference.group Reference.curve Reference.hash
      Reference.sigmaRun hdh Reference.curve_verifies (Reference.signer_valid _) rfl
  · refine hhash Reference.edwards Reference.voprf Reference.hash .identity Reference.group
      Reference.hashEddsaRun hdh ?_ rfl
    rw [← Message.hash_sign]
    exact Ed25519.sign_valid _ true _
  · exact hpure Reference.edwards Reference.voprf Reference.hash .identity Reference.group
      Reference.pureEddsaRun hdh (Ed25519.sign_valid _ false _) rfl

end SigmaI

/-! ### 3DH with a KEM -/

/-- Hands a value over. It is kept in memory, or written down in front of other
    bytes and read back. -/
def relay {α : Type} (c : Codec Error α) (written : Option Bytes) (v : α) : Outcome Error α :=
  match written with
  | none => .ok v
  | some rest => do
    let result ← c.take.run ((c.encode v).bytes ++ rest)
    return result.1

theorem relay_eq {α : Type} {c : Codec Error α} {v : α} (h : c.ReadsBack v)
    (written : Option Bytes) : relay c written v = .ok v := by
  cases written with
  | none => rfl
  | some rest =>
    show (c.take.run ((c.encode v).bytes ++ rest) >>= fun result => .ok result.1) = .ok v
    rw [h rest]
    rfl

namespace TripleDhKem

variable {CS : CipherSuite} [DiffieHellman CS.KeGroup]

/-- How an exchange takes place: which values are written down on their way, and
    whether the server's static key is used elsewhere. -/
structure Route where
  clientState : Option Bytes
  ke1Sent : Option Bytes
  ke1Kept : Option Bytes
  ke2Sent : Option Bytes
  remoteKey : Bool

/-- What the parties of an exchange have in the end. -/
structure Exchanged (CS : CipherSuite) (K : KemCoreWrapper) where
  ke1Kept : KemKe1Message CS.KeGroup K
  builder : KemKe2Builder CS.KeGroup CS.KeHash K
  ke2Received : KemKe2Message CS.KeGroup CS.KeHash K
  clientKey : Output CS.KeHash
  serverKey : Output CS.KeHash

/-- The server's second product, computed by `generate_ke2_input` or from
    `ke2_builder_data` by whoever holds the key. -/
def ke2Input {K : KemCoreWrapper} (builder : KemKe2Builder CS.KeGroup CS.KeHash K)
    (serverSSk : PrivateKey CS.KeGroup) (remoteKey : Bool) (rng : Rng) :
    Outcome Error (GenericArray CS.KeGroup.PkLen) :=
  if remoteKey then
    .ok (DiffieHellman.diffieHellman serverSSk (ke2BuilderData builder).1)
  else do
    let (input, _) ← (generateKe2Input builder serverSSk).run rng
    return input

theorem ke2Input_eq {K : KemCoreWrapper} (builder : KemKe2Builder CS.KeGroup CS.KeHash K)
    (serverSSk : PrivateKey CS.KeGroup) (remoteKey : Bool) (rng : Rng) :
    ke2Input builder serverSSk remoteKey rng =
      .ok (DiffieHellman.diffieHellman serverSSk builder.clientEPk) := by
  cases remoteKey with
  | true => rfl
  | false => rfl

/-- An exchange from `generate_ke1` to `finish_ke`. -/
def exchange (K : KemCoreWrapper) (p : HonestParties CS) (route : Route) :
    Outcome Error (Exchanged CS K) := do
  let KE := keyExchange CS K
  let (ke1, clientRng) ← KE.generateKe1.run p.clientRng
  let ke1State ← relay KE.ke1State route.clientState ke1.state
  let ke1Kept ← relay KE.ke1Message route.ke1Kept ke1.message
  let ke1Received ← relay KE.ke1Message route.ke1Sent ke1.message
  let (builder, serverRng) ← (KE.ke2Builder p.credentialRequest ke1Received p.credentialResponse
    p.clientSPk p.identifiers p.context).run p.serverRng
  let input ← ke2Input builder p.serverSSk route.remoteKey serverRng
  let ke2 ← KE.buildKe2 builder input
  let ke2Received ← relay KE.ke2Message route.ke2Sent ke2.message
  let (ke3, _) ← (KE.generateKe3 p.credentialRequest ke1Kept p.credentialResponse ke1State
    ke2Received p.serverSPk p.clientSSk p.identifiers p.context).run clientRng
  let serverKey ← KE.finishKe ke2.state ke3.message p.ids p.context
  return { ke1Kept, builder, ke2Received, clientKey := ke3.sessionKey, serverKey }

/-- The bytes the client hashes before the server's MAC. -/
def Exchanged.clientTranscript {K : KemCoreWrapper} (e : Exchanged CS K) (p : HonestParties CS) :
    Bytes :=
  kemTranscript p.context p.identifiers p.credentialRequest e.ke1Kept p.credentialResponse
    e.ke2Received.dhMessage.serverNonce e.ke2Received.dhMessage.serverEPk
    e.ke2Received.kemCiphertext

/-- An exchange follows the honest run of its parties, on every route. -/
theorem exchange_of_honestRun {K : KemCoreWrapper} (hdh : CS.KeGroup.DhCommutes) (hK : K.Correct)
    (hkey : CS.KeGroup.KeyEncoding .roundTrip) (h : HonestRun (keyExchange CS K))
    (hinput : HonestInput h) (route : Route) :
    ∃ key, exchange K h.toHonestParties route =
      .ok ⟨h.ke1.message, h.builder, h.ke2.message, key, key⟩ := by
  obtain ⟨r₁, hke1⟩ := h.ke1_eq
  obtain ⟨r₂, hbuilder⟩ := h.builder_eq
  obtain ⟨ke3, r₃, hke3, hfinish⟩ := completes hdh hK h hinput r₁
  -- What is written down is read back: the keys of the state come from the generator.
  have hstate : ((keyExchange CS K).ke1State).ReadsBack h.ke1.state := by
    obtain ⟨base, s₁, dk, ek, -, hgen, hresult⟩ := run_generateKe1_eq_ok.mp hke1
    have hdk : h.ke1.state.kemDecapsulationKey = dk := by rw [hresult]
    apply KemKe1State.codec_readsBack hkey.sk
    rw [hdk]
    exact hK.decapsulationKey ⟨s₁, r₁, hgen⟩
  have hlaws := messageLaws (K := K) (L := .roundTrip) hkey.pk
  have hepk : h.builder.clientEPk = h.ke1.message.dhMessage.clientEPk := by
    obtain ⟨sk, ek, rest, ct, ss, -, -, -, hb⟩ := run_ke2Builder_eq_ok.mp hbuilder
    rw [hb]
    rfl
  have hsecret : ∀ rng, ke2Input h.builder h.serverSSk route.remoteKey rng = .ok h.input := by
    intro rng
    have hinput : h.input = _ := hinput
    rw [ke2Input_eq, hepk, hinput]
  refine ⟨ke3.sessionKey, ?_⟩
  have hke2 : buildKe2 h.builder h.input = .ok h.ke2 := h.ke2_eq
  have hke3 : (generateKe3 h.credentialRequest h.ke1.message h.credentialResponse h.ke1.state
      h.ke2.message h.serverSPk h.clientSSk h.identifiers h.context).run r₁ = .ok (ke3, r₃) :=
    hke3
  have hfinish : finishKe h.ke2.state ke3.message h.ids h.context = .ok ke3.sessionKey := hfinish
  simp only [exchange, hke1, Outcome.ok_bind, relay_eq hstate, relay_eq (hlaws.ke1Message _),
    hbuilder, hsecret, hke2, relay_eq (hlaws.ke2Message _), hke3, hfinish]
  rfl

/-- 3DH with a KEM completes: both parties hash the same bytes, with the
    encapsulation key and the ciphertext at the end, and derive the same session
    key, whichever values are written down on their way and wherever the server's
    static key is. -/
theorem exchange_completes (K : MlKem) (hdh : CS.KeGroup.DhCommutes) (hK : K.Correct)
    (hkey : CS.KeGroup.KeyEncoding .roundTrip) (hsize : CS.KeHash.outputSize < 256)
    (p : HonestParties CS) (route : Route) {csk ssk : CS.KeGroup.Sk} {dk : K.DecapsulationKey}
    {ek : K.EncapsulationKey} {ct : GenericArray K.CiphertextLen}
    {ss : GenericArray K.SharedSecretLen} {r r' : Rng}
    (hcsk : CS.KeGroup.deriveScalar (p.clientRng.peek CS.KeGroup.SkLen) = .ok csk)
    (hgen : K.generateKeypairFromRng.run
      ((p.clientRng.advance CS.KeGroup.SkLen).advance nonceLen) = .ok ((dk, ek), r))
    (hssk : CS.KeGroup.deriveScalar (p.serverRng.peek CS.KeGroup.SkLen) = .ok ssk)
    (hct : (K.encapsulateWithRng ek).run
      ((p.serverRng.advance CS.KeGroup.SkLen).advance nonceLen) = .ok ((ct, ss), r')) :
    ∃ e : Exchanged CS K.core, exchange K.core p route = .ok e ∧
      e.clientKey = e.serverKey ∧
      e.clientTranscript p = e.builder.transcriptHasher.absorbed ∧
      e.builder.transcriptHasher.absorbed =
        (transcript p.context p.identifiers p.credentialRequest e.ke1Kept.dhMessage.toIter
          p.credentialResponse e.builder.serverNonce
          (CS.KeGroup.serializePk e.builder.serverEPk)).absorbed ++
          (K.encapsulationKeyToBytes ek).bytes ++ ct.bytes := by
  let h : HonestRun (keyExchange CS K.core) :=
    honestRun p hK.core hsize hcsk hgen hssk hct
  obtain ⟨key, hexchange⟩ := exchange_of_honestRun hdh hK.core hkey h rfl route
  exact ⟨_, hexchange, rfl, transcripts_agree h, rfl⟩

/-- The reference instantiation, with everything written down. -/
theorem exchange_completes_reference :
    ∃ e : Exchanged Reference.suite Reference.mlKem.core,
      exchange Reference.mlKem.core Reference.parties
        ⟨some [], some [1], some [], some [2, 3], true⟩ = .ok e ∧ e.clientKey = e.serverKey := by
  obtain ⟨e, hexchange, hkeys, -⟩ := exchange_completes Reference.mlKem
    Reference.group_dhCommutes Reference.mlKem_correct Reference.group_keyEncoding.of_lawful
    (by decide) Reference.parties ⟨some [], some [1], some [], some [2, 3], true⟩ rfl rfl rfl rfl
  exact ⟨e, hexchange, hkeys⟩

end TripleDhKem

end OpaqueVx
