import OpaqueVx.Lib.Collision
import OpaqueVx.Reference

/-! # Acceptance implies agreement

  Whatever the inputs of a client run and of a server run are, and whichever
  sessions they belong to: a finalization of the one that the other accepts
  means that both had the same session and computed the same key, unless the two
  runs exhibit a collision of the hash, of HKDF or of HMAC. -/

namespace OpaqueVx

open Lib

variable {CS : CipherSuite}

/-! ### Calls of the primitives -/

inductive PrimKind where
  | digest
  | extract
  | expand (n : Nat)
  | hmac
  deriving DecidableEq

/-- A call of a primitive with its input. -/
inductive PrimCall where
  | digest (input : Bytes)
  | extract (ikm : Bytes)
  | expand (prk info : Bytes) (n : Nat)
  | hmac (key data : Bytes)
  deriving DecidableEq

namespace PrimCall

def kind : PrimCall → PrimKind
  | digest _ => .digest
  | extract _ => .extract
  | expand _ _ n => .expand n
  | hmac _ _ => .hmac

def output (H : Hash) : PrimCall → Bytes
  | digest input => (H.digest input).bytes
  | extract ikm => (H.extract ikm).bytes
  | expand prk info n => (H.expand prk info n).bytes
  | hmac key data => (H.hmac key data).bytes

end PrimCall

/-- The two runs contain a collision of the hash, HKDF-Extract, HKDF-Expand or
    HMAC. -/
abbrev ExhibitsCollision (H : Hash) (xs ys : List PrimCall) : Prop :=
  Exhibits PrimCall.kind (PrimCall.output H) xs ys

/-- The calls of `derive_keys`. -/
def scheduleCalls (H : Hash) (ikm digest : Bytes) : List PrimCall :=
  let prk := (H.extract ikm).bytes
  let secret := (handshakeSecret H ikm digest).bytes
  [.extract ikm,
    .expand prk (labelInfo H strHandshakeSecret digest) H.outputSize,
    .expand prk (labelInfo H strSessionKey digest) H.outputSize,
    .expand secret (labelInfo H strServerMac []) H.outputSize,
    .expand secret (labelInfo H strClientMac []) H.outputSize]

/-- The calls behind `macPair`: the digest, the key schedule and the two MACs. -/
def macCalls (H : Hash) (absorbed ikm : Bytes) : List PrimCall :=
  let digest := (H.digest absorbed).bytes
  let macs : MacPair H := macPair absorbed ikm
  let finalized := absorbed ++ macs.serverMac.bytes
  [.digest absorbed] ++ scheduleCalls H ikm digest ++
    [.hmac macs.keys.km2.bytes digest, .digest finalized,
      .hmac macs.keys.km3.bytes (H.digest finalized).bytes]

/-- The calls of one party of SIGMA-I: the digest, the key schedule and the MACs
    over the two encoded identifiers. -/
def partyCalls (H : Hash) (absorbed ikm server client : Bytes) : List PrimCall :=
  let digest := (H.digest absorbed).bytes
  let keys := keySchedule H ikm digest
  [.digest absorbed] ++ scheduleCalls H ikm digest ++
    [.hmac keys.km2.bytes server, .hmac keys.km3.bytes client]

/-! ### Following a MAC back to the session -/

section chain

variable {H : Hash} {xs ys : List PrimCall}

theorem scheduleCalls_subset (absorbed ikm : Bytes) :
    ∀ c ∈ scheduleCalls H ikm (H.digest absorbed).bytes, c ∈ macCalls H absorbed ikm := by
  intro c hc
  simp [macCalls, hc]

/-- Equal client MAC keys come from the same transcript digest, and then the
    session keys are equal. -/
theorem keySchedule_agree (h : ¬ ExhibitsCollision H xs ys) {ikm ikm' : Bytes}
    {digest digest' : Output H} (hx : ∀ c ∈ scheduleCalls H ikm digest.bytes, c ∈ xs)
    (hy : ∀ c ∈ scheduleCalls H ikm' digest'.bytes, c ∈ ys)
    (hkm3 : (keySchedule H ikm digest.bytes).km3 = (keySchedule H ikm' digest'.bytes).km3) :
    digest = digest' ∧
      (keySchedule H ikm digest.bytes).sessionKey =
        (keySchedule H ikm' digest'.bytes).sessionKey := by
  -- HKDF-Expand under the handshake secret: the secrets agree.
  have hsecret := eq_of_not_exhibits h
    (hx (.expand (handshakeSecret H ikm digest.bytes).bytes (labelInfo H strClientMac [])
      H.outputSize) (by simp [scheduleCalls]))
    (hy (.expand (handshakeSecret H ikm' digest'.bytes).bytes (labelInfo H strClientMac [])
      H.outputSize) (by simp [scheduleCalls]))
    rfl (congrArg GenericArray.bytes hkm3)
  have hsecret : (handshakeSecret H ikm digest.bytes).bytes =
      (handshakeSecret H ikm' digest'.bytes).bytes := by
    injection hsecret
  -- HKDF-Expand once more: the pseudorandom keys agree, and so do the digests in the infos.
  have hprk := eq_of_not_exhibits h
    (hx (.expand (H.extract ikm).bytes (labelInfo H strHandshakeSecret digest.bytes)
      H.outputSize) (by simp [scheduleCalls]))
    (hy (.expand (H.extract ikm').bytes (labelInfo H strHandshakeSecret digest'.bytes)
      H.outputSize) (by simp [scheduleCalls]))
    rfl hsecret
  injection hprk with hprk hinfo _
  have hdigest : digest = digest' :=
    GenericArray.bytes_injective (labelInfo_inj hinfo (by simp))
  subst hdigest
  refine ⟨rfl, ?_⟩
  simp only [keySchedule, hprk]

/-- Equal client MACs come from the same transcript, and then the session keys are
    equal. -/
theorem macPair_agree {absorbed absorbed' ikm ikm' : Bytes}
    (h : ¬ ExhibitsCollision H (macCalls H absorbed ikm) (macCalls H absorbed' ikm'))
    (hmac : (macPair absorbed ikm : MacPair H).clientMac = (macPair absorbed' ikm').clientMac) :
    absorbed = absorbed' ∧
      (macPair absorbed ikm : MacPair H).keys.sessionKey =
        (macPair absorbed' ikm').keys.sessionKey := by
  -- HMAC: the key `km3` and the digest of the finished transcript agree.
  have hcall := eq_of_not_exhibits h
    (a := .hmac (macPair absorbed ikm : MacPair H).keys.km3.bytes
      (H.digest (absorbed ++ (macPair absorbed ikm : MacPair H).serverMac.bytes)).bytes)
    (b := .hmac (macPair absorbed' ikm' : MacPair H).keys.km3.bytes
      (H.digest (absorbed' ++ (macPair absorbed' ikm' : MacPair H).serverMac.bytes)).bytes)
    (by simp [macCalls]) (by simp [macCalls]) rfl (congrArg GenericArray.bytes hmac)
  injection hcall with hkm3 hdigest
  -- Hash: the finished transcripts agree, and both end in a MAC of hash length.
  have hcall := eq_of_not_exhibits h
    (a := .digest (absorbed ++ (macPair absorbed ikm : MacPair H).serverMac.bytes))
    (b := .digest (absorbed' ++ (macPair absorbed' ikm' : MacPair H).serverMac.bytes))
    (by simp [macCalls]) (by simp [macCalls]) rfl hdigest
  injection hcall with hfinal
  obtain ⟨habsorbed, -⟩ := GenericArray.append_inj' hfinal
  have hkeys := keySchedule_agree h (scheduleCalls_subset absorbed ikm)
    (scheduleCalls_subset absorbed' ikm') (GenericArray.bytes_injective hkm3)
  exact ⟨habsorbed, hkeys.2⟩

theorem scheduleCalls_subset_party (absorbed ikm server client : Bytes) :
    ∀ c ∈ scheduleCalls H ikm (H.digest absorbed).bytes,
      c ∈ partyCalls H absorbed ikm server client := by
  intro c hc
  simp [partyCalls, hc]

/-- A client MAC of SIGMA-I is over the client's identifier only: the transcript
    follows from the key. -/
theorem identifierMac_agree {absorbed absorbed' ikm ikm' server server' client client' : Bytes}
    (h : ¬ ExhibitsCollision H (partyCalls H absorbed ikm server client)
      (partyCalls H absorbed' ikm' server' client'))
    (hmac : H.hmac (keySchedule H ikm (H.digest absorbed).bytes).km3.bytes client =
      H.hmac (keySchedule H ikm' (H.digest absorbed').bytes).km3.bytes client') :
    absorbed = absorbed' ∧
      (keySchedule H ikm (H.digest absorbed).bytes).sessionKey =
        (keySchedule H ikm' (H.digest absorbed').bytes).sessionKey := by
  have hcall := eq_of_not_exhibits h
    (a := .hmac (keySchedule H ikm (H.digest absorbed).bytes).km3.bytes client)
    (b := .hmac (keySchedule H ikm' (H.digest absorbed').bytes).km3.bytes client')
    (by simp [partyCalls]) (by simp [partyCalls]) rfl (congrArg GenericArray.bytes hmac)
  injection hcall with hkm3 _
  obtain ⟨hdigest, hkey⟩ := keySchedule_agree h (scheduleCalls_subset_party _ _ _ _)
    (scheduleCalls_subset_party _ _ _ _) (GenericArray.bytes_injective hkm3)
  have hcall := eq_of_not_exhibits h (a := .digest absorbed) (b := .digest absorbed')
    (by simp [partyCalls]) (by simp [partyCalls]) rfl (congrArg GenericArray.bytes hdigest)
  injection hcall with habsorbed
  exact ⟨habsorbed, hkey⟩

end chain

/-! ### Runs of the two parties -/

/-- The inputs of one run of `generate_ke3`. -/
structure ClientRun (KE : KeyExchange CS) where
  credentialRequest : SerializedCredentialRequest CS
  ke1Message : KE.KE1Message
  credentialResponse : SerializedCredentialResponse CS
  ke1State : KE.KE1State
  ke2Message : KE.KE2Message
  serverSPk : PublicKey CS.KeGroup
  clientSSk : PrivateKey CS.KeGroup
  identifiers : SerializedIdentifiers CS.KeGroup
  context : SerializedContext
  rng : Rng

/-- The inputs of one run of `ke2_builder` and `build_ke2`. -/
structure ServerRun (KE : KeyExchange CS) where
  credentialRequest : SerializedCredentialRequest CS
  ke1Message : KE.KE1Message
  credentialResponse : SerializedCredentialResponse CS
  clientSPk : PublicKey CS.KeGroup
  identifiers : SerializedIdentifiers CS.KeGroup
  context : SerializedContext
  rng : Rng
  input : KE.KE2BuilderInput

/-- The client's run returns `result`. -/
def ClientRun.Returns {KE : KeyExchange CS} (c : ClientRun KE)
    (result : GenerateKe3Result CS.KeHash KE.KE3Message) : Prop :=
  ∃ rng', (KE.generateKe3 c.credentialRequest c.ke1Message c.credentialResponse c.ke1State
    c.ke2Message c.serverSPk c.clientSSk c.identifiers c.context).run c.rng = .ok (result, rng')

/-- The server's run makes `builder` and returns `result`. -/
def ServerRun.Returns {KE : KeyExchange CS} (s : ServerRun KE) (builder : KE.KE2Builder)
    (result : GenerateKe2Result KE.KE2State KE.KE2Message) : Prop :=
  (∃ rng', (KE.ke2Builder s.credentialRequest s.ke1Message s.credentialResponse s.clientSPk
    s.identifiers s.context).run s.rng = .ok (builder, rng')) ∧
    KE.buildKe2 builder s.input = .ok result

/-- What is observed of the runs of a key exchange: the session each party takes
    part in, the ephemeral keys of client and server as it sees them, and the
    calls it makes. -/
structure Observation (KE : KeyExchange CS) where
  EphemeralGroup : Group
  Session : Type
  clientSession : ClientRun KE → Session
  serverSession : ServerRun KE → KE.KE2Message → Session
  clientEphemerals : ClientRun KE → EphemeralGroup.Pk × EphemeralGroup.Pk
  serverEphemerals : ServerRun KE → KE.KE2Message → EphemeralGroup.Pk × EphemeralGroup.Pk
  clientCalls : ClientRun KE → List PrimCall
  serverCalls : ServerRun KE → KE.KE2Builder → List PrimCall

/-- A run of a client and a run of a server, in any sessions, of which the server
    accepts the client's finalization, with any identifiers and context at the last
    step. -/
structure Acceptance (KE : KeyExchange CS) where
  client : ClientRun KE
  sent : GenerateKe3Result CS.KeHash KE.KE3Message
  server : ServerRun KE
  builder : KE.KE2Builder
  made : GenerateKe2Result KE.KE2State KE.KE2Message
  ids : Identifiers
  context : SerializedContext
  key : Output CS.KeHash
  clientReturns : client.Returns sent
  serverReturns : server.Returns builder made
  accepts : KE.finishKe made.state sent.message ids context = .ok key

/-- An honest run that completes is accepted. -/
theorem HonestRun.Completes.exists_acceptance {KE : KeyExchange CS} {h : HonestRun KE} {rng : Rng}
    (hc : h.Completes rng) : Nonempty (Acceptance KE) := by
  obtain ⟨ke3, rng', hke3, hfinish⟩ := hc
  exact ⟨
    { client :=
        { credentialRequest := h.credentialRequest
          ke1Message := h.ke1.message
          credentialResponse := h.credentialResponse
          ke1State := h.ke1.state
          ke2Message := h.ke2.message
          serverSPk := h.serverSPk
          clientSSk := h.clientSSk
          identifiers := h.identifiers
          context := h.context
          rng }
      server :=
        { credentialRequest := h.credentialRequest
          ke1Message := h.ke1.message
          credentialResponse := h.credentialResponse
          clientSPk := h.clientSPk
          identifiers := h.identifiers
          context := h.context
          rng := h.serverRng
          input := h.input }
      sent := ke3
      builder := h.builder
      made := h.ke2
      ids := h.ids
      context := h.context
      key := ke3.sessionKey
      clientReturns := ⟨rng', hke3⟩
      serverReturns := ⟨h.builder_eq, h.ke2_eq⟩
      accepts := hfinish }⟩

/-- A server that accepts has the client's session key and session, or the two
    runs exhibit a collision. The encoded ephemeral keys are part of the session;
    the keys themselves agree as well when the encoding is injective. -/
def AcceptanceImpliesAgreement (KE : KeyExchange CS) (O : Observation KE) : Prop :=
  ∀ a : Acceptance KE,
    (a.key = a.sent.sessionKey ∧
      O.clientSession a.client = O.serverSession a.server a.made.message ∧
      ((∀ p q, O.EphemeralGroup.serializePk p = O.EphemeralGroup.serializePk q → p = q) →
        O.clientEphemerals a.client = O.serverEphemerals a.server a.made.message)) ∨
      ExhibitsCollision CS.KeHash (O.clientCalls a.client) (O.serverCalls a.server a.builder)

theorem AcceptanceImpliesAgreement.of_runs {KE : KeyExchange CS} {O : Observation KE}
    (h : ∀ c sent s builder made ids context key, ClientRun.Returns c sent →
      ServerRun.Returns s builder made →
      KE.finishKe made.state sent.message ids context = .ok key →
      (key = sent.sessionKey ∧ O.clientSession c = O.serverSession s made.message ∧
        ((∀ p q, O.EphemeralGroup.serializePk p = O.EphemeralGroup.serializePk q → p = q) →
          O.clientEphemerals c = O.serverEphemerals s made.message)) ∨
        ExhibitsCollision CS.KeHash (O.clientCalls c) (O.serverCalls s builder)) :
    AcceptanceImpliesAgreement KE O := by
  intro a
  exact h a.client a.sent a.server a.builder a.made a.ids a.context a.key a.clientReturns
    a.serverReturns a.accepts

/-! ### 3DH -/

namespace TripleDh

variable [DiffieHellman CS.KeGroup]

/-- The client's session. -/
def clientSession (c : ClientRun (keyExchange CS)) : SessionView CS CS.KeGroup :=
  .of c.context c.identifiers c.credentialRequest c.ke1Message.toIter c.credentialResponse
    c.ke2Message.serverNonce (CS.KeGroup.serializePk c.ke2Message.serverEPk)

/-- The server's session, with the nonce and the key it sends. -/
def serverSession (s : ServerRun (keyExchange CS)) (m : Ke2Message CS.KeGroup CS.KeHash) :
    SessionView CS CS.KeGroup :=
  .of s.context s.identifiers s.credentialRequest s.ke1Message.toIter s.credentialResponse
    m.serverNonce (CS.KeGroup.serializePk m.serverEPk)

variable (CS) in
@[reducible] def observation : Observation (keyExchange CS) where
  EphemeralGroup := CS.KeGroup
  Session := SessionView CS CS.KeGroup
  clientSession := clientSession
  serverSession := serverSession
  clientEphemerals c := (c.ke1Message.clientEPk, c.ke2Message.serverEPk)
  serverEphemerals s m := (s.ke1Message.clientEPk, m.serverEPk)
  clientCalls c := macCalls CS.KeHash
    (transcript c.context c.identifiers c.credentialRequest c.ke1Message.toIter
      c.credentialResponse c.ke2Message.serverNonce
      (CS.KeGroup.serializePk c.ke2Message.serverEPk)).absorbed
    (clientIkm c.ke1State c.ke2Message c.serverSPk c.clientSSk)
  serverCalls s builder := macCalls CS.KeHash builder.transcriptHasher.absorbed
    (serverIkm builder s.input)

theorem agreement : AcceptanceImpliesAgreement (keyExchange CS) (observation CS) := by
  apply AcceptanceImpliesAgreement.of_runs
  intro c sent s builder made ids context key hclient hserver hfinish
  obtain ⟨rng', hclient⟩ := hclient
  obtain ⟨⟨rngS', hbuilder⟩, hbuild⟩ := hserver
  obtain ⟨sk, -, rfl, -⟩ := run_ke2Builder_eq_ok.mp hbuilder
  obtain ⟨-, hstate, hmessage⟩ := buildKe2_eq_ok.mp hbuild
  obtain ⟨-, -, -, rfl⟩ := run_generateKe3_eq_ok.mp hclient
  obtain ⟨hmac, rfl⟩ := (finishKe_eq_ok ids context).mp hfinish
  -- Both sides are now explicit; without a collision the MACs lead back to the sessions.
  apply or_exhibits
  intro hno
  rw [hstate] at hmac ⊢
  obtain ⟨habsorbed, hkey⟩ := macPair_agree hno hmac.symm
  obtain ⟨hsession, -⟩ := transcript_append_inj (congrArg (· ++ []) habsorbed)
  refine ⟨hkey.symm, ?_, ?_⟩
  · show clientSession c = serverSession s made.message
    rw [serverSession, hmessage]
    exact hsession
  · intro hinj
    have hepk := congrArg (fun v => v.ke1Message.clientEPk) hsession
    have hsepk := congrArg SessionView.serverEPk hsession
    show (_, _) = (_, _)
    rw [hmessage]
    exact Prod.ext (hinj _ _ hepk) (hinj _ _ hsepk)

end TripleDh

/-! ### 3DH with a KEM -/

namespace TripleDhKem

variable [DiffieHellman CS.KeGroup] {K : KemCoreWrapper}

/-- A session of 3DH together with the encapsulation key and the ciphertext. -/
abbrev Session (CS : CipherSuite) (K : KemCoreWrapper) :=
  SessionView CS CS.KeGroup × GenericArray K.EncapsulationKeyLen × GenericArray K.CiphertextLen

/-- The client's calls; there are none before the decapsulation. -/
def clientCalls (c : ClientRun (keyExchange CS K)) : List PrimCall :=
  match K.decapsulate c.ke1State.kemDecapsulationKey c.ke2Message.kemCiphertext with
  | .ok ss => macCalls CS.KeHash
      (kemTranscript c.context c.identifiers c.credentialRequest c.ke1Message
        c.credentialResponse c.ke2Message.dhMessage.serverNonce
        c.ke2Message.dhMessage.serverEPk c.ke2Message.kemCiphertext)
      (clientIkm c.ke1State c.ke2Message c.serverSPk c.clientSSk ss)
  | _ => []

variable (CS K) in
@[reducible] def observation : Observation (keyExchange CS K) where
  EphemeralGroup := CS.KeGroup
  Session := Session CS K
  clientSession c :=
    (.of c.context c.identifiers c.credentialRequest c.ke1Message.dhMessage.toIter
      c.credentialResponse c.ke2Message.dhMessage.serverNonce
      (CS.KeGroup.serializePk c.ke2Message.dhMessage.serverEPk),
      c.ke1Message.kemEncapsulationKey, c.ke2Message.kemCiphertext)
  serverSession s m :=
    (.of s.context s.identifiers s.credentialRequest s.ke1Message.dhMessage.toIter
      s.credentialResponse m.dhMessage.serverNonce
      (CS.KeGroup.serializePk m.dhMessage.serverEPk),
      s.ke1Message.kemEncapsulationKey, m.kemCiphertext)
  clientEphemerals c := (c.ke1Message.dhMessage.clientEPk, c.ke2Message.dhMessage.serverEPk)
  serverEphemerals s m := (s.ke1Message.dhMessage.clientEPk, m.dhMessage.serverEPk)
  clientCalls := clientCalls
  serverCalls s builder := macCalls CS.KeHash builder.transcriptHasher.absorbed
    (serverIkm builder s.input)

theorem agreement : AcceptanceImpliesAgreement (keyExchange CS K) (observation CS K) := by
  apply AcceptanceImpliesAgreement.of_runs
  intro c sent s builder made ids context key hclient hserver hfinish
  obtain ⟨rng', hclient⟩ := hclient
  obtain ⟨⟨rngS', hbuilder⟩, hbuild⟩ := hserver
  obtain ⟨sk, ek, rest, ct, ss, -, -, -, rfl⟩ := run_ke2Builder_eq_ok.mp hbuilder
  obtain ⟨-, hstate, hmessage⟩ := buildKe2_eq_ok.mp hbuild
  obtain ⟨ss', hss', -, -, -, rfl⟩ := run_generateKe3_eq_ok.mp hclient
  obtain ⟨hmac, rfl⟩ := (finishKe_eq_ok ids context).mp hfinish
  apply or_exhibits
  intro hno
  -- The secret that the client decapsulates need not be the one of the server.
  simp only [clientCalls, hss'] at hno
  rw [hstate] at hmac ⊢
  obtain ⟨habsorbed, hkey⟩ := macPair_agree hno hmac.symm
  -- The encapsulation key and the ciphertext end the transcript.
  simp only [kemTranscript, List.append_assoc, Hasher.absorbed_update,
    KemKe2Builder.ofCommon] at habsorbed
  obtain ⟨hsession, hkem⟩ := transcript_append_inj habsorbed
  obtain ⟨hek, hct⟩ := GenericArray.append_inj hkem
  have hct := GenericArray.bytes_injective hct
  refine ⟨hkey.symm, ?_, ?_⟩
  · show (_, _, _) = (_, _, _)
    rw [hmessage]
    exact Prod.ext hsession (Prod.ext hek hct)
  · intro hinj
    have hepk := congrArg (fun v => v.ke1Message.clientEPk) hsession
    have hsepk := congrArg SessionView.serverEPk hsession
    show (_, _) = (_, _)
    rw [hmessage]
    exact Prod.ext (hinj _ _ hepk) (hinj _ _ hsepk)

end TripleDhKem

/-! ### SIGMA-I -/

namespace SigmaI

variable {KE : Group} [DiffieHellman KE] {SIG : SignatureProtocol CS KE}

/-- The server's calls; there are none before its ephemeral key is derived. -/
def serverCalls (s : ServerRun (keyExchange CS KE SIG)) : List PrimCall :=
  match KE.deriveScalar (s.rng.peek KE.SkLen) with
  | .ok sk => partyCalls CS.KeHash
      (transcript s.context s.identifiers s.credentialRequest s.ke1Message.toIter
        s.credentialResponse ((s.rng.advance KE.SkLen).peek nonceLen)
        (KE.serializePk (KE.publicKey sk))).absorbed
      (DiffieHellman.diffieHellman sk s.ke1Message.clientEPk).bytes
      s.identifiers.server.iter.flatten s.identifiers.client.iter.flatten
  | _ => []

variable (CS KE SIG) in
@[reducible] def observation : Observation (keyExchange CS KE SIG) where
  EphemeralGroup := KE
  Session := SessionView CS KE
  clientSession c :=
    .of c.context c.identifiers c.credentialRequest c.ke1Message.toIter c.credentialResponse
      c.ke2Message.serverNonce (KE.serializePk c.ke2Message.serverEPk)
  serverSession s m :=
    .of s.context s.identifiers s.credentialRequest s.ke1Message.toIter s.credentialResponse
      m.serverNonce (KE.serializePk m.serverEPk)
  clientEphemerals c := (c.ke1Message.clientEPk, c.ke2Message.serverEPk)
  serverEphemerals s m := (s.ke1Message.clientEPk, m.serverEPk)
  clientCalls c := partyCalls CS.KeHash
    (transcript c.context c.identifiers c.credentialRequest c.ke1Message.toIter
      c.credentialResponse c.ke2Message.serverNonce
      (KE.serializePk c.ke2Message.serverEPk)).absorbed
    (DiffieHellman.diffieHellman c.ke1State.clientESk c.ke2Message.serverEPk).bytes
    c.identifiers.server.iter.flatten c.identifiers.client.iter.flatten
  serverCalls s _ := serverCalls s

theorem agreement : AcceptanceImpliesAgreement (keyExchange CS KE SIG) (observation CS KE SIG) := by
  apply AcceptanceImpliesAgreement.of_runs
  intro c sent s builder made ids context key hclient hserver hfinish
  obtain ⟨rng', hclient⟩ := hclient
  obtain ⟨⟨rngS', hbuilder⟩, hbuild⟩ := hserver
  obtain ⟨-, sk, hsk, rfl, -⟩ := run_ke2Builder_eq_ok.mp hbuilder
  obtain ⟨-, -, signature, state, -, -, rfl⟩ := run_generateKe3_eq_ok.mp hclient
  -- The server made its MACs with the builder; the build only adds the signature.
  injection hbuild with hbuild
  subst hbuild
  obtain ⟨identifier, -, -, hmac, rfl⟩ := finishKe_eq_ok.mp hfinish
  apply or_exhibits
  intro hno
  simp only [serverCalls, hsk] at hno
  obtain ⟨habsorbed, hkey⟩ := identifierMac_agree hno hmac.symm
  obtain ⟨hsession, -⟩ := transcript_append_inj (congrArg (· ++ []) habsorbed)
  refine ⟨hkey.symm, hsession, ?_⟩
  intro hinj
  have hepk := congrArg (fun v => v.ke1Message.clientEPk) hsession
  have hsepk := congrArg SessionView.serverEPk hsession
  exact Prod.ext (hinj _ _ hepk) (hinj _ _ hsepk)

end SigmaI

/-! ### All key exchanges -/

/-- Acceptance implies agreement for each of the three key exchanges. -/
theorem acceptance_implies_agreement (CS : CipherSuite) :
    (∀ [DiffieHellman CS.KeGroup],
      AcceptanceImpliesAgreement (TripleDh.keyExchange CS) (TripleDh.observation CS)) ∧
    (∀ [DiffieHellman CS.KeGroup] (K : KemCoreWrapper),
      AcceptanceImpliesAgreement (TripleDhKem.keyExchange CS K) (TripleDhKem.observation CS K)) ∧
    (∀ (KE : Group) [DiffieHellman KE] (SIG : SigmaI.SignatureProtocol CS KE),
      AcceptanceImpliesAgreement (SigmaI.keyExchange CS KE SIG)
        (SigmaI.observation CS KE SIG)) := by
  refine ⟨?_, ?_, ?_⟩
  · intro _
    exact TripleDh.agreement
  · intro _ K
    exact TripleDhKem.agreement
  · intro KE _ SIG
    exact SigmaI.agreement

/-- The reference instantiation has accepting runs of each key exchange. -/
theorem acceptance_implies_agreement_reference :
    (∃ a : Acceptance (TripleDh.keyExchange Reference.suite), a.key = a.sent.sessionKey ∨
      ExhibitsCollision Reference.hash ((TripleDh.observation Reference.suite).clientCalls a.client)
        ((TripleDh.observation Reference.suite).serverCalls a.server a.builder)) ∧
    (∃ a : Acceptance (TripleDhKem.keyExchange Reference.suite Reference.mlKem.core),
      a.key = a.sent.sessionKey ∨
      ExhibitsCollision Reference.hash
        ((TripleDhKem.observation Reference.suite Reference.mlKem.core).clientCalls a.client)
        ((TripleDhKem.observation Reference.suite Reference.mlKem.core).serverCalls a.server
          a.builder)) ∧
    (∃ a : Acceptance (SigmaI.keyExchange Reference.suite Reference.group Reference.ecdsa),
      a.key = a.sent.sessionKey ∨
      ExhibitsCollision Reference.hash
        ((SigmaI.observation Reference.suite Reference.group _).clientCalls a.client)
        ((SigmaI.observation Reference.suite Reference.group _).serverCalls a.server
          a.builder)) := by
  obtain ⟨hdh, hkem, hsigma⟩ := acceptance_implies_agreement Reference.suite
  refine ⟨?_, ?_, ?_⟩
  · obtain ⟨a⟩ := (TripleDh.completes Reference.group_dhCommutes Reference.tripleDhRun rfl
      Reference.rng).exists_acceptance
    exact ⟨a, (hdh a).imp_left And.left⟩
  · obtain ⟨a⟩ := (TripleDhKem.completes Reference.group_dhCommutes Reference.mlKem_correct.core
      Reference.kemRun rfl Reference.rng).exists_acceptance
    exact ⟨a, (hkem _ a).imp_left And.left⟩
  · obtain ⟨a⟩ := (SigmaI.completes Reference.ecdsaSpec Reference.group_dhCommutes
      Reference.sigmaRun Reference.sigmaRun_honest Reference.rng).exists_acceptance
    exact ⟨a, (hsigma Reference.group _ a).imp_left And.left⟩

end OpaqueVx
