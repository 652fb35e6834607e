import OpaqueVx.KeyExchange.TripleDh

/-! # 3DH with a KEM

  3DH with a fourth secret: the client sends an encapsulation key, the server
  returns a ciphertext, and both go into the transcript. The encapsulation key
  travels as raw bytes and is parsed by the server only. -/

namespace OpaqueVx

open Lib

/-- `KemCoreWrapper`. -/
structure KemCoreWrapper where
  EncapsulationKey : Type
  DecapsulationKey : Type
  EncapsulationKeyLen : Nat
  DecapsulationKeyLen : Nat
  CiphertextLen : Nat
  SharedSecretLen : Nat
  generate : RngM Error (DecapsulationKey × EncapsulationKey)
  serializeEncapsulationKey : EncapsulationKey → GenericArray EncapsulationKeyLen
  deserializeEncapsulationKey : Reader Error EncapsulationKey
  serializeDecapsulationKey : DecapsulationKey → GenericArray DecapsulationKeyLen
  deserializeDecapsulationKey : Reader Error DecapsulationKey
  encapsulate : EncapsulationKey →
    RngM Error (GenericArray CiphertextLen × GenericArray SharedSecretLen)
  decapsulate : DecapsulationKey → GenericArray CiphertextLen →
    Outcome Error (GenericArray SharedSecretLen)

/-- A KEM of the `ml-kem` interface. Keys are stored as their exported bytes, a
    decapsulation key as its seed. -/
structure MlKem where
  EncapsulationKey : Type
  DecapsulationKey : Type
  EncapsulationKeyLen : Nat
  DecapsulationKeyLen : Nat
  CiphertextLen : Nat
  SharedSecretLen : Nat
  generateKeypairFromRng : RngM Error (DecapsulationKey × EncapsulationKey)
  encapsulationKeyToBytes : EncapsulationKey → GenericArray EncapsulationKeyLen
  /-- `TryKeyInit::new` -/
  tryNewEncapsulationKey : GenericArray EncapsulationKeyLen → Option EncapsulationKey
  decapsulationKeyToBytes : DecapsulationKey → GenericArray DecapsulationKeyLen
  /-- `KeyInit::new` -/
  newDecapsulationKey : GenericArray DecapsulationKeyLen → DecapsulationKey
  encapsulateWithRng : EncapsulationKey →
    RngM Error (GenericArray CiphertextLen × GenericArray SharedSecretLen)
  decapsulate : DecapsulationKey → GenericArray CiphertextLen → GenericArray SharedSecretLen

namespace MlKem

variable (K : MlKem)

def deserializeEncapsulationKey : Reader Error K.EncapsulationKey := do
  let bytes ← takeArray K.EncapsulationKeyLen "kem encapsulation key"
  (.okOr .serializationError (K.tryNewEncapsulationKey bytes) : Outcome Error _)

def deserializeDecapsulationKey : Reader Error K.DecapsulationKey := do
  let bytes ← takeArray K.DecapsulationKeyLen "kem decapsulation key"
  return K.newDecapsulationKey bytes

/-- The blanket implementation of `KemCoreWrapper`. -/
@[reducible] def core : KemCoreWrapper where
  EncapsulationKey := K.EncapsulationKey
  DecapsulationKey := K.DecapsulationKey
  EncapsulationKeyLen := K.EncapsulationKeyLen
  DecapsulationKeyLen := K.DecapsulationKeyLen
  CiphertextLen := K.CiphertextLen
  SharedSecretLen := K.SharedSecretLen
  generate := K.generateKeypairFromRng
  serializeEncapsulationKey := K.encapsulationKeyToBytes
  deserializeEncapsulationKey := K.deserializeEncapsulationKey
  serializeDecapsulationKey := K.decapsulationKeyToBytes
  deserializeDecapsulationKey := K.deserializeDecapsulationKey
  encapsulate := K.encapsulateWithRng
  decapsulate key encapsulatedKey := .ok (K.decapsulate key encapsulatedKey)

end MlKem

namespace TripleDhKem

/-- The state of 3DH and a decapsulation key. -/
structure KemKe1State (G : Group) (K : KemCoreWrapper) where
  dhState : Ke1State G
  kemDecapsulationKey : K.DecapsulationKey

/-- The message of 3DH and an encapsulation key. -/
@[ext] structure KemKe1Message (G : Group) (K : KemCoreWrapper) where
  dhMessage : Ke1Message G
  kemEncapsulationKey : GenericArray K.EncapsulationKeyLen

/-- The state of 3DH and what the server adds to the transcript. -/
structure KemKe2State (K : KemCoreWrapper) (H : Hash) where
  baseState : TripleDh.Ke2State H
  kemEncapsulationKey : GenericArray K.EncapsulationKeyLen
  serverKemCiphertext : GenericArray K.CiphertextLen
  deriving DecidableEq

/-- The parts of the builder of 3DH, the encapsulation key and what was made for it. -/
structure KemKe2Builder (G : Group) (H : Hash) (K : KemCoreWrapper) where
  serverNonce : GenericArray nonceLen
  transcriptHasher : Hasher H
  clientEPk : PublicKey G
  serverEPk : PublicKey G
  sharedSecret1 : GenericArray G.PkLen
  sharedSecret3 : GenericArray G.PkLen
  kemEncapsulationKey : GenericArray K.EncapsulationKeyLen
  kemCiphertext : GenericArray K.CiphertextLen
  kemSharedSecret : GenericArray K.SharedSecretLen

/-- The server's message of 3DH and a ciphertext. -/
structure KemKe2Message (G : Group) (H : Hash) (K : KemCoreWrapper) where
  dhMessage : TripleDh.Ke2Message G H
  kemCiphertext : GenericArray K.CiphertextLen

/-- The last message is that of 3DH. -/
abbrev KemKe3Message (H : Hash) := TripleDh.Ke3Message H

section protocol

variable {CS : CipherSuite} [DiffieHellman CS.KeGroup] {K : KemCoreWrapper}

variable (CS K) in
/-- `generate_ke1`: the key pair of the KEM is drawn last. -/
def generateKe1 :
    RngM Error (GenerateKe1Result (KemKe1State CS.KeGroup K) (KemKe1Message CS.KeGroup K)) := do
  let base ← OpaqueVx.generateKe1 CS.KeGroup
  let kem ← K.generate
  let kemEncapsulationKey := K.serializeEncapsulationKey kem.2
  return { state := { dhState := base.state, kemDecapsulationKey := kem.1 }
           message := { dhMessage := base.message, kemEncapsulationKey } }

/-- `ke2_builder`: encapsulates for the client. -/
def ke2Builder (credentialRequest : SerializedCredentialRequest CS)
    (ke1Message : KemKe1Message CS.KeGroup K)
    (credentialResponse : SerializedCredentialResponse CS) (clientSPk : PublicKey CS.KeGroup)
    (identifiers : SerializedIdentifiers CS.KeGroup) (context : SerializedContext) :
    RngM Error (KemKe2Builder CS.KeGroup CS.KeHash K) := do
  let common ← ke2BuilderCommon credentialRequest ke1Message.dhMessage credentialResponse
    clientSPk identifiers context
  -- The bytes after the key, if any, would be left in the slice and ignored.
  let encapsulationKey ←
    (K.deserializeEncapsulationKey.run ke1Message.kemEncapsulationKey.bytes : Outcome Error _)
  let encapsulated ← K.encapsulate encapsulationKey.1
  let transcriptHasher := common.transcriptHasher.update ke1Message.kemEncapsulationKey.bytes
  let transcriptHasher := transcriptHasher.update encapsulated.1.bytes
  return { serverNonce := common.serverNonce
           transcriptHasher
           clientEPk := common.clientEPk
           serverEPk := common.serverEPk
           sharedSecret1 := common.sharedSecret1
           sharedSecret3 := common.sharedSecret3
           kemEncapsulationKey := ke1Message.kemEncapsulationKey
           kemCiphertext := encapsulated.1
           kemSharedSecret := encapsulated.2 }

def ke2BuilderData (builder : KemKe2Builder CS.KeGroup CS.KeHash K) :
    PublicKey CS.KeGroup × GenericArray K.EncapsulationKeyLen :=
  (builder.clientEPk, builder.kemEncapsulationKey)

def generateKe2Input (builder : KemKe2Builder CS.KeGroup CS.KeHash K)
    (serverSSk : PrivateKey CS.KeGroup) : RngM Error (GenericArray CS.KeGroup.PkLen) :=
  return DiffieHellman.diffieHellman serverSSk builder.clientEPk

/-- `build_ke2`. -/
def buildKe2 (builder : KemKe2Builder CS.KeGroup CS.KeHash K)
    (sharedSecret2 : GenericArray CS.KeGroup.PkLen) :
    Outcome Error
      (GenerateKe2Result (KemKe2State K CS.KeHash) (KemKe2Message CS.KeGroup CS.KeHash K)) := do
  let transcriptDigest := builder.transcriptHasher.finalize
  let derivedKeys ← deriveKeys
    [builder.sharedSecret1.bytes, sharedSecret2.bytes, builder.sharedSecret3.bytes,
      builder.kemSharedSecret.bytes]
    transcriptDigest.bytes
  let macs ← computeKe2Macs builder.transcriptHasher derivedKeys transcriptDigest.bytes
  return { state := { baseState := { sessionKey := derivedKeys.sessionKey, expectedMac := macs.2 }
                      kemEncapsulationKey := builder.kemEncapsulationKey
                      serverKemCiphertext := builder.kemCiphertext }
           message := { dhMessage := { serverNonce := builder.serverNonce
                                       serverEPk := builder.serverEPk
                                       mac := macs.1 }
                        kemCiphertext := builder.kemCiphertext } }

/-- `generate_ke3`: decapsulates before the MAC is checked. -/
def generateKe3 (credentialRequest : SerializedCredentialRequest CS)
    (ke1Message : KemKe1Message CS.KeGroup K)
    (credentialResponse : SerializedCredentialResponse CS)
    (ke1State : KemKe1State CS.KeGroup K) (ke2Message : KemKe2Message CS.KeGroup CS.KeHash K)
    (serverSPk : PublicKey CS.KeGroup) (clientSSk : PrivateKey CS.KeGroup)
    (identifiers : SerializedIdentifiers CS.KeGroup) (context : SerializedContext) :
    RngM Error (GenerateKe3Result CS.KeHash (KemKe3Message CS.KeHash)) := do
  let transcriptHasher := transcript context identifiers credentialRequest
    ke1Message.dhMessage.toIter credentialResponse ke2Message.dhMessage.serverNonce
    (CS.KeGroup.serializePk ke2Message.dhMessage.serverEPk)
  let transcriptHasher := transcriptHasher.update ke1Message.kemEncapsulationKey.bytes
  let transcriptHasher := transcriptHasher.update ke2Message.kemCiphertext.bytes
  let clientESk := ke1State.dhState.clientESk
  let sharedSecret1 := DiffieHellman.diffieHellman clientESk ke2Message.dhMessage.serverEPk
  let sharedSecret2 := DiffieHellman.diffieHellman clientESk serverSPk
  let sharedSecret3 := DiffieHellman.diffieHellman clientSSk ke2Message.dhMessage.serverEPk
  let kemSharedSecret ← K.decapsulate ke1State.kemDecapsulationKey ke2Message.kemCiphertext
  let result ← finalizeKe3Transcript transcriptHasher
    [sharedSecret1.bytes, sharedSecret2.bytes, sharedSecret3.bytes, kemSharedSecret.bytes]
    ke2Message.dhMessage.mac
  return { sessionKey := result.1.sessionKey, message := { mac := result.2 } }

/-- The identifiers and the context are not looked at. -/
def finishKe {H : Hash} (ke2State : KemKe2State K H) (ke3Message : KemKe3Message H)
    (_ : Identifiers) (_ : SerializedContext) : Outcome Error (Output H) :=
  .okOr .invalidLoginError
    (if ke2State.baseState.expectedMac = ke3Message.mac then some ke2State.baseState.sessionKey
     else none)

/-! ### What each step computes -/

variable {credentialRequest : SerializedCredentialRequest CS}
  {ke1Message : KemKe1Message CS.KeGroup K}
  {credentialResponse : SerializedCredentialResponse CS} {clientSPk : PublicKey CS.KeGroup}
  {identifiers : SerializedIdentifiers CS.KeGroup} {context : SerializedContext}

omit [DiffieHellman CS.KeGroup] in
/-- The two parts of the first message belong to the two parts of the state. -/
theorem run_generateKe1_eq_ok {r r' : Rng}
    {result : GenerateKe1Result (KemKe1State CS.KeGroup K) (KemKe1Message CS.KeGroup K)} :
    (generateKe1 CS K).run r = .ok (result, r') ↔
      ∃ base r₁ dk ek, (OpaqueVx.generateKe1 CS.KeGroup).run r = .ok (base, r₁) ∧
        K.generate.run r₁ = .ok ((dk, ek), r') ∧
        result = ⟨⟨base.state, dk⟩, ⟨base.message, K.serializeEncapsulationKey ek⟩⟩ := by
  unfold generateKe1
  constructor
  · intro h
    obtain ⟨base, r₁, hbase, h⟩ := run_bind_eq_ok.mp h
    obtain ⟨⟨dk, ek⟩, r₂, hkem, h⟩ := run_bind_eq_ok.mp h
    simp only [StateT.run_pure, Outcome.pure_eq, Outcome.ok.injEq, Prod.mk.injEq] at h
    obtain ⟨rfl, rfl⟩ := h
    exact ⟨base, r₁, dk, ek, hbase, hkem, rfl⟩
  · rintro ⟨base, r₁, dk, ek, hbase, hkem, rfl⟩
    simp only [StateT.run_bind, hbase, Outcome.ok_bind, hkem, StateT.run_pure, Outcome.pure_eq]

/-- The builder made of the result of the common part and of the encapsulation. -/
def KemKe2Builder.ofCommon {G : Group} {H : Hash} (common : Ke2BuilderCommon G H)
    (kemEncapsulationKey : GenericArray K.EncapsulationKeyLen)
    (kemCiphertext : GenericArray K.CiphertextLen)
    (kemSharedSecret : GenericArray K.SharedSecretLen) : KemKe2Builder G H K where
  serverNonce := common.serverNonce
  transcriptHasher :=
    (common.transcriptHasher.update kemEncapsulationKey.bytes).update kemCiphertext.bytes
  clientEPk := common.clientEPk
  serverEPk := common.serverEPk
  sharedSecret1 := common.sharedSecret1
  sharedSecret3 := common.sharedSecret3
  kemEncapsulationKey
  kemCiphertext
  kemSharedSecret

/-- A builder has a fresh nonce, a fresh key and an encapsulation for the key that was sent. -/
theorem run_ke2Builder_eq_ok {r r' : Rng} {builder : KemKe2Builder CS.KeGroup CS.KeHash K} :
    (ke2Builder credentialRequest ke1Message credentialResponse clientSPk identifiers
        context).run r = .ok (builder, r') ↔
      ∃ sk ek rest ct ss, CS.KeGroup.deriveScalar (r.peek CS.KeGroup.SkLen) = .ok sk ∧
        K.deserializeEncapsulationKey.run ke1Message.kemEncapsulationKey.bytes = .ok (ek, rest) ∧
        (K.encapsulate ek).run ((r.advance CS.KeGroup.SkLen).advance nonceLen) =
          .ok ((ct, ss), r') ∧
        builder = .ofCommon (.of credentialRequest ke1Message.dhMessage credentialResponse
          clientSPk identifiers context sk ((r.advance CS.KeGroup.SkLen).peek nonceLen))
          ke1Message.kemEncapsulationKey ct ss := by
  unfold ke2Builder
  constructor
  · intro h
    obtain ⟨common, r₁, hcommon, h⟩ := run_bind_eq_ok.mp h
    obtain ⟨sk, hsk, rfl, rfl⟩ := run_ke2BuilderCommon_eq_ok.mp hcommon
    obtain ⟨⟨ek, rest⟩, hek, h⟩ := run_lift_bind_eq_ok.mp h
    obtain ⟨⟨ct, ss⟩, r₃, hct, h⟩ := run_bind_eq_ok.mp h
    simp only [StateT.run_pure, Outcome.pure_eq, Outcome.ok.injEq, Prod.mk.injEq] at h
    obtain ⟨rfl, rfl⟩ := h
    exact ⟨sk, ek, rest, ct, ss, hsk, hek, hct, rfl⟩
  · rintro ⟨sk, ek, rest, ct, ss, hsk, hek, hct, rfl⟩
    refine run_bind_eq_ok.mpr ⟨_, _, run_ke2BuilderCommon_eq_ok.mpr ⟨sk, hsk, rfl, rfl⟩, ?_⟩
    exact run_lift_bind_eq_ok.mpr ⟨(ek, rest), hek, run_bind_eq_ok.mpr ⟨(ct, ss), r', hct, rfl⟩⟩

/-- The input key material on the server. -/
def serverIkm {G : Group} {H : Hash} (builder : KemKe2Builder G H K)
    (sharedSecret2 : GenericArray G.PkLen) : Bytes :=
  [builder.sharedSecret1.bytes, sharedSecret2.bytes, builder.sharedSecret3.bytes,
    builder.kemSharedSecret.bytes].flatten

/-- The input key material on the client, with a decapsulated secret. -/
def clientIkm (ke1State : KemKe1State CS.KeGroup K)
    (ke2Message : KemKe2Message CS.KeGroup CS.KeHash K) (serverSPk : PublicKey CS.KeGroup)
    (clientSSk : PrivateKey CS.KeGroup) (kemSharedSecret : GenericArray K.SharedSecretLen) :
    Bytes :=
  [(DiffieHellman.diffieHellman ke1State.dhState.clientESk ke2Message.dhMessage.serverEPk).bytes,
    (DiffieHellman.diffieHellman ke1State.dhState.clientESk serverSPk).bytes,
    (DiffieHellman.diffieHellman clientSSk ke2Message.dhMessage.serverEPk).bytes,
    kemSharedSecret.bytes].flatten

omit [DiffieHellman CS.KeGroup] in
theorem buildKe2_eq_ok {builder : KemKe2Builder CS.KeGroup CS.KeHash K}
    {sharedSecret2 : GenericArray CS.KeGroup.PkLen}
    {result : GenerateKe2Result (KemKe2State K CS.KeHash)
      (KemKe2Message CS.KeGroup CS.KeHash K)} :
    buildKe2 builder sharedSecret2 = .ok result ↔
      CS.KeHash.outputSize < 256 ∧
        let macs := macPair builder.transcriptHasher.absorbed (serverIkm builder sharedSecret2)
        result.state = ⟨⟨macs.keys.sessionKey, macs.clientMac⟩, builder.kemEncapsulationKey,
            builder.kemCiphertext⟩ ∧
          result.message = ⟨⟨builder.serverNonce, builder.serverEPk, macs.serverMac⟩,
            builder.kemCiphertext⟩ := by
  unfold buildKe2
  constructor
  · intro h
    obtain ⟨keys, hkeys, h⟩ := Outcome.bind_eq_ok.mp h
    obtain ⟨hsize, rfl⟩ := deriveKeys_eq_ok.mp hkeys
    rw [computeKe2Macs_eq] at h
    simp only [Outcome.ok_bind, Outcome.pure_eq, Outcome.ok.injEq] at h
    subst h
    exact ⟨hsize, rfl, rfl⟩
  · rintro ⟨hsize, hstate, hmessage⟩
    simp only [deriveKeys_eq, if_pos hsize, computeKe2Macs_eq, Outcome.ok_bind, Outcome.pure_eq]
    cases result
    simp only at hstate hmessage
    rw [hstate, hmessage]
    rfl

/-- The bytes both parties hash before the server's MAC: the common transcript,
    the encapsulation key and the ciphertext. -/
def kemTranscript (context : SerializedContext) (identifiers : SerializedIdentifiers CS.KeGroup)
    (credentialRequest : SerializedCredentialRequest CS)
    (ke1Message : KemKe1Message CS.KeGroup K)
    (credentialResponse : SerializedCredentialResponse CS) (serverNonce : GenericArray nonceLen)
    (serverEPk : PublicKey CS.KeGroup) (kemCiphertext : GenericArray K.CiphertextLen) : Bytes :=
  (transcript context identifiers credentialRequest ke1Message.dhMessage.toIter
    credentialResponse serverNonce (CS.KeGroup.serializePk serverEPk)).absorbed ++
    ke1Message.kemEncapsulationKey.bytes ++ kemCiphertext.bytes

/-- The client goes on exactly with the MAC that it computes itself. -/
theorem run_generateKe3_eq_ok {ke1State : KemKe1State CS.KeGroup K}
    {ke2Message : KemKe2Message CS.KeGroup CS.KeHash K} {serverSPk : PublicKey CS.KeGroup}
    {clientSSk : PrivateKey CS.KeGroup} {r r' : Rng}
    {result : GenerateKe3Result CS.KeHash (KemKe3Message CS.KeHash)} :
    (generateKe3 credentialRequest ke1Message credentialResponse ke1State ke2Message serverSPk
        clientSSk identifiers context).run r = .ok (result, r') ↔
      ∃ ss, K.decapsulate ke1State.kemDecapsulationKey ke2Message.kemCiphertext = .ok ss ∧
        CS.KeHash.outputSize < 256 ∧ r' = r ∧
        let macs : MacPair CS.KeHash := macPair
          (kemTranscript context identifiers credentialRequest ke1Message credentialResponse
            ke2Message.dhMessage.serverNonce ke2Message.dhMessage.serverEPk
            ke2Message.kemCiphertext)
          (clientIkm ke1State ke2Message serverSPk clientSSk ss)
        macs.serverMac = ke2Message.dhMessage.mac ∧
          result = ⟨macs.keys.sessionKey, ⟨macs.clientMac⟩⟩ := by
  unfold generateKe3
  constructor
  · intro h
    obtain ⟨ss, hss, h⟩ := run_lift_bind_eq_ok.mp h
    obtain ⟨⟨keys, clientMac⟩, hfinal, h⟩ := run_lift_bind_eq_ok.mp h
    obtain ⟨hsize, rfl, hmac, rfl⟩ := finalizeKe3Transcript_eq_ok.mp hfinal
    simp only [StateT.run_pure, Outcome.pure_eq, Outcome.ok.injEq, Prod.mk.injEq] at h
    obtain ⟨rfl, rfl⟩ := h
    refine ⟨ss, hss, hsize, rfl, hmac, ?_⟩
    rw [← hmac]
    rfl
  · rintro ⟨ss, hss, hsize, rfl, hmac, rfl⟩
    refine run_lift_bind_eq_ok.mpr ⟨ss, hss, run_lift_bind_eq_ok.mpr
      ⟨(_, _), finalizeKe3Transcript_eq_ok.mpr ⟨hsize, rfl, hmac, rfl⟩, ?_⟩⟩
    rw [← hmac]
    rfl

/-- The server accepts exactly the MAC that it expects. -/
theorem finishKe_eq_ok {H : Hash} {ke2State : KemKe2State K H} {ke3Message : KemKe3Message H}
    {key : Output H} (ids : Identifiers) (ctx : SerializedContext) :
    finishKe ke2State ke3Message ids ctx = .ok key ↔
      ke2State.baseState.expectedMac = ke3Message.mac ∧
        key = ke2State.baseState.sessionKey := by
  unfold finishKe
  rw [Outcome.okOr_eq_ok]
  split
  · rename_i h
    simp [h, eq_comm]
  · rename_i h
    simp [h]

end protocol

/-! ### Wire formats -/

section wire

variable {G : Group} {H : Hash} {K : KemCoreWrapper}

namespace KemKe1State

def serialize (s : KemKe1State G K) :
    GenericArray (G.SkLen + nonceLen + K.DecapsulationKeyLen) :=
  s.dhState.serialize.cat (K.serializeDecapsulationKey s.kemDecapsulationKey)

def deserializeTake : Reader Error (KemKe1State G K) := do
  let dhState ← Ke1State.deserializeTake
  let kemDecapsulationKey ← K.deserializeDecapsulationKey
  return { dhState, kemDecapsulationKey }

end KemKe1State

namespace KemKe1Message

def serialize (m : KemKe1Message G K) :
    GenericArray (nonceLen + G.PkLen + K.EncapsulationKeyLen) :=
  m.dhMessage.serialize.cat m.kemEncapsulationKey

def deserializeTake : Reader Error (KemKe1Message G K) := do
  let dhMessage ← Ke1Message.deserializeTake
  let kemEncapsulationKey ← takeArray K.EncapsulationKeyLen "kem encapsulation key"
  return { dhMessage, kemEncapsulationKey }

end KemKe1Message

namespace KemKe2State

def serialize (s : KemKe2State K H) :
    GenericArray (H.outputSize + H.outputSize + K.EncapsulationKeyLen + K.CiphertextLen) :=
  (s.baseState.serialize.cat s.kemEncapsulationKey).cat s.serverKemCiphertext

def deserializeTake : Reader Error (KemKe2State K H) := do
  let baseState ← TripleDh.Ke2State.deserializeTake
  let kemEncapsulationKey ← takeArray K.EncapsulationKeyLen "kem encapsulation key"
  let serverKemCiphertext ← takeArray K.CiphertextLen "kem ciphertext"
  return { baseState, kemEncapsulationKey, serverKemCiphertext }

end KemKe2State

namespace KemKe2Message

def serialize (m : KemKe2Message G H K) :
    GenericArray (nonceLen + G.PkLen + H.outputSize + K.CiphertextLen) :=
  m.dhMessage.serialize.cat m.kemCiphertext

def deserializeTake : Reader Error (KemKe2Message G H K) := do
  let dhMessage ← TripleDh.Ke2Message.deserializeTake
  let kemCiphertext ← takeArray K.CiphertextLen "kem ciphertext"
  return { dhMessage, kemCiphertext }

end KemKe2Message

end wire

/-- `KeyExchange for TripleDhKem`. -/
@[reducible] def keyExchange (CS : CipherSuite) [DiffieHellman CS.KeGroup] (K : KemCoreWrapper) :
    KeyExchange CS where
  KE1State := KemKe1State CS.KeGroup K
  KE2State := KemKe2State K CS.KeHash
  KE1Message := KemKe1Message CS.KeGroup K
  KE2Builder := KemKe2Builder CS.KeGroup CS.KeHash K
  KE2BuilderData := PublicKey CS.KeGroup × GenericArray K.EncapsulationKeyLen
  KE2BuilderInput := GenericArray CS.KeGroup.PkLen
  KE2Message := KemKe2Message CS.KeGroup CS.KeHash K
  KE3Message := KemKe3Message CS.KeHash
  generateKe1 := generateKe1 CS K
  ke2Builder := ke2Builder
  ke2BuilderData := ke2BuilderData
  generateKe2Input := generateKe2Input
  buildKe2 := buildKe2
  generateKe3 := generateKe3
  finishKe := finishKe
  ke1State := ⟨_, KemKe1State.serialize, KemKe1State.deserializeTake⟩
  ke1Message := ⟨_, KemKe1Message.serialize, KemKe1Message.deserializeTake⟩
  ke2State := ⟨_, KemKe2State.serialize, KemKe2State.deserializeTake⟩
  ke2Message := ⟨_, KemKe2Message.serialize, KemKe2Message.deserializeTake⟩
  ke3Message := ⟨_, TripleDh.Ke3Message.serialize, TripleDh.Ke3Message.deserializeTake⟩

end TripleDhKem

end OpaqueVx
