import OpaqueVx.KeyExchange.Schedule

/-! # 3DH

  The key exchange of three Diffie-Hellman products, both sides confirmed by a
  MAC over the transcript. -/

namespace OpaqueVx.TripleDh

open Lib

/-- What the server keeps until the client's MAC comes. -/
@[ext] structure Ke2State (H : Hash) where
  sessionKey : Output H
  expectedMac : Output H
  deriving DecidableEq

/-- All that the second message takes but the product with the server's private key. -/
structure Ke2Builder (G : Group) (H : Hash) where
  serverNonce : GenericArray nonceLen
  transcriptHasher : Hasher H
  clientEPk : PublicKey G
  serverEPk : PublicKey G
  sharedSecret1 : GenericArray G.PkLen
  sharedSecret3 : GenericArray G.PkLen

/-- The server's message. -/
@[ext] structure Ke2Message (G : Group) (H : Hash) where
  serverNonce : GenericArray nonceLen
  serverEPk : PublicKey G
  mac : Output H

/-- The client's second message. -/
@[ext] structure Ke3Message (H : Hash) where
  mac : Output H
  deriving DecidableEq

section protocol

variable {CS : CipherSuite} [DiffieHellman CS.KeGroup]

/-- `ke2_builder`: two of the three products are computed here. -/
def ke2Builder (credentialRequest : SerializedCredentialRequest CS)
    (ke1Message : Ke1Message CS.KeGroup) (credentialResponse : SerializedCredentialResponse CS)
    (clientSPk : PublicKey CS.KeGroup) (identifiers : SerializedIdentifiers CS.KeGroup)
    (context : SerializedContext) : RngM Error (Ke2Builder CS.KeGroup CS.KeHash) := do
  let common ← ke2BuilderCommon credentialRequest ke1Message credentialResponse clientSPk
    identifiers context
  return { serverNonce := common.serverNonce
           transcriptHasher := common.transcriptHasher
           clientEPk := common.clientEPk
           serverEPk := common.serverEPk
           sharedSecret1 := common.sharedSecret1
           sharedSecret3 := common.sharedSecret3 }

def ke2BuilderData (builder : Ke2Builder CS.KeGroup CS.KeHash) : PublicKey CS.KeGroup :=
  builder.clientEPk

/-- The input of `build_ke2` with a local key: the second product. -/
def generateKe2Input (builder : Ke2Builder CS.KeGroup CS.KeHash)
    (serverSSk : PrivateKey CS.KeGroup) : RngM Error (GenericArray CS.KeGroup.PkLen) :=
  return DiffieHellman.diffieHellman serverSSk builder.clientEPk

/-- `build_ke2`: the input is the second of the three products. -/
def buildKe2 (builder : Ke2Builder CS.KeGroup CS.KeHash)
    (sharedSecret2 : GenericArray CS.KeGroup.PkLen) :
    Outcome Error (GenerateKe2Result (Ke2State CS.KeHash) (Ke2Message CS.KeGroup CS.KeHash)) := do
  let transcriptDigest := builder.transcriptHasher.finalize
  let derivedKeys ← deriveKeys
    [builder.sharedSecret1.bytes, sharedSecret2.bytes, builder.sharedSecret3.bytes]
    transcriptDigest.bytes
  let macs ← computeKe2Macs builder.transcriptHasher derivedKeys transcriptDigest.bytes
  return { state := { sessionKey := derivedKeys.sessionKey, expectedMac := macs.2 }
           message := { serverNonce := builder.serverNonce
                        serverEPk := builder.serverEPk
                        mac := macs.1 } }

/-- `generate_ke3`. -/
def generateKe3 (credentialRequest : SerializedCredentialRequest CS)
    (ke1Message : Ke1Message CS.KeGroup) (credentialResponse : SerializedCredentialResponse CS)
    (ke1State : Ke1State CS.KeGroup) (ke2Message : Ke2Message CS.KeGroup CS.KeHash)
    (serverSPk : PublicKey CS.KeGroup) (clientSSk : PrivateKey CS.KeGroup)
    (identifiers : SerializedIdentifiers CS.KeGroup) (context : SerializedContext) :
    RngM Error (GenerateKe3Result CS.KeHash (Ke3Message CS.KeHash)) := do
  let transcriptHasher := transcript context identifiers credentialRequest ke1Message.toIter
    credentialResponse ke2Message.serverNonce (CS.KeGroup.serializePk ke2Message.serverEPk)
  let sharedSecret1 := DiffieHellman.diffieHellman ke1State.clientESk ke2Message.serverEPk
  let sharedSecret2 := DiffieHellman.diffieHellman ke1State.clientESk serverSPk
  let sharedSecret3 := DiffieHellman.diffieHellman clientSSk ke2Message.serverEPk
  let result ← finalizeKe3Transcript transcriptHasher
    [sharedSecret1.bytes, sharedSecret2.bytes, sharedSecret3.bytes] ke2Message.mac
  return { sessionKey := result.1.sessionKey, message := { mac := result.2 } }

/-- The identifiers and the context are not looked at. -/
def finishKe {H : Hash} (ke2State : Ke2State H) (ke3Message : Ke3Message H)
    (_ : Identifiers) (_ : SerializedContext) : Outcome Error (Output H) :=
  .okOr .invalidLoginError
    (if ke2State.expectedMac = ke3Message.mac then some ke2State.sessionKey else none)

/-! ### What each step computes -/

variable {credentialRequest : SerializedCredentialRequest CS} {ke1Message : Ke1Message CS.KeGroup}
  {credentialResponse : SerializedCredentialResponse CS} {clientSPk : PublicKey CS.KeGroup}
  {identifiers : SerializedIdentifiers CS.KeGroup} {context : SerializedContext}

/-- The builder made of the result of the common part. -/
def Ke2Builder.ofCommon {G : Group} {H : Hash} (common : Ke2BuilderCommon G H) :
    Ke2Builder G H where
  serverNonce := common.serverNonce
  transcriptHasher := common.transcriptHasher
  clientEPk := common.clientEPk
  serverEPk := common.serverEPk
  sharedSecret1 := common.sharedSecret1
  sharedSecret3 := common.sharedSecret3

/-- A builder has a fresh nonce and a fresh key, and the transcript up to them. -/
theorem run_ke2Builder_eq_ok {r r' : Rng} {builder : Ke2Builder CS.KeGroup CS.KeHash} :
    (ke2Builder credentialRequest ke1Message credentialResponse clientSPk identifiers
        context).run r = .ok (builder, r') ↔
      ∃ sk, CS.KeGroup.deriveScalar (r.peek CS.KeGroup.SkLen) = .ok sk ∧
        builder = .ofCommon (.of credentialRequest ke1Message credentialResponse clientSPk
          identifiers context sk ((r.advance CS.KeGroup.SkLen).peek nonceLen)) ∧
        r' = (r.advance CS.KeGroup.SkLen).advance nonceLen := by
  unfold ke2Builder
  rw [run_bind_eq_ok]
  constructor
  · rintro ⟨common, r₁, hcommon, h⟩
    obtain ⟨sk, hsk, rfl, rfl⟩ := run_ke2BuilderCommon_eq_ok.mp hcommon
    simp only [StateT.run_pure, Outcome.pure_eq, Outcome.ok.injEq, Prod.mk.injEq] at h
    obtain ⟨rfl, rfl⟩ := h
    exact ⟨sk, hsk, rfl, rfl⟩
  · rintro ⟨sk, hsk, rfl, rfl⟩
    exact ⟨_, _, run_ke2BuilderCommon_eq_ok.mpr ⟨sk, hsk, rfl, rfl⟩, rfl⟩

/-- The input key material on the server. -/
def serverIkm {G : Group} {H : Hash} (builder : Ke2Builder G H)
    (sharedSecret2 : GenericArray G.PkLen) : Bytes :=
  [builder.sharedSecret1.bytes, sharedSecret2.bytes, builder.sharedSecret3.bytes].flatten

/-- The input key material on the client. -/
def clientIkm (ke1State : Ke1State CS.KeGroup) (ke2Message : Ke2Message CS.KeGroup CS.KeHash)
    (serverSPk : PublicKey CS.KeGroup) (clientSSk : PrivateKey CS.KeGroup) : Bytes :=
  [(DiffieHellman.diffieHellman ke1State.clientESk ke2Message.serverEPk).bytes,
    (DiffieHellman.diffieHellman ke1State.clientESk serverSPk).bytes,
    (DiffieHellman.diffieHellman clientSSk ke2Message.serverEPk).bytes].flatten

omit [DiffieHellman CS.KeGroup] in
/-- State and message are the two halves of one derivation. -/
theorem buildKe2_eq_ok {builder : Ke2Builder CS.KeGroup CS.KeHash}
    {sharedSecret2 : GenericArray CS.KeGroup.PkLen}
    {result : GenerateKe2Result (Ke2State CS.KeHash) (Ke2Message CS.KeGroup CS.KeHash)} :
    buildKe2 builder sharedSecret2 = .ok result ↔
      CS.KeHash.outputSize < 256 ∧
        let macs := macPair builder.transcriptHasher.absorbed (serverIkm builder sharedSecret2)
        result.state = ⟨macs.keys.sessionKey, macs.clientMac⟩ ∧
          result.message = ⟨builder.serverNonce, builder.serverEPk, macs.serverMac⟩ := by
  unfold buildKe2
  constructor
  · intro h
    obtain ⟨keys, hkeys, h⟩ := Outcome.bind_eq_ok.mp h
    obtain ⟨hsize, rfl⟩ := deriveKeys_eq_ok.mp hkeys
    rw [computeKe2Macs_eq] at h
    simp only [Outcome.ok_bind, Outcome.pure_eq, Outcome.ok.injEq] at h
    subst h
    exact ⟨hsize, rfl, rfl⟩
  · rintro ⟨hsize, hstate, hmessage⟩
    simp only [deriveKeys_eq, if_pos hsize, computeKe2Macs_eq, Outcome.ok_bind, Outcome.pure_eq]
    cases result
    simp only at hstate hmessage
    rw [hstate, hmessage]
    rfl

/-- The client goes on exactly with the MAC that it computes itself. -/
theorem run_generateKe3_eq_ok {ke1State : Ke1State CS.KeGroup}
    {ke2Message : Ke2Message CS.KeGroup CS.KeHash} {serverSPk : PublicKey CS.KeGroup}
    {clientSSk : PrivateKey CS.KeGroup} {r r' : Rng}
    {result : GenerateKe3Result CS.KeHash (Ke3Message CS.KeHash)} :
    (generateKe3 credentialRequest ke1Message credentialResponse ke1State ke2Message serverSPk
        clientSSk identifiers context).run r = .ok (result, r') ↔
      CS.KeHash.outputSize < 256 ∧ r' = r ∧
        let macs : MacPair CS.KeHash := macPair (transcript context identifiers credentialRequest
          ke1Message.toIter credentialResponse ke2Message.serverNonce
          (CS.KeGroup.serializePk ke2Message.serverEPk)).absorbed
          (clientIkm ke1State ke2Message serverSPk clientSSk)
        macs.serverMac = ke2Message.mac ∧ result = ⟨macs.keys.sessionKey, ⟨macs.clientMac⟩⟩ := by
  unfold generateKe3
  constructor
  · intro h
    obtain ⟨⟨keys, clientMac⟩, hfinal, h⟩ := run_lift_bind_eq_ok.mp h
    obtain ⟨hsize, rfl, hmac, rfl⟩ := finalizeKe3Transcript_eq_ok.mp hfinal
    simp only [StateT.run_pure, Outcome.pure_eq, Outcome.ok.injEq, Prod.mk.injEq] at h
    obtain ⟨rfl, rfl⟩ := h
    refine ⟨hsize, rfl, hmac, ?_⟩
    rw [← hmac]
    rfl
  · rintro ⟨hsize, rfl, hmac, rfl⟩
    refine run_lift_bind_eq_ok.mpr ⟨(_, _),
      finalizeKe3Transcript_eq_ok.mpr ⟨hsize, rfl, hmac, rfl⟩, ?_⟩
    rw [← hmac]
    rfl

/-- The server accepts exactly the MAC that it expects, whatever it is told of identifiers. -/
theorem finishKe_eq_ok {H : Hash} {ke2State : Ke2State H} {ke3Message : Ke3Message H}
    {key : Output H} (ids : Identifiers) (ctx : SerializedContext) :
    finishKe ke2State ke3Message ids ctx = .ok key ↔
      ke2State.expectedMac = ke3Message.mac ∧ key = ke2State.sessionKey := by
  unfold finishKe
  rw [Outcome.okOr_eq_ok]
  split
  · rename_i h
    simp [h, eq_comm]
  · rename_i h
    simp [h]

end protocol

/-! ### Wire formats -/

namespace Ke2State

variable {H : Hash}

def serialize (s : Ke2State H) : GenericArray (H.outputSize + H.outputSize) :=
  s.sessionKey.cat s.expectedMac

def deserializeTake : Reader Error (Ke2State H) := do
  let sessionKey ← takeArray H.outputSize "session key"
  let expectedMac ← takeArray H.outputSize "expected mac"
  return { sessionKey, expectedMac }

end Ke2State

namespace Ke2Message

variable {G : Group} {H : Hash}

def serialize (m : Ke2Message G H) : GenericArray (nonceLen + G.PkLen + H.outputSize) :=
  (m.serverNonce.cat (G.serializePk m.serverEPk)).cat m.mac

def deserializeTake : Reader Error (Ke2Message G H) := do
  let serverNonce ← takeArray nonceLen "server nonce"
  let serverEPk ← G.deserializeTakePk
  let mac ← takeArray H.outputSize "mac"
  return { serverNonce, serverEPk, mac }

end Ke2Message

namespace Ke3Message

variable {H : Hash}

def serialize (m : Ke3Message H) : GenericArray H.outputSize := m.mac

def deserializeTake : Reader Error (Ke3Message H) := do
  let mac ← takeArray H.outputSize "mac"
  return { mac }

end Ke3Message

/-- `KeyExchange for TripleDh`. -/
@[reducible] def keyExchange (CS : CipherSuite) [DiffieHellman CS.KeGroup] : KeyExchange CS where
  KE1State := Ke1State CS.KeGroup
  KE2State := Ke2State CS.KeHash
  KE1Message := Ke1Message CS.KeGroup
  KE2Builder := Ke2Builder CS.KeGroup CS.KeHash
  KE2BuilderData := PublicKey CS.KeGroup
  KE2BuilderInput := GenericArray CS.KeGroup.PkLen
  KE2Message := Ke2Message CS.KeGroup CS.KeHash
  KE3Message := Ke3Message CS.KeHash
  generateKe1 := OpaqueVx.generateKe1 CS.KeGroup
  ke2Builder := ke2Builder
  ke2BuilderData := ke2BuilderData
  generateKe2Input := generateKe2Input
  buildKe2 := buildKe2
  generateKe3 := generateKe3
  finishKe := finishKe
  ke1State := ⟨CS.KeGroup.SkLen + nonceLen, Ke1State.serialize, Ke1State.deserializeTake⟩
  ke1Message := ⟨nonceLen + CS.KeGroup.PkLen, Ke1Message.serialize, Ke1Message.deserializeTake⟩
  ke2State := ⟨_, Ke2State.serialize, Ke2State.deserializeTake⟩
  ke2Message := ⟨_, Ke2Message.serialize, Ke2Message.deserializeTake⟩
  ke3Message := ⟨_, Ke3Message.serialize, Ke3Message.deserializeTake⟩

end OpaqueVx.TripleDh
