import OpaqueVx.KeyExchange.SigmaI.Message
import OpaqueVx.KeyExchange.Schedule

/-! # SIGMA-I

  One Diffie-Hellman product of ephemeral keys; each party is authenticated by a
  signature over the login and a MAC over its identifier. -/

namespace OpaqueVx.SigmaI

open Lib

variable {CS : CipherSuite} {KE : Group}

/-- All that the second message takes but the signature. -/
structure Ke2Builder (CS : CipherSuite) (KE : Group) where
  transcript : Message CS KE
  serverNonce : GenericArray nonceLen
  clientSPk : PublicKey CS.KeGroup
  serverEPk : PublicKey KE
  expectedMac : Output CS.KeHash
  sessionKey : Output CS.KeHash

/-- What the server keeps until the client's signature and MAC come. -/
structure Ke2State (CS : CipherSuite) (KE : Group) (SIG : SignatureProtocol CS KE) where
  clientSPk : PublicKey CS.KeGroup
  sessionKey : Output CS.KeHash
  verifyState : SIG.VerifyState
  expectedMac : Output CS.KeHash

/-- The server's message. -/
structure Ke2Message (CS : CipherSuite) (KE : Group) (SIG : SignatureProtocol CS KE) where
  serverNonce : GenericArray nonceLen
  serverEPk : PublicKey KE
  signature : SIG.Signature
  mac : Output CS.KeHash

/-- The client's second message. -/
structure Ke3Message (CS : CipherSuite) (KE : Group) (SIG : SignatureProtocol CS KE) where
  signature : SIG.Signature
  mac : Output CS.KeHash

/-- `SimpleHmac::new_from_slice(key)`, `update_iter(identifier.iter())`, `finalize`. -/
def identifierMac (key : Output CS.KeHash) (identifier : SerializedIdentifier CS.KeGroup) :
    Outcome Error (Output CS.KeHash) := do
  let mac : SimpleHmac CS.KeHash ← .okOr (.libraryError .hmacError)
    (SimpleHmac.newFromSlice key.bytes)
  return (mac.updateIter identifier.iter).finalize

section protocol

variable [DiffieHellman KE]

/-- `ke2_builder`: both MACs are computed here, before there is a signature. -/
def ke2Builder (credentialRequest : SerializedCredentialRequest CS)
    (ke1Message : Ke1Message KE) (credentialResponse : SerializedCredentialResponse CS)
    (clientSPk : PublicKey CS.KeGroup) (identifiers : SerializedIdentifiers CS.KeGroup)
    (context : SerializedContext) : RngM Error (Ke2Builder CS KE) := do
  let serverE ← KeyPair.deriveRandom KE
  let serverNonce ← generateNonce
  let ke1MessageIter := ke1Message.toIter
  let serverEPk := KE.serializePk serverE.pk
  let transcriptHasher := transcript context identifiers credentialRequest ke1MessageIter
    credentialResponse serverNonce serverEPk
  let sharedSecret := DiffieHellman.diffieHellman serverE.sk ke1Message.clientEPk
  let derivedKeys ← deriveKeys [sharedSecret.bytes] transcriptHasher.finalize.bytes
  let serverMac ← identifierMac derivedKeys.km2 identifiers.server
  let clientMac ← identifierMac derivedKeys.km3 identifiers.client
  let message : Message CS KE :=
    { role := .server, context, identifiers,
      cache := { credentialRequest, ke1Message := ke1MessageIter, credentialResponse,
                 serverNonce, serverEPk, serverMac } }
  return { transcript := message, serverNonce, clientSPk, serverEPk := serverE.pk,
           expectedMac := clientMac, sessionKey := derivedKeys.sessionKey }

def ke2BuilderData (builder : Ke2Builder CS KE) : Message CS KE := builder.transcript

variable {SIG : SignatureProtocol CS KE}

/-- The input of `build_ke2` with a local key: a signature on the transcript. -/
def generateKe2Input (builder : Ke2Builder CS KE) (serverSSk : PrivateKey CS.KeGroup) :
    RngM Error (SIG.Signature × SIG.VerifyState) :=
  SIG.sign serverSSk builder.transcript

/-- `build_ke2`: the input is the signature and what it takes to verify the client's. -/
def buildKe2 (builder : Ke2Builder CS KE) (input : SIG.Signature × SIG.VerifyState) :
    Outcome Error (GenerateKe2Result (Ke2State CS KE SIG) (Ke2Message CS KE SIG)) :=
  .ok
    { state := { clientSPk := builder.clientSPk
                 sessionKey := builder.sessionKey
                 verifyState := input.2
                 expectedMac := builder.expectedMac }
      message := { serverNonce := builder.serverNonce
                   serverEPk := builder.serverEPk
                   signature := input.1
                   mac := builder.transcript.cache.serverMac } }

/-- `generate_ke3`. -/
def generateKe3 (credentialRequest : SerializedCredentialRequest CS)
    (ke1Message : Ke1Message KE) (credentialResponse : SerializedCredentialResponse CS)
    (ke1State : Ke1State KE) (ke2Message : Ke2Message CS KE SIG)
    (serverSPk : PublicKey CS.KeGroup) (clientSSk : PrivateKey CS.KeGroup)
    (identifiers : SerializedIdentifiers CS.KeGroup) (context : SerializedContext) :
    RngM Error (GenerateKe3Result CS.KeHash (Ke3Message CS KE SIG)) := do
  let ke1MessageIter := ke1Message.toIter
  let serverEPk := KE.serializePk ke2Message.serverEPk
  let transcriptHasher := transcript context identifiers credentialRequest ke1MessageIter
    credentialResponse ke2Message.serverNonce serverEPk
  let sharedSecret := DiffieHellman.diffieHellman ke1State.clientESk ke2Message.serverEPk
  let derivedKeys ← deriveKeys [sharedSecret.bytes] transcriptHasher.finalize.bytes
  let serverMac ← identifierMac derivedKeys.km2 identifiers.server
  (.okOr .invalidLoginError (if serverMac = ke2Message.mac then some () else none) :
    Outcome Error Unit)
  let clientMac ← identifierMac derivedKeys.km3 identifiers.client
  let message : Message CS KE :=
    { role := .client, context, identifiers,
      cache := { credentialRequest, ke1Message := ke1MessageIter, credentialResponse,
                 serverNonce := ke2Message.serverNonce, serverEPk, serverMac } }
  let signed ← SIG.sign clientSSk message
  SIG.verify serverSPk { role := .client, context, identifier := identifiers.server } signed.2
    ke2Message.signature
  return { sessionKey := derivedKeys.sessionKey
           message := { signature := signed.1, mac := clientMac } }

/-- The server's identifier is not looked at; the client's identifier and the
    context are handed to the signature protocol. -/
def finishKe (ke2State : Ke2State CS KE SIG) (ke3Message : Ke3Message CS KE SIG)
    (identifiers : Identifiers) (context : SerializedContext) :
    Outcome Error (Output CS.KeHash) := do
  let identifier ← SerializedIdentifier.fromIdentifier identifiers.client
    (CS.KeGroup.serializePk ke2State.clientSPk)
  SIG.verify ke2State.clientSPk { role := .server, context, identifier } ke2State.verifyState
    ke3Message.signature
  .okOr .invalidLoginError
    (if ke2State.expectedMac = ke3Message.mac then some ke2State.sessionKey else none)

/-! ### What each step computes -/

theorem identifierMac_eq (key : Output CS.KeHash) (identifier : SerializedIdentifier CS.KeGroup) :
    identifierMac key identifier = .ok (CS.KeHash.hmac key.bytes identifier.iter.flatten) := by
  simp [identifierMac, SimpleHmac.newFromSlice, SimpleHmac.updateIter_eq, SimpleHmac.finalize]

/-- The keys derived from one shared secret and the transcript. -/
def sessionKeys (context : SerializedContext) (identifiers : SerializedIdentifiers CS.KeGroup)
    (credentialRequest : SerializedCredentialRequest CS) (ke1Message : Ke1MessageIter KE)
    (credentialResponse : SerializedCredentialResponse CS) (serverNonce : GenericArray nonceLen)
    (serverEPk sharedSecret : GenericArray KE.PkLen) : DerivedKeys CS.KeHash :=
  keySchedule CS.KeHash sharedSecret.bytes (transcript context identifiers credentialRequest
    ke1Message credentialResponse serverNonce serverEPk).finalize.bytes

/-- The message of one party, with the server's MAC under `keys`. -/
def Message.of (role : Role) (context : SerializedContext)
    (identifiers : SerializedIdentifiers CS.KeGroup)
    (credentialRequest : SerializedCredentialRequest CS) (ke1Message : Ke1MessageIter KE)
    (credentialResponse : SerializedCredentialResponse CS) (serverNonce : GenericArray nonceLen)
    (serverEPk : GenericArray KE.PkLen) (keys : DerivedKeys CS.KeHash) : Message CS KE where
  role := role
  context := context
  identifiers := identifiers
  cache :=
    { credentialRequest, ke1Message, credentialResponse, serverNonce, serverEPk
      serverMac := CS.KeHash.hmac keys.km2.bytes identifiers.server.iter.flatten }

/-- What `ke2_builder` returns when the server's ephemeral key and nonce are `sk`
    and `nonce`. -/
def Ke2Builder.of (credentialRequest : SerializedCredentialRequest CS)
    (ke1Message : Ke1Message KE) (credentialResponse : SerializedCredentialResponse CS)
    (clientSPk : PublicKey CS.KeGroup) (identifiers : SerializedIdentifiers CS.KeGroup)
    (context : SerializedContext) (sk : KE.Sk) (nonce : GenericArray nonceLen) :
    Ke2Builder CS KE :=
  let serverEPk := KE.serializePk (KE.publicKey sk)
  let keys := sessionKeys context identifiers credentialRequest ke1Message.toIter
    credentialResponse nonce serverEPk (DiffieHellman.diffieHellman sk ke1Message.clientEPk)
  { transcript := .of .server context identifiers credentialRequest ke1Message.toIter
      credentialResponse nonce serverEPk keys
    serverNonce := nonce
    clientSPk
    serverEPk := KE.publicKey sk
    expectedMac := CS.KeHash.hmac keys.km3.bytes identifiers.client.iter.flatten
    sessionKey := keys.sessionKey }

variable {credentialRequest : SerializedCredentialRequest CS} {ke1Message : Ke1Message KE}
  {credentialResponse : SerializedCredentialResponse CS} {clientSPk : PublicKey CS.KeGroup}
  {identifiers : SerializedIdentifiers CS.KeGroup} {context : SerializedContext}

/-- A builder has a fresh nonce, a fresh key and the keys that are derived from them. -/
theorem run_ke2Builder_eq_ok {r r' : Rng} {builder : Ke2Builder CS KE} :
    (ke2Builder credentialRequest ke1Message credentialResponse clientSPk identifiers
        context).run r = .ok (builder, r') ↔
      CS.KeHash.outputSize < 256 ∧ ∃ sk, KE.deriveScalar (r.peek KE.SkLen) = .ok sk ∧
        builder = .of credentialRequest ke1Message credentialResponse clientSPk identifiers
          context sk ((r.advance KE.SkLen).peek nonceLen) ∧
        r' = (r.advance KE.SkLen).advance nonceLen := by
  unfold ke2Builder
  rw [run_ephemeral_eq_ok]
  constructor
  · intro h
    obtain ⟨sk, hsk, h⟩ := h
    obtain ⟨keys, hkeys, h⟩ := run_lift_bind_eq_ok.mp h
    obtain ⟨hsize, rfl⟩ := deriveKeys_eq_ok.mp hkeys
    simp only [identifierMac_eq] at h
    -- Both MACs are made here, before the answer is built.
    obtain ⟨serverMac, hserver, h⟩ := run_lift_bind_eq_ok.mp h
    obtain ⟨clientMac, hclient, h⟩ := run_lift_bind_eq_ok.mp h
    injection hserver with hserver
    injection hclient with hclient
    simp only [StateT.run_pure, Outcome.pure_eq, Outcome.ok.injEq, Prod.mk.injEq] at h
    obtain ⟨rfl, rfl⟩ := h
    refine ⟨hsize, sk, hsk, ?_, rfl⟩
    subst hserver hclient
    simp only [List.flatten_cons, List.flatten_nil, List.append_nil]
    rfl
  · rintro ⟨hsize, sk, hsk, rfl, rfl⟩
    refine ⟨sk, hsk, ?_⟩
    refine run_lift_bind_eq_ok.mpr ⟨_, deriveKeys_eq_ok.mpr ⟨hsize, rfl⟩, ?_⟩
    refine run_lift_bind_eq_ok.mpr ⟨_, identifierMac_eq _ _, ?_⟩
    refine run_lift_bind_eq_ok.mpr ⟨_, identifierMac_eq _ _, ?_⟩
    simp only [List.flatten_cons, List.flatten_nil, List.append_nil]
    rfl

/-- The client goes on exactly with a signature and a MAC that it can check. -/
theorem run_generateKe3_eq_ok {ke1State : Ke1State KE} {ke2Message : Ke2Message CS KE SIG}
    {serverSPk : PublicKey CS.KeGroup} {clientSSk : PrivateKey CS.KeGroup} {r r' : Rng}
    {result : GenerateKe3Result CS.KeHash (Ke3Message CS KE SIG)} :
    (generateKe3 credentialRequest ke1Message credentialResponse ke1State ke2Message serverSPk
        clientSSk identifiers context).run r = .ok (result, r') ↔
      CS.KeHash.outputSize < 256 ∧
        let serverEPk := KE.serializePk ke2Message.serverEPk
        let keys := sessionKeys context identifiers credentialRequest ke1Message.toIter
          credentialResponse ke2Message.serverNonce serverEPk
          (DiffieHellman.diffieHellman ke1State.clientESk ke2Message.serverEPk)
        CS.KeHash.hmac keys.km2.bytes identifiers.server.iter.flatten = ke2Message.mac ∧
          ∃ signature state,
            (SIG.sign clientSSk (.of .client context identifiers credentialRequest
              ke1Message.toIter credentialResponse ke2Message.serverNonce serverEPk keys)).run r =
              .ok ((signature, state), r') ∧
            SIG.verify serverSPk ⟨.client, context, identifiers.server⟩ state
              ke2Message.signature = .ok () ∧
            result = ⟨keys.sessionKey,
              ⟨signature, CS.KeHash.hmac keys.km3.bytes identifiers.client.iter.flatten⟩⟩ := by
  unfold generateKe3
  constructor
  · intro h
    obtain ⟨keys, hkeys, h⟩ := run_lift_bind_eq_ok.mp h
    obtain ⟨hsize, rfl⟩ := deriveKeys_eq_ok.mp hkeys
    simp only [identifierMac_eq, List.flatten_cons, List.flatten_nil, List.append_nil] at h
    obtain ⟨serverMac, hserver, h⟩ := run_lift_bind_eq_ok.mp h
    injection hserver with hserver
    -- The MAC is compared before the client signs, the signature is verified after.
    obtain ⟨_, hcheck, h⟩ := run_lift_bind_eq_ok.mp h
    obtain ⟨clientMac, hclient, h⟩ := run_lift_bind_eq_ok.mp h
    injection hclient with hclient
    obtain ⟨⟨signature, state⟩, r₁, hsign, h⟩ := run_bind_eq_ok.mp h
    obtain ⟨_, hverify, h⟩ := run_lift_bind_eq_ok.mp h
    simp only [StateT.run_pure, Outcome.pure_eq, Outcome.ok.injEq, Prod.mk.injEq] at h
    obtain ⟨rfl, rfl⟩ := h
    subst hserver hclient
    split at hcheck
    · rename_i hmac
      exact ⟨hsize, hmac, signature, state, hsign, hverify, rfl⟩
    · cases hcheck
  · rintro ⟨hsize, hmac, signature, state, hsign, hverify, rfl⟩
    refine run_lift_bind_eq_ok.mpr ⟨_, deriveKeys_eq_ok.mpr ⟨hsize, rfl⟩, ?_⟩
    simp only [List.flatten_cons, List.flatten_nil, List.append_nil]
    refine run_lift_bind_eq_ok.mpr ⟨_, identifierMac_eq _ _, ?_⟩
    refine run_lift_bind_eq_ok.mpr ⟨(), ?_, ?_⟩
    · unfold sessionKeys at hmac
      rw [if_pos hmac]
      rfl
    refine run_lift_bind_eq_ok.mpr ⟨_, identifierMac_eq _ _, ?_⟩
    refine run_bind_eq_ok.mpr ⟨_, _, hsign, ?_⟩
    exact run_lift_bind_eq_ok.mpr ⟨(), hverify, rfl⟩

omit [DiffieHellman KE] in
/-- So does the server. -/
theorem finishKe_eq_ok {ke2State : Ke2State CS KE SIG} {ke3Message : Ke3Message CS KE SIG}
    {ids : Identifiers} {ctx : SerializedContext} {key : Output CS.KeHash} :
    finishKe ke2State ke3Message ids ctx = .ok key ↔
      ∃ identifier, SerializedIdentifier.fromIdentifier ids.client
          (CS.KeGroup.serializePk ke2State.clientSPk) = .ok identifier ∧
        SIG.verify ke2State.clientSPk ⟨.server, ctx, identifier⟩ ke2State.verifyState
          ke3Message.signature = .ok () ∧
        ke2State.expectedMac = ke3Message.mac ∧ key = ke2State.sessionKey := by
  unfold finishKe
  constructor
  · intro h
    obtain ⟨identifier, hid, h⟩ := Outcome.bind_eq_ok.mp h
    obtain ⟨_, hverify, h⟩ := Outcome.bind_eq_ok.mp h
    rw [Outcome.okOr_eq_ok] at h
    split at h
    · rename_i hmac
      injection h with h
      exact ⟨identifier, hid, hverify, hmac, h.symm⟩
    · cases h
  · rintro ⟨identifier, hid, hverify, hmac, rfl⟩
    simp only [hid, Outcome.ok_bind, hverify, if_pos hmac]
    rfl

end protocol

/-! ### Wire formats -/

section wire

variable {SIG : SignatureProtocol CS KE}

namespace Ke2State

def serialize (s : Ke2State CS KE SIG) :
    GenericArray (CS.KeGroup.PkLen + CS.KeHash.outputSize + SIG.verifyState.len +
      CS.KeHash.outputSize) :=
  (((CS.KeGroup.serializePk s.clientSPk).cat s.sessionKey).cat
    (SIG.verifyState.encode s.verifyState)).cat s.expectedMac

def deserializeTake : Reader Error (Ke2State CS KE SIG) := do
  let clientSPk ← CS.KeGroup.deserializeTakePk
  let sessionKey ← takeArray CS.KeHash.outputSize "session key"
  let verifyState ← SIG.verifyState.take
  let expectedMac ← takeArray CS.KeHash.outputSize "expected mac"
  return { clientSPk, sessionKey, verifyState, expectedMac }

end Ke2State

namespace Ke2Message

def serialize (m : Ke2Message CS KE SIG) :
    GenericArray (nonceLen + KE.PkLen + SIG.SignatureLen + CS.KeHash.outputSize) :=
  ((m.serverNonce.cat (KE.serializePk m.serverEPk)).cat
    (SIG.serializeSignature m.signature)).cat m.mac

def deserializeTake : Reader Error (Ke2Message CS KE SIG) := do
  let serverNonce ← takeArray nonceLen "server nonce"
  let serverEPk ← KE.deserializeTakePk
  let signature ← SIG.deserializeTakeSignature
  let mac ← takeArray CS.KeHash.outputSize "mac"
  return { serverNonce, serverEPk, signature, mac }

end Ke2Message

namespace Ke3Message

def serialize (m : Ke3Message CS KE SIG) :
    GenericArray (SIG.SignatureLen + CS.KeHash.outputSize) :=
  (SIG.serializeSignature m.signature).cat m.mac

def deserializeTake : Reader Error (Ke3Message CS KE SIG) := do
  let signature ← SIG.deserializeTakeSignature
  let mac ← takeArray CS.KeHash.outputSize "mac"
  return { signature, mac }

end Ke3Message

end wire

/-- `KeyExchange for SigmaI`. -/
@[reducible] def keyExchange (CS : CipherSuite) (KE : Group) [DiffieHellman KE]
    (SIG : SignatureProtocol CS KE) : KeyExchange CS where
  KE1State := Ke1State KE
  KE2State := Ke2State CS KE SIG
  KE1Message := Ke1Message KE
  KE2Builder := Ke2Builder CS KE
  KE2BuilderData := Message CS KE
  KE2BuilderInput := SIG.Signature × SIG.VerifyState
  KE2Message := Ke2Message CS KE SIG
  KE3Message := Ke3Message CS KE SIG
  generateKe1 := OpaqueVx.generateKe1 KE
  ke2Builder := ke2Builder
  ke2BuilderData := ke2BuilderData
  generateKe2Input := generateKe2Input
  buildKe2 := buildKe2
  generateKe3 := generateKe3
  finishKe := finishKe
  ke1State := ⟨KE.SkLen + nonceLen, Ke1State.serialize, Ke1State.deserializeTake⟩
  ke1Message := ⟨nonceLen + KE.PkLen, Ke1Message.serialize, Ke1Message.deserializeTake⟩
  ke2State := ⟨_, Ke2State.serialize, Ke2State.deserializeTake⟩
  ke2Message := ⟨_, Ke2Message.serialize, Ke2Message.deserializeTake⟩
  ke3Message := ⟨_, Ke3Message.serialize, Ke3Message.deserializeTake⟩

end OpaqueVx.SigmaI
