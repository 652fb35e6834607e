import OpaqueVx.KeyExchange.Basic

/-! # Code shared by the key exchanges

  The first client message, the transcript, the key schedule and the two MACs. -/

namespace OpaqueVx

open Lib

def strClientMac : Bytes := ascii "ClientMAC"
def strHandshakeSecret : Bytes := ascii "HandshakeSecret"
def strServerMac : Bytes := ascii "ServerMAC"
def strSessionKey : Bytes := ascii "SessionKey"
def strOpaque : Bytes := ascii "OPAQUE-"

/-! ### Data -/

/-- The ephemeral key of a client, and the nonce that it has sent. -/
@[ext] structure Ke1State (G : Group) where
  clientESk : PrivateKey G
  clientNonce : GenericArray nonceLen

/-- What a client sends first. -/
@[ext] structure Ke1Message (G : Group) where
  clientNonce : GenericArray nonceLen
  clientEPk : PublicKey G

/-- `Ke1MessageIter`: the first message with its key encoded. -/
@[ext] structure Ke1MessageIter (G : Group) where
  clientNonce : GenericArray nonceLen
  clientEPk : GenericArray G.PkLen
  deriving DecidableEq

/-- The key of the session, and a key of a MAC for each party. -/
@[ext] structure DerivedKeys (H : Hash) where
  sessionKey : Output H
  km2 : Output H
  km3 : Output H

/-- What a server has computed before its private key is needed. -/
structure Ke2BuilderCommon (G : Group) (H : Hash) where
  serverNonce : GenericArray nonceLen
  transcriptHasher : Hasher H
  clientEPk : PublicKey G
  serverEPk : PublicKey G
  sharedSecret1 : GenericArray G.PkLen
  sharedSecret3 : GenericArray G.PkLen

namespace Ke1MessageIter

variable {G : Group}

def iter (m : Ke1MessageIter G) : List Bytes := [m.clientNonce.bytes, m.clientEPk.bytes]

def serialize (m : Ke1MessageIter G) : GenericArray (nonceLen + G.PkLen) :=
  m.clientNonce.cat m.clientEPk

def deserializeTake : Reader Error (Ke1MessageIter G) := do
  let clientNonce ← takeArray nonceLen "client nonce"
  let clientEPk ← takeArray G.PkLen "client ephemeral public key"
  return { clientNonce, clientEPk }

end Ke1MessageIter

/-- `Ke1Message::to_iter`. -/
def Ke1Message.toIter {G : Group} (m : Ke1Message G) : Ke1MessageIter G :=
  ⟨m.clientNonce, G.serializePk m.clientEPk⟩

/-! ### Helpers -/

/-- `generate_nonce`. -/
def generateNonce : RngM Error (GenericArray nonceLen) := fillBytes nonceLen

/-- `generate_ke1`. -/
def generateKe1 (G : Group) : RngM Error (GenerateKe1Result (Ke1State G) (Ke1Message G)) := do
  let clientEKp ← KeyPair.deriveRandom G
  let clientNonce ← generateNonce
  let ke1Message : Ke1Message G := { clientNonce, clientEPk := clientEKp.pk }
  return { state := { clientESk := clientEKp.sk, clientNonce }, message := ke1Message }

section transcript

variable {CS : CipherSuite} {KE : Group}

/-- `transcript`. -/
def transcript (context : SerializedContext) (identifiers : SerializedIdentifiers CS.KeGroup)
    (credentialRequest : SerializedCredentialRequest CS) (ke1Message : Ke1MessageIter KE)
    (credentialResponse : SerializedCredentialResponse CS) (serverNonce : GenericArray nonceLen)
    (serverEPk : GenericArray KE.PkLen) : Hasher CS.KeHash :=
  (((((((Hasher.new.chainIter context.iter).chainIter identifiers.client.iter).chainIter
    credentialRequest.iter).chainIter ke1Message.iter).chainIter
    identifiers.server.iter).chainIter credentialResponse.iter).update
    serverNonce.bytes).update serverEPk.bytes

/-- `ke2_builder_common`, for a key exchange whose static and ephemeral keys are
    in the same group. -/
def ke2BuilderCommon [DiffieHellman CS.KeGroup]
    (credentialRequest : SerializedCredentialRequest CS) (ke1Message : Ke1Message CS.KeGroup)
    (credentialResponse : SerializedCredentialResponse CS) (clientSPk : PublicKey CS.KeGroup)
    (identifiers : SerializedIdentifiers CS.KeGroup) (context : SerializedContext) :
    RngM Error (Ke2BuilderCommon CS.KeGroup CS.KeHash) := do
  let serverEphemeral ← KeyPair.deriveRandom CS.KeGroup
  let serverNonce ← generateNonce
  let serverEPkBytes := CS.KeGroup.serializePk serverEphemeral.pk
  let ke1Iter := ke1Message.toIter
  let clientEPk := ke1Message.clientEPk
  let transcriptHasher := transcript context identifiers credentialRequest ke1Iter
    credentialResponse serverNonce serverEPkBytes
  let sharedSecret1 := DiffieHellman.diffieHellman serverEphemeral.sk ke1Message.clientEPk
  let sharedSecret3 := DiffieHellman.diffieHellman serverEphemeral.sk clientSPk
  return { serverNonce, transcriptHasher, clientEPk, serverEPk := serverEphemeral.pk,
           sharedSecret1, sharedSecret3 }

end transcript

/-! ### Key schedule -/

section schedule

variable {H : Hash}

/-- `hkdf_expand_label_extracted`. -/
def hkdfExpandLabelExtracted (hkdf : Hkdf H) (label context : Bytes) :
    Outcome Error (Output H) := do
  let length ← i2osp 2 H.outputSize
  let labelLength ← i2osp 1 (strOpaque.length + label.length)
  let contextLen ← i2osp 1 context.length
  let hkdfLabel :=
    [length.bytes, labelLength.bytes, strOpaque, label, contextLen.bytes, context]
  .okOr (.libraryError .hkdfError) (hkdf.expandMultiInfo hkdfLabel H.outputSize)

/-- `hkdf_expand_label`. -/
def hkdfExpandLabel (secret label context : Bytes) : Outcome Error (Output H) := do
  let h ← .okOr (.libraryError .hkdfError) (Hkdf.fromPrk secret)
  hkdfExpandLabelExtracted h label context

/-- `derive_secrets`. -/
def deriveSecrets (hkdf : Hkdf H) (label hashedDerivationTranscript : Bytes) :
    Outcome Error (Output H) :=
  hkdfExpandLabelExtracted hkdf label hashedDerivationTranscript

/-- `derive_keys`. -/
def deriveKeys (ikms : List Bytes) (hashedDerivationTranscript : Bytes) :
    Outcome Error (DerivedKeys H) := do
  let hkdf : HkdfExtract H := ikms.foldl HkdfExtract.inputIkm HkdfExtract.new
  let extractedIkm := hkdf.finalize.2
  let handshakeSecret ← deriveSecrets extractedIkm strHandshakeSecret hashedDerivationTranscript
  let sessionKey ← deriveSecrets extractedIkm strSessionKey hashedDerivationTranscript
  let km2 ← hkdfExpandLabel handshakeSecret.bytes strServerMac []
  let km3 ← hkdfExpandLabel handshakeSecret.bytes strClientMac []
  return { sessionKey, km2, km3 }

/-- `SimpleHmac::new_from_slice(key)`, one update, `finalize`. -/
def macOnce (key data : Bytes) : Outcome Error (Output H) := do
  let mac : SimpleHmac H ← .okOr (.libraryError .hmacError) (SimpleHmac.newFromSlice key)
  return (mac.update data).finalize

/-- `compute_ke2_macs`: the server's MAC and the MAC it expects from the client. -/
def computeKe2Macs (transcriptHasher : Hasher H) (derivedKeys : DerivedKeys H)
    (transcriptDigest : Bytes) : Outcome Error (Output H × Output H) := do
  let mac ← macOnce derivedKeys.km2.bytes transcriptDigest
  let transcriptHasher := transcriptHasher.update mac.bytes
  let finalizedTranscript := transcriptHasher.finalize
  let expectedMac ← macOnce derivedKeys.km3.bytes finalizedTranscript.bytes
  return (mac, expectedMac)

/-- `finalize_ke3_transcript`: checks the server's MAC and computes the client's. -/
def finalizeKe3Transcript (transcriptHasher : Hasher H) (sharedSecrets : List Bytes)
    (serverMac : Output H) : Outcome Error (DerivedKeys H × Output H) := do
  let transcriptDigest := transcriptHasher.finalize
  let derivedKeys ← deriveKeys sharedSecrets transcriptDigest.bytes
  let expected : Output H ← macOnce derivedKeys.km2.bytes transcriptDigest.bytes
  if expected = serverMac then
    let transcriptHasher := transcriptHasher.update serverMac.bytes
    let finalizedTranscript := transcriptHasher.finalize
    let clientMac ← macOnce derivedKeys.km3.bytes finalizedTranscript.bytes
    return (derivedKeys, clientMac)
  else
    .err .invalidLoginError

end schedule

/-! ### Wire format of the first message and the first state -/

namespace Ke1State

variable {G : Group}

def serialize (s : Ke1State G) : GenericArray (G.SkLen + nonceLen) :=
  (G.serializeSk s.clientESk).cat s.clientNonce

def deserializeTake : Reader Error (Ke1State G) := do
  let clientESk ← G.deserializeTakeSk
  let clientNonce ← takeArray nonceLen "client nonce"
  return { clientESk, clientNonce }

end Ke1State

namespace Ke1Message

variable {G : Group}

def serialize (m : Ke1Message G) : GenericArray (nonceLen + G.PkLen) :=
  m.clientNonce.cat (G.serializePk m.clientEPk)

def deserializeTake : Reader Error (Ke1Message G) := do
  let clientNonce ← takeArray nonceLen "client nonce"
  let clientEPk ← G.deserializeTakePk
  return { clientNonce, clientEPk }

end Ke1Message

end OpaqueVx
