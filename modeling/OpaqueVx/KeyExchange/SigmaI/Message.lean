import OpaqueVx.KeyExchange.Shared

/-! # Messages signed by SIGMA-I

  Either party signs one message and verifies another. Both are assembled from
  the cached part of the login, the context, and the identifier of the signer;
  the role and the stage say whose. -/

namespace OpaqueVx.SigmaI

open Lib

inductive Role where
  | server
  | client
  deriving DecidableEq, Repr

inductive Stage where
  | sign
  | verify
  deriving DecidableEq, Repr

/-- `CachedMessage`: what both messages share. -/
@[ext] structure CachedMessage (CS : CipherSuite) (KE : Group) where
  credentialRequest : SerializedCredentialRequest CS
  ke1Message : Ke1MessageIter KE
  credentialResponse : SerializedCredentialResponse CS
  serverNonce : GenericArray nonceLen
  serverEPk : GenericArray KE.PkLen
  serverMac : Output CS.KeHash
  deriving DecidableEq

/-- `Message`: the message to be signed and the one to be verified. -/
structure Message (CS : CipherSuite) (KE : Group) where
  role : Role
  context : SerializedContext
  identifiers : SerializedIdentifiers CS.KeGroup
  cache : CachedMessage CS KE

/-- `VerifyMessage`. -/
structure VerifyMessage (CS : CipherSuite) (KE : Group) where
  role : Role
  context : SerializedContext
  identifier : SerializedIdentifier CS.KeGroup
  cache : CachedMessage CS KE

/-- `MessageBuilder`. -/
structure MessageBuilder (CS : CipherSuite) where
  role : Role
  context : SerializedContext
  identifier : SerializedIdentifier CS.KeGroup

/-- `HashOutput`: the running hashes of both messages. -/
structure HashOutput (H : Hash) where
  sign : Hasher H
  verify : Hasher H

variable {CS : CipherSuite} {KE : Group}

/-- `CachedMessage::post_message`: the client's message starts with the client's
    identifier and ends with the server's MAC, the server's has the server's
    identifier in the middle. -/
def CachedMessage.postMessage (self : CachedMessage CS KE) (transcript : Role)
    (identifier : SerializedIdentifier CS.KeGroup) : List Bytes :=
  (if transcript = .client then identifier.iter else []) ++ self.credentialRequest.iter ++
    self.ke1Message.iter ++ (if transcript = .server then identifier.iter else []) ++
    self.credentialResponse.iter ++ [self.serverNonce.bytes, self.serverEPk.bytes] ++
    (if transcript = .client then [self.serverMac.bytes] else [])

namespace Message

/-- `Message::post_message`. -/
def postMessage (self : Message CS KE) (stage : Stage) : List Bytes :=
  let transcript :=
    match self.role, stage with
    | .server, .sign => Role.server
    | .server, .verify => Role.client
    | .client, .sign => Role.client
    | .client, .verify => Role.server
  let identifier :=
    match transcript with
    | .server => self.identifiers.server
    | .client => self.identifiers.client
  self.cache.postMessage transcript identifier

/-- `Message::sign_message`. -/
def signMessage (self : Message CS KE) : List Bytes :=
  self.context.iter ++ self.postMessage .sign

/-- `Message::hash`. -/
def hash (self : Message CS KE) (H : Hash) : HashOutput H :=
  let context := (Hasher.new : Hasher H).chainIter self.context.iter
  { sign := context.chainIter (self.postMessage .sign)
    verify := context.chainIter (self.postMessage .verify) }

/-- `Message::to_cached`. -/
def toCached (self : Message CS KE) : CachedMessage CS KE := self.cache

end Message

/-- `VerifyMessage::verify_message`. -/
def VerifyMessage.verifyMessage (self : VerifyMessage CS KE) : List Bytes :=
  let transcript :=
    match self.role with
    | .server => Role.client
    | .client => Role.server
  self.context.iter ++ self.cache.postMessage transcript self.identifier

/-- `MessageBuilder::build`. -/
def MessageBuilder.build (self : MessageBuilder CS) (cache : CachedMessage CS KE) :
    VerifyMessage CS KE :=
  { role := self.role, context := self.context, identifier := self.identifier, cache }

/-! ### Wire format of the cached part -/

namespace CachedMessage

def serialize (m : CachedMessage CS KE) :
    GenericArray (CS.OprfCs.ElemLen + (nonceLen + KE.PkLen) +
      (CS.OprfCs.ElemLen + nonceLen + CS.MaskedResponseLen) + nonceLen + KE.PkLen +
      CS.KeHash.outputSize) :=
  ((((m.credentialRequest.serialize.cat m.ke1Message.serialize).cat
    m.credentialResponse.serialize).cat m.serverNonce).cat m.serverEPk).cat m.serverMac

def deserializeTake : Reader Error (CachedMessage CS KE) := do
  let credentialRequest ← SerializedCredentialRequest.deserializeTake
  let ke1Message ← Ke1MessageIter.deserializeTake
  let credentialResponse ← SerializedCredentialResponse.deserializeTake
  let serverNonce ← takeArray nonceLen "server nonce"
  let serverEPk ← takeArray KE.PkLen "serialized server ephemeral key"
  let serverMac ← takeArray CS.KeHash.outputSize "server mac"
  return { credentialRequest, ke1Message, credentialResponse, serverNonce, serverEPk, serverMac }

variable (CS KE) in
def codec : Codec Error (CachedMessage CS KE) := ⟨_, serialize, deserializeTake⟩

end CachedMessage

/-- `PreHash`: the digest of the message to be verified. -/
@[ext] structure PreHash (H : Hash) where
  digest : Output H
  deriving DecidableEq

namespace PreHash

variable {H : Hash}

def serialize (p : PreHash H) : GenericArray H.outputSize := p.digest

def deserializeTake : Reader Error (PreHash H) := do
  let digest ← takeArray H.outputSize "pre-hash"
  return { digest }

variable (H) in
def codec : Codec Error (PreHash H) := ⟨_, serialize, deserializeTake⟩

end PreHash

/-! ### Signature protocols -/

/-- `SignatureProtocol`, at a cipher suite whose group is the protocol's. The
    codec is the one of the verification state. -/
structure SignatureProtocol (CS : CipherSuite) (KE : Group) where
  Signature : Type
  SignatureLen : Nat
  VerifyState : Type
  sign : PrivateKey CS.KeGroup → Message CS KE → RngM Error (Signature × VerifyState)
  verify : PublicKey CS.KeGroup → MessageBuilder CS → VerifyState → Signature →
    Outcome Error Unit
  serializeSignature : Signature → GenericArray SignatureLen
  deserializeTakeSignature : Reader Error Signature
  verifyState : Codec Error VerifyState

def SignatureProtocol.signature (SIG : SignatureProtocol CS KE) : Codec Error SIG.Signature :=
  ⟨SIG.SignatureLen, SIG.serializeSignature, SIG.deserializeTakeSignature⟩

end OpaqueVx.SigmaI
