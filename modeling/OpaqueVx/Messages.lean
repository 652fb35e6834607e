import OpaqueVx.Envelope
import OpaqueVx.KeyExchange.Shared

/-! # Protocol messages

  The six messages that travel between client and server, and their wire
  formats. -/

namespace OpaqueVx

open Lib

variable {CS : CipherSuite} {KE : KeyExchange CS}

/-- The first message of a registration. -/
structure RegistrationRequest (CS : CipherSuite) where
  blindedElement : CS.OprfCs.Elem

/-- The server's answer to it. -/
@[ext] structure RegistrationResponse (CS : CipherSuite) where
  evaluationElement : CS.OprfCs.Elem
  serverSPk : PublicKey CS.KeGroup

/-- What the client has the server keep. -/
@[ext] structure RegistrationUpload (CS : CipherSuite) where
  envelope : Envelope CS
  maskingKey : Output CS.OprfHash
  clientSPk : PublicKey CS.KeGroup

/-- The first message of a login. -/
@[ext] structure CredentialRequest (CS : CipherSuite) (KE : KeyExchange CS) where
  blindedElement : CS.OprfCs.Elem
  ke1Message : KE.KE1Message

/-- An answer that lacks what takes the server's private key. -/
structure ServerLoginBuilder (CS : CipherSuite) (KE : KeyExchange CS) (SK : Type) where
  serverSSk : SK
  evaluationElement : CS.OprfCs.Elem
  maskingNonce : GenericArray nonceLen
  maskedResponse : MaskedResponse CS
  ke2Builder : KE.KE2Builder

/-- The whole answer of the server. -/
@[ext] structure CredentialResponse (CS : CipherSuite) (KE : KeyExchange CS) where
  evaluationElement : CS.OprfCs.Elem
  maskingNonce : GenericArray nonceLen
  maskedResponse : MaskedResponse CS
  ke2Message : KE.KE2Message

/-- The last message of a login. -/
@[ext] structure CredentialFinalization (CS : CipherSuite) (KE : KeyExchange CS) where
  ke3Message : KE.KE3Message

/-! ### Reading values of the OPRF library

  The library decodes a slice of known length, which the caller cuts off the
  input after checking that the input is long enough. -/

/-- The length check, `decode(&input[..len])?` and `input = &input[len..]`. -/
def takeChecked {α : Type} (len : Nat) (decode : Bytes → Outcome VoprfError α) :
    Reader Error α := fun input => do
  if input.length < len then
    .err .serializationError
  else
    let slice ← sliceTo input len
    let value ← fromVoprf (decode slice)
    let input ← sliceFrom input len
    return (value, input)

/-- A group element of the OPRF at the front of the input. -/
def takeElement : Reader Error CS.OprfCs.Elem :=
  takeChecked CS.OprfCs.ElemLen CS.OprfCs.deserializeElem

/-- An OPRF client state at the front of the input. -/
def takeOprfClient : Reader Error CS.OprfCs.OprfClient :=
  takeChecked CS.OprfCs.ScalarLen CS.OprfCs.deserializeClient

/-- Runs a reader on a whole input and drops what is left. -/
def readFront {ε α : Type} (reader : Reader ε α) (input : Bytes) : Outcome ε α := do
  let result ← reader.run input
  return result.1

/-! ### Registration -/

namespace RegistrationRequest

/-- `RegistrationRequest::serialize`. -/
def serialize (m : RegistrationRequest CS) : GenericArray CS.OprfCs.ElemLen :=
  CS.OprfCs.serializeElem m.blindedElement

/-- The whole input goes to the OPRF library. -/
def deserialize (input : Bytes) : Outcome Error (RegistrationRequest CS) := do
  let elemLen := CS.OprfCs.ElemLen
  if input.length < elemLen then
    .err .serializationError
  else
    let blindedElement ← fromVoprf (CS.OprfCs.deserializeElem input)
    return { blindedElement }

end RegistrationRequest

namespace RegistrationResponse

/-- `RegistrationResponse::serialize`. -/
def serialize (m : RegistrationResponse CS) :
    GenericArray (CS.OprfCs.ElemLen + CS.KeGroup.PkLen) :=
  (CS.OprfCs.serializeElem m.evaluationElement).cat (CS.KeGroup.serializePk m.serverSPk)

def deserializeTake : Reader Error (RegistrationResponse CS) := do
  let evaluationElement ← takeElement
  let serverSPk ← CS.KeGroup.deserializeTakePk
  return { evaluationElement, serverSPk }

/-- `RegistrationResponse::deserialize`. Nobody looks at what is left of the input. -/
def deserialize (input : Bytes) : Outcome Error (RegistrationResponse CS) :=
  readFront deserializeTake input

end RegistrationResponse

namespace RegistrationUpload

/-- `RegistrationUpload::serialize`. -/
def serialize (m : RegistrationUpload CS) :
    GenericArray (CS.KeGroup.PkLen + CS.OprfHash.outputSize + CS.EnvelopeLen) :=
  ((CS.KeGroup.serializePk m.clientSPk).cat m.maskingKey).cat m.envelope.serialize

def deserializeTake : Reader Error (RegistrationUpload CS) := do
  let clientSPk ← CS.KeGroup.deserializeTakePk
  let maskingKey ← takeArray CS.OprfHash.outputSize "masking key"
  let envelope ← Envelope.deserializeTake
  return { clientSPk, maskingKey, envelope }

def deserialize (input : Bytes) : Outcome Error (RegistrationUpload CS) :=
  readFront deserializeTake input

end RegistrationUpload

/-! ### Login -/

namespace CredentialRequest

/-- `CredentialRequest::serialize`. -/
def serialize (m : CredentialRequest CS KE) :
    GenericArray (CS.OprfCs.ElemLen + KE.ke1Message.len) :=
  (CS.OprfCs.serializeElem m.blindedElement).cat (KE.ke1Message.encode m.ke1Message)

def deserializeTake : Reader Error (CredentialRequest CS KE) := do
  let blindedElement ← takeElement
  let ke1Message ← KE.ke1Message.take
  return { blindedElement, ke1Message }

def deserialize (input : Bytes) : Outcome Error (CredentialRequest CS KE) :=
  readFront deserializeTake input

/-- The part that is hashed before the message of the key exchange. -/
def toParts (m : CredentialRequest CS KE) : SerializedCredentialRequest CS :=
  .new m.blindedElement

end CredentialRequest

namespace CredentialResponse

/-- `CredentialResponse::serialize`. -/
def serialize (m : CredentialResponse CS KE) :
    GenericArray (CS.OprfCs.ElemLen + nonceLen + CS.MaskedResponseLen + KE.ke2Message.len) :=
  (((CS.OprfCs.serializeElem m.evaluationElement).cat m.maskingNonce).cat
    m.maskedResponse.serialize).cat (KE.ke2Message.encode m.ke2Message)

def deserializeTake : Reader Error (CredentialResponse CS KE) := do
  let evaluationElement ← takeElement
  let maskingNonce ← takeArray nonceLen "masking nonce"
  let maskedResponse ← MaskedResponse.deserializeTake
  let ke2Message ← KE.ke2Message.take
  return { evaluationElement, maskingNonce, maskedResponse, ke2Message }

def deserialize (input : Bytes) : Outcome Error (CredentialResponse CS KE) :=
  readFront deserializeTake input

/-- The part that is hashed before the message of the key exchange. -/
def toParts (m : CredentialResponse CS KE) : SerializedCredentialResponse CS :=
  .new m.evaluationElement m.maskingNonce m.maskedResponse

end CredentialResponse

namespace CredentialFinalization

/-- `CredentialFinalization::serialize`. -/
def serialize (m : CredentialFinalization CS KE) : GenericArray KE.ke3Message.len :=
  KE.ke3Message.encode m.ke3Message

def deserializeTake : Reader Error (CredentialFinalization CS KE) := do
  let ke3Message ← KE.ke3Message.take
  return { ke3Message }

def deserialize (input : Bytes) : Outcome Error (CredentialFinalization CS KE) :=
  readFront deserializeTake input

end CredentialFinalization

end OpaqueVx
