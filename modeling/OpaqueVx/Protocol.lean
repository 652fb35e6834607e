import OpaqueVx.Messages

/-! # The protocol

  Registration and login, each in two client and two server steps, and the
  states that are kept between them. A `ServerSetup` holds a private key of type
  `SK` and an OPRF seed of type `OS`; the steps that need the key or the seed
  themselves are only there for the local types. -/

namespace OpaqueVx

open Lib

def strCredentialResponsePad : Bytes := ascii "CredentialResponsePad"
def strMaskingKey : Bytes := ascii "MaskingKey"
def strOprfKey : Bytes := ascii "OprfKey"
def strOpaqueDeriveKeyPair : Bytes := ascii "OPAQUE-DeriveKeyPair"

/-! ### States -/

/-- What a server keeps for all of its users: the seed of their OPRF keys, its key pair, and
    a public key that stands in for users it does not know. -/
structure ServerSetup (CS : CipherSuite) (SK OS : Type) where
  oprfSeed : OS
  keypair : KeyPair CS.KeGroup SK
  dummyPk : PublicKey CS.KeGroup

/-- A setup with its key and its seed in memory. -/
abbrev LocalSetup (CS : CipherSuite) :=
  ServerSetup CS (PrivateKey CS.KeGroup) (OprfSeed CS.OprfHash)

/-- What a client keeps while it registers. The element is kept to tell its own from the
    answer. -/
@[ext] structure ClientRegistration (CS : CipherSuite) where
  oprfClient : CS.OprfCs.OprfClient
  blindedElement : CS.OprfCs.Elem

/-- The record of a user, its password file. -/
@[ext] structure ServerRegistration (CS : CipherSuite) where
  upload : RegistrationUpload CS

/-- What a client keeps while it logs in. -/
@[ext] structure ClientLogin (CS : CipherSuite) (KE : KeyExchange CS) where
  oprfClient : CS.OprfCs.OprfClient
  ke1State : KE.KE1State
  credentialRequest : CredentialRequest CS KE

/-- What a server keeps while it waits for the last message of a login. -/
@[ext] structure ServerLogin (CS : CipherSuite) (KE : KeyExchange CS) where
  ke2State : KE.KE2State

/-! ### Parameters and results -/

structure ClientRegistrationFinishParameters (CS : CipherSuite) where
  identifiers : Identifiers
  ksf : Option CS.Ksf.Config

structure ClientLoginFinishParameters (CS : CipherSuite) where
  context : Option Bytes
  identifiers : Identifiers
  ksf : Option CS.Ksf.Config

structure ServerLoginParameters where
  context : Option Bytes
  identifiers : Identifiers

/-- What the key material of a user is expanded from, by the server or by a device. -/
structure KeyMaterialInfo (OS : Type) where
  ikm : OS
  info : List Bytes

structure ClientRegistrationStartResult (CS : CipherSuite) where
  message : RegistrationRequest CS
  state : ClientRegistration CS

/-- The record for the server, and what the client learns from its registration. -/
structure ClientRegistrationFinishResult (CS : CipherSuite) where
  message : RegistrationUpload CS
  exportKey : Output CS.OprfHash
  serverSPk : PublicKey CS.KeGroup

structure ServerRegistrationStartResult (CS : CipherSuite) where
  message : RegistrationResponse CS

structure ClientLoginStartResult (CS : CipherSuite) (KE : KeyExchange CS) where
  message : CredentialRequest CS KE
  state : ClientLogin CS KE

/-- The last message, the key of the session, and what the client has from its registration. -/
structure ClientLoginFinishResult (CS : CipherSuite) (KE : KeyExchange CS) where
  message : CredentialFinalization CS KE
  sessionKey : Output CS.KeHash
  exportKey : Output CS.OprfHash
  serverSPk : PublicKey CS.KeGroup

structure ServerLoginStartResult (CS : CipherSuite) (KE : KeyExchange CS) where
  message : CredentialResponse CS KE
  state : ServerLogin CS KE

structure ServerLoginFinishResult (CS : CipherSuite) where
  sessionKey : Output CS.KeHash

variable {CS : CipherSuite} {KE : KeyExchange CS} {SK OS : Type}

/-! ### Helper functions -/

/-- `blind`. -/
def blind (password : Bytes) : RngM VoprfError (CS.OprfCs.OprfClient × CS.OprfCs.Elem) :=
  CS.OprfCs.blind password

/-- `get_password_derived_key`. -/
def getPasswordDerivedKey (input : Bytes) (oprfClient : CS.OprfCs.OprfClient)
    (evaluationElement : CS.OprfCs.Elem) (ksf : Option CS.Ksf.Config) :
    Outcome Error (Output CS.OprfHash × Hkdf CS.OprfHash) := do
  let oprfOutput ← fromVoprf (CS.OprfCs.finalize oprfClient input evaluationElement)
  let hardenedOutput ← fromInternal <|
    match ksf with
    | some ksf => CS.Ksf.hash ksf oprfOutput
    | none => CS.Ksf.hash CS.Ksf.default oprfOutput
  let hkdf : HkdfExtract CS.OprfHash := .new
  let hkdf := hkdf.inputIkm oprfOutput.bytes
  let hkdf := hkdf.inputIkm hardenedOutput.bytes
  return hkdf.finalize

/-- `oprf_key_material`. -/
def oprfKeyMaterial (oprfSeed : Output CS.OprfHash) (info : List Bytes) :
    Outcome InternalError (GenericArray CS.OprfCs.ScalarLen) :=
  .okOr .hkdfError <| (Hkdf.fromPrk oprfSeed.bytes).bind fun hkdf : Hkdf CS.OprfHash =>
    hkdf.expandMultiInfo info CS.OprfCs.ScalarLen

/-- `oprf_key_from_key_material`. -/
def oprfKeyFromKeyMaterial (input : GenericArray CS.OprfCs.ScalarLen) :
    Outcome InternalError (GenericArray CS.OprfCs.ScalarLen) := do
  let scalar ← internalFromVoprf (CS.OprfCs.deriveKey input.bytes strOpaqueDeriveKeyPair)
  return CS.OprfCs.serializeScalar scalar

/-- `mask_response`. -/
def maskResponse (maskingKey maskingNonce : Bytes) (serverSPk : PublicKey CS.KeGroup)
    (envelope : Envelope CS) : Outcome Error (MaskedResponse CS) := do
  let hkdf : Hkdf CS.OprfHash ← .okOr (.libraryError .hkdfError) (Hkdf.fromPrk maskingKey)
  let xorPad ← .okOr (.libraryError .hkdfError)
    (hkdf.expandMultiInfo [maskingNonce, strCredentialResponsePad] CS.MaskedResponseLen)
  let masked := xorZip xorPad.bytes
    ((CS.KeGroup.serializePk serverSPk).bytes ++ envelope.serialize.bytes)
  readFront MaskedResponse.deserializeTake masked

/-- `unmask_response`. -/
def unmaskResponse (maskingKey maskingNonce : Bytes) (maskedResponse : MaskedResponse CS) :
    Outcome Error (PublicKey CS.KeGroup × Envelope CS) := do
  let hkdf : Hkdf CS.OprfHash ← .okOr (.libraryError .hkdfError) (Hkdf.fromPrk maskingKey)
  let xorPad ← .okOr (.libraryError .hkdfError)
    (hkdf.expandMultiInfo [maskingNonce, strCredentialResponsePad] CS.MaskedResponseLen)
  let unmasked := xorZip xorPad.bytes maskedResponse.iter.flatten
  readFront (do
    let serverSPk ← mapErrM (fun _ => .serializationError) CS.KeGroup.deserializeTakePk
    let envelope ← Envelope.deserializeTake
    return (serverSPk, envelope)) unmasked

/-! ### Server setup -/

namespace ServerSetup

/-- `ServerSetup::new_with_key_pair_and_seed`. -/
def newWithKeyPairAndSeed (fuel : Nat) (keypair : KeyPair CS.KeGroup SK) (oprfSeed : OS) :
    RngM Error (ServerSetup CS SK OS) := do
  let dummy ← KeyPair.random CS.KeGroup fuel
  return { oprfSeed, keypair, dummyPk := dummy.pk }

/-- `ServerSetup::new_with_key_pair`. -/
def newWithKeyPair (fuel : Nat) (keypair : KeyPair CS.KeGroup SK) :
    RngM Error (ServerSetup CS SK (OprfSeed CS.OprfHash)) := do
  let oprfSeed ← fillBytes CS.OprfHash.outputSize
  newWithKeyPairAndSeed fuel keypair oprfSeed

/-- `ServerSetup::new`. -/
def new (fuel : Nat) : RngM Error (LocalSetup CS) := do
  let keypair ← KeyPair.random CS.KeGroup fuel
  newWithKeyPair fuel keypair

/-- `ServerSetup::key_material_info`. -/
def keyMaterialInfo (self : ServerSetup CS SK OS) (credentialIdentifier : Bytes) :
    KeyMaterialInfo OS :=
  { ikm := self.oprfSeed, info := [credentialIdentifier, strOprfKey] }

variable (S : PrivateKeySerialization CS.KeGroup SK) (O : OprfSeedSerialization S.Error OS)

/-- `ServerSetup::serialize`: the seed and the key pair as their types write them. -/
def serialize (self : ServerSetup CS SK OS) :
    GenericArray (O.Len + S.Len + CS.KeGroup.PkLen) :=
  ((O.serialize self.oprfSeed).cat (S.serializeKeyPair self.keypair)).cat
    (CS.KeGroup.serializePk self.dummyPk)

def deserializeTake : Reader (ProtocolError S.Error) (ServerSetup CS SK OS) := do
  let oprfSeed ← O.deserializeTake
  let keypair ← S.deserializeTakeKeyPair
  let dummyPk ← mapErrM .intoCustom CS.KeGroup.deserializeTakePk
  return { oprfSeed, keypair, dummyPk }

def deserialize (input : Bytes) : Outcome (ProtocolError S.Error) (ServerSetup CS SK OS) :=
  readFront (deserializeTake S O) input

end ServerSetup

/-- `RegistrationUpload::dummy`. -/
def RegistrationUpload.dummy (serverSetup : ServerSetup CS SK OS) :
    RngM Error (RegistrationUpload CS) := do
  let maskingKey ← fillBytes CS.OprfHash.outputSize
  return { envelope := .dummy, maskingKey, clientSPk := serverSetup.dummyPk }

/-! ### Registration -/

namespace ClientRegistration

def serialize (self : ClientRegistration CS) :
    GenericArray (CS.OprfCs.ScalarLen + CS.OprfCs.ElemLen) :=
  (CS.OprfCs.serializeClient self.oprfClient).cat (CS.OprfCs.serializeElem self.blindedElement)

/-- All of the input after the client state goes to the OPRF library. -/
def deserialize (input : Bytes) : Outcome Error (ClientRegistration CS) := do
  let (oprfClient, input) ← takeOprfClient.run input
  let blindedElement ← fromVoprf (CS.OprfCs.deserializeElem input)
  return { oprfClient, blindedElement }

/-- `ClientRegistration::start`. -/
def start (password : Bytes) : RngM Error (ClientRegistrationStartResult CS) := do
  let blindResult ← mapErrM (fun e => .libraryError (.oprfError e)) (blind password)
  return { message := { blindedElement := blindResult.2 }
           state := { oprfClient := blindResult.1, blindedElement := blindResult.2 } }

/-- `ClientRegistration::finish`. -/
def finish (self : ClientRegistration CS) (password : Bytes)
    (registrationResponse : RegistrationResponse CS)
    (params : ClientRegistrationFinishParameters CS) :
    RngM Error (ClientRegistrationFinishResult CS) := do
  -- Check for reflected value from server and halt if detected
  if self.blindedElement = registrationResponse.evaluationElement then
    (.err .reflectedValueError : Outcome Error _)
  else
    let derived ← getPasswordDerivedKey password self.oprfClient
      registrationResponse.evaluationElement params.ksf
    let randomizedPwdHasher := derived.2
    let maskingKey ← (.okOr (.libraryError .hkdfError)
      (randomizedPwdHasher.expand strMaskingKey CS.OprfHash.outputSize) : Outcome Error _)
    let result ← Envelope.seal randomizedPwdHasher registrationResponse.serverSPk
      params.identifiers
    return { message := { envelope := result.1, maskingKey, clientSPk := result.2.1 }
             exportKey := result.2.2
             serverSPk := registrationResponse.serverSPk }

end ClientRegistration

namespace ServerRegistration

def serialize (self : ServerRegistration CS) :
    GenericArray (CS.KeGroup.PkLen + CS.OprfHash.outputSize + CS.EnvelopeLen) :=
  self.upload.serialize

def deserialize (input : Bytes) : Outcome Error (ServerRegistration CS) := do
  let upload ← RegistrationUpload.deserialize input
  return { upload }

/-- `ServerRegistration::start_with_key_material`. -/
def startWithKeyMaterial (serverSetup : ServerSetup CS SK OS)
    (keyMaterial : GenericArray CS.OprfCs.ScalarLen) (message : RegistrationRequest CS) :
    Outcome Error (ServerRegistrationStartResult CS) := do
  let oprfKey ← fromInternal (oprfKeyFromKeyMaterial keyMaterial)
  let server ← fromVoprf (CS.OprfCs.newWithKey oprfKey.bytes)
  let evaluationElement := CS.OprfCs.blindEvaluate server message.blindedElement
  return { message := { evaluationElement, serverSPk := serverSetup.keypair.pk } }

/-- `ServerRegistration::start`. -/
def start (serverSetup : ServerSetup CS SK (OprfSeed CS.OprfHash))
    (message : RegistrationRequest CS) (credentialIdentifier : Bytes) :
    Outcome Error (ServerRegistrationStartResult CS) := do
  let keyMaterialInfo := serverSetup.keyMaterialInfo credentialIdentifier
  let keyMaterial ← fromInternal (oprfKeyMaterial keyMaterialInfo.ikm keyMaterialInfo.info)
  startWithKeyMaterial serverSetup keyMaterial message

/-- `ServerRegistration::finish`. -/
def finish (message : RegistrationUpload CS) : ServerRegistration CS := { upload := message }

/-- `ServerRegistration::dummy`. -/
def dummy (serverSetup : ServerSetup CS SK OS) : RngM Error (ServerRegistration CS) := do
  let upload ← RegistrationUpload.dummy serverSetup
  return { upload }

end ServerRegistration

/-! ### Login -/

namespace ClientLogin

/-- `ClientLogin::serialize`: the request is written in full, behind the OPRF state. -/
def serialize (self : ClientLogin CS KE) :
    GenericArray (CS.OprfCs.ScalarLen + (CS.OprfCs.ElemLen + KE.ke1Message.len) +
      KE.ke1State.len) :=
  ((CS.OprfCs.serializeClient self.oprfClient).cat self.credentialRequest.serialize).cat
    (KE.ke1State.encode self.ke1State)

def deserializeTake : Reader Error (ClientLogin CS KE) := do
  let oprfClient ← takeOprfClient
  let credentialRequest ← CredentialRequest.deserializeTake
  let ke1State ← KE.ke1State.take
  return { oprfClient, credentialRequest, ke1State }

def deserialize (input : Bytes) : Outcome Error (ClientLogin CS KE) :=
  readFront deserializeTake input

/-- How `finish` reports an error of `unmask_response`. -/
def unmaskError : Error → Error
  | .serializationError => .invalidLoginError
  | err => err

/-- How `finish` reports an error of `Envelope::open`. -/
def openError : Error → Error
  | .libraryError .sealOpenHmacError => .invalidLoginError
  | err => err

variable (KE) in
/-- `ClientLogin::start`. -/
def start (password : Bytes) : RngM Error (ClientLoginStartResult CS KE) := do
  let blindResult ← mapErrM (fun e => .libraryError (.oprfError e)) (blind password)
  let ke1Result ← KE.generateKe1
  let credentialRequest : CredentialRequest CS KE :=
    { blindedElement := blindResult.2, ke1Message := ke1Result.message }
  return { message := credentialRequest
           state := { oprfClient := blindResult.1, ke1State := ke1Result.state,
                      credentialRequest } }

/-- `ClientLogin::finish`. -/
def finish (self : ClientLogin CS KE) (password : Bytes)
    (credentialResponse : CredentialResponse CS KE) (params : ClientLoginFinishParameters CS) :
    RngM Error (ClientLoginFinishResult CS KE) := do
  -- Check if beta value from server is equal to alpha value from client
  if self.credentialRequest.blindedElement = credentialResponse.evaluationElement then
    (.err .reflectedValueError : Outcome Error _)
  else
    let derived ← getPasswordDerivedKey password self.oprfClient
      credentialResponse.evaluationElement params.ksf
    let randomizedPwdHasher := derived.2
    let maskingKey ← (.okOr (.libraryError .hkdfError)
      (randomizedPwdHasher.expand strMaskingKey CS.OprfHash.outputSize) : Outcome Error _)
    let unmasked ← (unmaskResponse maskingKey.bytes credentialResponse.maskingNonce.bytes
      credentialResponse.maskedResponse).mapErr unmaskError
    let openedEnvelope ← (unmasked.2.open randomizedPwdHasher unmasked.1
      params.identifiers).mapErr openError
    let context ← SerializedContext.fromContext params.context
    let result ← KE.generateKe3 self.credentialRequest.toParts self.credentialRequest.ke1Message
      credentialResponse.toParts self.ke1State credentialResponse.ke2Message unmasked.1
      openedEnvelope.clientStaticKeypair.sk openedEnvelope.identifiers context
    return { message := { ke3Message := result.message }
             sessionKey := result.sessionKey
             exportKey := openedEnvelope.exportKey
             serverSPk := unmasked.1 }

end ClientLogin

namespace ServerLogin

def serialize (self : ServerLogin CS KE) : GenericArray KE.ke2State.len :=
  KE.ke2State.encode self.ke2State

def deserializeTake : Reader Error (ServerLogin CS KE) := do
  let ke2State ← KE.ke2State.take
  return { ke2State }

def deserialize (input : Bytes) : Outcome Error (ServerLogin CS KE) :=
  readFront deserializeTake input

/-- `ServerLogin::builder_with_key_material`. -/
def builderWithKeyMaterial (serverSetup : ServerSetup CS SK OS)
    (keyMaterial : GenericArray CS.OprfCs.ScalarLen)
    (passwordFile : Option (ServerRegistration CS)) (credentialRequest : CredentialRequest CS KE)
    (params : ServerLoginParameters) : RngM Error (ServerLoginBuilder CS KE SK) := do
  -- The dummy record is made, and its bytes are drawn, in either case.
  let dummy ← ServerRegistration.dummy serverSetup
  let record := (passwordFile.getD dummy).upload
  let clientSPk := record.clientSPk
  let context ← SerializedContext.fromContext params.context
  let serverSPk := serverSetup.keypair.pk
  let maskingNonce ← fillBytes nonceLen
  let maskedResponse ← maskResponse record.maskingKey.bytes maskingNonce.bytes serverSPk
    record.envelope
  let identifiers ← SerializedIdentifiers.fromIdentifiers params.identifiers
    (CS.KeGroup.serializePk clientSPk) (CS.KeGroup.serializePk serverSPk)
  let oprfKey ← fromInternal (oprfKeyFromKeyMaterial keyMaterial)
  let server ← fromVoprf (CS.OprfCs.newWithKey oprfKey.bytes)
  let evaluationElement := CS.OprfCs.blindEvaluate server credentialRequest.blindedElement
  let credentialResponse := SerializedCredentialResponse.new evaluationElement maskingNonce
    maskedResponse
  let ke2Builder ← KE.ke2Builder credentialRequest.toParts credentialRequest.ke1Message
    credentialResponse clientSPk identifiers context
  return { serverSSk := serverSetup.keypair.sk, evaluationElement, maskingNonce, maskedResponse,
           ke2Builder }

/-- `ServerLogin::builder`. -/
def builder (serverSetup : ServerSetup CS SK (OprfSeed CS.OprfHash))
    (passwordFile : Option (ServerRegistration CS)) (credentialRequest : CredentialRequest CS KE)
    (credentialIdentifier : Bytes) (params : ServerLoginParameters) :
    RngM Error (ServerLoginBuilder CS KE SK) := do
  let keyMaterialInfo := serverSetup.keyMaterialInfo credentialIdentifier
  let keyMaterial ← fromInternal (oprfKeyMaterial keyMaterialInfo.ikm keyMaterialInfo.info)
  builderWithKeyMaterial serverSetup keyMaterial passwordFile credentialRequest params

/-- `ServerLogin::build`. -/
def build (builder : ServerLoginBuilder CS KE SK) (input : KE.KE2BuilderInput) :
    Outcome Error (ServerLoginStartResult CS KE) := do
  let result ← KE.buildKe2 builder.ke2Builder input
  return { message := { evaluationElement := builder.evaluationElement
                        maskingNonce := builder.maskingNonce
                        maskedResponse := builder.maskedResponse
                        ke2Message := result.message }
           state := { ke2State := result.state } }

/-- `ServerLogin::start`. -/
def start (serverSetup : LocalSetup CS) (passwordFile : Option (ServerRegistration CS))
    (credentialRequest : CredentialRequest CS KE) (credentialIdentifier : Bytes)
    (parameters : ServerLoginParameters) : RngM Error (ServerLoginStartResult CS KE) := do
  let builder ← builder serverSetup passwordFile credentialRequest credentialIdentifier
    parameters
  let input ← KE.generateKe2Input builder.ke2Builder serverSetup.keypair.sk
  build builder input

/-- `ServerLogin::finish`. -/
def finish (self : ServerLogin CS KE) (message : CredentialFinalization CS KE)
    (parameters : ServerLoginParameters) : Outcome Error (ServerLoginFinishResult CS) := do
  let context ← SerializedContext.fromContext parameters.context
  let sessionKey ← KE.finishKe self.ke2State message.ke3Message parameters.identifiers context
  return { sessionKey }

end ServerLogin

end OpaqueVx
